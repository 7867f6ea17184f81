import PumoBioMetric.Router.CdataHandler

/-!
# Every push is acknowledged, unless a timestamp carries an offset

The dashboard steps come before `ingest` and read the whole accumulated log.  A record
with an aware timestamp enters the log, the pruning raises, and nothing removes it.
-/

set_option autoImplicit false

namespace PumoBioMetric.Router

open Py

/-- The record as the dashboard shows it: the name and the labels may be new. -/
def Announced (parsed handed : PunchRecord) : Prop := ∃ info, handed = labelled info parsed

/-- `ingest` was called once with every record, or not at all where there is none. -/
def HandedOver (parsed : List PunchRecord) (ingested : List (List PunchRecord)) : Prop :=
  if parsed = [] then ingested = []
  else ∃ handed, ingested = [handed] ∧ List.Forall₂ Announced parsed handed

section

variable [UnicodeTables] [IsoFormat]

def Acknowledged (state : RouterState) (post : AttendancePost) : Prop :=
  (handleAttendance state post).answer = some "OK" ∧
    HandedOver (post.newPunches state.dashboard.cache).1 (handleAttendance state post).ingested

def AttendancePost.SendsAware (post : AttendancePost) : Prop :=
  ∃ row ∈ post.rows, ReadsAware row.timestamp

/-! ## The loop over the punches -/

def AnyAware (punches : List PunchRecord) : Prop :=
  ∃ punch ∈ punches, ReadsAware punch.timestamp

omit [UnicodeTables] in
theorem anyAware_cons (punch : PunchRecord) (rest : List PunchRecord) :
    AnyAware (punch :: rest) ↔ ReadsAware punch.timestamp ∨ AnyAware rest := by
  simp [AnyAware]

theorem announceAll_cons (post : AttendancePost) (index : Nat) (dashboard : Dashboard)
    (punch : PunchRecord) (rest : List PunchRecord) :
    ((ReadsAware punch.timestamp ∨ Poisoned dashboard.logs) ∧
      ∃ after, Poisoned after.logs ∧
        announceAll post index dashboard (punch :: rest) = (none, after)) ∨
    (¬ ReadsAware punch.timestamp ∧ ¬ Poisoned dashboard.logs ∧
      ∃ info after, ¬ Poisoned after.logs ∧
        announceAll post index dashboard (punch :: rest) =
          ((announceAll post (index + 1) after rest).1.map (labelled info punch :: ·),
            (announceAll post (index + 1) after rest).2)) := by
  rcases broadcast_cases post.lms (post.clock index) post.writable
      { dashboard with
        cache := (getUserInfo post.lms dashboard.cache (strip punch.userId)).2 } punch with
    ⟨aware, raised, poisoned⟩ | ⟨plain, clean, ⟨info, announced⟩, cleanAfter⟩
  · refine Or.inl ⟨aware, _, poisoned, ?_⟩
    rw [announceAll]
    split
    · rename_i ran
      rw [ran]
    · rename_i ran
      simp [ran] at raised
  · refine Or.inr ⟨plain, clean, info, _, cleanAfter, ?_⟩
    rw [announceAll]
    split
    · rename_i ran
      simp [ran] at announced
    · rename_i ran
      rw [ran] at announced ⊢
      rw [Option.some.inj announced]

theorem poisoned_announceAll (post : AttendancePost) (index : Nat) (dashboard : Dashboard)
    (punches : List PunchRecord) :
    Poisoned (announceAll post index dashboard punches).2.logs ↔
      Poisoned dashboard.logs ∨ AnyAware punches := by
  induction punches generalizing index dashboard with
  | nil => simp [announceAll, AnyAware]
  | cons punch rest ih =>
      rw [anyAware_cons]
      rcases announceAll_cons post index dashboard punch rest with
        ⟨aware, after, poisoned, ran⟩ | ⟨plain, clean, info, after, cleanAfter, ran⟩
      · rw [ran]
        exact iff_of_true poisoned (aware.elim (fun here => Or.inr (Or.inl here)) Or.inl)
      · rw [ran, ih, or_iff_right cleanAfter, or_iff_right clean, or_iff_right plain]

theorem announceAll_eq_none_iff (post : AttendancePost) (index : Nat) (dashboard : Dashboard)
    (punches : List PunchRecord) :
    (announceAll post index dashboard punches).1 = none ↔
      punches ≠ [] ∧ (Poisoned dashboard.logs ∨ AnyAware punches) := by
  induction punches generalizing index dashboard with
  | nil => simp [announceAll]
  | cons punch rest ih =>
      rw [anyAware_cons]
      rcases announceAll_cons post index dashboard punch rest with
        ⟨aware, after, poisoned, ran⟩ | ⟨plain, clean, info, after, cleanAfter, ran⟩
      · rw [ran]
        refine iff_of_true rfl ⟨by simp, ?_⟩
        exact aware.elim (fun here => Or.inr (Or.inl here)) Or.inl
      · rw [ran, Option.map_eq_none_iff, ih, or_iff_right cleanAfter, or_iff_right clean,
          or_iff_right plain]
        constructor
        · rintro ⟨_, aware⟩
          exact ⟨by simp, aware⟩
        · rintro ⟨_, aware⟩
          refine ⟨?_, aware⟩
          rintro rfl
          obtain ⟨_, member, _⟩ := aware
          cases member

theorem announced_announceAll {post : AttendancePost} {index : Nat} {dashboard : Dashboard}
    {punches handed : List PunchRecord}
    (went : (announceAll post index dashboard punches).1 = some handed) :
    List.Forall₂ Announced punches handed := by
  induction punches generalizing index dashboard handed with
  | nil =>
      cases went
      exact .nil
  | cons punch rest ih =>
      rcases announceAll_cons post index dashboard punch rest with
        ⟨_, after, _, ran⟩ | ⟨_, _, info, after, _, ran⟩
      · rw [ran] at went
        cases went
      · rw [ran] at went
        obtain ⟨others, later, rfl⟩ := Option.map_eq_some_iff.mp went
        exact .cons ⟨info, rfl⟩ (ih later)

/-! ## One POST -/

theorem anyAware_newPunches (post : AttendancePost) (cache : UserCache) :
    AnyAware (post.newPunches cache).1 ↔ post.SendsAware := by
  have times : (post.newPunches cache).1.map PunchRecord.timestamp =
      post.rows.map AttRow.timestamp :=
    parseAttlog_timestamps post.lms post.arrivals (post.synced cache) post.bodyStr post.sn
  have byTime : AnyAware (post.newPunches cache).1 ↔
      ∃ timestamp ∈ (post.newPunches cache).1.map PunchRecord.timestamp, ReadsAware timestamp := by
    simp [AnyAware]
  rw [byTime, times]
  simp [AttendancePost.SendsAware]

omit [IsoFormat] in
theorem newPunches_eq_nil_iff (post : AttendancePost) (cache : UserCache) :
    (post.newPunches cache).1 = [] ↔ post.rows = [] := by
  have times : (post.newPunches cache).1.map PunchRecord.timestamp =
      post.rows.map AttRow.timestamp :=
    parseAttlog_timestamps post.lms post.arrivals (post.synced cache) post.bodyStr post.sn
  have lengths : (post.newPunches cache).1.length = post.rows.length := by
    simpa using congrArg List.length times
  rw [← List.length_eq_zero_iff, lengths, List.length_eq_zero_iff]

theorem not_sendsAware_of_nil {post : AttendancePost} (empty : post.rows = []) :
    ¬ post.SendsAware := by
  rintro ⟨row, member, _⟩
  rw [empty] at member
  cases member

def AttendancePost.loop (post : AttendancePost) (dashboard : Dashboard) :
    Option (List PunchRecord) × Dashboard :=
  announceAll post 0 { dashboard with cache := (post.newPunches dashboard.cache).2 }
    (post.newPunches dashboard.cache).1

theorem poisoned_loop (post : AttendancePost) (dashboard : Dashboard) :
    Poisoned (post.loop dashboard).2.logs ↔ Poisoned dashboard.logs ∨ post.SendsAware := by
  rw [AttendancePost.loop, poisoned_announceAll, anyAware_newPunches]

theorem loop_eq_none_iff (post : AttendancePost) (dashboard : Dashboard) :
    (post.loop dashboard).1 = none ↔
      post.rows ≠ [] ∧ (Poisoned dashboard.logs ∨ post.SendsAware) := by
  rw [AttendancePost.loop, announceAll_eq_none_iff, anyAware_newPunches, ne_eq,
    newPunches_eq_nil_iff]

theorem announced_loop {post : AttendancePost} {dashboard : Dashboard}
    {handed : List PunchRecord} (went : (post.loop dashboard).1 = some handed) :
    List.Forall₂ Announced (post.newPunches dashboard.cache).1 handed := by
  rw [AttendancePost.loop] at went
  exact announced_announceAll went

theorem handle_without_records (state : RouterState) {post : AttendancePost}
    (empty : post.rows = []) :
    (handleAttendance state post).answer = some "OK" ∧
      (handleAttendance state post).ingested = [] ∧
      (handleAttendance state post).state.dashboard.logs = state.dashboard.logs := by
  have noPunches := (newPunches_eq_nil_iff post state.dashboard.cache).mpr empty
  simp only [handleAttendance, noPunches, List.isEmpty_nil, if_true, and_self]

/-- With records, the branch answers and calls `ingest` as the loop ends. -/
theorem handle_with_records (state : RouterState) {post : AttendancePost}
    (records : post.rows ≠ []) :
    (handleAttendance state post).answer = (post.loop state.dashboard).1.map (fun _ => "OK") ∧
      (handleAttendance state post).ingested = (post.loop state.dashboard).1.toList ∧
      (handleAttendance state post).state.dashboard = (post.loop state.dashboard).2 := by
  have punches : ¬ (post.newPunches state.dashboard.cache).1.isEmpty := by
    rw [List.isEmpty_iff, newPunches_eq_nil_iff]
    exact records
  simp only [handleAttendance, if_neg punches]
  rw [← AttendancePost.loop]
  generalize post.loop state.dashboard = ended
  obtain ⟨handed, after⟩ := ended
  cases handed with
  | none => exact ⟨rfl, rfl, rfl⟩
  | some handed => exact ⟨rfl, rfl, rfl⟩

theorem announced_of_ingested {state : RouterState} {post : AttendancePost}
    {handed : List PunchRecord} (called : handed ∈ (handleAttendance state post).ingested) :
    List.Forall₂ Announced (post.newPunches state.dashboard.cache).1 handed := by
  by_cases empty : post.rows = []
  · obtain ⟨_, ingested, _⟩ := handle_without_records state empty
    rw [ingested] at called
    cases called
  · obtain ⟨_, ingested, _⟩ := handle_with_records state empty
    rw [ingested, Option.mem_toList] at called
    exact announced_loop called

omit [UnicodeTables] [IsoFormat] in
theorem source_of_announced {parsed handed : List PunchRecord}
    (announced : List.Forall₂ Announced parsed handed) {record : PunchRecord}
    (listed : record ∈ handed) : ∃ source ∈ parsed, Announced source record := by
  induction announced with
  | nil => cases listed
  | cons first _ ih =>
      rcases List.mem_cons.mp listed with rfl | later
      · exact ⟨_, List.mem_cons_self, first⟩
      · obtain ⟨source, member, same⟩ := ih later
        exact ⟨source, List.mem_cons_of_mem _ member, same⟩

/-- A POST leaves the log poisoned where it was or the body has an aware timestamp. -/
theorem poisoned_handleAttendance (state : RouterState) (post : AttendancePost) :
    Poisoned (handleAttendance state post).state.dashboard.logs ↔
      Poisoned state.dashboard.logs ∨ post.SendsAware := by
  by_cases empty : post.rows = []
  · obtain ⟨_, _, same⟩ := handle_without_records state empty
    rw [same]
    exact (or_iff_left (not_sendsAware_of_nil empty)).symm
  · obtain ⟨_, _, after⟩ := handle_with_records state empty
    rw [after]
    exact poisoned_loop post state.dashboard

/-- The branch acknowledges a body without records, and one on a clean log without an
aware timestamp. -/
theorem acknowledged_iff (state : RouterState) (post : AttendancePost) :
    Acknowledged state post ↔
      post.rows = [] ∨ ¬ Poisoned state.dashboard.logs ∧ ¬ post.SendsAware := by
  have noRecords := newPunches_eq_nil_iff post state.dashboard.cache
  rw [← not_or, Acknowledged, HandedOver]
  by_cases empty : post.rows = []
  · obtain ⟨answer, ingested, _⟩ := handle_without_records state empty
    rw [answer, ingested, if_pos (noRecords.mpr empty)]
    simp [empty]
  · obtain ⟨answer, ingested, _⟩ := handle_with_records state empty
    have raises := loop_eq_none_iff post state.dashboard
    rw [answer, ingested, if_neg (mt noRecords.mp empty), or_iff_right empty]
    cases went : (post.loop state.dashboard).1 with
    | none =>
        have bad := (raises.mp went).2
        simp [bad]
    | some handed =>
        have good : ¬ (Poisoned state.dashboard.logs ∨ post.SendsAware) := by
          intro bad
          exact absurd (went.symm.trans (raises.mpr ⟨empty, bad⟩)) (by simp)
        exact iff_of_true ⟨rfl, handed, rfl, announced_loop went⟩ good

theorem ingested_of_single {state : RouterState} {post : AttendancePost} {record : PunchRecord}
    (clean : ¬ Poisoned state.dashboard.logs) (plain : ¬ post.SendsAware)
    (single : (post.newPunches state.dashboard.cache).1 = [record]) :
    ∃ info, (handleAttendance state post).ingested = [[labelled info record]] := by
  have passed := (acknowledged_iff state post).mpr (Or.inr ⟨clean, plain⟩)
  rw [Acknowledged, single, HandedOver, if_neg (by simp)] at passed
  obtain ⟨_, handed, called, announced⟩ := passed
  obtain ⟨first, rest, ⟨info, rfl⟩, others, rfl⟩ := List.forall₂_cons_left_iff.mp announced
  rw [List.forall₂_nil_left_iff.mp others] at called
  exact ⟨info, called⟩

/-! ## A sequence of POSTs -/

theorem poisoned_afterPosts (start : RouterState) (posts : List AttendancePost) :
    Poisoned (afterPosts start posts).dashboard.logs ↔
      Poisoned start.dashboard.logs ∨ ∃ post ∈ posts, post.SendsAware := by
  induction posts generalizing start with
  | nil => simp [afterPosts]
  | cons post rest ih =>
      rw [afterPosts, List.foldl_cons, ← afterPosts, ih, poisoned_handleAttendance, or_assoc,
        List.exists_mem_cons_iff]

/-- After any sequence of attendance POSTs from an empty log, a push with records is
answered OK and handed to `ingest` exactly where neither it nor an earlier one has a
timestamp with an offset. -/
theorem push_acknowledged_iff (logsFile : Option (List PunchRecord)) (cache : UserCache)
    (commands : CommandQueue) (earlier : List AttendancePost) (post : AttendancePost) :
    Acknowledged (afterPosts (RouterState.withEmptyLog logsFile cache commands) earlier) post ↔
      post.rows = [] ∨ ∀ push ∈ earlier ++ [post], ¬ push.SendsAware := by
  have clean : ¬ Poisoned (RouterState.withEmptyLog logsFile cache commands).dashboard.logs := by
    rintro ⟨_, member, _⟩
    cases member
  rw [acknowledged_iff, poisoned_afterPosts, or_iff_right clean]
  simp only [List.mem_append, List.mem_singleton, not_exists, not_and]
  constructor
  · rintro (empty | ⟨before, now⟩)
    · exact Or.inl empty
    · refine Or.inr ?_
      rintro push (member | rfl)
      · exact before push member
      · exact now
  · rintro (empty | plain)
    · exact Or.inl empty
    · exact Or.inr ⟨fun push member => plain push (Or.inl member), plain post (Or.inr rfl)⟩

end

/-! ## A timestamp with an offset -/

def quietArrival : Arrival := ⟨"live_1_abc123", "2026-08-15T22:12:06", "2026-08-15 22:12:06"⟩

def pushAt [UnicodeTables] (time : String)
    (routed : routedToAttendance "ATTLOG" ("102\t" ++ time ++ "\t0\t1\t0") = true) :
    AttendancePost where
  sn := "NFZ8254900401"
  table := "ATTLOG"
  bodyStr := "102\t" ++ time ++ "\t0\t1\t0"
  routed := routed
  synced := id
  lms := fun _ => none
  arrivals := fun _ => quietArrival
  clock := fun _ => 0
  writable := true

def offsetPush : @AttendancePost UnicodeTables.ascii :=
  @pushAt UnicodeTables.ascii "2026-08-15T22:12:05+05:30" (by decide +kernel)

def ordinaryPush : @AttendancePost UnicodeTables.ascii :=
  @pushAt UnicodeTables.ascii "2026-08-15 22:12:05" (by decide +kernel)

theorem rows_offsetPush :
    @AttendancePost.rows UnicodeTables.ascii offsetPush =
      [⟨"102", "2026-08-15T22:12:05+05:30", "0", "1", "0",
        "102\t2026-08-15T22:12:05+05:30\t0\t1\t0"⟩] := by
  decide +kernel

theorem rows_ordinaryPush :
    @AttendancePost.rows UnicodeTables.ascii ordinaryPush =
      [⟨"102", "2026-08-15 22:12:05", "0", "1", "0",
        "102\t2026-08-15 22:12:05\t0\t1\t0"⟩] := by
  decide +kernel

theorem readsAware_offset : @ReadsAware IsoFormat.extended "2026-08-15T22:12:05+05:30" := by
  have aware : ((@readTimestamp IsoFormat.extended "2026-08-15T22:12:05+05:30").any
      Stamp.isAware) = true := by
    decide +kernel
  exact (Option.any_eq_true _ _).mp aware

theorem offsetPush_sendsAware :
    @AttendancePost.SendsAware UnicodeTables.ascii IsoFormat.extended offsetPush := by
  unfold AttendancePost.SendsAware
  rw [rows_offsetPush]
  exact ⟨_, List.mem_singleton_self _, readsAware_offset⟩

/-- From an empty log, a push with an offset is not acknowledged, and the ordinary push
after it is not either. -/
theorem offset_blocks_every_push :
    ¬ @Acknowledged UnicodeTables.ascii IsoFormat.extended
        (RouterState.withEmptyLog none [] CommandQueue.initial) offsetPush ∧
      ¬ @Acknowledged UnicodeTables.ascii IsoFormat.extended
        (@afterPosts UnicodeTables.ascii IsoFormat.extended
          (RouterState.withEmptyLog none [] CommandQueue.initial) [offsetPush]) ordinaryPush := by
  rw [@acknowledged_iff UnicodeTables.ascii IsoFormat.extended,
    @acknowledged_iff UnicodeTables.ascii IsoFormat.extended,
    @poisoned_afterPosts UnicodeTables.ascii IsoFormat.extended, rows_offsetPush, rows_ordinaryPush]
  constructor
  · rintro (noRows | ⟨_, plain⟩)
    · cases noRows
    · exact plain offsetPush_sendsAware
  · rintro (noRows | ⟨clean, _⟩)
    · cases noRows
    · exact clean (Or.inr ⟨offsetPush, List.mem_singleton_self _, offsetPush_sendsAware⟩)

end PumoBioMetric.Router
