import PumoBioMetric.Sync.SyncOffered

/-!
# The same reader synced twice

The second call compares the records with the log that the first has pruned, and looks for
names in the cache that the first has filled.
-/

set_option autoImplicit false

namespace PumoBioMetric.Sync

open PumoBioMetric.Py PumoBioMetric.Router

section

variable [IsoFormat] {around : SyncSurroundings} {sn : String}

/-! ## The row of a new record -/

def shownInfo (lms : LmsNames) (cache : UserCache) (pin : String) : UserInfo :=
  (settledEntry lms cache pin).getD ⟨some ("User " ++ pin), some "Normal User"⟩

/-- The row that a broadcast of the record puts into the log. -/
structure RowOf (lms : LmsNames) (cache : UserCache) (record : Attendance) (row : PunchRecord) :
    Prop where
  userId : row.userId = record.userId
  timestamp : row.timestamp = record.text
  name : row.userName =
    (shownInfo lms cache (strip record.userId)).nameFor record.userId
  role : row.userRole = (shownInfo lms cache (strip record.userId)).roleOrNormal

omit [IsoFormat] in
theorem rowOf_labelled (lms : LmsNames) (cache : UserCache) (arrival : Arrival)
    (record : Attendance) :
    RowOf lms cache record
      (labelled (shownInfo lms cache (strip record.userId))
        (punchObj sn (shownInfo lms cache (strip record.userId)) arrival record)) where
  userId := rfl
  timestamp := rfl
  role := rfl
  name := by
    generalize shownInfo lms cache (strip record.userId) = info
    simp only [labelled, punchObj]
    refine ite_eq_right_iff.mpr fun relabelled => ?_
    rw [UserInfo.nameFor]
    cases held : info.name with
    | none => simp [UserInfo.isNamed, held] at relabelled
    | some name => rfl

/-- A broadcast puts the row on the log and prunes it, or leaves it there with an aware
timestamp; the entry of the PIN is settled. -/
theorem offerRecord_row (index : Nat) (dashboard : Dashboard) (record : Attendance) :
    ∃ row, RowOf around.lms dashboard.cache record row ∧
      (∀ pin, (offerRecord around sn index dashboard record).2.cache.get? pin =
        if pin = strip record.userId then settledEntry around.lms dashboard.cache pin
        else dashboard.cache.get? pin) ∧
      (Poisoned (row :: dashboard.logs) →
        (offerRecord around sn index dashboard record).2.logs = row :: dashboard.logs) ∧
      (¬ Poisoned (row :: dashboard.logs) →
        prunePunchLogs (around.clock index) (row :: dashboard.logs) =
          some (offerRecord around sn index dashboard record).2.logs) := by
  rw [offerRecord]
  have first := get?_getUserInfo around.lms dashboard.cache record.userId
  have shown : (getUserInfo around.lms dashboard.cache record.userId).1 =
      shownInfo around.lms dashboard.cache (strip record.userId) :=
    getUserInfo_fst around.lms dashboard.cache record.userId
  generalize getUserInfo around.lms dashboard.cache record.userId = known at first shown ⊢
  obtain ⟨info, cache⟩ := known
  have own : info = shownInfo around.lms dashboard.cache (strip record.userId) := shown
  subst own
  have again : ∀ pin, settledEntry around.lms cache pin =
      settledEntry around.lms dashboard.cache pin := by
    intro pin
    refine settledEntry_again ?_
    rw [first]
    split
    · exact .inr rfl
    · exact .inl rfl
  obtain ⟨row, own, cacheAfter, poisoned, clean⟩ := broadcast_leaves around.lms (around.clock index)
    (around.writable index) { dashboard with cache := cache }
    (punchObj sn (shownInfo around.lms dashboard.cache (strip record.userId))
      (around.arrivals index) record)
  dsimp only at cacheAfter poisoned clean ⊢
  generalize broadcastPunch _ _ _ _ _ = told at cacheAfter poisoned clean ⊢
  have label : (getUserInfo around.lms cache (strip record.userId)).1 =
      shownInfo around.lms dashboard.cache (strip record.userId) := by
    rw [getUserInfo_fst, strip_strip, again]
    rfl
  have entry : told.2.cache = (getUserInfo around.lms cache (strip record.userId)).2 := cacheAfter
  have named : row = labelled (getUserInfo around.lms cache (strip record.userId)).1
      (punchObj sn (shownInfo around.lms dashboard.cache (strip record.userId))
        (around.arrivals index) record) := own
  refine ⟨row, ?_, ?_, poisoned, clean⟩
  · rw [named, label]
    exact rowOf_labelled around.lms dashboard.cache (around.arrivals index) record
  · intro pin
    rw [entry, get?_getUserInfo, strip_strip, again, first]
    split <;> rfl

/-! ## The loop of the first call -/

omit [IsoFormat] in
theorem RowOf.of_settled {lms : LmsNames} {cache after : UserCache} {record : Attendance}
    {row : PunchRecord} (same : ∀ pin, settledEntry lms after pin = settledEntry lms cache pin)
    (shown : RowOf lms after record row) : RowOf lms cache record row where
  userId := shown.userId
  timestamp := shown.timestamp
  name := by rw [shown.name, shownInfo, shownInfo, same]
  role := by rw [shown.role, shownInfo, shownInfo, same]

omit [IsoFormat] in
theorem settledEntry_of_get? {lms : LmsNames} {cache after : UserCache} {changed : String → Prop}
    [DecidablePred changed]
    (entries : ∀ pin, after.get? pin =
      if changed pin then settledEntry lms cache pin else cache.get? pin) (pin : String) :
    settledEntry lms after pin = settledEntry lms cache pin := by
  refine settledEntry_again ?_
  rw [entries]
  split
  · exact .inr rfl
  · exact .inl rfl

theorem syncRecord_offered (index : Nat) (state : SyncState) (record : Attendance) :
    (syncRecord around sn index state record).1 =
        (offerRecord around sn index state.dashboard record).1 ∧
      (syncRecord around sn index state record).2.dashboard =
        (offerRecord around sn index state.dashboard record).2 := by
  rw [syncRecord]
  generalize offerRecord around sn index state.dashboard record = offered
  obtain ⟨announced, dashboard⟩ := offered
  cases announced <;> exact ⟨rfl, rfl⟩

/-- The window has the timestamp at every prune from one new record to another. -/
def InWindows (clock : Nat → Int) (first last : Nat) (timestamp : String) : Prop :=
  ∀ index, first ≤ index → index < last → InWindow (clock index) timestamp

theorem inWindows_from (clock : Nat → Int) {first last : Nat} (before : first < last)
    (timestamp : String) :
    InWindows clock first last timestamp ↔
      InWindow (clock first) timestamp ∧ InWindows clock (first + 1) last timestamp := by
  constructor
  · intro held
    exact ⟨held first (Nat.le_refl first) before,
      fun index after inside => held index (Nat.le_of_succ_le after) inside⟩
  · rintro ⟨here, later⟩ index after inside
    rcases Nat.eq_or_lt_of_le after with rfl | beyond
    · exact here
    · exact later index beyond inside

/-- What the loop over new records makes of a dashboard whose log has no aware timestamp. -/
structure Looped (around : SyncSurroundings) (index : Nat) (before : Dashboard)
    (rows : List Attendance) (shown : List PunchRecord) (loop : SyncLoop) : Prop where
  rowsOf : List.Forall₂ (RowOf around.lms before.cache) rows shown
  count : loop.newAdded = some (index + rows.length)
  clean : ¬ Poisoned loop.state.dashboard.logs
  cache : ∀ pin, loop.state.dashboard.cache.get? pin =
    if pin ∈ rows.map (fun row => strip row.userId) then settledEntry around.lms before.cache pin
    else before.cache.get? pin
  logs : ∀ punch, punch ∈ loop.state.dashboard.logs ↔
    (punch ∈ before.logs ∧
      InWindows around.clock index (index + rows.length) punch.timestamp) ∨
    ∃ place, shown[place]? = some punch ∧
      InWindows around.clock (index + place) (index + rows.length) punch.timestamp

theorem syncAll_looped (reads : ReadsWritten) (index : Nat) (state : SyncState)
    (rows : List Attendance) (clean : ¬ Poisoned state.dashboard.logs) :
    ∃ shown, Looped around index state.dashboard rows shown (syncAll around sn index state rows) := by
  induction rows generalizing index state with
  | nil =>
      refine ⟨[], .nil, rfl, clean, fun _ => rfl, fun punch => ?_⟩
      have none : InWindows around.clock index index punch.timestamp :=
        fun other after inside => absurd inside (Nat.not_lt.mpr after)
      simp [syncAll, none]
  | cons record rest ih =>
      obtain ⟨row, own, entries, -, pruned⟩ :=
        @offerRecord_row _ around sn index state.dashboard record
      have plain : ¬ Poisoned (row :: state.dashboard.logs) := by
        have naive := not_readsAware_standardText reads record.timestamp record.whole
        rw [← Attendance.text, ← own.timestamp] at naive
        simpa [Poisoned, naive] using clean
      obtain ⟨-, cleanAfter, announced, told, -⟩ :=
        (@offerRecord_cases _ around sn reads index state.dashboard record).resolve_left
          fun raised => clean raised.1
      have kept := pruned plain
      obtain ⟨reply, board⟩ := @syncRecord_offered _ around sn index state record
      rw [← reply] at told
      rw [← board] at cleanAfter entries kept
      rw [syncAll]
      generalize syncRecord around sn index state record = ran at told cleanAfter entries kept
      obtain ⟨first, after⟩ := ran
      cases told
      obtain ⟨shown, looped⟩ := ih (index + 1) after cleanAfter
      have settled := settledEntry_of_get? entries
      have length : index + (record :: rest).length = index + 1 + rest.length := by
        rw [List.length_cons]
        omega
      refine ⟨row :: shown, ?_, ?_, looped.clean, ?_, ?_⟩
      · exact .cons own (looped.rowsOf.imp fun _ _ later => later.of_settled settled)
      · rw [length]
        exact looped.count
      · intro pin
        rw [looped.cache, settled, entries]
        simp only [List.map_cons, List.mem_cons]
        by_cases here : pin = strip record.userId
        · simp [here]
        · simp [here]
      · intro punch
        rw [looped.logs, mem_prune_iff kept, List.mem_cons, length]
        have before : index < index + 1 + rest.length := by omega
        have here := inWindows_from around.clock before punch.timestamp
        rw [here]
        constructor
        · rintro (⟨⟨rfl | held, first⟩, later⟩ | ⟨place, found, later⟩)
          · exact .inr ⟨0, rfl, here.mpr ⟨first, later⟩⟩
          · exact .inl ⟨held, first, later⟩
          · refine .inr ⟨place + 1, found, ?_⟩
            rwa [show index + (place + 1) = index + 1 + place by omega]
        · rintro (⟨held, first, later⟩ | ⟨place, found, windows⟩)
          · exact .inl ⟨⟨.inr held, first⟩, later⟩
          · cases place with
            | zero =>
                obtain ⟨first, later⟩ := here.mp windows
                exact .inl ⟨⟨.inl (Option.some.inj found).symm, first⟩, later⟩
            | succ place =>
                refine .inr ⟨place, found, ?_⟩
                rwa [show index + 1 + place = index + (place + 1) by omega]

/-! ## The dashboard after the first call -/

variable {target : SyncTarget} {state : SyncState} {records : List Attendance}
  {devUsers : List Core.ZkUser}

/-- A call prunes at each new record, and at its end where the log file opens. -/
def PrunedAt (around : SyncSurroundings) (count index : Nat) : Prop :=
  index < count ∨ (index = count ∧ 0 < count ∧ around.writable count = true)

/-- No prune of the call drops the timestamp, from that at one of the new records on. -/
def StaysFrom (around : SyncSurroundings) (count first : Nat) (timestamp : String) : Prop :=
  ∀ index, first ≤ index → PrunedAt around count index → InWindow (around.clock index) timestamp

theorem staysFrom_iff (count first : Nat) (timestamp : String) (bound : first ≤ count) :
    StaysFrom around count first timestamp ↔
      InWindows around.clock first count timestamp ∧
        (0 < count → around.writable count = true → InWindow (around.clock count) timestamp) := by
  constructor
  · intro stays
    exact ⟨fun index after inside => stays index after (.inl inside),
      fun some_new opens => stays count bound (.inr ⟨rfl, some_new, opens⟩)⟩
  · rintro ⟨windows, last⟩ index after (inside | ⟨rfl, some_new, opens⟩)
    · exact windows index after inside
    · exact last some_new opens

theorem finalPrune_cache (count : Nat) (dashboard : Dashboard) :
    (finalPrune around count dashboard).cache = dashboard.cache := by
  rw [finalPrune]
  split
  · rfl
  · split
    · split <;> rfl
    · rfl

theorem mem_finalPrune_iff (around : SyncSurroundings) (count : Nat) (dashboard : Dashboard)
    (clean : ¬ Poisoned dashboard.logs) (punch : PunchRecord) :
    punch ∈ (finalPrune around count dashboard).logs ↔
      punch ∈ dashboard.logs ∧ (0 < count → around.writable count = true →
        InWindow (around.clock count) punch.timestamp) := by
  rw [finalPrune]
  split
  · rename_i none
    simp [none]
  · rename_i some_new
    split
    · rename_i opens
      cases pruned : prunePunchLogs (around.clock count) dashboard.logs with
      | none => exact absurd ((prune_eq_none_iff _ _).mp pruned) clean
      | some logs => simp [mem_prune_iff pruned, Nat.pos_of_ne_zero some_new, opens]
    · rename_i shut
      simp [shut]

theorem syncDownloaded_nothing (around : SyncSurroundings) (target : SyncTarget)
    (devUsers : List Core.ZkUser) (none : newRecords state.dashboard.logs records = []) :
    ∃ message totalStored namesUpdated,
      syncDownloaded around target state records devUsers =
        ⟨some (.synced message 0 records.length totalStored namesUpdated), [],
          { state with dashboard := (learnNames around state.dashboard devUsers).2 }⟩ := by
  have loop : syncLoop around target state records devUsers =
      ⟨some 0, [], { state with dashboard := (learnNames around state.dashboard devUsers).2 }⟩ := by
    rw [syncLoop, none]
    rfl
  obtain ⟨message, totalStored, namesUpdated, whole⟩ :=
    @syncDownloaded_went _ around target state records devUsers 0 (by rw [loop])
  refine ⟨message, totalStored, namesUpdated, ?_⟩
  rw [whole, loop]
  rfl

/-- The first call, unless it meets an aware timestamp and leaves records out. -/
structure FirstCall (around : SyncSurroundings) (logs : List PunchRecord) (learned : Dashboard)
    (rows : List Attendance) (shown : List PunchRecord) (after : Dashboard) : Prop where
  rowsOf : List.Forall₂ (RowOf around.lms learned.cache) rows shown
  cache : ∀ pin, after.cache.get? pin =
    if pin ∈ rows.map (fun row => strip row.userId) then settledEntry around.lms learned.cache pin
    else learned.cache.get? pin
  logs : ∀ punch, punch ∈ after.logs ↔
    (punch ∈ learned.logs ∧
      (¬ Poisoned logs → StaysFrom around rows.length 0 punch.timestamp)) ∨
    ∃ place, shown[place]? = some punch ∧
      (¬ Poisoned logs → StaysFrom around rows.length place punch.timestamp)

theorem poisoned_learnNames (around : SyncSurroundings) (devUsers : List Core.ZkUser) :
    Poisoned (learnNames around state.dashboard devUsers).2.logs ↔
      Poisoned state.dashboard.logs := by
  rw [poisoned_iff_keys, poisoned_iff_keys, existingKeys_learnNames]

theorem firstCall_clean (reads : ReadsWritten) (clean : ¬ Poisoned state.dashboard.logs) :
    ∃ shown, FirstCall around state.dashboard.logs
      (learnNames around state.dashboard devUsers).2 (newRecords state.dashboard.logs records)
      shown (syncDownloaded around target state records devUsers).state.dashboard := by
  obtain ⟨shown, looped⟩ : ∃ shown, Looped around 0 (learnNames around state.dashboard devUsers).2
      (newRecords state.dashboard.logs records) shown
      (syncLoop around target state records devUsers) :=
    syncAll_looped reads 0
      { state with dashboard := (learnNames around state.dashboard devUsers).2 } _
      fun held => clean ((poisoned_learnNames around devUsers).mp held)
  have count := looped.count
  rw [Nat.zero_add] at count
  obtain ⟨message, totalStored, namesUpdated, whole⟩ :=
    @syncDownloaded_went _ around target state records devUsers _ count
  refine ⟨shown, looped.rowsOf, ?_, ?_⟩
  · intro pin
    rw [whole]
    exact (congrArg (Dict.get? · pin) (finalPrune_cache _ _)).trans (looped.cache pin)
  · intro punch
    have stays := fun first bound => @staysFrom_iff _ around
      (newRecords state.dashboard.logs records).length first punch.timestamp bound
    have pruned := mem_finalPrune_iff around
      (newRecords state.dashboard.logs records).length _ looped.clean punch
    rw [looped.logs, or_and_right] at pruned
    rw [whole]
    refine pruned.trans ?_
    simp only [clean, not_false_eq_true, true_implies, Nat.zero_add]
    refine or_congr ?_ ?_
    · rw [and_assoc, ← stays 0 (Nat.zero_le _)]
    · constructor
      · rintro ⟨⟨place, found, windows⟩, last⟩
        have bound := (List.getElem?_eq_some_iff.mp found).1
        rw [← looped.rowsOf.length_eq] at bound
        exact ⟨place, found, (stays place (Nat.le_of_lt bound)).mpr ⟨windows, last⟩⟩
      · rintro ⟨place, found, held⟩
        have bound := (List.getElem?_eq_some_iff.mp found).1
        rw [← looped.rowsOf.length_eq] at bound
        obtain ⟨windows, last⟩ := (stays place (Nat.le_of_lt bound)).mp held
        exact ⟨⟨place, found, windows⟩, last⟩

theorem syncDownloaded_poisoned (around : SyncSurroundings) (target : SyncTarget)
    (devUsers : List Core.ZkUser) (reads : ReadsWritten) (poisoned : Poisoned state.dashboard.logs)
    {record : Attendance} {rest : List Attendance}
    (rows : newRecords state.dashboard.logs records = record :: rest) :
    ∃ row after, RowOf around.lms (learnNames around state.dashboard devUsers).2.cache record row ∧
      syncDownloaded around target state records devUsers = ⟨none, [], after⟩ ∧
      after.dashboard.logs = row :: (learnNames around state.dashboard devUsers).2.logs ∧
      ∀ pin, after.dashboard.cache.get? pin =
        if pin = strip record.userId then
          settledEntry around.lms (learnNames around state.dashboard devUsers).2.cache pin
        else (learnNames around state.dashboard devUsers).2.cache.get? pin := by
  obtain ⟨row, own, entries, stuck, -⟩ := @offerRecord_row _ around target.sn 0
    (learnNames around state.dashboard devUsers).2 record
  have learned := (poisoned_learnNames around devUsers).mpr poisoned
  obtain ⟨after, raised⟩ := syncRecord_raised around target.sn reads 0
    { state with dashboard := (learnNames around state.dashboard devUsers).2 } record learned
  have left : after.dashboard = (offerRecord around target.sn 0
      (learnNames around state.dashboard devUsers).2 record).2 :=
    (congrArg (·.2.dashboard) raised).symm.trans (syncRecord_offered 0 _ record).2
  have loop : syncLoop around target state records devUsers = ⟨none, [], after⟩ := by
    rw [syncLoop, rows, syncAll, raised]
  obtain ⟨aware, member, read⟩ := learned
  refine ⟨row, after, own, ?_, ?_, fun pin => ?_⟩
  · rw [syncDownloaded_raised (by rw [loop]), loop]
  · rw [left]
    exact stuck ⟨aware, List.mem_cons_of_mem _ member, read⟩
  · rw [left]
    exact entries pin

theorem firstCall_poisoned (reads : ReadsWritten) (poisoned : Poisoned state.dashboard.logs)
    (once : (newRecords state.dashboard.logs records).length ≤ 1) :
    ∃ shown, FirstCall around state.dashboard.logs
      (learnNames around state.dashboard devUsers).2 (newRecords state.dashboard.logs records)
      shown (syncDownloaded around target state records devUsers).state.dashboard := by
  cases rows : newRecords state.dashboard.logs records with
  | nil =>
      obtain ⟨message, totalStored, namesUpdated, whole⟩ :=
        syncDownloaded_nothing around target devUsers rows
      rw [whole]
      exact ⟨[], .nil, fun _ => rfl, fun punch => by simp [poisoned]⟩
  | cons record rest =>
      rw [rows, List.length_cons] at once
      obtain rfl : rest = [] := List.length_eq_zero_iff.mp (by omega)
      obtain ⟨row, after, own, whole, logs, entries⟩ :=
        syncDownloaded_poisoned around target devUsers reads poisoned rows
      rw [whole]
      refine ⟨[row], .cons own .nil, fun pin => by simpa using entries pin, fun punch => ?_⟩
      rw [logs]
      constructor
      · intro held
        rcases List.mem_cons.mp held with rfl | later
        · exact .inr ⟨0, rfl, fun clean => absurd poisoned clean⟩
        · exact .inl ⟨later, fun clean => absurd poisoned clean⟩
      · rintro (⟨held, -⟩ | ⟨place, found, -⟩)
        · exact List.mem_cons_of_mem _ held
        · rw [List.mem_singleton.mp (List.mem_of_getElem? found)]
          exact List.mem_cons_self

end

/-! ## Names that are found again -/

def lastInfo : List (String × UserInfo) → String → Option UserInfo
  | [], _ => none
  | (held, info) :: rest, pin => (lastInfo rest pin).or (if held = pin then some info else none)

def written : UserCache → List (String × UserInfo) → String → Option UserInfo
  | _, [], _ => none
  | cache, (held, info) :: rest, pin =>
      if isUnnamed cache held then
        (written (cache.set held info) rest pin).or (if held = pin then some info else none)
      else written cache rest pin

/-- Neither the cache nor the reader has a name for the PIN that is no placeholder. -/
def Undecided (cache : UserCache) (entries : List (String × UserInfo)) (pin : String) : Prop :=
  isUnnamed cache pin = true ∧ ∀ entry ∈ entries, entry.1 = pin → entry.2.isNamed = false

def withInfo (punch : PunchRecord) (info : UserInfo) : PunchRecord :=
  { punch with userName := info.name.getD "", userRole := info.role.getD "" }

theorem isUnnamed_set (cache : UserCache) (held pin : String) (info : UserInfo) :
    isUnnamed (cache.set held info) pin =
      if pin = held then !info.isNamed else isUnnamed cache pin := by
  rw [isUnnamed, Dict.get?_set]
  split <;> rfl

theorem mem_of_lastInfo {entries : List (String × UserInfo)} {pin : String} {info : UserInfo}
    (last : lastInfo entries pin = some info) : (pin, info) ∈ entries := by
  induction entries with
  | nil => cases last
  | cons entry rest ih =>
      rw [lastInfo] at last
      rcases Option.or_eq_some_iff.mp last with later | ⟨-, own⟩
      · exact List.mem_cons_of_mem _ (ih later)
      · obtain ⟨rfl, same⟩ := Option.ite_none_right_eq_some.mp own
        cases same
        exact List.mem_cons_self

theorem discoverNames_logs (updated : Nat) (cache : UserCache) (logs : List PunchRecord)
    (entries : List (String × UserInfo)) :
    (discoverNames updated cache logs entries).2.2 =
      logs.map fun punch => (written cache entries (strip punch.userId)).elim punch (withInfo punch) := by
  induction entries generalizing updated cache logs with
  | nil => simp [discoverNames, written]
  | cons entry rest ih =>
      obtain ⟨held, info⟩ := entry
      rw [discoverNames]
      split
      · rename_i unnamed
        rw [ih, renameRows, List.map_map]
        refine List.map_congr_left fun punch _ => ?_
        simp only [Function.comp_apply, written, unnamed, if_true]
        by_cases own : strip punch.userId = held
        · simp only [own, if_true]
          cases written (cache.set held info) rest held <;> rfl
        · simp only [own, if_false, Ne.symm own, Option.or_none]
      · rename_i named
        simp only [ih, written, named]
        rfl

theorem discoverNames_cache (updated : Nat) (cache : UserCache) (logs : List PunchRecord)
    (entries : List (String × UserInfo)) (pin : String) :
    (discoverNames updated cache logs entries).2.1.get? pin =
      (written cache entries pin).or (cache.get? pin) := by
  induction entries generalizing updated cache logs with
  | nil => rfl
  | cons entry rest ih =>
      obtain ⟨held, info⟩ := entry
      rw [discoverNames, written]
      split
      · rw [ih, Dict.get?_set, Option.or_assoc]
        by_cases own : held = pin
        · simp [own]
        · simp [own, Ne.symm own]
      · exact ih updated cache logs

theorem written_of_named {cache : UserCache} {entries : List (String × UserInfo)} {pin : String}
    (named : isUnnamed cache pin = false) : written cache entries pin = none := by
  induction entries generalizing cache with
  | nil => rfl
  | cons entry rest ih =>
      obtain ⟨held, info⟩ := entry
      rw [written]
      split
      · rename_i unnamed
        have other : held ≠ pin := by
          rintro rfl
          rw [named] at unnamed
          cases unnamed
        rw [ih (by rw [isUnnamed_set, if_neg (Ne.symm other), named]), if_neg other]
        rfl
      · exact ih named

theorem written_of_undecided {cache : UserCache} {entries : List (String × UserInfo)} {pin : String}
    (undecided : Undecided cache entries pin) : written cache entries pin = lastInfo entries pin := by
  induction entries generalizing cache with
  | nil => rfl
  | cons entry rest ih =>
      obtain ⟨held, info⟩ := entry
      obtain ⟨unnamed, placeholders⟩ := undecided
      have later := fun other listed => placeholders other (List.mem_cons_of_mem _ listed)
      rw [written, lastInfo]
      split
      · rw [ih ⟨?_, later⟩]
        rw [isUnnamed_set]
        split
        · rename_i own
          rw [placeholders (held, info) List.mem_cons_self own.symm]
          rfl
        · exact unnamed
      · rename_i named
        have other : held ≠ pin := by
          rintro rfl
          exact named unnamed
        rw [ih ⟨unnamed, later⟩, if_neg other, Option.or_none]

theorem isUnnamed_discoverNames (updated : Nat) (cache : UserCache) (logs : List PunchRecord)
    (entries : List (String × UserInfo)) (pin : String) :
    isUnnamed (discoverNames updated cache logs entries).2.1 pin = true ↔
      Undecided cache entries pin := by
  induction entries generalizing updated cache logs with
  | nil => simp [discoverNames, Undecided]
  | cons entry rest ih =>
      obtain ⟨held, info⟩ := entry
      rw [discoverNames, Undecided, List.forall_mem_cons]
      split
      · rename_i unnamed
        rw [ih, Undecided, isUnnamed_set]
        by_cases own : pin = held
        · subst own
          simp [unnamed]
        · simp [own, Ne.symm own]
      · rename_i named
        rw [ih, Undecided]
        refine and_congr_right fun unnamed => (and_iff_right ?_).symm
        rintro rfl
        exact absurd unnamed named

theorem withInfo_eq_self_iff (punch : PunchRecord) (info : UserInfo) :
    withInfo punch info = punch ↔
      punch.userName = info.name.getD "" ∧ punch.userRole = info.role.getD "" := by
  constructor
  · intro same
    rw [← same]
    exact ⟨rfl, rfl⟩
  · rintro ⟨name, role⟩
    rw [withInfo, ← name, ← role]

theorem learnNames_logs_eq_iff (around : SyncSurroundings) (dashboard : Dashboard)
    (devUsers : List Core.ZkUser) :
    (learnNames around dashboard devUsers).2.logs = dashboard.logs ↔
      ∀ punch ∈ dashboard.logs,
        ∀ info ∈ written dashboard.cache (namedUsers devUsers) (strip punch.userId),
          punch.userName = info.name.getD "" ∧ punch.userRole = info.role.getD "" := by
  have found : (learnNames around dashboard devUsers).2.logs = _ :=
    discoverNames_logs 0 dashboard.cache dashboard.logs (namedUsers devUsers)
  rw [found]
  have same : dashboard.logs.map id = dashboard.logs := List.map_id _
  nth_rewrite 2 [← same]
  rw [List.map_inj_left]
  refine forall₂_congr fun punch _ => ?_
  cases written dashboard.cache (namedUsers devUsers) (strip punch.userId) with
  | none => simp
  | some info => simp [withInfo_eq_self_iff]

theorem namedUsers_full {devUsers : List Core.ZkUser} {entry : String × UserInfo}
    (listed : entry ∈ namedUsers devUsers) : ∃ name role, entry.2 = ⟨some name, some role⟩ := by
  obtain ⟨user, _, found⟩ := List.mem_filterMap.mp listed
  split at found
  · cases found
  · rw [← Option.some.inj found]
    exact ⟨_, _, rfl⟩

/-- Where the LMS has a placeholder for the PIN of a new record that is undecided, it is the
reader's. -/
def NamesAgree (lms : LmsNames) (cache : UserCache) (entries : List (String × UserInfo))
    (rows : List Attendance) : Prop :=
  ∀ row ∈ rows, Undecided cache entries (strip row.userId) →
    ∀ info ∈ lastInfo entries (strip row.userId), ∀ given ∈ lms (strip row.userId),
      given.isNamed = false →
        given.nameFor row.userId = info.name.getD "" ∧ given.roleOrNormal = info.role.getD ""

theorem rel_getElem? {Left Right : Type} {relation : Left → Right → Prop} {lefts : List Left}
    {rights : List Right} (related : List.Forall₂ relation lefts rights) (place : Nat) :
    Option.Rel relation lefts[place]? rights[place]? := by
  induction related generalizing place with
  | nil => exact .none
  | cons first _ ih =>
      cases place with
      | zero => exact .some first
      | succ place => exact ih place

section

variable [IsoFormat] {around again : SyncSurroundings} {state : SyncState}
  {rows : List Attendance} {shown : List PunchRecord} {after : Dashboard}
  {devUsers : List Core.ZkUser}

omit [IsoFormat] in
theorem settledEntry_of_unnamed {lms : LmsNames} {cache : UserCache} {pin : String}
    (unnamed : isUnnamed cache pin = true) :
    settledEntry lms cache pin = (lms pin).or (cache.get? pin) := by
  rw [settledEntry, if_neg (by simpa [isUnnamed] using unnamed)]

omit [IsoFormat] in
theorem get?_learnNames (around : SyncSurroundings) {pin : String} {info : UserInfo}
    (undecided : Undecided state.dashboard.cache (namedUsers devUsers) pin)
    (last : lastInfo (namedUsers devUsers) pin = some info) :
    isUnnamed (learnNames around state.dashboard devUsers).2.cache pin = true ∧
      (learnNames around state.dashboard devUsers).2.cache.get? pin = some info := by
  refine ⟨(isUnnamed_discoverNames 0 _ _ _ pin).mpr undecided, ?_⟩
  refine (discoverNames_cache 0 _ _ _ pin).trans ?_
  rw [written_of_undecided undecided, last]
  rfl

theorem undecided_of_after
    (first : FirstCall around state.dashboard.logs (learnNames around state.dashboard devUsers).2
      rows shown after) {pin : String} (unnamed : isUnnamed after.cache pin = true) :
    Undecided state.dashboard.cache (namedUsers devUsers) pin := by
  refine (isUnnamed_discoverNames 0 _ state.dashboard.logs _ pin).mp ?_
  change isUnnamed (learnNames around state.dashboard devUsers).2.cache pin = true
  by_contra named
  have entry : after.cache.get? pin =
      (learnNames around state.dashboard devUsers).2.cache.get? pin := by
    rw [first.cache]
    split
    · rw [settledEntry, if_pos (by simpa [isUnnamed] using named)]
    · rfl
  rw [isUnnamed, entry, ← isUnnamed] at unnamed
  exact named unnamed

omit [IsoFormat] in
theorem learned_row {punch : PunchRecord}
    (listed : punch ∈ (learnNames around state.dashboard devUsers).2.logs) {info : UserInfo}
    (undecided : Undecided state.dashboard.cache (namedUsers devUsers) (strip punch.userId))
    (last : lastInfo (namedUsers devUsers) (strip punch.userId) = some info) :
    punch.userName = info.name.getD "" ∧ punch.userRole = info.role.getD "" := by
  have found : (learnNames around state.dashboard devUsers).2.logs = _ :=
    discoverNames_logs 0 state.dashboard.cache state.dashboard.logs (namedUsers devUsers)
  rw [found] at listed
  obtain ⟨before, _, rfl⟩ := List.mem_map.mp listed
  have pin : strip ((written state.dashboard.cache (namedUsers devUsers)
      (strip before.userId)).elim before (withInfo before)).userId = strip before.userId := by
    cases written state.dashboard.cache (namedUsers devUsers) (strip before.userId) <;> rfl
  rw [pin] at undecided last
  rw [written_of_undecided undecided, last]
  exact ⟨rfl, rfl⟩

theorem undecided_row
    (first : FirstCall around state.dashboard.logs (learnNames around state.dashboard devUsers).2
      rows shown after) {record : Attendance} (listed : record ∈ rows) {info : UserInfo}
    (undecided : Undecided state.dashboard.cache (namedUsers devUsers) (strip record.userId))
    (last : lastInfo (namedUsers devUsers) (strip record.userId) = some info) :
    after.cache.get? (strip record.userId) =
        some ((around.lms (strip record.userId)).getD info) ∧
      ∀ row, RowOf around.lms (learnNames around state.dashboard devUsers).2.cache record row →
        row.userName =
            ((around.lms (strip record.userId)).getD info).nameFor record.userId ∧
          row.userRole = ((around.lms (strip record.userId)).getD info).roleOrNormal := by
  obtain ⟨unnamed, entry⟩ := get?_learnNames around undecided last
  have settled : settledEntry around.lms (learnNames around state.dashboard devUsers).2.cache
      (strip record.userId) = some ((around.lms (strip record.userId)).getD info) := by
    rw [settledEntry_of_unnamed unnamed, entry]
    cases around.lms (strip record.userId) <;> rfl
  constructor
  · rw [first.cache, if_pos (List.mem_map.mpr ⟨record, listed, rfl⟩), settled]
  · intro row own
    rw [own.name, own.role, shownInfo, settled]
    exact ⟨rfl, rfl⟩

/-- After a first call whose rows all stay, names are found again without a change exactly
where the LMS's placeholders agree. -/
theorem learnNames_again_iff
    (first : FirstCall around state.dashboard.logs (learnNames around state.dashboard devUsers).2
      rows shown after)
    (stay : ∀ row ∈ shown, row ∈ after.logs) :
    (learnNames again after devUsers).2.logs = after.logs ↔
      NamesAgree around.lms state.dashboard.cache (namedUsers devUsers) rows := by
  rw [learnNames_logs_eq_iff]
  constructor
  · intro same record listed undecided info last given gives placeholder
    obtain ⟨place, here⟩ := List.getElem?_of_mem listed
    have related := rel_getElem? first.rowsOf place
    rw [here] at related
    generalize found : shown[place]? = other at related
    cases related with
    | @some _ row own =>
        obtain ⟨entry, names⟩ := undecided_row first listed undecided last
        rw [gives, Option.getD_some] at entry names
        have unnamed : isUnnamed after.cache (strip record.userId) = true := by
          rw [isUnnamed, entry, Option.any_some, placeholder]
          rfl
        have wanted : info ∈ written after.cache (namedUsers devUsers) (strip row.userId) := by
          rw [own.userId, written_of_undecided ⟨unnamed, undecided.2⟩]
          exact last
        have held := same row (stay row (List.mem_of_getElem? found)) info wanted
        rwa [(names row own).1, (names row own).2] at held
  · intro agree punch held info wanted
    have unnamed : isUnnamed after.cache (strip punch.userId) = true := by
      by_contra named
      rw [written_of_named (Bool.not_eq_true _ ▸ named)] at wanted
      cases wanted
    have undecided := undecided_of_after first unnamed
    rw [written_of_undecided ⟨unnamed, undecided.2⟩] at wanted
    rcases (first.logs punch).mp held with ⟨before, -⟩ | ⟨place, found, -⟩
    · exact learned_row before undecided wanted
    · have related := rel_getElem? first.rowsOf place
      rw [found] at related
      generalize here : rows[place]? = other at related
      cases related with
      | @some record _ own =>
          have listed := List.mem_of_getElem? here
          rw [own.userId] at unnamed undecided wanted
          obtain ⟨entry, names⟩ := undecided_row first listed undecided wanted
          rw [(names punch own).1, (names punch own).2]
          cases gives : around.lms (strip record.userId) with
          | none =>
              obtain ⟨name, role, full⟩ := namedUsers_full (mem_of_lastInfo wanted)
              cases full
              exact ⟨rfl, rfl⟩
          | some given =>
              rw [gives, Option.getD_some] at entry
              have placeholder : given.isNamed = false := by
                rw [isUnnamed, entry] at unnamed
                simpa using unnamed
              exact agree record listed undecided info wanted given gives placeholder

/-! ## Records that are remembered -/

/-- The row of the record is in the log at the end of the call: one that was there before, or
that of a new record from its place on. -/
def Remembered (around : SyncSurroundings) (logs : List PunchRecord) (records : List Attendance)
    (record : Attendance) : Prop :=
  (¬ IsNew logs record ∧ (¬ Poisoned logs →
    StaysFrom around (newRecords logs records).length 0 record.text)) ∨
  ∃ place other, (newRecords logs records)[place]? = some other ∧
    other.cacheKey = record.cacheKey ∧
    (¬ Poisoned logs → StaysFrom around (newRecords logs records).length place record.text)

variable {records : List Attendance}

theorem remembered_iff
    (first : FirstCall around state.dashboard.logs (learnNames around state.dashboard devUsers).2
      (newRecords state.dashboard.logs records) shown after) (record : Attendance) :
    record.cacheKey ∈ existingKeys after.logs ↔
      Remembered around state.dashboard.logs records record := by
  have keysSame := @existingKeys_learnNames around state.dashboard devUsers
  constructor
  · intro held
    obtain ⟨punch, listed, key⟩ := List.mem_map.mp held
    obtain ⟨pin, text⟩ := Prod.mk.inj key
    rcases (first.logs punch).mp listed with ⟨before, stays⟩ | ⟨place, found, stays⟩
    · rw [text] at stays
      refine .inl ⟨not_not.mpr ?_, stays⟩
      rw [← keysSame]
      exact List.mem_map.mpr ⟨punch, before, key⟩
    · have related := rel_getElem? first.rowsOf place
      rw [found] at related
      generalize here : (newRecords state.dashboard.logs records)[place]? = other at related
      cases related with
      | @some other _ own =>
          rw [text] at stays
          refine .inr ⟨place, other, here, ?_, stays⟩
          rw [Attendance.cacheKey, ← own.userId, ← own.timestamp]
          exact key
  · rintro (⟨old, stays⟩ | ⟨place, other, here, key, stays⟩)
    · have before := not_not.mp old
      rw [← keysSame] at before
      obtain ⟨punch, listed, key⟩ := List.mem_map.mp before
      refine List.mem_map.mpr ⟨punch, (first.logs punch).mpr (.inl ⟨listed, ?_⟩), key⟩
      rwa [(Prod.mk.inj key).2]
    · have related := rel_getElem? first.rowsOf place
      rw [here] at related
      generalize found : shown[place]? = punch at related
      cases related with
      | @some _ punch own =>
          obtain ⟨pin, text⟩ := Prod.mk.inj key
          refine List.mem_map.mpr ⟨punch, (first.logs punch).mpr (.inr ⟨place, found, ?_⟩), ?_⟩
          · rwa [own.timestamp, text]
          · rw [own.userId, own.timestamp, pin, text]
            rfl

theorem stay_of_remembered
    (first : FirstCall around state.dashboard.logs (learnNames around state.dashboard devUsers).2
      (newRecords state.dashboard.logs records) shown after)
    (remembered : ∀ record ∈ records, Remembered around state.dashboard.logs records record) :
    ∀ row ∈ shown, row ∈ after.logs := by
  intro row listed
  obtain ⟨place, found⟩ := List.getElem?_of_mem listed
  have related := rel_getElem? first.rowsOf place
  rw [found] at related
  generalize here : (newRecords state.dashboard.logs records)[place]? = record at related
  cases related with
  | @some record _ own =>
      obtain ⟨member, fresh⟩ :=
        KeyedTable.mem_of_unseen Attendance.cacheKey (List.mem_of_getElem? here)
      obtain ⟨elsewhere, other, there, key, stays⟩ :=
        (remembered record member).resolve_left fun old => old.1 fresh
      have same : place = elsewhere := by
        have distinct := KeyedTable.nodup_unseen Attendance.cacheKey
          (existingKeys state.dashboard.logs) records
        refine (List.getElem?_inj ?_ distinct).mp ?_
        · rw [List.length_map]
          exact (List.getElem?_eq_some_iff.mp here).1
        · rw [List.getElem?_map, List.getElem?_map, ← newRecords, here, there]
          exact congrArg some key.symm
      subst same
      refine (first.logs row).mpr (.inr ⟨place, found, ?_⟩)
      rwa [own.timestamp]

/-! ## The second call -/

variable {target : SyncTarget}

theorem syncAll_count {sn : String} {index newAdded : Nat} {state : SyncState}
    {rows : List Attendance}
    (went : (syncAll around sn index state rows).newAdded = some newAdded) :
    newAdded = index + rows.length := by
  induction rows generalizing index state with
  | nil => exact (Option.some.inj went).symm
  | cons record rest ih =>
      rw [syncAll] at went
      split at went
      · cases went
      · rw [ih went, List.length_cons]
        omega

/-- The call reports no new punches, broadcasts nothing and leaves the log as it is. -/
def AddsNothing (synced : DeviceSynced) (records : List Attendance) (logs : List PunchRecord) :
    Prop :=
  (∃ message totalStored usersDiscovered,
    synced.answer = some (.synced message 0 records.length totalStored usersDiscovered)) ∧
    synced.announced = [] ∧ synced.state.dashboard.logs = logs

omit [IsoFormat] in
theorem not_addsNothing {synced : DeviceSynced} {logs : List PunchRecord} {message : String}
    {newPunches totalOnDevice totalStored usersDiscovered : Nat}
    (answer : synced.answer =
      some (.synced message newPunches totalOnDevice totalStored usersDiscovered))
    (some_new : newPunches ≠ 0) : ¬ AddsNothing synced records logs := by
  rintro ⟨⟨_, _, _, quiet⟩, -⟩
  rw [answer] at quiet
  exact some_new (SyncReply.synced.inj (Option.some.inj quiet)).2.1

theorem addsNothing_iff :
    AddsNothing (syncDownloaded around target state records devUsers) records
        state.dashboard.logs ↔
      newRecords state.dashboard.logs records = [] ∧
        (learnNames around state.dashboard devUsers).2.logs = state.dashboard.logs := by
  constructor
  · rintro ⟨⟨message, totalStored, usersDiscovered, answer⟩, -, same⟩
    have none : newRecords state.dashboard.logs records = [] := by
      cases went : (syncLoop around target state records devUsers).newAdded with
      | none =>
          rw [syncDownloaded_raised went] at answer
          cases answer
      | some newAdded =>
          obtain ⟨_, _, _, whole⟩ := syncDownloaded_went went
          rw [whole] at answer
          obtain ⟨-, rfl, -⟩ := SyncReply.synced.inj (Option.some.inj answer)
          have count := syncAll_count went
          exact List.length_eq_zero_iff.mp (by omega)
    refine ⟨none, ?_⟩
    obtain ⟨_, _, _, whole⟩ := syncDownloaded_nothing around target devUsers none
    rw [whole] at same
    exact same
  · rintro ⟨none, same⟩
    obtain ⟨message, totalStored, namesUpdated, whole⟩ :=
      syncDownloaded_nothing around target devUsers none
    rw [whole]
    exact ⟨⟨message, totalStored, namesUpdated, rfl⟩, rfl, same⟩

theorem newRecords_of_poisoned (around : SyncSurroundings) (target : SyncTarget)
    (devUsers : List Core.ZkUser) (reads : ReadsWritten) (poisoned : Poisoned state.dashboard.logs)
    (many : ¬ (newRecords state.dashboard.logs records).length ≤ 1) :
    newRecords (syncDownloaded around target state records devUsers).state.dashboard.logs
      records ≠ [] := by
  rw [newRecords_ne_nil_iff]
  match rows : newRecords state.dashboard.logs records with
  | [] => simp [rows] at many
  | [_] => simp [rows] at many
  | first :: second :: rest =>
      obtain ⟨row, after, own, whole, logs, -⟩ :=
        syncDownloaded_poisoned around target devUsers reads poisoned rows
      have listed : second ∈ newRecords state.dashboard.logs records := by simp [rows]
      obtain ⟨member, fresh⟩ := KeyedTable.mem_of_unseen Attendance.cacheKey listed
      have distinct := KeyedTable.nodup_unseen Attendance.cacheKey
        (existingKeys state.dashboard.logs) records
      rw [← newRecords, rows] at distinct
      have apart : first.cacheKey ≠ second.cacheKey := by
        have unlisted := (List.nodup_cons.mp distinct).1
        rintro same
        exact unlisted (same ▸ List.mem_cons_self)
      refine ⟨second, member, ?_⟩
      rw [whole, IsNew, logs, existingKeys, List.map_cons, List.mem_cons, not_or]
      refine ⟨?_, ?_⟩
      · rw [own.userId, own.timestamp]
        exact apart.symm
      · have keysSame := @existingKeys_learnNames around state.dashboard devUsers
        rw [existingKeys] at keysSame
        rwa [keysSame]

/-- A second sync of the same reader adds nothing if and only if the first has remembered
every record, and the LMS's placeholders are the reader's. -/
theorem sync_again_adds_nothing_iff [ValueTables] {registry : Dict ContactEntry}
    {tcp : String → Int → TcpSession} {body : Option Json} (reads : ReadsWritten)
    (asked : (requestData body).bind (syncTarget registry) = some target)
    (read : (tcp target.ip target.port).download = .ok (records, devUsers)) :
    AddsNothing
        (syncDevicePunches again true registry tcp
          (syncDevicePunches around true registry tcp state body).state body) records
        (syncDevicePunches around true registry tcp state body).state.dashboard.logs ↔
      (Poisoned state.dashboard.logs → (newRecords state.dashboard.logs records).length ≤ 1) ∧
      (∀ record ∈ records, Remembered around state.dashboard.logs records record) ∧
      NamesAgree around.lms state.dashboard.cache (namedUsers devUsers)
        (newRecords state.dashboard.logs records) := by
  rw [syncDevicePunches_read asked read, syncDevicePunches_read asked read, addsNothing_iff]
  by_cases once : Poisoned state.dashboard.logs →
      (newRecords state.dashboard.logs records).length ≤ 1
  · obtain ⟨shown, first⟩ : ∃ shown, FirstCall around state.dashboard.logs
        (learnNames around state.dashboard devUsers).2 (newRecords state.dashboard.logs records)
        shown (syncDownloaded around target state records devUsers).state.dashboard := by
      by_cases poisoned : Poisoned state.dashboard.logs
      · exact firstCall_poisoned reads poisoned (once poisoned)
      · exact firstCall_clean reads poisoned
    rw [and_iff_right once, newRecords, KeyedTable.unseen_eq_nil_iff]
    simp only [remembered_iff first]
    exact and_congr_right fun remembered =>
      learnNames_again_iff first (stay_of_remembered first remembered)
  · obtain ⟨poisoned, many⟩ := Classical.not_imp.mp once
    have fresh := newRecords_of_poisoned around target devUsers reads poisoned many
    exact iff_of_false (fun both => fresh both.1) fun all => once all.1

end

/-! ## A record from before the window -/

theorem sync_again_adds_nothing_same_day :
    @Remembered .extended quietSync [] [eveningRecord] eveningRecord ∧
      AddsNothing
        (@syncDevicePunches .extended quietSync .scalars true [] (fun _ _ => eveningSession)
          (@syncDevicePunches .extended quietSync .scalars true [] (fun _ _ => eveningSession)
            (unsynced []) none).state none) [eveningRecord]
        (@syncDevicePunches .extended quietSync .scalars true [] (fun _ _ => eveningSession)
          (unsynced []) none).state.dashboard.logs := by
  have inside : ∀ now, now = sampleTime.micros → @InWindow .extended now eveningRecord.text := by
    rintro now rfl time read
    have written := @readTimestamp_standardText .extended readsWritten_extended sampleTime rfl
    cases Option.some.inj (written.symm.trans read)
    decide
  have remembered : @Remembered .extended quietSync [] [eveningRecord] eveningRecord :=
    .inr ⟨0, eveningRecord, rfl, rfl, fun _ _ _ _ => inside _ rfl⟩
  refine ⟨remembered, ?_⟩
  refine (@sync_again_adds_nothing_iff .extended quietSync quietSync (unsynced []) []
    [eveningRecord] ⟨"NFZ8254900401", "192.168.0.210", 4370⟩ .scalars [] _ none
    readsWritten_extended (by decide +kernel) rfl).mpr ⟨?_, ?_, ?_⟩
  · rintro ⟨_, member, _⟩
    cases member
  · exact List.forall_mem_singleton.mpr remembered
  · rintro _ _ _ _ _ given gives
    cases gives

def juneRecord : Attendance where
  userId := "101"
  timestamp := ⟨2026, 6, 1, 8, 30, 0, 0, by decide⟩
  whole := rfl
  status := 0
  punch := some 1

def juneSession : TcpSession where
  busy := false
  connect := .ok ()
  getUsers := .ok []
  getAttendance := .ok [juneRecord]

theorem sync_again_adds_old_record :
    juneSession.download = .ok ([juneRecord], []) ∧
      ¬ AddsNothing
        (@syncDevicePunches .extended quietSync .scalars true [] (fun _ _ => juneSession)
          (@syncDevicePunches .extended quietSync .scalars true [] (fun _ _ => juneSession)
            (unsynced []) none).state none) [juneRecord]
        (@syncDevicePunches .extended quietSync .scalars true [] (fun _ _ => juneSession)
          (unsynced []) none).state.dashboard.logs := by
  have counted : (@syncDevicePunches .extended quietSync .scalars true [] (fun _ _ => juneSession)
      (@syncDevicePunches .extended quietSync .scalars true [] (fun _ _ => juneSession)
        (unsynced []) none).state none).answer =
      some (.synced "Successfully synced 1 new punches from NFZ8254900401 (192.168.0.210:4370)"
        1 1 0 0) := by decide +kernel
  exact ⟨rfl, not_addsNothing counted (by decide)⟩

end PumoBioMetric.Sync
