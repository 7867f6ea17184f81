import PumoBioMetric.Py.IsoText
import PumoBioMetric.Router.Contact
import PumoBioMetric.Router.PushAcknowledged
import PumoBioMetric.Sync.WireLayouts

/-!
# The serials of one reader

`mark_seen` and the command queue strip the `SN` and put it in upper case; `to_punch`
only strips it.
-/

set_option autoImplicit false

namespace PumoBioMetric.Sync

open PumoBioMetric.Py PumoBioMetric.Router

section

variable [UnicodeTables]

/-- A call with this `SN` is registered under the key alone, and its heartbeat stamps the key
alone; a forced one is submitted. -/
def SeenUnder (key sn : String) : Prop :=
  ∀ config moment contacts client force,
    let after := markSeen config moment contacts (some sn) client force
    ((after.registry.get? key).isSome ∧
      ∀ other, other ≠ key → after.registry.get? other = contacts.registry.get? other) ∧
    ∃ writes, after.liveness.submitted = contacts.liveness.submitted ++ writes ∧
      (∀ write ∈ writes, write.StampsOnly key) ∧
      (config.active = true → force = true → writes = [⟨key, client⟩])

/-- A poll with this `SN` takes the oldest command under the key. -/
def ServedUnder (key sn : String) : Prop :=
  ∀ config moment contacts queue request, getQueryParamCi request "SN" = some sn →
    let (answer, _, after) := handleGetrequest config moment contacts queue request
    (answer, after) = queue.serve key

variable [IsoFormat]

/-- `cdata_handler` hands the punch to the database for a request with this `SN`. -/
def Pushed (sn : String) (punch : Punch) : Prop :=
  ∃ config moment contacts state, ∃ push : CdataPost,
    getQueryParamCi push.request "SN" = some sn ∧
      ∃ records ∈ (handleCdataPost config moment contacts state push).2.ingested,
        punch ∈ usable records

/-- Punches, heartbeat, registry and commands of the `SN` share one key. -/
def OneKey (sn : String) : Prop :=
  ∃ key, (∀ punch, Pushed sn punch → punch.deviceSerial = key) ∧ SeenUnder key sn ∧
    ServedUnder key sn

/-- Whatever was pushed under the two spellings, a PIN and a time have one row. -/
def OneRow (first second : String) : Prop :=
  ∀ punches, (∀ punch ∈ punches, Pushed first punch ∨ Pushed second punch) →
    ((savePunches [] punches).map fun row => (row.deviceUserId, row.deviceTime)).Nodup

end

/-! ## The key of a call -/

theorem ne_empty_of_strip {sn : String} (present : strip sn ≠ "") : sn ≠ "" := by
  rintro rfl
  exact present (by decide)

section

variable [UnicodeTables] {sn : String}

theorem seenUnder_upper (present : strip sn ≠ "") (upperPresent : upper (strip sn) ≠ "") :
    SeenUnder (upper (strip sn)) sn := by
  have given := ne_empty_of_strip present
  intro config moment contacts client force
  simp only [markSeen, given, upperPresent, if_false]
  obtain ⟨writes, queued, own, forced⟩ := submitted_recordContact config moment.monotonic
    contacts.liveness (upper (strip sn)) client force
  refine ⟨⟨?_, ?_⟩, writes, queued, fun write listed => own write listed ▸ write.stampsOnly,
    forced upperPresent⟩
  · simp [Dict.get?_set]
  · intro other different
    rw [Dict.get?_set, if_neg different]

theorem servedUnder_upper (upperPresent : upper (strip sn) ≠ "") :
    ServedUnder (upper (strip sn)) sn := by
  intro config moment contacts queue request given
  simp [handleGetrequest, given, pollCommand, upperPresent]

theorem key_of_seenUnder {key : String} (seen : SeenUnder key sn) : key = upper (strip sn) := by
  obtain ⟨⟨registered, _⟩, _⟩ := seen ⟨false, 60⟩ ⟨0, 0, "", false⟩
    ⟨[], [], none, ⟨[], []⟩⟩ none false
  by_contra different
  simp only [markSeen] at registered
  split at registered
  · simp [Dict.get?] at registered
  · split at registered
    · simp [Dict.get?] at registered
    · rw [Dict.get?_set, if_neg different] at registered
      simp [Dict.get?] at registered

/-! ## The key of a punch -/

variable [IsoFormat]

theorem pushed_of_ingested {state : RouterState} {push : CdataPost} {handed : List PunchRecord}
    {punch : Punch} (given : getQueryParamCi push.request "SN" = some sn)
    (called : handed ∈ (handleAttendance state push.post).ingested) (kept : punch ∈ usable handed) :
    Pushed sn punch :=
  ⟨⟨false, 60⟩, ⟨0, 0, "", false⟩, ⟨[], [], none, ⟨[], []⟩⟩, state, push, given, handed, called,
    kept⟩

theorem pushed_serial (present : strip sn ≠ "") {punch : Punch} (pushed : Pushed sn punch) :
    punch.deviceSerial = strip sn := by
  obtain ⟨_, _, _, state, push, given, handed, called, kept⟩ := pushed
  have nonempty := ne_empty_of_strip present
  have own : push.post.sn = sn := by
    rw [push.sn_eq, given]
    simp [firstTruthy, nonempty]
  obtain ⟨record, listed, accepted⟩ := List.mem_filterMap.mp kept
  have announced : List.Forall₂ Announced (push.post.newPunches state.dashboard.cache).1 handed :=
    announced_of_ingested called
  obtain ⟨source, parsed, info, same⟩ := source_of_announced announced listed
  have serial : record.sn = sn := by
    rw [same]
    have whole := parseAttlog_sn push.post.lms push.post.arrivals
      (push.post.synced state.dashboard.cache) push.post.bodyStr push.post.sn source parsed
    rw [own, if_neg nonempty] at whole
    exact whole
  obtain ⟨_, _, _, stored, _⟩ := toPunch_origin accepted
  rw [stored, serial, if_neg present]

/-! ## A punch that is pushed -/

def tabPost (sn : String) (wire : WirePunch)
    (routed : routedToAttendance "ATTLOG" (wire.line .tabs) = true) : AttendancePost where
  sn := sn
  table := "ATTLOG"
  bodyStr := wire.line .tabs
  routed := routed
  synced := id
  lms := fun _ => none
  arrivals := fun _ => quietArrival
  clock := fun _ => 0
  writable := true

omit [IsoFormat] in
theorem routed_attlog (bodyStr : String) : routedToAttendance "ATTLOG" bodyStr = true := by
  have given : effectiveTable "ATTLOG" bodyStr = "ATTLOG" := if_pos (by decide)
  rw [routedToAttendance, given]
  decide

omit [IsoFormat] in
theorem param_sn (sn : String) :
    getQueryParamCi ⟨[("SN", sn), ("table", "ATTLOG")], none⟩ "SN" = some sn := by
  simp [getQueryParamCi]

omit [IsoFormat] in
theorem param_table (sn : String) :
    getQueryParamCi ⟨[("SN", sn), ("table", "ATTLOG")], none⟩ "table" = some "ATTLOG" := by
  have other : lower "SN" ≠ lower "table" := by
    rw [UnicodeTables.lower_ascii _ (by simp [isAscii]),
      UnicodeTables.lower_ascii _ (by simp [isAscii])]
    decide
  simp [getQueryParamCi, other]

def tabPush (sn : String) (wire : WirePunch) (nonempty : sn ≠ "") : CdataPost where
  request := ⟨[("SN", sn), ("table", "ATTLOG")], none⟩
  post := tabPost sn wire (routed_attlog _)
  sn_eq := by
    rw [param_sn]
    simp [tabPost, firstTruthy, nonempty]
  table_eq := by
    rw [param_table, Option.getD_some, UnicodeTables.upper_ascii _ (by simp [isAscii])]
    exact (show "ATTLOG" = asciiUpper "ATTLOG" by decide)

omit [IsoFormat] in
theorem post_tabPush (sn : String) (wire : WirePunch) (nonempty : sn ≠ "") :
    (tabPush sn wire nonempty).post = tabPost sn wire (routed_attlog _) := rfl

omit [IsoFormat] in
theorem rows_tabPost (sn : String) (wire : WirePunch) :
    (tabPost sn wire (routed_attlog _)).rows = [wire.rowOf (wire.line .tabs)] := by
  simp [AttendancePost.rows, tabPost, attlogRows, attlogLines_line, header_tabs, parseLine_tabs]

theorem not_sendsAware_tabPost (reads : ReadsWritten) (sn : String) (wire : WirePunch) :
    ¬ (tabPost sn wire (routed_attlog _)).SendsAware := by
  rintro ⟨row, listed, aware⟩
  rw [rows_tabPost, List.mem_singleton] at listed
  subst listed
  exact not_readsAware_standardText reads wire.time wire.whole aware

/-- Every punch that a line can carry is pushed under every `SN` that is not blank. -/
theorem pushed_of_wire (reads : ReadsWritten) (present : strip sn ≠ "") (wire : WirePunch) :
    ∃ punch, Pushed sn punch ∧ punch.deviceUserId = wire.pin ∧ punch.deviceTime = wire.time := by
  have nonempty := ne_empty_of_strip present
  have clean : ¬ Poisoned (RouterState.withEmptyLog none [] CommandQueue.initial).dashboard.logs := by
    simp [RouterState.withEmptyLog, Poisoned]
  obtain ⟨info, records⟩ := parseAttlog_line wire (fun _ => none) (fun _ => quietArrival) [] sn
    (header_tabs wire)
  rw [parseLine_tabs] at records
  obtain ⟨shown, ingested⟩ :=
    ingested_of_single clean (not_sendsAware_tabPost reads sn wire) records
  obtain ⟨punch, stored, pin, time, _⟩ := wire.toPunch_fields
    (labelled shown (recordOf sn info quietArrival (wire.rowOf (wire.line .tabs))))
    rfl rfl rfl rfl rfl
  have called : [labelled shown (recordOf sn info quietArrival (wire.rowOf (wire.line .tabs)))] ∈
      (handleAttendance (RouterState.withEmptyLog none [] CommandQueue.initial)
        (tabPush sn wire nonempty).post).ingested := by
    rw [post_tabPush, ingested]
    exact List.mem_singleton_self _
  exact ⟨punch, pushed_of_ingested (param_sn sn) called
    (List.mem_filterMap.mpr ⟨_, List.mem_singleton_self _, stored⟩), pin, time⟩

/-! ## One key, one row -/

theorem oneKey_iff (reads : ReadsWritten) (present : strip sn ≠ "") :
    OneKey sn ↔ upper (strip sn) = strip sn := by
  constructor
  · rintro ⟨key, punches, seen, _⟩
    obtain ⟨punch, pushed, _⟩ := pushed_of_wire reads present eveningPunch
    rw [← key_of_seenUnder seen, ← punches punch pushed, pushed_serial present pushed]
  · intro canonical
    have upperPresent : upper (strip sn) ≠ "" := by
      rw [canonical]
      exact present
    refine ⟨strip sn, fun punch pushed => pushed_serial present pushed, ?_, ?_⟩
    · have seen := seenUnder_upper present upperPresent
      rwa [canonical] at seen
    · have served := servedUnder_upper upperPresent
      rwa [canonical] at served

variable {first second : String}

omit [UnicodeTables] [IsoFormat] in
theorem nodup_of_serial {table : List Punch} (distinct : (keys table).Nodup) {serial : String}
    (own : ∀ row ∈ table, row.deviceSerial = serial) :
    (table.map fun row => (row.deviceUserId, row.deviceTime)).Nodup := by
  refine List.Nodup.map_on ?_ (List.Nodup.of_map _ distinct)
  intro row listed other otherListed same
  apply List.inj_on_of_nodup_map distinct listed otherListed
  simp only [Punch.key, own row listed, own other otherListed]
  rw [Prod.mk.injEq] at same
  rw [same.1, same.2]

theorem oneRow_of_strip (presentFirst : strip first ≠ "") (presentSecond : strip second ≠ "")
    (same : strip first = strip second) : OneRow first second := by
  intro punches pushed
  have serial : ∀ punch ∈ punches, punch.deviceSerial = strip first := by
    intro punch listed
    rcases pushed punch listed with byFirst | bySecond
    · exact pushed_serial presentFirst byFirst
    · rw [same]
      exact pushed_serial presentSecond bySecond
  have own : ∀ row ∈ savePunches [] punches, row.deviceSerial = strip first := by
    intro row listed
    have offered := (mem_keys_savePunches [] punches row.key).mp (List.mem_map_of_mem listed)
    rcases offered with before | ⟨punch, member, sameKey⟩
    · cases before
    · rw [← serial punch member]
      exact (congrArg Prod.fst sameKey).symm
  exact nodup_of_serial (nodup_keys_savePunches [] punches (by simp [keys])) own

theorem strip_of_oneRow (reads : ReadsWritten) (presentFirst : strip first ≠ "")
    (presentSecond : strip second ≠ "") (oneRow : OneRow first second) :
    strip first = strip second := by
  obtain ⟨early, earlyPushed, earlyPin, earlyTime⟩ :=
    pushed_of_wire reads presentFirst eveningPunch
  obtain ⟨late, latePushed, latePin, lateTime⟩ :=
    pushed_of_wire reads presentSecond eveningPunch
  have distinct := oneRow [early, late] (by simp [earlyPushed, latePushed])
  have stored : ∀ punch ∈ [early, late], ∃ row ∈ savePunches [] [early, late],
      row.key = punch.key :=
    fun punch listed =>
      List.mem_map.mp ((mem_keys_savePunches [] _ punch.key).mpr (Or.inr ⟨punch, listed, rfl⟩))
  obtain ⟨earlyRow, earlyListed, earlyKey⟩ := stored early (by simp)
  obtain ⟨lateRow, lateListed, lateKey⟩ := stored late (by simp)
  simp only [Punch.key, Prod.mk.injEq] at earlyKey lateKey
  have row : earlyRow = lateRow := by
    apply List.inj_on_of_nodup_map distinct earlyListed lateListed
    rw [earlyKey.2.1, earlyKey.2.2, lateKey.2.1, lateKey.2.2, earlyPin, earlyTime, latePin,
      lateTime]
  rw [← pushed_serial presentFirst earlyPushed, ← pushed_serial presentSecond latePushed,
    ← earlyKey.1, ← lateKey.1, row]

/-- Two spellings of one reader share their keys and rows exactly when both are written
in upper case. -/
theorem one_reader_iff (reads : ReadsWritten) (presentFirst : strip first ≠ "")
    (presentSecond : strip second ≠ "") (reader : upper (strip first) = upper (strip second)) :
    (OneKey first ∧ OneKey second ∧ OneRow first second) ↔
      upper (strip first) = strip first ∧ upper (strip second) = strip second := by
  rw [oneKey_iff reads presentFirst, oneKey_iff reads presentSecond]
  constructor
  · rintro ⟨canonicalFirst, canonicalSecond, _⟩
    exact ⟨canonicalFirst, canonicalSecond⟩
  · rintro ⟨canonicalFirst, canonicalSecond⟩
    refine ⟨canonicalFirst, canonicalSecond, oneRow_of_strip presentFirst presentSecond ?_⟩
    rw [← canonicalFirst, reader, canonicalSecond]

end

theorem one_reader_iff_padded :
    let := UnicodeTables.ascii
    let := IsoFormat.extended
    (OneKey "ZK1" ∧ OneKey " ZK1 " ∧ OneRow "ZK1" " ZK1 ") ↔
      upper (strip "ZK1") = strip "ZK1" ∧ upper (strip " ZK1 ") = strip " ZK1 " := by
  intro _ _
  exact one_reader_iff readsWritten_extended (by decide) (by decide) (by decide)

/-- `SN=zk1` is the reader `ZK1` of the registry, and its punches are stored a second time. -/
theorem lower_case_reader_splits :
    let := UnicodeTables.ascii
    let := IsoFormat.extended
    ¬ OneKey "zk1" ∧ ¬ OneRow "zk1" "ZK1" := by
  intro _ _
  refine ⟨fun oneKey => ?_, fun oneRow => ?_⟩
  · exact absurd ((oneKey_iff readsWritten_extended (by decide)).mp oneKey) (by decide)
  · exact absurd (strip_of_oneRow readsWritten_extended (by decide) (by decide) oneRow)
      (by decide)

end PumoBioMetric.Sync
