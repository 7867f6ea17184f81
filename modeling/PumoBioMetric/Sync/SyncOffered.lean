import PumoBioMetric.Sync.DeviceSync
import PumoBioMetric.Sync.WirePunch

/-!
# What a device sync offers the LMS

The loop hands a record to `ingest` only if no punch of the dashboard, from whatever
reader, has its user id and timestamp.
-/

set_option autoImplicit false

namespace PumoBioMetric.Sync

open PumoBioMetric.Py PumoBioMetric.Router FaultyCalls FaultyCalls.Program

/-! ## The new records -/

/-- The records that the loop broadcasts, unless an exception leaves it. -/
def newRecords (logs : List PunchRecord) (records : List Attendance) : List Attendance :=
  KeyedTable.unseen Attendance.cacheKey (existingKeys logs) records

section

variable [IsoFormat] {around : SyncSurroundings} {sn : String}

def syncAll (around : SyncSurroundings) (sn : String) : Nat → SyncState → List Attendance → SyncLoop
  | index, state, [] => ⟨some index, [], state⟩
  | index, state, record :: rest =>
      match syncRecord around sn index state record with
      | (none, after) => ⟨none, [], after⟩
      | (some announced, after) =>
          let loop := syncAll around sn (index + 1) after rest
          { loop with announced := announced :: loop.announced }

/-- The loop does what it does for the records that were not seen. -/
theorem syncEach_eq_syncAll (index : Nat) (existing : List CacheKey) (state : SyncState)
    (records : List Attendance) :
    syncEach around sn index existing state records =
      syncAll around sn index state
        (KeyedTable.unseen Attendance.cacheKey existing records) := by
  induction records generalizing index existing state with
  | nil => rfl
  | cons record rest ih =>
      rw [syncEach, KeyedTable.unseen]
      split
      · exact ih index existing state
      · rw [syncAll]
        cases ran : syncRecord around sn index state record with
        | mk announced after =>
            cases announced with
            | none => rfl
            | some announced => simp only [ih]

/-! ## One new record -/

theorem offerRecord_cases (reads : ReadsWritten) (index : Nat) (dashboard : Dashboard)
    (record : Attendance) :
    (Poisoned dashboard.logs ∧ (offerRecord around sn index dashboard record).1 = none) ∨
      (¬ Poisoned dashboard.logs ∧
        ¬ Poisoned (offerRecord around sn index dashboard record).2.logs ∧
        ∃ announced, (offerRecord around sn index dashboard record).1 = some announced ∧
          announced.sn = sn ∧ announced.userId = record.userId ∧
          announced.timestamp = record.text) := by
  have plain : ¬ ReadsAware record.text :=
    not_readsAware_standardText reads record.timestamp record.whole
  rw [offerRecord]
  have cases := broadcast_cases around.lms (around.clock index) (around.writable index)
    { dashboard with cache := (getUserInfo around.lms dashboard.cache record.userId).2 }
    (punchObj sn (getUserInfo around.lms dashboard.cache record.userId).1
        (around.arrivals index) record)
  generalize broadcastPunch _ _ _ _ _ = told at cases ⊢
  rcases cases with ⟨aware, raised, -⟩ | ⟨-, clean, ⟨info, announced⟩, cleanAfter⟩
  · exact .inl ⟨aware.resolve_left plain, raised⟩
  · exact .inr ⟨clean, cleanAfter, _, announced, rfl, rfl, rfl⟩

/-! ## One `ingest` -/

def storedKey (sn : String) (record : Attendance) : PunchKey :=
  (if strip sn = "" then "UNKNOWN" else strip sn, strip record.userId, record.timestamp)

omit [IsoFormat] in
theorem toPunch_offered {announced : PunchRecord} {record : Attendance}
    (serial : announced.sn = sn) (pin : announced.userId = record.userId)
    (time : announced.timestamp = record.text) (named : strip record.userId ≠ "") :
    ∃ punch, usable [announced] = [punch] ∧ punch.key = storedKey sn record := by
  have parsed : parseTime announced.timestamp = some record.timestamp := by
    rw [time]
    exact parseTime_standardText record.timestamp record.whole
  obtain ⟨punch, accepted, stored⟩ := toPunch_accepts parsed (by rwa [pin])
  obtain ⟨_, ownPin, _, ownSerial, _⟩ := toPunch_origin accepted
  refine ⟨punch, by simp [usable, accepted], ?_⟩
  rw [Punch.key, ownSerial, ownPin, stored, serial, pin]
  rfl

omit [IsoFormat] in
theorem ingest_quiet {records : List PunchRecord} (some_usable : usable records ≠ [])
    (session : Session Store SaveEvent) :
    (ingest true true records (fun _ => none) session).2.world =
      ⟨[], savePunches (savePunches session.world.table session.world.spool) (usable records)⟩ := by
  obtain ⟨trace, saved, -⟩ := @saveBacklog_returned (fun _ => none)
    ⟨{ session.world with spool := [] }, session.trace⟩ session.world.spool (.inr rfl)
  have stored : storePunches (usable records) (fun _ => none) session = _ :=
    (bind_of_returns drainSpool_eq).trans
      ((bind_of_returns saved).trans (bind_of_returns (savePunchesCall_returned some_usable rfl)))
  rw [ingest_body some_usable, attempt_of_returns stored]
  rfl

/-! ## The loop -/

/-- Sync is on, and every save returns. -/
structure Accepting (around : SyncSurroundings) : Prop where
  enabled : around.enabled = true
  configured : around.configured = true
  saves : around.saves = fun _ => none

theorem syncRecord_stored (sn : String) (reads : ReadsWritten) (accepting : Accepting around) (index : Nat)
    (state : SyncState) {record : Attendance} (named : strip record.userId ≠ "")
    (clean : ¬ Poisoned state.dashboard.logs) :
    ∃ announced after punch, syncRecord around sn index state record = (some announced, after) ∧
      ¬ Poisoned after.dashboard.logs ∧ punch.key = storedKey sn record ∧
      after.database.world =
        ⟨[], savePunches (savePunches state.database.world.table state.database.world.spool)
          [punch]⟩ := by
  rcases @offerRecord_cases _ around sn reads index state.dashboard record with
    ⟨poisoned, -⟩ | ⟨-, cleanAfter, announced, told, serial, pin, time⟩
  · exact absurd poisoned clean
  · obtain ⟨punch, stored, key⟩ := toPunch_offered serial pin time named
    have saved := @ingest_quiet [announced] (by simp [stored]) state.database
    rw [stored] at saved
    rw [syncRecord]
    generalize offerRecord around sn index state.dashboard record = offered at told cleanAfter
    obtain ⟨first, dashboard⟩ := offered
    cases told
    refine ⟨announced, _, punch, rfl, cleanAfter, key, ?_⟩
    rw [← saved, accepting.enabled, accepting.configured, accepting.saves]

theorem syncRecord_raised (around : SyncSurroundings) (sn : String) (reads : ReadsWritten) (index : Nat) (state : SyncState)
    (record : Attendance) (poisoned : Poisoned state.dashboard.logs) :
    ∃ after, syncRecord around sn index state record = (none, after) := by
  rcases @offerRecord_cases _ around sn reads index state.dashboard record with
    ⟨-, raised⟩ | ⟨clean, -⟩
  · rw [syncRecord]
    generalize offerRecord around sn index state.dashboard record = offered at raised
    obtain ⟨first, dashboard⟩ := offered
    cases raised
    exact ⟨_, rfl⟩
  · exact absurd poisoned clean

/-- An exception leaves the loop exactly where there is a new record and an aware timestamp
in the log; else the loop stores the rows of the new records and of the backlog. -/
theorem syncAll_stores (sn : String) (reads : ReadsWritten) (accepting : Accepting around) (index : Nat)
    (state : SyncState) (rows : List Attendance) (named : ∀ row ∈ rows, strip row.userId ≠ "") :
    ((syncAll around sn index state rows).newAdded = none ↔
        Poisoned state.dashboard.logs ∧ rows ≠ []) ∧
      ((syncAll around sn index state rows).newAdded ≠ none → ∀ key,
        (key ∈ keys (syncAll around sn index state rows).state.database.world.table ↔
          key ∈ keys state.database.world.table ∨
          (rows ≠ [] ∧ ∃ punch ∈ state.database.world.spool, punch.key = key) ∨
          ∃ row ∈ rows, storedKey sn row = key)) := by
  induction rows generalizing index state with
  | nil => simp [syncAll]
  | cons row rest ih =>
      by_cases poisoned : Poisoned state.dashboard.logs
      · obtain ⟨after, raised⟩ :=
          syncRecord_raised around sn reads index state row poisoned
        rw [syncAll, raised]
        simp [poisoned]
      · obtain ⟨announced, after, punch, ran, cleanAfter, own, world⟩ :=
          syncRecord_stored sn reads accepting index state
            (named row List.mem_cons_self) poisoned
        obtain ⟨raises, stored⟩ :=
          ih (index + 1) after fun other later => named other (List.mem_cons_of_mem _ later)
        have through : (syncAll around sn (index + 1) after rest).newAdded ≠ none :=
          fun none => cleanAfter (raises.mp none).1
        rw [syncAll, ran]
        refine ⟨iff_of_false through fun met => poisoned met.1, fun _ key => ?_⟩
        have step : key ∈ keys after.database.world.table ↔
            key ∈ keys state.database.world.table ∨
            (∃ waiting ∈ state.database.world.spool, waiting.key = key) ∨
            storedKey sn row = key := by
          rw [world]
          simp only [mem_keys_savePunches, List.mem_singleton, exists_eq_left, own, or_assoc]
        have drained : after.database.world.spool = [] := by rw [world]
        have later := stored through key
        simp only [drained, List.not_mem_nil, false_and, exists_false, and_false, false_or] at later
        simp only [later, step, List.mem_cons, exists_eq_or_imp, ne_eq, reduceCtorEq,
          not_false_eq_true, true_and, or_assoc]

/-! ## The names -/

omit [IsoFormat] in
theorem existingKeys_renameRows (pin : String) (info : UserInfo) (logs : List PunchRecord) :
    existingKeys (renameRows pin info logs) = existingKeys logs := by
  rw [existingKeys, renameRows, List.map_map, existingKeys]
  refine List.map_congr_left fun punch _ => ?_
  rw [Function.comp_apply]
  split <;> rfl

omit [IsoFormat] in
theorem existingKeys_discoverNames (updated : Nat) (cache : UserCache) (logs : List PunchRecord)
    (entries : List (String × UserInfo)) :
    existingKeys (discoverNames updated cache logs entries).2.2 = existingKeys logs := by
  induction entries generalizing updated cache logs with
  | nil => rfl
  | cons entry rest ih =>
      rw [discoverNames]
      split
      · rw [ih, existingKeys_renameRows]
      · exact ih updated cache logs

theorem poisoned_iff_keys (logs : List PunchRecord) :
    Poisoned logs ↔ ∃ key ∈ existingKeys logs, ReadsAware key.2 := by
  simp [Poisoned, existingKeys]

/-! ## The call -/

/-- No punch of the log has the user id and the timestamp of the record. -/
def IsNew (logs : List PunchRecord) (record : Attendance) : Prop :=
  record.cacheKey ∉ existingKeys logs

def wantedKey (sn : String) (record : Attendance) : PunchKey :=
  (sn, record.userId, record.timestamp)

/-- The row is there, or it is stored with a new record or with the backlog before one. -/
def Covered (store : Store) (logs : List PunchRecord) (sn : String) (records : List Attendance)
    (record : Attendance) : Prop :=
  wantedKey sn record ∈ keys store.table ∨
    ((∃ other ∈ records, IsNew logs other) ∧
      ∃ punch ∈ store.spool, punch.key = wantedKey sn record) ∨
    ∃ other ∈ records, IsNew logs other ∧ storedKey sn other = wantedKey sn record

omit [IsoFormat] in
theorem newRecords_ne_nil_iff (logs : List PunchRecord) (records : List Attendance) :
    newRecords logs records ≠ [] ↔ ∃ record ∈ records, IsNew logs record := by
  rw [newRecords, ne_eq, KeyedTable.unseen_eq_nil_iff]
  simp [IsNew]

omit [IsoFormat] in
theorem storedKey_newRecords (sn : String) (logs : List PunchRecord) (records : List Attendance)
    (key : PunchKey) :
    (∃ row ∈ newRecords logs records, storedKey sn row = key) ↔
      ∃ record ∈ records, IsNew logs record ∧ storedKey sn record = key := by
  constructor
  · rintro ⟨row, found, own⟩
    obtain ⟨listed, free⟩ := KeyedTable.mem_of_unseen Attendance.cacheKey found
    exact ⟨row, listed, free, own⟩
  · rintro ⟨record, listed, free, own⟩
    have seen := KeyedTable.seen_or_unseen Attendance.cacheKey (existingKeys logs) listed
    obtain ⟨row, found, same⟩ := List.mem_map.mp (seen.resolve_left free)
    refine ⟨row, found, ?_⟩
    obtain ⟨pin, text⟩ := Prod.mk.inj same
    have time : row.timestamp = record.timestamp := by
      have written := parseTime_standardText row.timestamp row.whole
      rw [← Attendance.text, text] at written
      exact Option.some.inj (written.symm.trans
        (parseTime_standardText record.timestamp record.whole))
    rw [← own, storedKey, storedKey, pin, time]

omit [IsoFormat] in
theorem existingKeys_learnNames (dashboard : Dashboard) (devUsers : List Core.ZkUser) :
    existingKeys (learnNames around dashboard devUsers).2.logs = existingKeys dashboard.logs :=
  existingKeys_discoverNames 0 dashboard.cache dashboard.logs (namedUsers devUsers)

/-- The loop of a call: over the new records, after the names were found. -/
def syncLoop (around : SyncSurroundings) (target : SyncTarget) (state : SyncState)
    (records : List Attendance) (devUsers : List Core.ZkUser) : SyncLoop :=
  syncAll around target.sn 0
    { state with dashboard := (learnNames around state.dashboard devUsers).2 }
    (newRecords state.dashboard.logs records)

variable {target : SyncTarget} {state : SyncState} {records : List Attendance}
  {devUsers : List Core.ZkUser}

theorem syncLoop_eq :
    syncEach around target.sn 0
        (existingKeys (learnNames around state.dashboard devUsers).2.logs)
        { state with dashboard := (learnNames around state.dashboard devUsers).2 } records =
      syncLoop around target state records devUsers := by
  rw [syncEach_eq_syncAll, existingKeys_learnNames]
  rfl

theorem syncDownloaded_raised
    (raised : (syncLoop around target state records devUsers).newAdded = none) :
    syncDownloaded around target state records devUsers =
      ⟨none, (syncLoop around target state records devUsers).announced,
        (syncLoop around target state records devUsers).state⟩ := by
  simp only [syncDownloaded, syncLoop_eq, raised]

theorem syncDownloaded_went {newAdded : Nat}
    (went : (syncLoop around target state records devUsers).newAdded = some newAdded) :
    ∃ message totalStored namesUpdated,
      syncDownloaded around target state records devUsers =
        ⟨some (.synced message newAdded records.length totalStored namesUpdated),
          (syncLoop around target state records devUsers).announced,
          { (syncLoop around target state records devUsers).state with
            dashboard := finalPrune around newAdded
              (syncLoop around target state records devUsers).state.dashboard }⟩ := by
  simp only [syncDownloaded, syncLoop_eq, went]
  exact ⟨_, _, _, rfl⟩

/-- An exception leaves the loop exactly where a record is new and the log has an aware
timestamp; else the loop stores the rows of the new records and of the backlog. -/
theorem syncLoop_stores (target : SyncTarget) (state : SyncState) (devUsers : List Core.ZkUser)
    (reads : ReadsWritten) (accepting : Accepting around)
    (named : ∀ record ∈ records, strip record.userId ≠ "") :
    ((syncLoop around target state records devUsers).newAdded = none ↔
        Poisoned state.dashboard.logs ∧ ∃ record ∈ records, IsNew state.dashboard.logs record) ∧
      ((syncLoop around target state records devUsers).newAdded ≠ none → ∀ record,
        (wantedKey target.sn record ∈ keys
            (syncLoop around target state records devUsers).state.database.world.table ↔
          Covered state.database.world state.dashboard.logs target.sn records record)) := by
  have keysSame := @existingKeys_learnNames around state.dashboard devUsers
  have learned : Poisoned (learnNames around state.dashboard devUsers).2.logs ↔
      Poisoned state.dashboard.logs := by
    rw [poisoned_iff_keys, poisoned_iff_keys, keysSame]
  have rows : ∀ row ∈ newRecords state.dashboard.logs records, strip row.userId ≠ "" :=
    fun row found => named row (KeyedTable.mem_of_unseen Attendance.cacheKey found).1
  obtain ⟨raises, stored⟩ := syncAll_stores target.sn reads accepting 0
    { state with dashboard := (learnNames around state.dashboard devUsers).2 } _ rows
  rw [learned, newRecords_ne_nil_iff] at raises
  refine ⟨raises, fun went record => ?_⟩
  rw [syncLoop, stored went, storedKey_newRecords, newRecords_ne_nil_iff]
  rfl

/-! ## What the LMS has after a call -/

variable [ValueTables] {registry : Dict ContactEntry} {tcp : String → Int → TcpSession}
  {body : Option Json}

theorem syncDevicePunches_read (asked : (requestData body).bind (syncTarget registry) = some target)
    (read : (tcp target.ip target.port).download = .ok (records, devUsers)) :
    syncDevicePunches around true registry tcp state body =
      syncDownloaded around target state records devUsers := by
  simp [syncDevicePunches, asked, read]

/-- A sync that succeeds leaves a row for every record of the reader if and only if every
row is there, is that of a record that is new on the dashboard, or waits in the spool while
some record is new. -/
theorem device_sync_offers_all_iff (reads : ReadsWritten) (accepting : Accepting around)
    (asked : (requestData body).bind (syncTarget registry) = some target)
    (read : (tcp target.ip target.port).download = .ok (records, devUsers))
    (named : ∀ record ∈ records, strip record.userId ≠ "") :
    (∀ reply ∈ (syncDevicePunches around true registry tcp state body).answer,
        reply.ok = true → ∀ record ∈ records,
          wantedKey target.sn record ∈ keys
            (syncDevicePunches around true registry tcp state body).state.database.world.table) ↔
      (Poisoned state.dashboard.logs ∧ ∃ record ∈ records, IsNew state.dashboard.logs record) ∨
        ∀ record ∈ records,
          Covered state.database.world state.dashboard.logs target.sn records record := by
  rw [syncDevicePunches_read asked read]
  obtain ⟨raises, stored⟩ := syncLoop_stores target state devUsers reads accepting named
  cases went : (syncLoop around target state records devUsers).newAdded with
  | none =>
      rw [syncDownloaded_raised went]
      exact iff_of_true (by simp) (.inl (raises.mp went))
  | some newAdded =>
      have ended : ¬ (Poisoned state.dashboard.logs ∧
          ∃ record ∈ records, IsNew state.dashboard.logs record) := by
        rw [← raises, went]
        simp
      obtain ⟨message, totalStored, namesUpdated, whole⟩ := syncDownloaded_went went
      rw [whole, or_iff_right ended]
      have covered := stored (by simp [went])
      simp [SyncReply.ok, covered]

end

/-! ## A punch of another reader -/

theorem whole_sampleTime : sampleTime.microsecond = 0 := rfl

def eveningRecord : Attendance where
  userId := "101"
  timestamp := sampleTime
  whole := whole_sampleTime
  status := 0
  punch := some 1

def quietSync : SyncSurroundings where
  lms := fun _ => none
  arrivals := fun _ => ⟨"1786831980000-a1b2c3", "2026-08-15T22:13:00", "2026-08-15 22:13:00"⟩
  clock := fun _ => sampleTime.micros
  writable := fun _ => true
  namesWritable := true
  enabled := true
  configured := true
  saves := fun _ => none

theorem accepting_quietSync : Accepting quietSync := ⟨rfl, rfl, rfl⟩

def eveningSession : TcpSession where
  busy := false
  connect := .ok ()
  getUsers := .ok []
  getAttendance := .ok [eveningRecord]

def unsynced (logs : List PunchRecord) : SyncState where
  dashboard := ⟨logs, none, []⟩
  database := ⟨⟨[], []⟩, []⟩

theorem device_sync_offers_first_record :
    Covered ⟨[], []⟩ [] "NFZ8254900401" [eveningRecord] eveningRecord ∧
      ∀ reply ∈ (@syncDevicePunches .extended quietSync .scalars true [] (fun _ _ => eveningSession)
          (unsynced []) none).answer,
        reply.ok = true → ∀ record ∈ [eveningRecord], wantedKey "NFZ8254900401" record ∈ keys
          (@syncDevicePunches .extended quietSync .scalars true [] (fun _ _ => eveningSession)
            (unsynced []) none).state.database.world.table := by
  have covered : Covered ⟨[], []⟩ [] "NFZ8254900401" [eveningRecord] eveningRecord :=
    .inr (.inr ⟨eveningRecord, List.mem_singleton_self _, List.not_mem_nil, by decide⟩)
  have offered := @device_sync_offers_all_iff .extended quietSync
    ⟨"NFZ8254900401", "192.168.0.210", 4370⟩ (unsynced []) [eveningRecord] [] .scalars []
    (fun _ _ => eveningSession) none readsWritten_extended accepting_quietSync
    (by decide +kernel) rfl (by decide)
  exact ⟨covered, offered.mpr (.inr (List.forall_mem_singleton.mpr covered))⟩

def seenElsewhere : List PunchRecord := [{ sampleRecord with userId := "101" }]

/-- The same employee has punched at the same second on another reader, which the dashboard
shows but the LMS does not have. -/
theorem device_sync_leaves_record_out :
    Accepting quietSync ∧ eveningSession.download = .ok ([eveningRecord], []) ∧
      ∃ reply, (@syncDevicePunches .extended quietSync .scalars true [] (fun _ _ => eveningSession)
          (unsynced seenElsewhere) none).answer = some reply ∧ reply.ok = true ∧
        wantedKey "NFZ8254900401" eveningRecord ∉ keys
          (@syncDevicePunches .extended quietSync .scalars true [] (fun _ _ => eveningSession)
            (unsynced seenElsewhere) none).state.database.world.table := by
  refine ⟨accepting_quietSync, rfl, ?_⟩
  exact ⟨.synced "Successfully synced 0 new punches from NFZ8254900401 (192.168.0.210:4370)" 0 1 1 0,
    by decide +kernel, rfl, by decide +kernel⟩

end PumoBioMetric.Sync
