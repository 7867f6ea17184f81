import PumoBioMetric.Library.TransitionRun
import PumoBioMetric.Sync.NamesPushed

/-!
# The dashboard's log and its file

Six operations change `PUNCH_LOGS` or the names in it, and each writes `LOGS_FILE` itself or
does not.  The file is one that can always be written.
-/

set_option autoImplicit false

namespace PumoBioMetric.Sync

open PumoBioMetric.Py PumoBioMetric.Router

/-! ## The operations -/

/-- The dashboard with the database, the mirror of the readers' users, the times of the last
background syncs and the queued commands. -/
structure LogState where
  sync : SyncState
  users : DeviceUserTable
  lastUserSync : Dict Int
  commands : CommandQueue

def LogState.dashboard (state : LogState) : Dashboard := state.sync.dashboard

def LogState.withDashboard (state : LogState) (dashboard : Dashboard) : LogState :=
  { state with sync := { state.sync with dashboard := dashboard } }

theorem LogState.dashboard_withDashboard (state : LogState) (dashboard : Dashboard) :
    (state.withDashboard dashboard).dashboard = dashboard := rfl

/-- `LOGS_FILE` decodes to `PUNCH_LOGS`. -/
def Saved (dashboard : Dashboard) : Prop := dashboard.logsFile = some dashboard.logs

structure UserSyncCall where
  sn : String
  clientIp : Option String
  now : Int
  hasPyzk : Bool
  registry : Dict ContactEntry
  tcp : String → TcpSession

/-- `_pull`: the users, none where the line is busy or a call raises. -/
def TcpSession.pullUsers (session : TcpSession) : List Core.ZkUser :=
  if session.busy then []
  else
    match session.connect with
    | .error _ => []
    | .ok () => session.getUsers.toOption.getD []

namespace UserSyncCall

/-- `target_ip`; empty where the registry does not know the reader. -/
def targetIp (call : UserSyncCall) : String :=
  let clientIp := call.clientIp.getD ""
  if clientIp = "" ∨ clientIp = "127.0.0.1" ∨ clientIp = "unknown" then
    ((call.registry.get? call.sn).map ContactEntry.ip).getD ""
  else clientIp

end UserSyncCall

def discoverUsers (users : List Core.ZkUser) (dashboard : Dashboard) : Dashboard :=
  let (updated, cache, logs) := discoverNames 0 dashboard.cache dashboard.logs (namedUsers users)
  { logs := logs, logsFile := if updated = 0 then dashboard.logsFile else some logs, cache := cache }

def clearPunches (dashboard : Dashboard) : Dashboard :=
  { dashboard with logs := [], logsFile := some [] }

section

variable [UnicodeTables]

/-- `auto_sync_device_users_bg`: at most once in fifteen seconds for each reader. -/
def autoSyncDeviceUsersBg (call : UserSyncCall) (state : LogState) : LogState :=
  if call.now - (state.lastUserSync.get? call.sn).getD 0 < 15 then state
  else
    let noted := { state with lastUserSync := state.lastUserSync.set call.sn call.now }
    if call.targetIp = "" || !call.hasPyzk then noted
    else
      match (call.tcp call.targetIp).pullUsers with
      | [] =>
          { noted with
            commands := (queueDeviceCmd state.commands call.sn "DATA QUERY USERINFO").2 }
      | user :: rest => noted.withDashboard (discoverUsers (user :: rest) state.dashboard)

def setRows (userId name role : String) (logs : List PunchRecord) : List PunchRecord :=
  logs.map fun punch =>
    if strip punch.userId = userId then
      { punch with userName := name, userRole := if role = "" then punch.userRole else role }
    else punch

variable [ValueTables]

/-- `str(data.get(key, ""))`, stripped. -/
def plainField (data : Dict Json) (key : String) : String :=
  strip (((data.get? key).map strOf).getD "")

/-- `str(data.get("device_serial") or data.get("sn") or "NFZ8254900401")`, stripped. -/
def deviceSn (data : Dict Json) : String :=
  match (data.get? "device_serial").filter isTruthy with
  | some value => strip (strOf value)
  | none => fieldText data "sn" "NFZ8254900401"

/-- `set_user_name`; a body that is no JSON or no object changes nothing. -/
def setUserName (takes : DeviceUserRow → Bool) (body : Option Json) (state : LogState) :
    LogState :=
  match body with
  | some (.obj data) =>
      let userId := plainField data "userId"
      let name := plainField data "name"
      let role := plainField data "role"
      if userId = "" ∨ name = "" then state
      else
        let currentInfo := (state.dashboard.cache.get? userId).getD ⟨none, none⟩
        let info : UserInfo :=
          ⟨some name, some (if role = "" then currentInfo.roleOrNormal else role)⟩
        let logs := setRows userId name role state.dashboard.logs
        { state.withDashboard ⟨logs, some logs, state.dashboard.cache.set userId info⟩ with
          users :=
            saveDeviceUserDb takes (deviceSn data) userId name (info.role.getD "") state.users }
  | _ => state

inductive LogOperation where
  | broadcastPunch (lms : LmsNames) (now : Int) (punch : PunchRecord)
  | parseUserinfo (takes : DeviceUserRow → Bool) (bodyStr sn : String)
  | setUserName (takes : DeviceUserRow → Bool) (body : Option Json)
  | autoSyncDeviceUsersBg (call : UserSyncCall)
  | syncDevicePunches (around : SyncSurroundings) (hasPyzk : Bool) (registry : Dict ContactEntry)
      (tcp : String → Int → TcpSession) (body : Option Json)
  | clearPunches

def SyncSurroundings.written (around : SyncSurroundings) : SyncSurroundings :=
  { around with writable := fun _ => true, namesWritable := true }

variable [IsoFormat]

def LogState.apply (state : LogState) : LogOperation → LogState
  | .broadcastPunch lms now punch =>
      state.withDashboard (Router.broadcastPunch lms now true state.dashboard punch).2
  | .parseUserinfo takes bodyStr sn =>
      let taught := Sync.parseUserinfo takes bodyStr sn ⟨state.dashboard, state.users⟩
      { state.withDashboard taught.dashboard with users := taught.users }
  | .setUserName takes body => Sync.setUserName takes body state
  | .autoSyncDeviceUsersBg call => Sync.autoSyncDeviceUsersBg call state
  | .syncDevicePunches around hasPyzk registry tcp body =>
      { state with
        sync := (Sync.syncDevicePunches around.written hasPyzk registry tcp state.sync body).state }
  | .clearPunches => state.withDashboard (Sync.clearPunches state.dashboard)

/-- The operation leaves the file equal to the log.  A broadcast is not interrupted by a
timestamp with an offset, and a pushed list of users renames nothing. -/
def KeepsSaved (state : LogState) : LogOperation → Prop
  | .broadcastPunch _ _ punch =>
      ¬ ReadsAware punch.timestamp ∧ ¬ Poisoned state.dashboard.logs
  | .parseUserinfo _ bodyStr _ =>
      ∀ punch ∈ state.dashboard.logs, ∀ info,
        lastInfo (learnedUsers bodyStr) (strip punch.userId) = some info →
          info = ⟨some punch.userName, some punch.userRole⟩
  | .syncDevicePunches _ hasPyzk registry tcp body =>
      ∀ target records devUsers, (requestData body).bind (syncTarget registry) = some target →
        hasPyzk = true → (tcp target.ip target.port).download = .ok (records, devUsers) →
          ∀ record ∈ records, IsNew state.dashboard.logs record →
            ¬ ReadsAware record.text ∧ ¬ Poisoned state.dashboard.logs
  | _ => True

end

/-! ## Names found on a reader -/

theorem discoverNames_count (updated : Nat) (cache : UserCache) (logs : List PunchRecord)
    (entries : List (String × UserInfo)) :
    updated ≤ (discoverNames updated cache logs entries).1 ∧
      ((discoverNames updated cache logs entries).1 = updated →
        (discoverNames updated cache logs entries).2.2 = logs) := by
  induction entries generalizing updated cache logs with
  | nil => exact ⟨Nat.le_refl _, fun _ => rfl⟩
  | cons entry rest ih =>
      rw [discoverNames]
      split
      · obtain ⟨more, _⟩ := ih (updated + 1) (cache.set entry.1 entry.2)
          (renameRows entry.1 entry.2 logs)
        refine ⟨by omega, fun same => ?_⟩
        omega
      · exact ih updated cache logs

theorem saved_discoverUsers {dashboard : Dashboard} (saved : Saved dashboard)
    (users : List Core.ZkUser) : Saved (discoverUsers users dashboard) := by
  obtain ⟨_, unchanged⟩ :=
    discoverNames_count 0 dashboard.cache dashboard.logs (namedUsers users)
  rw [Saved, discoverUsers]
  dsimp only
  split
  · rename_i none
    rw [unchanged none]
    exact saved
  · rfl

section

variable [IsoFormat]

/-! ## Broadcasts -/

theorem saved_broadcast_iff (lms : LmsNames) (now : Int) {dashboard : Dashboard}
    (saved : Saved dashboard) (punch : PunchRecord) :
    Saved (Router.broadcastPunch lms now true dashboard punch).2 ↔
      ¬ ReadsAware punch.timestamp ∧ ¬ Poisoned dashboard.logs := by
  unfold Router.broadcastPunch
  generalize getUserInfo lms dashboard.cache (strip punch.userId) = known
  obtain ⟨info, cache⟩ := known
  have raises := prune_eq_none_iff now (labelled info punch :: dashboard.logs)
  have split := poisoned_cons_iff (labelled info punch) dashboard.logs
  have stamp : (labelled info punch).timestamp = punch.timestamp := rfl
  dsimp only
  rw [split, stamp] at raises
  rw [← not_or, ← raises]
  cases prunePunchLogs now (labelled info punch :: dashboard.logs) with
  | none =>
      -- the row stays in the log, and the file is the one before it
      refine iff_of_false (fun same => ?_) (by simp)
      have lengths := congrArg List.length (Option.some.inj (saved.symm.trans same))
      simp at lengths
  | some logs => exact iff_of_true rfl (by simp)

variable {around : SyncSurroundings} {sn : String}

/-- A new record interrupts the loop and leaves the file behind, or it is announced and
written. -/
theorem syncRecord_cases (index : Nat) {state : SyncState} (saved : Saved state.dashboard)
    (record : Attendance) :
    ((ReadsAware record.text ∨ Poisoned state.dashboard.logs) ∧
      ∃ after, syncRecord around.written sn index state record = (none, after) ∧
        ¬ Saved after.dashboard) ∨
    (¬ ReadsAware record.text ∧ ¬ Poisoned state.dashboard.logs ∧
      ∃ announced after,
        syncRecord around.written sn index state record = (some announced, after) ∧
          Saved after.dashboard ∧ ¬ Poisoned after.dashboard.logs) := by
  let known := getUserInfo around.lms state.dashboard.cache record.userId
  have held : Saved { state.dashboard with cache := known.2 } := saved
  have kept := saved_broadcast_iff around.lms (around.clock index) held
    (punchObj sn known.1 (around.arrivals index) record)
  have cases := broadcast_cases around.lms (around.clock index) true
    { state.dashboard with cache := known.2 } (punchObj sn known.1 (around.arrivals index) record)
  have offer : offerRecord around.written sn index state.dashboard record =
    Router.broadcastPunch around.lms (around.clock index) true
      { state.dashboard with cache := known.2 }
      (punchObj sn known.1 (around.arrivals index) record) := rfl
  rw [syncRecord, offer]
  generalize Router.broadcastPunch _ _ _ _ _ = told at kept cases ⊢
  obtain ⟨announced, dashboard⟩ := told
  rcases cases with ⟨met, raised, _⟩ | ⟨naive, clean, ⟨info, announced⟩, after⟩
  · cases raised
    exact Or.inl ⟨met, _, rfl, fun same => not_or.mpr (kept.mp same) met⟩
  · cases announced
    exact Or.inr ⟨naive, clean, _, _, rfl, kept.mpr ⟨naive, clean⟩, after⟩

theorem syncAll_saved (index : Nat) {state : SyncState} (saved : Saved state.dashboard)
    (rows : List Attendance)
    (plain : ∀ row ∈ rows, ¬ ReadsAware row.text ∧ ¬ Poisoned state.dashboard.logs) :
    (syncAll around.written sn index state rows).newAdded = some (index + rows.length) ∧
      Saved (syncAll around.written sn index state rows).state.dashboard ∧
      (rows ≠ [] → ¬ Poisoned (syncAll around.written sn index state rows).state.dashboard.logs) := by
  induction rows generalizing index state with
  | nil => exact ⟨rfl, saved, fun some => absurd rfl some⟩
  | cons row rest ih =>
      rcases @syncRecord_cases _ around sn index state saved row with
        ⟨met, _⟩ | ⟨_, _, announced, after, ran, written, clean⟩
      · exact absurd met (not_or.mpr (plain row List.mem_cons_self))
      · obtain ⟨count, savedAfter, cleanAfter⟩ := ih (index + 1) written fun other member =>
          ⟨(plain other (List.mem_cons_of_mem _ member)).1, clean⟩
        have total : index + 1 + rest.length = index + (row :: rest).length := by
          rw [List.length_cons]
          omega
        rw [syncAll, ran]
        refine ⟨total ▸ count, savedAfter, fun _ => ?_⟩
        by_cases last : rest = []
        · subst last
          exact clean
        · exact cleanAfter last

theorem syncAll_unsaved (index : Nat) {state : SyncState} (saved : Saved state.dashboard)
    (rows : List Attendance)
    (met : ∃ row ∈ rows, ReadsAware row.text ∨ Poisoned state.dashboard.logs) :
    (syncAll around.written sn index state rows).newAdded = none ∧
      ¬ Saved (syncAll around.written sn index state rows).state.dashboard := by
  induction rows generalizing index state with
  | nil =>
      obtain ⟨row, member, _⟩ := met
      cases member
  | cons row rest ih =>
      rcases @syncRecord_cases _ around sn index state saved row with
        ⟨_, after, ran, left⟩ | ⟨naive, clean, announced, after, ran, written, _⟩
      · rw [syncAll, ran]
        exact ⟨rfl, left⟩
      · obtain ⟨other, member, aware⟩ := met
        have offset := aware.resolve_right clean
        have later : other ∈ rest := by
          rcases List.mem_cons.mp member with rfl | later
          · exact absurd offset naive
          · exact later
        obtain ⟨raised, left⟩ := ih (index + 1) written ⟨other, later, Or.inl offset⟩
        rw [syncAll, ran]
        exact ⟨raised, left⟩

/-! ## One device sync -/

omit [IsoFormat] in
theorem exists_newRecord {logs : List PunchRecord} {records : List Attendance}
    {record : Attendance} (listed : record ∈ records) (new : IsNew logs record) :
    ∃ row ∈ newRecords logs records, row.text = record.text := by
  have seen := KeyedTable.seen_or_unseen Attendance.cacheKey (existingKeys logs) listed
  obtain ⟨row, found, same⟩ := List.mem_map.mp (seen.resolve_left new)
  exact ⟨row, found, (Prod.mk.inj same).2⟩

theorem saved_finalPrune (count : Nat) {dashboard : Dashboard} (saved : Saved dashboard)
    (clean : count ≠ 0 → ¬ Poisoned dashboard.logs) :
    Saved (finalPrune around.written count dashboard) := by
  rw [finalPrune]
  by_cases none : count = 0
  · rw [if_pos none]
    exact saved
  · have writable : around.written.writable count = true := rfl
    rw [if_neg none, if_pos writable]
    cases pruned : prunePunchLogs (around.written.clock count) dashboard.logs with
    | none => exact absurd ((prune_eq_none_iff _ _).mp pruned) (clean none)
    | some logs => rfl

theorem saved_syncDownloaded_iff (target : SyncTarget) {state : SyncState}
    (saved : Saved state.dashboard) (records : List Attendance) (devUsers : List Core.ZkUser) :
    Saved (syncDownloaded around.written target state records devUsers).state.dashboard ↔
      ∀ record ∈ records, IsNew state.dashboard.logs record →
        ¬ ReadsAware record.text ∧ ¬ Poisoned state.dashboard.logs := by
  let learned : SyncState :=
    { state with dashboard := (learnNames around.written state.dashboard devUsers).2 }
  have learnedSaved : Saved learned.dashboard := saved_discoverUsers saved devUsers
  have poisons : Poisoned learned.dashboard.logs ↔ Poisoned state.dashboard.logs :=
    poisoned_learnNames around.written devUsers
  have loop : syncLoop around.written target state records devUsers =
    syncAll around.written target.sn 0 learned (newRecords state.dashboard.logs records) := rfl
  by_cases plain : ∀ record ∈ records, IsNew state.dashboard.logs record →
      ¬ ReadsAware record.text ∧ ¬ Poisoned state.dashboard.logs
  · refine iff_of_true ?_ plain
    obtain ⟨count, savedAfter, cleanAfter⟩ := @syncAll_saved _ around target.sn 0
      learned learnedSaved (newRecords state.dashboard.logs records) fun row found => by
        obtain ⟨listed, new⟩ := KeyedTable.mem_of_unseen Attendance.cacheKey found
        rw [poisons]
        exact plain row listed new
    rw [← loop] at count savedAfter cleanAfter
    obtain ⟨_, _, _, whole⟩ := syncDownloaded_went count
    rw [whole]
    refine saved_finalPrune _ savedAfter fun some => cleanAfter fun none => ?_
    rw [none] at some
    exact some rfl
  · refine iff_of_false ?_ plain
    obtain ⟨record, listed, new, met⟩ : ∃ record ∈ records, IsNew state.dashboard.logs record ∧
        (ReadsAware record.text ∨ Poisoned state.dashboard.logs) := by
      by_contra none
      refine plain fun record listed new => not_or.mp fun met => ?_
      exact none ⟨record, listed, new, met⟩
    obtain ⟨row, found, text⟩ := exists_newRecord listed new
    obtain ⟨raised, left⟩ := @syncAll_unsaved _ around target.sn 0 learned learnedSaved
      (newRecords state.dashboard.logs records) ⟨row, found, by rwa [text, poisons]⟩
    rw [← loop] at raised left
    rw [syncDownloaded_raised raised]
    exact left

end

/-! ## Runs -/

section

variable [UnicodeTables] [ValueTables]

omit [ValueTables] in
theorem saved_autoSync (call : UserSyncCall) {state : LogState} (saved : Saved state.dashboard) :
    Saved (autoSyncDeviceUsersBg call state).dashboard := by
  rw [autoSyncDeviceUsersBg]
  split
  · exact saved
  · dsimp only
    split
    · exact saved
    · split
      · exact saved
      · exact saved_discoverUsers saved _

theorem saved_setUserName (takes : DeviceUserRow → Bool) (body : Option Json) {state : LogState}
    (saved : Saved state.dashboard) : Saved (setUserName takes body state).dashboard := by
  unfold setUserName
  split
  · dsimp only
    split
    · exact saved
    · rfl
  · exact saved

omit [ValueTables] in
theorem saved_parseUserinfo_iff (takes : DeviceUserRow → Bool) (bodyStr sn : String)
    {state : NamesState} (saved : Saved state.dashboard) :
    Saved (parseUserinfo takes bodyStr sn state).dashboard ↔
      ∀ punch ∈ state.dashboard.logs, ∀ info,
        lastInfo (learnedUsers bodyStr) (strip punch.userId) = some info →
          info = ⟨some punch.userName, some punch.userRole⟩ := by
  have learned := taught takes sn (learnedUsers bodyStr) state
  rw [Saved, parseUserinfo, learned.logs, learned.logsFile, saved, Option.some_inj]
  have same : state.dashboard.logs.map id = state.dashboard.logs := List.map_id _
  nth_rewrite 1 [← same]
  rw [List.map_inj_left]
  refine forall₂_congr fun punch _ => ?_
  rw [renamedPunch, id]
  cases last : lastInfo (learnedUsers bodyStr) (strip punch.userId) with
  | none => simp
  | some info =>
      obtain ⟨_, name, role, rfl⟩ := learnedUsers_named (mem_of_lastInfo last)
      rw [Option.elim_some, eq_comm, withInfo_eq_self_iff]
      simp [eq_comm]

variable [IsoFormat]

omit [UnicodeTables] in
theorem saved_syncDevice_iff (around : SyncSurroundings) (hasPyzk : Bool)
    (registry : Dict ContactEntry) (tcp : String → Int → TcpSession) (body : Option Json)
    {state : SyncState} (saved : Saved state.dashboard) :
    Saved (syncDevicePunches around.written hasPyzk registry tcp state body).state.dashboard ↔
      ∀ target records devUsers, (requestData body).bind (syncTarget registry) = some target →
        hasPyzk = true → (tcp target.ip target.port).download = .ok (records, devUsers) →
          ∀ record ∈ records, IsNew state.dashboard.logs record →
            ¬ ReadsAware record.text ∧ ¬ Poisoned state.dashboard.logs := by
  cases asked : (requestData body).bind (syncTarget registry) with
  | none =>
      rw [syncDevicePunches, asked]
      exact iff_of_true saved fun _ _ _ other => absurd other (by simp)
  | some target =>
      cases hasPyzk with
      | false =>
          rw [syncDevicePunches, asked]
          exact iff_of_true saved fun _ _ _ _ installed => absurd installed (by simp)
      | true =>
          cases read : (tcp target.ip target.port).download with
          | error error =>
              simp only [syncDevicePunches, asked, read, if_true]
              refine iff_of_true saved fun other records devUsers same _ found => ?_
              cases Option.some.inj same
              rw [read] at found
              cases found
          | ok answer =>
              obtain ⟨records, devUsers⟩ := answer
              rw [syncDevicePunches_read asked read, saved_syncDownloaded_iff target saved]
              constructor
              · intro plain other listed users same _ found
                cases Option.some.inj same
                rw [read] at found
                cases Except.ok.inj found
                exact plain
              · intro plain
                exact plain target records devUsers rfl rfl read

theorem dashboard_parseUserinfo (state : LogState) (takes : DeviceUserRow → Bool)
    (bodyStr sn : String) :
    (state.apply (.parseUserinfo takes bodyStr sn)).dashboard =
      (parseUserinfo takes bodyStr sn ⟨state.dashboard, state.users⟩).dashboard := by
  rw [LogState.apply]
  generalize parseUserinfo takes bodyStr sn ⟨state.dashboard, state.users⟩ = taught
  rfl

theorem saved_apply_iff {state : LogState} (saved : Saved state.dashboard)
    (operation : LogOperation) :
    Saved (state.apply operation).dashboard ↔ KeepsSaved state operation := by
  cases operation with
  | broadcastPunch lms now punch =>
      rw [LogState.apply, LogState.dashboard_withDashboard, KeepsSaved]
      exact saved_broadcast_iff lms now saved punch
  | parseUserinfo takes bodyStr sn =>
      rw [dashboard_parseUserinfo, KeepsSaved]
      exact saved_parseUserinfo_iff takes bodyStr sn saved
  | setUserName takes body => exact iff_of_true (saved_setUserName takes body saved) trivial
  | autoSyncDeviceUsersBg call => exact iff_of_true (saved_autoSync call saved) trivial
  | syncDevicePunches around hasPyzk registry tcp body =>
      rw [KeepsSaved]
      exact saved_syncDevice_iff around hasPyzk registry tcp body saved
  | clearPunches => exact iff_of_true rfl trivial

/-- In a run from a saved log the file is the log in every state if and only if every
operation keeps it so. -/
theorem saved_throughout_iff {start : LogState} (saved : Saved start.dashboard)
    (operations : List LogOperation) :
    (∀ earlier, earlier <+: operations →
        Saved (earlier.foldl LogState.apply start).dashboard) ↔
      ∀ earlier operation, earlier ++ [operation] <+: operations →
        KeepsSaved (earlier.foldl LogState.apply start) operation := by
  have kept : ∀ (state : LogState) (operation : LogOperation), Saved state.dashboard →
      (Saved (state.apply operation).dashboard ↔ KeepsSaved state operation) :=
    fun _ operation before => saved_apply_iff before operation
  exact TransitionRun.forall_reached_iff kept saved operations

end

def savedState (logs : List PunchRecord) : LogState where
  sync := { unsynced logs with dashboard := ⟨logs, some logs, []⟩ }
  users := []
  lastUserSync := []
  commands := .initial

def savedOperations : List LogOperation :=
  [.parseUserinfo (fun _ => true) "PIN=9\tName=Bob\tPri=0" "ZKB",
    .broadcastPunch (fun _ => none) 63922392000000000 { annPunch with id := "2" },
    .setUserName (fun _ => true) (some (.obj [("userId", .str "5"), ("name", .str "Ann B")]))]

theorem bob_renames_nothing :
    lastInfo (@learnedUsers .ascii "PIN=9\tName=Bob\tPri=0") (strip annPunch.userId) = none ∧
      (@LogState.apply .ascii .scalars .extended (savedState [annPunch])
        (.parseUserinfo (fun _ => true) "PIN=9\tName=Bob\tPri=0" "ZKB")).dashboard.logs =
          [annPunch] := by
  decide +kernel

theorem saved_throughout_three_operations :
    Saved (savedOperations.foldl (@LogState.apply .ascii .scalars .extended)
      (savedState [annPunch])).dashboard := by
  obtain ⟨unnamed, logs⟩ := bob_renames_nothing
  let := UnicodeTables.ascii
  let := ValueTables.scalars
  let := IsoFormat.extended
  have start : Saved (savedState [annPunch]).dashboard := rfl
  refine (saved_throughout_iff start savedOperations).mpr ?_ _ (List.prefix_refl _)
  have naive : ¬ @ReadsAware .extended annPunch.timestamp := by
    have plain : (@readTimestamp .extended annPunch.timestamp).all fun stamp => !stamp.isAware := by
      decide +kernel
    rintro ⟨stamp, read, aware⟩
    rw [read, Option.all_some, aware] at plain
    cases plain
  rw [savedOperations, TransitionRun.forall_steps_cons_iff, TransitionRun.forall_steps_cons_iff,
    TransitionRun.forall_steps_cons_iff]
  refine ⟨?_, ⟨naive, ?_⟩, trivial, ?_⟩
  · intro punch listed info named
    rw [List.mem_singleton.mp listed, unnamed] at named
    cases named
  · rw [logs]
    rintro ⟨punch, listed, aware⟩
    rw [List.mem_singleton.mp listed] at aware
    exact naive aware
  · intro earlier operation within
    exact absurd (List.prefix_nil.mp within) (by simp)

/-- A pushed list renames Ann's punch and is not written. -/
theorem pushed_name_not_saved :
    Saved (savedState [annPunch]).dashboard ∧
      ¬ Saved (@LogState.apply .ascii .scalars .extended (savedState [annPunch])
        (.parseUserinfo (fun _ => true) "PIN=5\tName=Bob\tPri=0" "ZKB")).dashboard := by
  refine ⟨rfl, ?_⟩
  unfold Saved
  decide +kernel

end PumoBioMetric.Sync
