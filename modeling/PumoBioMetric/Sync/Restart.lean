import PumoBioMetric.Router.PushAcknowledged
import PumoBioMetric.Sync.SavedLog

/-!
# Whether the service starts again

At import `iclock.py` loads `LOGS_FILE` and prunes the log, outside any `try`.  A timestamp with
an offset gets into the log in memory by a broadcast, which raises before it writes the file; the
operations that write names copy the log to the file as it is.
-/

set_option autoImplicit false

namespace PumoBioMetric.Sync

open PumoBioMetric.Py PumoBioMetric.Router TransitionRun

/-- `PUNCH_LOGS` as loaded; a file that cannot be decoded gives an empty log. -/
def loadedLogs (dashboard : Dashboard) : List PunchRecord := dashboard.logsFile.getD []

section

variable [IsoFormat]

/-- The import of `iclock.py` in a new process, `none` where it raises.  What is not in a file or
the database is gone. -/
def LogState.restart (now : Int) (names : UserCache) (state : LogState) : Option LogState :=
  (prunePunchLogs now (loadedLogs state.dashboard)).map fun logs =>
    { state.withDashboard ⟨logs, state.dashboard.logsFile, names⟩ with
      lastUserSync := []
      commands := .initial }

variable [UnicodeTables] [ValueTables]

/-- What happens to the log: an operation, or a new process with the names of `user_names.json`. -/
inductive ServiceEvent where
  | operation (operation : LogOperation)
  | restart (now : Int) (names : UserCache)

def ServiceStep (before : LogState) : ServiceEvent → LogState → Prop
  | .operation operation, after => after = before.apply operation
  | .restart now names, after => before.restart now names = some after

def ServiceEvent.SendsOffset : ServiceEvent → Prop
  | .operation (.broadcastPunch _ _ punch) => ReadsAware punch.timestamp
  | _ => False

def ServiceEvent.Renews : ServiceEvent → Prop
  | .operation .clearPunches | .restart _ _ => True
  | _ => False

def ServiceEvent.Clears : ServiceEvent → Prop
  | .operation .clearPunches => True
  | _ => False

def FindsName (dashboard : Dashboard) (users : List Core.ZkUser) : Prop :=
  (discoverNames 0 dashboard.cache dashboard.logs (namedUsers users)).1 ≠ 0

/-- The operation writes names, and with them the log as it is. -/
def CopiesLog (state : LogState) : ServiceEvent → Prop
  | .operation (.setUserName _ body) =>
      ∃ data, body = some (.obj data) ∧ plainField data "userId" ≠ "" ∧ plainField data "name" ≠ ""
  | .operation (.autoSyncDeviceUsersBg call) =>
      15 ≤ call.now - (state.lastUserSync.get? call.sn).getD 0 ∧ call.targetIp ≠ "" ∧
        call.hasPyzk = true ∧ FindsName state.dashboard (call.tcp call.targetIp).pullUsers
  | .operation (.syncDevicePunches _ hasPyzk registry tcp body) =>
      ∃ target records devUsers, (requestData body).bind (syncTarget registry) = some target ∧
        hasPyzk = true ∧ (tcp target.ip target.port).download = .ok (records, devUsers) ∧
        FindsName state.dashboard devUsers
  | _ => False

/-! ## The log and the file -/

def FilePoisoned (dashboard : Dashboard) : Prop := Poisoned (loadedLogs dashboard)

omit [UnicodeTables] [ValueTables] in
theorem restart_eq_none_iff (now : Int) (names : UserCache) (state : LogState) :
    state.restart now names = none ↔ FilePoisoned state.dashboard := by
  rw [LogState.restart, Option.map_eq_none_iff, prune_eq_none_iff]
  rfl

/-- What the file holds was in the log, and the log was not emptied since. -/
def Behind (dashboard : Dashboard) : Prop := FilePoisoned dashboard → Poisoned dashboard.logs

/-- The timestamps of the log stay, and the log is copied to the file where the condition holds. -/
structure Copying (copies : Prop) (before after : Dashboard) : Prop where
  log : Poisoned after.logs ↔ Poisoned before.logs
  file : FilePoisoned after ↔ copies ∧ Poisoned before.logs ∨ FilePoisoned before

section

omit [UnicodeTables] [ValueTables]

theorem Copying.refl (dashboard : Dashboard) : Copying False dashboard dashboard :=
  ⟨Iff.rfl, by simp⟩

theorem Copying.behind {copies : Prop} {before after : Dashboard}
    (copying : Copying copies before after) (behind : Behind before) : Behind after := by
  intro poisoned
  rw [copying.log]
  rcases copying.file.mp poisoned with ⟨_, log⟩ | file
  · exact log
  · exact behind file

theorem Copying.onward {copies : Prop} {before middle after : Dashboard}
    (copying : Copying copies before middle) (onward : Copying False middle after) :
    Copying copies before after where
  log := onward.log.trans copying.log
  file := by
    rw [onward.file, copying.file]
    simp

theorem Copying.clean {copies : Prop} {before after : Dashboard} (behind : Behind before)
    (clean : ¬ Poisoned before.logs) (cleanAfter : ¬ Poisoned after.logs)
    (file : ¬ FilePoisoned after) : Copying copies before after where
  log := iff_of_false cleanAfter clean
  file := by
    refine iff_of_false file ?_
    rintro (⟨_, poisoned⟩ | poisoned)
    · exact clean poisoned
    · exact clean (behind poisoned)

/-! ## Broadcasts -/

theorem broadcast_written (lms : LmsNames) (now : Int) (dashboard : Dashboard)
    (punch : PunchRecord) :
    ((ReadsAware punch.timestamp ∨ Poisoned dashboard.logs) ∧
      ∃ after, broadcastPunch lms now true dashboard punch = (none, after) ∧
        Poisoned after.logs ∧ after.logsFile = dashboard.logsFile) ∨
    (¬ ReadsAware punch.timestamp ∧ ¬ Poisoned dashboard.logs ∧
      ∃ announced after, broadcastPunch lms now true dashboard punch = (some announced, after) ∧
        ¬ Poisoned after.logs ∧ after.logsFile = some after.logs) := by
  unfold broadcastPunch
  generalize getUserInfo lms dashboard.cache (strip punch.userId) = known
  obtain ⟨info, cache⟩ := known
  have raises := prune_eq_none_iff now (labelled info punch :: dashboard.logs)
  have split := poisoned_cons_iff (labelled info punch) dashboard.logs
  have stamp : (labelled info punch).timestamp = punch.timestamp := rfl
  rw [stamp] at split
  dsimp only
  cases pruned : prunePunchLogs now (labelled info punch :: dashboard.logs) with
  | none =>
      have poisoned := raises.mp pruned
      exact .inl ⟨split.mp poisoned, _, rfl, poisoned, rfl⟩
  | some logs =>
      have clean : ¬ Poisoned (labelled info punch :: dashboard.logs) := by
        rw [← raises, pruned]
        simp
      obtain ⟨naive, before⟩ := not_or.mp (mt split.mpr clean)
      exact .inr ⟨naive, before, _, _, rfl, not_poisoned_of_prune pruned, rfl⟩

/-! ## Device syncs -/

variable {around : SyncSurroundings} {sn : String}

theorem syncRecord_written (reads : ReadsWritten) (index : Nat) (state : SyncState)
    (record : Attendance) :
    (Poisoned state.dashboard.logs ∧
      ∃ after, syncRecord around.written sn index state record = (none, after) ∧
        Poisoned after.dashboard.logs ∧
        after.dashboard.logsFile = state.dashboard.logsFile) ∨
    (¬ Poisoned state.dashboard.logs ∧
      ∃ announced after,
        syncRecord around.written sn index state record = (some announced, after) ∧
        ¬ Poisoned after.dashboard.logs ∧
        after.dashboard.logsFile = some after.dashboard.logs) := by
  let known := getUserInfo around.lms state.dashboard.cache record.userId
  have told := broadcast_written around.lms (around.clock index)
    { state.dashboard with cache := known.2 } (punchObj sn known.1 (around.arrivals index) record)
  have offer : offerRecord around.written sn index state.dashboard record =
    broadcastPunch around.lms (around.clock index) true { state.dashboard with cache := known.2 }
      (punchObj sn known.1 (around.arrivals index) record) := rfl
  have naive : ¬ ReadsAware (punchObj sn known.1 (around.arrivals index) record).timestamp :=
    not_readsAware_standardText reads record.timestamp record.whole
  rw [syncRecord, offer]
  rcases told with
    ⟨met, after, ran, poisoned, file⟩ | ⟨_, clean, announced, after, ran, cleanAfter, file⟩
  · rw [ran]
    exact .inl ⟨met.resolve_left naive, _, rfl, poisoned, file⟩
  · rw [ran]
    exact .inr ⟨clean, _, _, rfl, cleanAfter, file⟩

theorem copying_syncAll (reads : ReadsWritten) (index : Nat) (state : SyncState)
    (behind : Behind state.dashboard) (rows : List Attendance) :
    Copying False state.dashboard (syncAll around.written sn index state rows).state.dashboard ∧
      ∀ count, (syncAll around.written sn index state rows).newAdded = some count →
        count = index ∨ ¬ Poisoned state.dashboard.logs := by
  induction rows generalizing index state with
  | nil => exact ⟨.refl _, fun count ended => .inl (Option.some.inj ended).symm⟩
  | cons row rest ih =>
      rw [syncAll]
      rcases @syncRecord_written _ around sn reads index state row with
        ⟨poisoned, after, ran, poisonedAfter, file⟩ |
        ⟨clean, announced, after, ran, cleanAfter, file⟩
      · rw [ran]
        refine ⟨⟨iff_of_true poisonedAfter poisoned, ?_⟩, fun count ended => by cases ended⟩
        rw [FilePoisoned, loadedLogs, file]
        simp [FilePoisoned, loadedLogs]
      · rw [ran]
        have written : ¬ FilePoisoned after.dashboard := by
          rw [FilePoisoned, loadedLogs, file]
          exact cleanAfter
        have one : Copying False state.dashboard after.dashboard :=
          .clean behind clean cleanAfter written
        obtain ⟨onward, _⟩ := ih (index + 1) after (one.behind behind)
        exact ⟨one.onward onward, fun _ _ => .inr clean⟩

theorem copying_finalPrune (count : Nat) {dashboard : Dashboard} (behind : Behind dashboard)
    (clean : count = 0 ∨ ¬ Poisoned dashboard.logs) :
    Copying False dashboard (finalPrune around.written count dashboard) := by
  rw [finalPrune]
  rcases Nat.eq_zero_or_pos count with none | some
  · rw [if_pos none]
    exact .refl dashboard
  · have going : count ≠ 0 := by omega
    have unpoisoned := clean.resolve_left going
    have writable : around.written.writable count = true := rfl
    rw [if_neg going, if_pos writable]
    cases pruned : prunePunchLogs (around.written.clock count) dashboard.logs with
    | none => exact absurd ((prune_eq_none_iff _ _).mp pruned) unpoisoned
    | some logs =>
        have left := not_poisoned_of_prune pruned
        exact .clean behind unpoisoned left left

theorem poisoned_of_keys {logs other : List PunchRecord}
    (same : existingKeys logs = existingKeys other) : Poisoned logs ↔ Poisoned other := by
  rw [poisoned_iff_keys, poisoned_iff_keys, same]

theorem copying_discoverUsers (users : List Core.ZkUser) (dashboard : Dashboard)
    (behind : Behind dashboard) :
    Copying (FindsName dashboard users) dashboard (discoverUsers users dashboard) := by
  have log : Poisoned (discoverUsers users dashboard).logs ↔ Poisoned dashboard.logs :=
    poisoned_of_keys
      (existingKeys_discoverNames 0 dashboard.cache dashboard.logs (namedUsers users))
  refine ⟨log, ?_⟩
  by_cases finds : FindsName dashboard users
  · have file : (discoverUsers users dashboard).logsFile =
        some (discoverUsers users dashboard).logs := if_neg finds
    rw [FilePoisoned, loadedLogs, file, Option.getD_some, log]
    exact ⟨fun poisoned => .inl ⟨finds, poisoned⟩, fun either => either.elim And.right behind⟩
  · have file : (discoverUsers users dashboard).logsFile = dashboard.logsFile :=
      if_pos (not_not.mp finds)
    rw [FilePoisoned, loadedLogs, file]
    exact ⟨.inr, fun either => either.resolve_left fun copied => finds copied.1⟩

variable (around) in
theorem copying_syncDownloaded (reads : ReadsWritten) (target : SyncTarget) (state : SyncState)
    (behind : Behind state.dashboard) (records : List Attendance) (devUsers : List Core.ZkUser) :
    Copying (FindsName state.dashboard devUsers) state.dashboard
      (syncDownloaded around.written target state records devUsers).state.dashboard := by
  have learned : Copying (FindsName state.dashboard devUsers) state.dashboard
      (learnNames around.written state.dashboard devUsers).2 :=
    copying_discoverUsers devUsers _ behind
  obtain ⟨loop, count⟩ := @copying_syncAll _ around target.sn reads 0
    { state with dashboard := (learnNames around.written state.dashboard devUsers).2 }
    (learned.behind behind) (newRecords state.dashboard.logs records)
  have looped := learned.onward loop
  cases ended : (syncLoop around.written target state records devUsers).newAdded with
  | none =>
      rw [syncDownloaded_raised ended]
      exact looped
  | some newAdded =>
      obtain ⟨_, _, _, went⟩ := syncDownloaded_went ended
      rw [went]
      refine looped.onward (copying_finalPrune newAdded (looped.behind behind) ?_)
      rw [loop.log]
      exact count newAdded ended

end

/-! ## One operation -/

omit [ValueTables] in
theorem copying_parseUserinfo (takes : DeviceUserRow → Bool) (bodyStr sn : String)
    (state : NamesState) :
    Copying False state.dashboard (parseUserinfo takes bodyStr sn state).dashboard := by
  have learned := taught takes sn (learnedUsers bodyStr) state
  have keys : existingKeys (parseUserinfo takes bodyStr sn state).dashboard.logs =
      existingKeys state.dashboard.logs := by
    rw [parseUserinfo, learned.logs, existingKeys, List.map_map, existingKeys]
    refine List.map_congr_left fun punch _ => ?_
    rw [Function.comp_apply, renamedPunch]
    cases lastInfo (learnedUsers bodyStr) (strip punch.userId) <;> rfl
  refine ⟨poisoned_of_keys keys, ?_⟩
  rw [FilePoisoned, loadedLogs, parseUserinfo, learned.logsFile]
  simp [FilePoisoned, loadedLogs]

omit [UnicodeTables] [IsoFormat] [ValueTables] in
theorem existingKeys_setRows (userId name role : String) (logs : List PunchRecord) :
    existingKeys (setRows userId name role logs) = existingKeys logs := by
  rw [existingKeys, setRows, List.map_map, existingKeys]
  refine List.map_congr_left fun punch _ => ?_
  rw [Function.comp_apply]
  split <;> rfl

theorem copying_setUserName (takes : DeviceUserRow → Bool) (body : Option Json) (state : LogState)
    (behind : Behind state.dashboard) :
    Copying (CopiesLog state (.operation (.setUserName takes body))) state.dashboard
      (setUserName takes body state).dashboard := by
  rw [CopiesLog]
  unfold setUserName
  split
  · rename_i data
    dsimp only
    split
    · rename_i blank
      refine ⟨Iff.rfl, .symm (or_iff_right ?_)⟩
      rintro ⟨⟨other, same, userId, name⟩, _⟩
      cases same
      exact blank.elim userId name
    · rename_i named
      obtain ⟨userId, name⟩ := not_or.mp named
      have log := poisoned_of_keys (existingKeys_setRows (plainField data "userId")
        (plainField data "name") (plainField data "role") state.dashboard.logs)
      refine ⟨log, log.trans ⟨fun poisoned => .inl ⟨⟨data, rfl, userId, name⟩, poisoned⟩, ?_⟩⟩
      exact fun either => either.elim And.right behind
  · rename_i other
    refine ⟨Iff.rfl, .symm (or_iff_right ?_)⟩
    rintro ⟨⟨data, same, _⟩, _⟩
    exact other data same

theorem copying_autoSync (call : UserSyncCall) (state : LogState)
    (behind : Behind state.dashboard) :
    Copying (CopiesLog state (.operation (.autoSyncDeviceUsersBg call))) state.dashboard
      (autoSyncDeviceUsersBg call state).dashboard := by
  have idle : ∀ {copies : Prop}, ¬ copies → Copying copies state.dashboard state.dashboard :=
    fun never => ⟨Iff.rfl, .symm (or_iff_right fun copied => never copied.1)⟩
  rw [autoSyncDeviceUsersBg, CopiesLog]
  split
  · rename_i recent
    refine idle ?_
    rintro ⟨due, _⟩
    omega
  · rename_i due
    dsimp only
    split
    · rename_i unreachable
      refine idle ?_
      rintro ⟨_, target, installed, _⟩
      simp [target, installed] at unreachable
    · rename_i reachable
      have asked : call.targetIp ≠ "" ∧ call.hasPyzk = true := by simpa using reachable
      split
      · rename_i nobody
        refine idle ?_
        rintro ⟨_, _, _, finds⟩
        rw [nobody] at finds
        exact finds rfl
      · rename_i user rest pulled
        have copying := copying_discoverUsers (user :: rest) state.dashboard behind
        rw [← pulled] at copying ⊢
        refine ⟨copying.log, copying.file.trans (or_congr_left (and_congr_left fun _ => ?_))⟩
        exact ⟨fun finds => ⟨by omega, asked.1, asked.2, finds⟩, fun copied => copied.2.2.2⟩

omit [UnicodeTables] in
theorem copying_syncDevice (reads : ReadsWritten) (around : SyncSurroundings) (hasPyzk : Bool)
    (registry : Dict ContactEntry) (tcp : String → Int → TcpSession) (body : Option Json)
    (state : LogState) (behind : Behind state.dashboard) :
    Copying (CopiesLog state (.operation (.syncDevicePunches around hasPyzk registry tcp body)))
      state.dashboard
      (syncDevicePunches around.written hasPyzk registry tcp state.sync body).state.dashboard := by
  have idle : ∀ {copies : Prop}, ¬ copies → Copying copies state.dashboard state.dashboard :=
    fun never => ⟨Iff.rfl, .symm (or_iff_right fun copied => never copied.1)⟩
  rw [CopiesLog]
  cases asked : (requestData body).bind (syncTarget registry) with
  | none =>
      rw [syncDevicePunches, asked]
      refine idle ?_
      rintro ⟨_, _, _, same, _⟩
      cases same
  | some target =>
      cases hasPyzk with
      | false =>
          rw [syncDevicePunches, asked]
          refine idle ?_
          rintro ⟨_, _, _, _, installed, _⟩
          cases installed
      | true =>
          cases read : (tcp target.ip target.port).download with
          | error error =>
              simp only [syncDevicePunches, asked, read, if_true]
              refine idle ?_
              rintro ⟨_, _, _, same, _, found, _⟩
              cases same
              rw [read] at found
              cases found
          | ok answer =>
              obtain ⟨records, devUsers⟩ := answer
              rw [syncDevicePunches_read asked read]
              have copying :=
                copying_syncDownloaded around reads target state.sync behind records devUsers
              refine ⟨copying.log, copying.file.trans (or_congr_left (and_congr_left fun _ => ?_))⟩
              constructor
              · exact fun finds => ⟨target, records, devUsers, rfl, rfl, read, finds⟩
              · rintro ⟨_, _, _, same, _, found, finds⟩
                cases same
                rw [read] at found
                cases found
                exact finds

/-! ## Runs with restarts -/

/-- What one event does to the two. -/
structure Poisons (event : ServiceEvent) (before after : LogState) : Prop where
  log : Poisoned after.dashboard.logs ↔
    event.SendsOffset ∨ Poisoned before.dashboard.logs ∧ ¬ event.Renews
  file : FilePoisoned after.dashboard ↔
    (CopiesLog before event ∧ Poisoned before.dashboard.logs) ∨
      FilePoisoned before.dashboard ∧ ¬ event.Clears
  behind : Behind after.dashboard

omit [UnicodeTables] in
theorem Copying.poisons {event : ServiceEvent} {before after : LogState}
    (copying : Copying (CopiesLog before event) before.dashboard after.dashboard)
    (behind : Behind before.dashboard) (sends : ¬ event.SendsOffset) (renews : ¬ event.Renews)
    (clears : ¬ event.Clears) : Poisons event before after where
  log := by simp [copying.log, sends, renews]
  file := by simp [copying.file, clears]
  behind := copying.behind behind

theorem poisons_broadcast (lms : LmsNames) (now : Int) (punch : PunchRecord) {before : LogState}
    (behind : Behind before.dashboard) :
    Poisons (.operation (.broadcastPunch lms now punch)) before
      (before.apply (.broadcastPunch lms now punch)) := by
  have left : (before.apply (.broadcastPunch lms now punch)).dashboard =
      (broadcastPunch lms now true before.dashboard punch).2 := rfl
  rcases broadcast_written lms now before.dashboard punch with
    ⟨met, after, ran, poisoned, file⟩ | ⟨naive, clean, announced, after, ran, cleanAfter, file⟩
  · refine ⟨?_, ?_, fun _ => ?_⟩
    · rw [left, ran]
      exact iff_of_true poisoned (met.imp_right fun held => ⟨held, id⟩)
    · rw [left, ran, FilePoisoned, loadedLogs, file]
      exact ⟨fun held => .inr ⟨held, id⟩, fun either => either.elim (fun never => never.1.elim)
        And.left⟩
    · rw [left, ran]
      exact poisoned
  · have written : ¬ FilePoisoned after := by
      rw [FilePoisoned, loadedLogs, file]
      exact cleanAfter
    refine ⟨?_, ?_, fun held => ?_⟩
    · rw [left, ran]
      exact iff_of_false cleanAfter fun either => either.elim naive fun held => clean held.1
    · rw [left, ran]
      refine iff_of_false written fun either => either.elim (fun never => never.1.elim) ?_
      exact fun held => clean (behind held.1)
    · rw [left, ran] at held
      exact absurd held written

theorem poisons_clear {before : LogState} :
    Poisons (.operation .clearPunches) before (before.apply .clearPunches) where
  log := iff_of_false (fun ⟨_, listed, _⟩ => by cases listed)
    fun either => either.elim id fun held => held.2 trivial
  file := iff_of_false (fun ⟨_, listed, _⟩ => by cases listed)
    fun either => either.elim (fun never => never.1.elim) fun held => held.2 trivial
  behind := fun ⟨_, listed, _⟩ => by cases listed

omit [UnicodeTables] in
theorem poisons_restart {now : Int} {names : UserCache} {before after : LogState}
    (starts : before.restart now names = some after) :
    Poisons (.restart now names) before after := by
  have booted : ¬ FilePoisoned before.dashboard := by
    rw [← restart_eq_none_iff now names, starts]
    simp
  obtain ⟨logs, pruned, rfl⟩ := Option.map_eq_some_iff.mp starts
  have clean : ¬ Poisoned logs := not_poisoned_of_prune pruned
  refine ⟨?_, ?_, fun held => absurd held booted⟩
  · exact iff_of_false clean fun either => either.elim id fun held => held.2 trivial
  · exact iff_of_false booted fun either => either.elim (fun never => never.1.elim)
      fun held => booted held.1

theorem poisons_step (reads : ReadsWritten) (before : LogState) (event : ServiceEvent)
    (after : LogState) (behind : Behind before.dashboard) (taken : ServiceStep before event after) :
    Poisons event before after := by
  cases event with
  | restart now names => exact poisons_restart taken
  | operation operation =>
      cases taken
      cases operation with
      | broadcastPunch lms now punch => exact poisons_broadcast lms now punch behind
      | clearPunches => exact poisons_clear
      | parseUserinfo takes bodyStr sn =>
          refine Copying.poisons ?_ behind id id id
          rw [dashboard_parseUserinfo]
          exact copying_parseUserinfo takes bodyStr sn ⟨before.dashboard, before.users⟩
      | setUserName takes body =>
          exact (copying_setUserName takes body before behind).poisons behind id id id
      | autoSyncDeviceUsersBg call =>
          exact (copying_autoSync call before behind).poisons behind id id id
      | syncDevicePunches around hasPyzk registry tcp body =>
          exact (copying_syncDevice reads around hasPyzk registry tcp body before behind).poisons
            behind id id id

theorem log_latch (reads : ReadsWritten) :
    Latch ServiceStep (fun state => Behind state.dashboard)
      (fun state => Poisoned state.dashboard.logs) (fun _ event => event.SendsOffset)
      ServiceEvent.Renews where
  kept := fun before event after behind taken =>
    (poisons_step reads before event after behind taken).behind
  latch := fun before event after behind taken =>
    (poisons_step reads before event after behind taken).log

theorem file_latch (reads : ReadsWritten) :
    Latch ServiceStep (fun state => Behind state.dashboard)
      (fun state => FilePoisoned state.dashboard)
      (fun state event => CopiesLog state event ∧ Poisoned state.dashboard.logs)
      ServiceEvent.Clears where
  kept := fun before event after behind taken =>
    (poisons_step reads before event after behind taken).behind
  latch := fun before event after behind taken =>
    (poisons_step reads before event after behind taken).file

variable {start final : LogState} {events : List ServiceEvent}

/-- A service that started with a clean file fails to start again exactly where a punch with an
offset was broadcast, names were written while it was still in the log, and the log was not
cleared since. -/
theorem restart_fails_iff (reads : ReadsWritten) (run : Run ServiceStep start events final)
    (clean : ¬ Poisoned start.dashboard.logs) (saved : ¬ FilePoisoned start.dashboard)
    (now : Int) (names : UserCache) :
    final.restart now names = none ↔
      ∃ earlier sent between copied later before,
        events = (earlier ++ sent :: between) ++ copied :: later ∧
        Run ServiceStep start (earlier ++ sent :: between) before ∧
        Run ServiceStep before (copied :: later) final ∧
        sent.SendsOffset ∧ (∀ other ∈ between, ¬ other.Renews) ∧
        CopiesLog before copied ∧ ∀ other ∈ later, ¬ other.Clears := by
  have behind : Behind start.dashboard := fun held => absurd held saved
  rw [restart_eq_none_iff, (file_latch reads).run_iff run behind]
  constructor
  · rintro (⟨held, _⟩ |
      ⟨front, copied, later, before, after, rfl, reached, taken, onward, set, kept⟩)
    · exact absurd held saved
    · obtain ⟨copies, poisoned⟩ := set
      rcases ((log_latch reads).run_iff reached behind).mp poisoned with
        ⟨held, _⟩ | ⟨earlier, sent, between, _, _, rfl, _, _, _, sends, stays⟩
      · exact absurd held clean
      · exact ⟨earlier, sent, between, copied, later, before, rfl, reached, .cons taken onward,
          sends, stays, copies, kept⟩
  · rintro ⟨earlier, sent, between, copied, later, before, rfl, reached, rest, sends, stays, copies,
      kept⟩
    have poisoned : Poisoned before.dashboard.logs := by
      obtain ⟨first, front, back⟩ := reached.split
      cases back with
      | cons taken onward =>
          exact ((log_latch reads).run_iff reached behind).mpr
            (.inr ⟨earlier, sent, between, first, _, rfl, front, taken, onward, sends, stays⟩)
    cases rest with
    | cons taken onward =>
        exact .inr ⟨_, copied, later, before, _, rfl, reached, taken, onward, ⟨copies, poisoned⟩,
          kept⟩

/-- While the log holds a punch with an offset, and until it is cleared or loaded anew, no
broadcast gets through. -/
theorem broadcast_raises_iff (reads : ReadsWritten) (run : Run ServiceStep start events final)
    (clean : ¬ Poisoned start.dashboard.logs) (saved : ¬ FilePoisoned start.dashboard)
    (lms : LmsNames) (now : Int) (writable : Bool) (punch : PunchRecord) :
    (broadcastPunch lms now writable final.dashboard punch).1 = none ↔
      ReadsAware punch.timestamp ∨
        ∃ earlier sent between, events = earlier ++ sent :: between ∧ sent.SendsOffset ∧
          ∀ other ∈ between, ¬ other.Renews := by
  have behind : Behind start.dashboard := fun held => absurd held saved
  have log := (log_latch reads).run_iff run behind
  have raises : (broadcastPunch lms now writable final.dashboard punch).1 = none ↔
      ReadsAware punch.timestamp ∨ Poisoned final.dashboard.logs := by
    rcases broadcast_cases lms now writable final.dashboard punch with
      ⟨met, raised, _⟩ | ⟨naive, plain, ⟨info, announced⟩, _⟩
    · exact iff_of_true raised met
    · rw [announced]
      exact iff_of_false (Option.some_ne_none _) fun either => either.elim naive plain
  rw [raises, log]
  refine or_congr_right ⟨?_, ?_⟩
  · rintro (⟨held, _⟩ | ⟨earlier, sent, between, _, _, parts, _, _, _, sends, stays⟩)
    · exact absurd held clean
    · exact ⟨earlier, sent, between, parts, sends, stays⟩
  · rintro ⟨earlier, sent, between, rfl, sends, stays⟩
    obtain ⟨before, front, back⟩ := run.split
    cases back with
    | cons taken onward =>
        exact .inr ⟨earlier, sent, between, before, _, rfl, front, taken, onward, sends, stays⟩

end

def offsetPunch : PunchRecord := { annPunch with timestamp := "2026-08-15T22:12:05+05:30" }

def typedName : Json := .obj [("userId", .str "5"), ("name", .str "Bob")]

theorem restart_fails_after_name :
    @LogState.restart .extended 63922392000000000 []
      (@LogState.apply .ascii .scalars .extended
        (@LogState.apply .ascii .scalars .extended (savedState [])
          (.broadcastPunch (fun _ => none) 63922392000000000 offsetPunch))
        (.setUserName (fun _ => true) (some typedName))) = none := by
  let := IsoFormat.extended
  let := UnicodeTables.ascii
  let := ValueTables.scalars
  have empty : ¬ Poisoned [] := fun ⟨_, listed, _⟩ => by cases listed
  have named : plainField [("userId", .str "5"), ("name", .str "Bob")] "userId" ≠ "" ∧
      plainField [("userId", .str "5"), ("name", .str "Bob")] "name" ≠ "" := by decide
  let events : List ServiceEvent :=
    [.operation (.broadcastPunch (fun _ => none) 63922392000000000 offsetPunch),
      .operation (.setUserName (fun _ => true) (some typedName))]
  have run : Run ServiceStep (savedState []) events _ := .cons rfl (.cons rfl (.nil _))
  refine (restart_fails_iff readsWritten_extended run empty empty _ _).mpr
    ⟨[], _, [], _, [], _, rfl, .cons rfl (.nil _), .cons rfl (.nil _), readsAware_offset, ?_, ?_,
      ?_⟩
  · exact fun _ none => by cases none
  · exact ⟨_, rfl, named.1, named.2⟩
  · exact fun _ none => by cases none

theorem broadcast_raises_after_offset :
    (@broadcastPunch .extended (fun _ => none) 63922392000000000 true
      (@LogState.apply .ascii .scalars .extended (savedState [])
        (.broadcastPunch (fun _ => none) 63922392000000000 offsetPunch)).dashboard
      annPunch).1 = none := by
  let := IsoFormat.extended
  let := UnicodeTables.ascii
  let := ValueTables.scalars
  have empty : ¬ Poisoned [] := fun ⟨_, listed, _⟩ => by cases listed
  let events : List ServiceEvent :=
    [.operation (.broadcastPunch (fun _ => none) 63922392000000000 offsetPunch)]
  have run : Run ServiceStep (savedState []) events _ := .cons rfl (.nil _)
  refine (broadcast_raises_iff readsWritten_extended run empty empty _ _ _ _).mpr (.inr ?_)
  exact ⟨[], _, [], rfl, readsAware_offset, fun _ none => by cases none⟩

end PumoBioMetric.Sync
