import PumoBioMetric.Core.MigrationCalls
import PumoBioMetric.Core.SimulatorCalls

/-!
# `run_migration` with real readers

The loop over the users, each migrated by `migrate_single_user_real` with connections of
its own, and where its connections lead.
-/

set_option autoImplicit false

namespace PumoBioMetric.Core

open Py FaultyCalls

section

variable {Net : Type} [Network Net]

/-- A call of a function whose `finally` knows only the connections it opened itself. -/
def ownConnections {Result : Type} (body : ReaderProgram Net Result) :
    ReaderProgram Net Result := do
  let earlier ← Program.look Site.opened
  Program.update fun site => { site with opened := [] }
  let result ← body
  Program.update fun site => { site with opened := earlier ++ site.opened }
  pure result

/-- What `run_migration` passes on for one user: the serials in the place of the identifiers. -/
def MigrationRun.request (run : MigrationRun) (srcSn tgtSn uid : String) : MigrationRequest :=
  ⟨some srcSn, some tgtSn, uid, run.mode, (run.targetUserIds.getD []).get? uid,
    none, none, none, none⟩

section

variable [UnicodeTables] (hasPyzk : Bool) (registry : Registry) (run : MigrationRun)

def migrateEachReal (srcSn tgtSn : String) :
    List String → ReaderProgram Net (List MigrationResult)
  | [] => pure []
  | userId :: rest =>
      let uid := strip userId
      if uid = "" then migrateEachReal srcSn tgtSn rest
      else do
        let res ← ownConnections (Network.migrateSingleUserReal hasPyzk registry
          (run.request srcSn tgtSn uid) run.sourcePort run.targetPort)
        let results ← migrateEachReal srcSn tgtSn rest
        pure (res.toDict :: results)

def runMigrationReal : ReaderProgram Net (List MigrationResult) :=
  let srcSn := (resolveDevice registry run.sourceIp run.sourcePort).sn
  let tgtSn := (resolveDevice registry run.targetIp run.targetPort).sn
  migrateEachReal hasPyzk registry run srcSn tgtSn run.userIds

end

/-! ## Where the connections of a run lead -/

section

variable {faults : Faults String} (ends : List Connection)

def OpenedWithin (session : ReaderSession Net) : Prop :=
  ∀ connection ∈ session.world.opened, connection ∈ ends

omit [Network Net] in
theorem openedWithin_issue {Result : Type} {job : Site Net → Result × Site Net}
    {event : Option Result → CallEvent} (opened : ∀ site, (job site).2.opened = site.opened) :
    Preserves faults (OpenedWithin ends) (Program.issue job event : ReaderProgram Net Result) := by
  apply meets_issue
  · intro session holds _
    unfold OpenedWithin
    rw [opened]
    exact holds
  · intro session holds _
    exact holds

theorem keptByCalls_openedWithin : KeptByCalls faults ends (@OpenedWithin Net ends) where
  call job event opened _ := openedWithin_issue ends opened
  opening connection allowed _ next tail := by
    have connected : Preserves faults (OpenedWithin ends)
        (connectZkDevice connection : ReaderProgram Net Connection) := by
      apply meets_issue
      · intro session holds _ other member
        rcases List.mem_append.mp member with earlier | new
        · exact holds other earlier
        · rw [List.mem_singleton.mp new]
          exact allowed
      · intro session holds _
        exact holds
    apply Preserves.bind connected
    intro conn
    have disabled : Preserves faults (OpenedWithin ends)
        (conn.disableDevice : ReaderProgram Net Unit) := by
      unfold Connection.disableDevice Connection.ask
      exact openedWithin_issue ends fun _ => rfl
    exact Preserves.bind disabled fun _ => tail conn

omit [Network Net] in
theorem openedWithin_ownConnections {Result : Type} {body : ReaderProgram Net Result}
    (inner : Preserves faults (OpenedWithin ends) body) :
    Preserves faults (OpenedWithin ends) (ownConnections body) := by
  have looked : Meets faults (OpenedWithin ends)
      (Program.look Site.opened : ReaderProgram Net (List Connection))
      (fun earlier session => OpenedWithin ends session ∧ ∀ connection ∈ earlier, connection ∈ ends)
      (OpenedWithin ends) :=
    meets_look _ fun _ holds => ⟨holds, holds⟩
  apply Meets.bind looked
  intro earlier
  apply meets_and_fact
  intro within
  apply Preserves.bind
  · apply meets_update
    intro session _ connection member
    cases member
  · intro _
    apply Preserves.bind inner
    intro result
    apply Preserves.bind
    · apply meets_update
      intro session holds connection member
      exact (List.mem_append.mp member).elim (within connection) (holds connection)
    · intro _
      exact preserves_pure result

end

theorem srcIdentifier_request (run : MigrationRun) (srcSn tgtSn uid : String) :
    (run.request srcSn tgtSn uid).srcIdentifier =
      if srcSn = "" then SimDevice.source.sn else srcSn := by
  by_cases blank : srcSn = "" <;>
    simp [MigrationRequest.srcIdentifier, MigrationRun.request, firstTruthy, blank, SimDevice.sn]

theorem tgtIdentifier_request (run : MigrationRun) (srcSn tgtSn uid : String) :
    (run.request srcSn tgtSn uid).tgtIdentifier =
      if tgtSn = "" then SimDevice.target.sn else tgtSn := by
  by_cases blank : tgtSn = "" <;>
    simp [MigrationRequest.tgtIdentifier, MigrationRun.request, firstTruthy, blank, SimDevice.sn]

section

variable [UnicodeTables] (hasPyzk : Bool) (registry : Registry) (run : MigrationRun)

def MigrationRun.endpoints : Endpoints :=
  Core.endpoints registry
    (run.request (resolveDevice registry run.sourceIp run.sourcePort).sn
      (resolveDevice registry run.targetIp run.targetPort).sn "")
    run.sourcePort run.targetPort

/-- A run opens connections to these two readers and to no others. -/
theorem opened_runMigrationReal (faults : Faults String) (readers : Net) :
    OpenedWithin [(run.endpoints registry).srcConnection, (run.endpoints registry).tgtConnection]
      (runMigrationReal hasPyzk registry run faults (ReaderSession.fresh readers)).2 := by
  have each : ∀ userIds, Preserves faults
      (OpenedWithin [(run.endpoints registry).srcConnection,
        (run.endpoints registry).tgtConnection])
      (migrateEachReal hasPyzk registry run
        (resolveDevice registry run.sourceIp run.sourcePort).sn
        (resolveDevice registry run.targetIp run.targetPort).sn userIds :
        ReaderProgram Net (List MigrationResult)) := by
    intro userIds
    induction userIds with
    | nil => exact preserves_pure _
    | cons userId rest ih =>
        rw [migrateEachReal]
        by_cases blank : strip userId = ""
        · simp only [blank, if_true]
          exact ih
        · simp only [blank, if_false]
          apply Preserves.bind
          · apply openedWithin_ownConnections
            apply (keptByCalls_openedWithin _).migrateSingleUserReal
            · exact List.mem_cons_self
            · exact List.mem_cons_of_mem _ List.mem_cons_self
          · intro result
            exact Preserves.bind ih fun _ => preserves_pure _
  apply Meets.final (each run.userIds)
  intro connection member
  cases member

end

end

/-! ## A run that reaches both readers -/

def onlyUser (userId : String) : ZkUser := ⟨1, "A", 0, "", "1", userId, 0⟩

def sameReaders (userId : String) : Address → Reader :=
  fun _ => ⟨[onlyUser userId], [⟨1, 0, 1, [1]⟩], 10⟩

def failsAfterFive : Faults String := fun index => if index < 5 then none else some "timed out"

def foundSession (source : Connection) (userId : String) : ZkSession :=
  ⟨⟨sameReaders userId, [source]⟩,
    [⟨.source, .connect, some .done⟩, ⟨.source, .disableDevice, some .done⟩,
      ⟨.source, .getUsers, some (.users [onlyUser userId])⟩]⟩

section

variable (places : Endpoints) (request : MigrationRequest)

theorem findSourceUser_same :
    findSourceUser places.srcConnection request.userId failsAfterFive
        (ReaderSession.fresh (sameReaders request.userId)) =
      (.ok (places.srcConnection, some (onlyUser request.userId)),
        foundSession places.srcConnection request.userId) := by
  have listed : [onlyUser request.userId].find? (ZkUser.hasId request.userId) =
      some (onlyUser request.userId) := by
    simp [onlyUser, ZkUser.hasId]
  change (Except.ok (places.srcConnection,
    [onlyUser request.userId].find? (ZkUser.hasId request.userId)), _) = _
  rw [listed]
  rfl

variable [UnicodeTables]

theorem migrateFound_same (name : String) :
    ∃ after, migrateFound places request places.srcConnection (onlyUser request.userId) name
        failsAfterFive (foundSession places.srcConnection request.userId) =
      (.error "timed out", after) ∧
      after.world.opened = [places.srcConnection, places.tgtConnection] :=
  ⟨_, rfl, rfl⟩

theorem tryMigration_same :
    ∃ result after, tryMigration places request failsAfterFive
        (ReaderSession.fresh (sameReaders request.userId)) = (.ok result, after) ∧
      after.world.opened = [places.srcConnection, places.tgtConnection] := by
  obtain ⟨after, raised, opened⟩ :=
    migrateFound_same places request (migratedName (onlyUser request.userId) request.userId)
  have handled : tryMigration places request failsAfterFive
      (ReaderSession.fresh (sameReaders request.userId)) =
        (.ok (failedMigration places request (migratedName (onlyUser request.userId)
          request.userId) request.userId "timed out"), after) := by
    apply attempt_of_returns
    rw [bind_of_returns (findSourceUser_same places request)]
    exact attempt_of_raises raised
  exact ⟨_, after, handled, opened⟩

theorem opened_migrate_same (registry : Registry) (sourcePort targetPort : Int) :
    ∃ result after, Network.migrateSingleUserReal true registry request sourcePort targetPort
        failsAfterFive (ReaderSession.fresh (sameReaders request.userId)) = (.ok result, after) ∧
      after.world.opened =
        [(endpoints registry request sourcePort targetPort).srcConnection,
          (endpoints registry request sourcePort targetPort).tgtConnection] := by
  obtain ⟨result, tried, ran, opened⟩ :=
    tryMigration_same (endpoints registry request sourcePort targetPort) request
  have kept : KeptByCalls failsAfterFive []
      (fun session : ZkSession => session.world.opened = tried.world.opened) :=
    { call := fun job event same _ =>
        meets_issue (fun session holds _ => (same session.world).trans holds)
          fun session holds _ => holds
      opening := fun connection none => absurd none List.not_mem_nil }
  obtain ⟨_, after, closed, still⟩ := (kept.closeConnections tried.world.opened).returns rfl
  refine ⟨result, after, ?_, still.trans opened⟩
  change (tryMigration _ request >>= _) failsAfterFive _ = _
  rw [bind_of_returns ran]
  change (closeConnections tried.world.opened >>= _) failsAfterFive tried = _
  rw [bind_of_returns closed]
  rfl

omit [UnicodeTables] in
theorem ownConnections_of_returns {Net Result : Type} {body : ReaderProgram Net Result}
    {faults : Faults String} {readers : Net} {earlier : List Connection}
    {trace : List CallEvent} {result : Result} {after : ReaderSession Net}
    (ran : body faults ⟨⟨readers, []⟩, trace⟩ = (.ok result, after)) :
    ownConnections body faults ⟨⟨readers, earlier⟩, trace⟩ =
      (.ok result, ⟨⟨after.world.readers, earlier ++ after.world.opened⟩, after.trace⟩) := by
  change (body >>= fun result =>
      Program.update (fun site => { site with opened := earlier ++ site.opened }) >>= fun _ =>
        (pure result : ReaderProgram Net Result)) faults ⟨⟨readers, []⟩, trace⟩ = _
  rw [bind_of_returns ran]
  rfl

theorem opened_run_same (registry : Registry) (run : MigrationRun) (users : run.userIds = ["1"]) :
    (runMigrationReal true registry run failsAfterFive
        (ReaderSession.fresh (sameReaders "1"))).2.world.opened =
      [(run.endpoints registry).srcConnection, (run.endpoints registry).tgtConnection] := by
  have stripped : strip "1" = "1" := by decide +kernel
  obtain ⟨result, after, ran, opened⟩ := opened_migrate_same
    (run.request (resolveDevice registry run.sourceIp run.sourcePort).sn
      (resolveDevice registry run.targetIp run.targetPort).sn "1")
    registry run.sourcePort run.targetPort
  have own : ownConnections (Network.migrateSingleUserReal true registry
        (run.request (resolveDevice registry run.sourceIp run.sourcePort).sn
          (resolveDevice registry run.targetIp run.targetPort).sn "1")
        run.sourcePort run.targetPort) failsAfterFive (ReaderSession.fresh (sameReaders "1")) =
      (.ok result, ⟨⟨after.world.readers, [] ++ after.world.opened⟩, after.trace⟩) :=
    ownConnections_of_returns ran
  unfold runMigrationReal
  rw [users, migrateEachReal, stripped, if_neg (by decide), bind_of_returns own]
  exact opened

end

end PumoBioMetric.Core
