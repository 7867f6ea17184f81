import PumoBioMetric.Router.TransferUser

/-!
# The mirror's row of a transferred user

The row is written under the identifier of the request, and a deletion looks for it under the
serial that the identifier resolves to.
-/

set_option autoImplicit false

namespace PumoBioMetric.Router

open PumoBioMetric.Py PumoBioMetric.Core FaultyCalls

/-! ## The PIN on the target -/

section

variable [UnicodeTables] {registry : Registry}

/-- A successful result shows PINs without blanks around them. -/
def ShowsTrimmedPins (result : MigrationResult) : Prop :=
  result.ok = true →
    strip result.userId = result.userId ∧ strip result.targetUserId = result.targetUserId

omit [UnicodeTables] in
theorem showsTrimmedPins_of_not_ok {result : MigrationResult} (failed : result.ok = false) :
    ShowsTrimmedPins result := by
  intro ok
  rw [failed] at ok
  cases ok

omit [UnicodeTables] in
theorem showsTrimmedPins_toDict {result : MigrationResult} (trimmed : ShowsTrimmedPins result) :
    ShowsTrimmedPins result.toDict := by
  intro ok
  obtain ⟨user, pin⟩ := trimmed ok
  refine ⟨user, ?_⟩
  rw [MigrationResult.toDict]
  dsimp only
  split
  · exact user
  · exact pin

omit [UnicodeTables] in
theorem strip_destUserId {request : MigrationRequest}
    (user : strip request.userId = request.userId) :
    strip request.destUserId = request.destUserId := by
  unfold MigrationRequest.destUserId
  split
  · exact user
  · split
    · exact user
    · exact strip_strip _

omit [UnicodeTables] in
theorem strip_enrolled {users after : List SimUser} {profile : Profile} {requested pin : String}
    (enrolled : Enrolled users profile requested pin after)
    (trimmed : strip requested = requested) : strip pin = pin := by
  cases enrolled with
  | added _ => exact trimmed
  | updated _ _ => exact trimmed
  | remapped _ _ found => exact nextFreePin_strip found

theorem showsTrimmedPins_simulated {devices after : SimDevices} {request : MigrationRequest}
    {result : MigrationResult}
    (returned : migrateSingleUserSimulated registry devices request = some (result, after))
    (user : strip request.userId = request.userId) : ShowsTrimmedPins result := by
  cases migrated_of_migrate registry returned with
  | refused failed => exact showsTrimmedPins_of_not_ok failed
  | enrolled _ _ _ enrolled _ sameUser =>
      intro _
      rw [sameUser]
      exact ⟨user, strip_enrolled enrolled (strip_destUserId user)⟩

theorem strip_chooseSlot {tgtUsers : List ZkUser} {userName destUserId : String} {slot : Slot}
    (chosen : chooseSlot tgtUsers userName destUserId = some slot)
    (trimmed : strip destUserId = destUserId) : strip slot.userId = slot.userId := by
  unfold chooseSlot at chosen
  split at chosen
  · rw [← Option.some.inj chosen]
    exact trimmed
  · split at chosen
    · obtain ⟨mapped, found, rfl⟩ := Option.map_eq_some_iff.mp chosen
      exact nextFreePin_strip found
    · rw [← Option.some.inj chosen]
      exact trimmed

variable {Net : Type} [Network Net] {faults : Faults String} {request : MigrationRequest}

theorem gives_finishMigration (ends : Endpoints) (srcConn tgtConn : Connection) (user : ZkUser)
    (userName : String) (userFingers : List ZkFinger) {slot : Slot}
    (requested : strip request.userId = request.userId)
    (trimmed : strip slot.userId = slot.userId) :
    Gives faults ShowsTrimmedPins
      (finishMigration ends request srcConn tgtConn user userName userFingers slot :
        ReaderProgram Net MigrationResult) := by
  unfold finishMigration
  apply Gives.after
  intro verified
  cases verified with
  | false => exact gives_pure (showsTrimmedPins_of_not_ok rfl)
  | true =>
      apply Gives.after
      intro _
      exact gives_pure fun _ => ⟨requested, trimmed⟩

theorem gives_migrateFound (ends : Endpoints) (srcConn : Connection) (user : ZkUser)
    (userName : String) (requested : strip request.userId = request.userId) :
    Gives faults ShowsTrimmedPins
      (migrateFound ends request srcConn user userName : ReaderProgram Net MigrationResult) := by
  unfold migrateFound
  apply Gives.after
  intro userFingers
  apply Gives.after
  intro target
  dsimp only
  split
  · exact gives_raise _
  · rename_i slot chosen
    exact gives_finishMigration ends srcConn target.1 user userName userFingers requested
      (strip_chooseSlot chosen (strip_destUserId requested))

theorem gives_tryMigration (ends : Endpoints) (requested : strip request.userId = request.userId) :
    Gives faults ShowsTrimmedPins
      (tryMigration ends request : ReaderProgram Net MigrationResult) := by
  unfold tryMigration
  apply Gives.attempt
  · apply Gives.after
    intro source
    dsimp only
    split
    · exact gives_pure (showsTrimmedPins_of_not_ok rfl)
    · apply Gives.attempt
      · exact gives_migrateFound ends source.1 _ _ requested
      · intro error
        exact gives_pure (showsTrimmedPins_of_not_ok rfl)
  · intro error
    exact gives_pure (showsTrimmedPins_of_not_ok rfl)

theorem gives_migrateSingleUserReal (hasPyzk : Bool) (sourcePort targetPort : Int)
    (requested : strip request.userId = request.userId) :
    Gives faults ShowsTrimmedPins
      (Network.migrateSingleUserReal hasPyzk registry request sourcePort targetPort :
        ReaderProgram Net MigrationResult) := by
  unfold Network.migrateSingleUserReal
  dsimp only
  split
  · apply Gives.bind (gives_tryMigration _ requested)
    intro result trimmed
    apply Gives.after
    intro opened
    apply Gives.after
    intro _
    exact gives_pure trimmed
  · exact gives_pure (showsTrimmedPins_of_not_ok rfl)

omit [Network Net] [UnicodeTables] in
theorem gives_ownConnections {Result : Type} {property : Result → Prop}
    {body : ReaderProgram Net Result} (inner : Gives faults property body) :
    Gives faults property (Core.ownConnections body) := by
  unfold Core.ownConnections
  apply Gives.after
  intro earlier
  apply Gives.after
  intro _
  apply Gives.bind inner
  intro result holds
  apply Gives.after
  intro _
  exact gives_pure holds

theorem gives_runMigrationReal (hasPyzk : Bool) (run : MigrationRun) :
    Gives faults (fun results => ∀ result ∈ results, ShowsTrimmedPins result)
      (runMigrationReal hasPyzk registry run : ReaderProgram Net (List MigrationResult)) := by
  unfold runMigrationReal
  dsimp only
  induction run.userIds with
  | nil =>
      apply gives_pure
      simp
  | cons userId rest ih =>
      rw [migrateEachReal]
      split
      · exact ih
      · apply Gives.bind
        · apply gives_ownConnections
          apply gives_migrateSingleUserReal
          exact strip_strip _
        · intro result trimmed
          apply Gives.bind ih
          intro results others
          apply gives_pure
          intro shown member
          rcases List.mem_cons.mp member with rfl | later
          · exact showsTrimmedPins_toDict trimmed
          · exact others shown later

theorem migrateEachSimulated_showsTrimmedPins {srcSn tgtSn mode : String} {tgtMap : Dict String}
    {devices after : SimDevices} {userIds : List String} {results : List MigrationResult}
    (ran : migrateEachSimulated registry srcSn tgtSn mode tgtMap devices userIds =
      (some results, after)) :
    ∀ result ∈ results, ShowsTrimmedPins result := by
  induction userIds generalizing devices results with
  | nil =>
      rw [migrateEachSimulated, Prod.mk.injEq, Option.some.injEq] at ran
      simp [← ran.1]
  | cons userId rest ih =>
      rw [migrateEachSimulated] at ran
      dsimp only at ran
      split at ran
      · exact ih ran
      · split at ran
        · cases ran
        · rename_i shown current returned
          rw [Prod.mk.injEq, Option.map_eq_some_iff] at ran
          obtain ⟨⟨others, ranRest, rfl⟩, rfl⟩ := ran
          have first : ShowsTrimmedPins shown := showsTrimmedPins_simulated returned (strip_strip _)
          intro result member
          rcases List.mem_cons.mp member with rfl | later
          · exact showsTrimmedPins_toDict first
          · exact ih (Prod.ext ranRest rfl) result later

end

/-! ## What the endpoint records -/

/-- The first result of a run that returned, simulated or with readers. -/
inductive Transferred [UnicodeTables] (hasPyzk : Bool) (registry : Registry)
    (args : TransferArgs) : MigrationResult → Prop where
  | simulated {devices after : SimDevices} {result : MigrationResult}
      {others : List MigrationResult} :
      runMigrationSimulated registry devices args.run = (some (result :: others), after) →
        Transferred hasPyzk registry args result
  | real {Net : Type} [Network Net] {faults : Faults String} {before after : ReaderSession Net}
      {result : MigrationResult} {others : List MigrationResult} :
      runMigrationReal hasPyzk registry args.run faults before = (.ok (result :: others), after) →
        Transferred hasPyzk registry args result

section

variable [UnicodeTables] {hasPyzk : Bool} {registry : Registry} {args : TransferArgs}
  {result : MigrationResult}

theorem Transferred.showsTrimmedPins (transferred : Transferred hasPyzk registry args result) :
    ShowsTrimmedPins result := by
  cases transferred with
  | simulated ran => exact migrateEachSimulated_showsTrimmedPins ran _ List.mem_cons_self
  | real ran =>
      have shown := (gives_runMigrationReal hasPyzk args.run).of_ok trivial (congrArg Prod.fst ran)
      exact shown _ List.mem_cons_self

theorem strip_actualTargetPin (transferred : Transferred hasPyzk registry args result)
    (ok : result.ok = true) :
    strip (args.actualTargetPin result) = args.actualTargetPin result := by
  rw [TransferArgs.actualTargetPin]
  rcases firstTruthy_cases [some result.targetUserId, args.targetPin] args.userId with user | given
  · rw [user]
    exact args.userTrimmed
  · rcases List.mem_cons.mp given with shown | given
    · rw [Option.some.inj shown]
      exact (transferred.showsTrimmedPins ok).2
    · exact (args.pinTrimmed _ (List.mem_singleton.mp given).symm).1

omit [UnicodeTables] in
theorem recorded_of_finish {results : List MigrationResult} {users after : DeviceUserTable}
    (finished : args.finishTransfer results users = (.answered result, after))
    (ok : result.ok = true) :
    ∃ others, results = result :: others ∧ after = args.recordTransfer result users := by
  unfold TransferArgs.finishTransfer at finished
  split at finished
  · cases finished
  · rename_i first others
    obtain ⟨rfl, rfl⟩ : first = result ∧
        (if first.ok then args.recordTransfer first users else users) = after := by
      simpa using finished
    exact ⟨others, rfl, if_pos ok⟩

variable {Net : Type} [Network Net] [Sync.ValueTables]

/-- An answer with a successful result has recorded this result in the mirror. -/
theorem recorded_of_answered {data : Dict Json} {state after : TransferState}
    {faults : Faults String} {before session : ReaderSession Net}
    (answered : apiTransferSingleUser hasPyzk registry (some (.obj data)) state faults before =
      (.ok (some (.answered result), after), session)) (ok : result.ok = true) :
    ∃ args, transferArgs data = some args ∧ args.refusal = none ∧
      Transferred hasPyzk registry args result ∧
        after.users = args.recordTransfer result state.users := by
  rw [apiTransferSingleUser] at answered
  cases read : transferArgs data with
  | none =>
      rw [read] at answered
      cases answered
  | some args =>
      rw [read] at answered
      dsimp only at answered
      cases refused : args.refusal with
      | some error =>
          rw [refused] at answered
          cases answered
      | none =>
          rw [refused] at answered
          dsimp only at answered
          refine ⟨args, rfl, refused, ?_⟩
          split at answered
          · cases ran : runMigrationSimulated registry state.devices args.run with
            | mk outcome devices =>
                rw [ran] at answered
                cases outcome with
                | none => cases answered
                | some results =>
                    cases finished : args.finishTransfer results state.users with
                    | mk reply users =>
                        dsimp only at answered
                        rw [finished] at answered
                        cases answered
                        obtain ⟨others, rfl, recorded⟩ := recorded_of_finish finished ok
                        exact ⟨.simulated ran, recorded⟩
          · obtain ⟨results, between, ran, rest⟩ := returns_of_bind answered
            cases finished : args.finishTransfer results state.users with
            | mk reply users =>
                rw [finished] at rest
                cases rest
                obtain ⟨others, rfl, recorded⟩ := recorded_of_finish finished ok
                exact ⟨.real ran, recorded⟩

end

/-! ## The keys of the mirror -/

section

variable [UnicodeTables] (registry : Registry) (args : TransferArgs)

namespace TransferArgs

def targetSerial : String := (resolveDevice registry args.targetId args.targetPort).sn

def sourceSerial : String := (resolveDevice registry args.sourceId args.sourcePort).sn

end TransferArgs

/-- After the transfer and a deletion that succeeds, the mirror has no row with the target PIN
under the target, neither as the request names it nor by its serial. -/
def LeavesNoRow (result : MigrationResult) (deviceId : String) (call : DeletionCall) : Prop :=
  ∀ (Net : Type) [Network Net] (faults : Faults String) (before after : ReaderSession Net)
    (users : DeviceUserTable) (state final : DeletionState) (reply : DeviceDeletion),
    state.users = args.recordTransfer result users →
      deleteDeviceUser registry deviceId (args.actualTargetPin result) call state faults before =
        (.ok (reply, final), after) → reply.ok = true →
          ∀ row ∈ final.users, row.deviceUserId = args.actualTargetPin result →
            row.deviceSerial ≠ some args.targetId ∧
              row.deviceSerial ≠ some (args.targetSerial registry)

/-- The mirror has the row that is written under the serial of the target, loses in a move
those under the serial of the source (besides rows that have none), and after a deletion has no
row of the user on the target. -/
structure KeepsMirror (result : MigrationResult) (deviceId : String) (call : DeletionCall) :
    Prop where
  written : ∀ users, ((args.written result users).head?.bind DeviceUserRow.deviceSerial) =
    some (args.targetSerial registry)
  removed : args.mode = "move" → ∀ users, ∀ row ∈ args.written result users,
    row.deviceSerial ≠ none →
      (row ∉ args.recordTransfer result users ↔
        row.isFor (args.sourceSerial registry) args.userId = true)
  deleted : LeavesNoRow registry args result deviceId call

/-- The request names the readers by their serials as they are registered; a simulated deletion
fails, or finds that the move has already removed the row again. -/
structure KeyedBySerial (result : MigrationResult) (deviceId : String) (call : DeletionCall) :
    Prop where
  target : args.targetId = args.targetSerial registry
  source : args.mode = "move" → args.sourceId = args.sourceSerial registry
  deletion : call.simulate = true → simulatedDevice registry deviceId = none ∨
    (args.mode = "move" ∧ args.sourceId = args.targetId ∧
      args.userId = args.actualTargetPin result)

variable {registry} {args}

variable (args) in
omit [UnicodeTables] in
theorem head?_written (result : MigrationResult) (users : DeviceUserTable) :
    ∃ row rest, args.written result users = row :: rest ∧ row.deviceSerial = some args.targetId ∧
      row.deviceUserId = args.actualTargetPin result := by
  refine ⟨_, _, rfl, ?_⟩
  cases found : users.find? (args.insertedRow result).conflicts with
  | none => exact ⟨rfl, rfl⟩
  | some held =>
      have met := List.find?_some found
      simpa [DeviceUserRow.conflicts, DeviceUserRow.isFor, TransferArgs.insertedRow] using met

omit [UnicodeTables] in
theorem mem_recordTransfer {result : MigrationResult} {users : DeviceUserTable}
    {row : DeviceUserRow} :
    row ∈ args.recordTransfer result users ↔
      row ∈ args.written result users ∧ (args.mode = "move" → args.removesRow row = false) := by
  rw [TransferArgs.recordTransfer]
  by_cases move : args.mode = "move"
  · rw [if_pos move, List.mem_filter]
    simp [move]
  · rw [if_neg move]
    simp [move]

omit [UnicodeTables] in
theorem removesRow_of_serial {row : DeviceUserRow} (serial : row.deviceSerial ≠ none) :
    args.removesRow row = row.isFor args.sourceId args.userId := by
  rw [TransferArgs.removesRow, DeviceUserRow.isFor, beq_eq_false_iff_ne.mpr serial, Bool.or_false]

theorem removed_of_deleteDeviceUser {Net : Type} [Network Net] {faults : Faults String}
    {before after : ReaderSession Net} {deviceId pin : String} {call : DeletionCall}
    {state final : DeletionState} {reply : DeviceDeletion} (real : call.simulate = false)
    (whole : call.deleteBiometricsOnly = false)
    (deleted : deleteDeviceUser registry deviceId pin call state faults before =
      (.ok (reply, final), after)) (ok : reply.ok = true) :
    final.users = state.users.filter fun row =>
      !row.isFor (resolveDevice registry deviceId call.port).sn (strip pin) := by
  rw [deleteDeviceUser, real] at deleted
  obtain ⟨⟨answer, queue⟩, between, ran, rest⟩ := returns_of_bind deleted
  cases installed : call.hasPyzk with
  | false =>
      rw [installed, deleteDeviceUserReal] at ran
      cases ran
      cases rest
      cases ok
  | true =>
      rw [installed, whole] at rest
      cases rest
      rfl

theorem written_iff {result : MigrationResult} :
    (∀ users, ((args.written result users).head?.bind DeviceUserRow.deviceSerial) =
      some (args.targetSerial registry)) ↔ args.targetId = args.targetSerial registry := by
  constructor
  · intro written
    obtain ⟨row, rest, shape, serial, _⟩ := head?_written args result []
    have first := written []
    rw [shape, List.head?_cons, Option.bind_some, serial] at first
    exact Option.some.inj first
  · intro same users
    obtain ⟨row, rest, shape, serial, _⟩ := head?_written args result users
    rw [shape, List.head?_cons, Option.bind_some, serial, same]

theorem removed_iff {result : MigrationResult} (move : args.mode = "move") :
    (∀ users, ∀ row ∈ args.written result users, row.deviceSerial ≠ none →
      (row ∉ args.recordTransfer result users ↔
        row.isFor (args.sourceSerial registry) args.userId = true)) ↔
      args.sourceId = args.sourceSerial registry := by
  have lost : ∀ users, ∀ row ∈ args.written result users, row.deviceSerial ≠ none →
      (row ∉ args.recordTransfer result users ↔ row.isFor args.sourceId args.userId = true) := by
    intro users row member serial
    rw [mem_recordTransfer, removesRow_of_serial serial]
    simp [member, move]
  constructor
  · intro removed
    -- A row under the serial of the source stands in the mirror, whatever is written.
    have row : ∃ row ∈ args.written result
        [⟨some (args.sourceSerial registry), args.userId, none, none⟩],
        row.deviceSerial = some (args.sourceSerial registry) ∧ row.deviceUserId = args.userId := by
      unfold TransferArgs.written DeviceUserTable.upsert
      by_cases met : (args.insertedRow result).conflicts
          ⟨some (args.sourceSerial registry), args.userId, none, none⟩ = true
      · rw [List.find?_cons_of_pos met]
        exact ⟨_, List.mem_cons_self, rfl, rfl⟩
      · refine ⟨_, List.mem_cons_of_mem _ (List.mem_filter.mpr ⟨List.mem_cons_self, ?_⟩), rfl, rfl⟩
        simpa using met
    obtain ⟨row, member, serial, pin⟩ := row
    have present : row.deviceSerial ≠ none := by simp [serial]
    have own : row.isFor (args.sourceSerial registry) args.userId = true := by
      simp [DeviceUserRow.isFor, serial, pin]
    have gone := (lost _ row member present).mp ((removed _ row member present).mpr own)
    rw [DeviceUserRow.isFor, Bool.and_eq_true, beq_iff_eq, serial] at gone
    exact (Option.some.inj gone.1).symm
  · intro same users row member serial
    rw [lost users row member serial, same]

theorem deleteDeviceUser_nobody {Net : Type} [Network Net] (faults : Faults String)
    (before : ReaderSession Net) (pin : String) {deviceId : String} {call : DeletionCall}
    {state : DeletionState} {dev : SimDevice} (simulate : call.simulate = true)
    (device : simulatedDevice registry deviceId = some dev)
    (nobody : state.devices.users dev = []) :
    ∃ reply, deleteDeviceUser registry deviceId pin call state faults before =
      (.ok (reply, state), before) ∧ reply.ok = true := by
  rw [deleteDeviceUser, simulate, deleteDeviceUserSimulated, device]
  dsimp only
  rw [nobody]
  exact ⟨_, rfl, rfl⟩

theorem simulatedDevice_of_deleteDeviceUser {Net : Type} [Network Net] {faults : Faults String}
    {before after : ReaderSession Net} {deviceId pin : String} {call : DeletionCall}
    {state final : DeletionState} {reply : DeviceDeletion} (simulate : call.simulate = true)
    (deleted : deleteDeviceUser registry deviceId pin call state faults before =
      (.ok (reply, final), after)) (ok : reply.ok = true) :
    simulatedDevice registry deviceId ≠ none ∧ final.users = state.users := by
  rw [deleteDeviceUser, simulate] at deleted
  cases deleted
  refine ⟨?_, rfl⟩
  intro missing
  rw [missing] at ok
  cases ok

theorem deleted_iff {result : MigrationResult} {deviceId : String} {call : DeletionCall}
    (trimmed : strip (args.actualTargetPin result) = args.actualTargetPin result)
    (target : args.targetId = args.targetSerial registry)
    (named : (resolveDevice registry deviceId call.port).sn = args.targetSerial registry)
    (whole : call.deleteBiometricsOnly = false) :
    LeavesNoRow registry args result deviceId call ↔
      (call.simulate = true → simulatedDevice registry deviceId = none ∨
        (args.mode = "move" ∧ args.sourceId = args.targetId ∧
          args.userId = args.actualTargetPin result)) := by
  constructor
  · intro leaves simulate
    cases device : simulatedDevice registry deviceId with
    | none => exact .inl rfl
    | some dev =>
        right
        by_contra kept
        obtain ⟨row, rest, shape, serial, pin⟩ := head?_written args result []
        have present : row.deviceSerial ≠ none := by simp [serial]
        have recorded : row ∈ args.recordTransfer result [] := by
          rw [mem_recordTransfer, shape, removesRow_of_serial present]
          refine ⟨List.mem_cons_self, fun move => ?_⟩
          by_contra held
          rw [Bool.not_eq_false, DeviceUserRow.isFor, Bool.and_eq_true, beq_iff_eq, beq_iff_eq,
            serial, pin] at held
          exact kept ⟨move, (Option.some.inj held.1).symm, held.2.symm⟩
        let state : DeletionState := ⟨⟨[], []⟩, .initial, [], args.recordTransfer result []⟩
        let before : ReaderSession (Address → Reader) := .fresh fun _ => ⟨[], [], 0⟩
        have nobody : state.devices.users dev = [] := by cases dev <;> rfl
        obtain ⟨reply, ran, ok⟩ := deleteDeviceUser_nobody (fun _ => none) before
          (args.actualTargetPin result) simulate device nobody
        exact (leaves _ _ before before [] state state reply rfl ran ok row recorded pin).1 serial
  · intro condition Net _ faults before after users state final reply held deleted ok row member pin
    have spared : row.deviceSerial ≠ some (args.targetSerial registry) := by
      intro serial
      cases simulate : call.simulate with
      | false =>
          rw [removed_of_deleteDeviceUser simulate whole deleted ok, named, trimmed,
            List.mem_filter] at member
          simp [DeviceUserRow.isFor, serial, pin] at member
      | true =>
          obtain ⟨simulated, same⟩ := simulatedDevice_of_deleteDeviceUser simulate deleted ok
          obtain missing | ⟨move, oneReader, onePin⟩ := condition simulate
          · exact simulated missing
          · have present : row.deviceSerial ≠ none := by simp [serial]
            rw [same, held, mem_recordTransfer, removesRow_of_serial present] at member
            have own := member.2 move
            rw [DeviceUserRow.isFor, serial, pin, oneReader, onePin, ← target] at own
            simp at own
    exact ⟨target ▸ spared, spared⟩

/-- A transfer keeps the mirror by the serials of the readers exactly where the request names
the readers by these serials. -/
theorem transfer_mirror_iff {hasPyzk : Bool} {result : MigrationResult} {deviceId : String}
    {call : DeletionCall} (transferred : Transferred hasPyzk registry args result)
    (ok : result.ok = true)
    (named : (resolveDevice registry deviceId call.port).sn = args.targetSerial registry)
    (whole : call.deleteBiometricsOnly = false) :
    KeepsMirror registry args result deviceId call ↔
      KeyedBySerial registry args result deviceId call := by
  have trimmed := strip_actualTargetPin transferred ok
  constructor
  · intro keeps
    have target := written_iff.mp keeps.written
    exact ⟨target, fun move => (removed_iff move).mp (keeps.removed move),
      (deleted_iff trimmed target named whole).mp keeps.deleted⟩
  · intro keyed
    exact ⟨written_iff.mpr keyed.target, fun move => (removed_iff move).mpr (keyed.source move),
      (deleted_iff trimmed keyed.target named whole).mpr keyed.deletion⟩

end

def transferOf101 (targetId : String) : TransferArgs where
  sourceId := "NFZ8254900401"
  targetId := targetId
  userId := "101"
  targetPin := none
  mode := "copy"
  sourcePort := 4370
  targetPort := 4370
  simulate := true
  userTrimmed := by decide +kernel
  pinTrimmed := nofun

def transferred101 : MigrationResult :=
  ⟨true, "copy", "101", "Member 1o", "NFZ8254900401", "UFZ9876543210", "101", 2, none⟩

def wholeDeletion : DeletionCall := ⟨true, 4370, false, false, none⟩

theorem transferred_101 (targetId : String)
    (resolved : (@resolveDevice .ascii defaultRegistry targetId 4370).sn = "UFZ9876543210") :
    @Transferred .ascii true defaultRegistry (transferOf101 targetId) transferred101 := by
  let := UnicodeTables.ascii
  have source : (resolveDevice defaultRegistry "NFZ8254900401" 4370).sn = "NFZ8254900401" := by
    decide +kernel
  have ran : runMigrationSimulated defaultRegistry resetSimulationState
      (transferOf101 targetId).run =
        migrateEachSimulated defaultRegistry "NFZ8254900401" "UFZ9876543210" "copy" []
          resetSimulationState ["101"] := by
    rw [runMigrationSimulated]
    simp only [transferOf101, TransferArgs.run, source, resolved, Option.map_none,
      Option.getD_none]
  have outcome : (migrateEachSimulated defaultRegistry "NFZ8254900401" "UFZ9876543210" "copy" []
      resetSimulationState ["101"]).1 = some [transferred101] := by
    decide +kernel
  exact .simulated (ran.trans (Prod.ext outcome rfl))

theorem transfer_mirror_by_serial :
    @KeepsMirror .ascii defaultRegistry (transferOf101 "UFZ9876543210") transferred101
      "UFZ9876543210" wholeDeletion :=
  (@transfer_mirror_iff .ascii _ _ true _ _ _
    (transferred_101 "UFZ9876543210" (by decide +kernel)) rfl (by decide +kernel) rfl).mpr
    (@KeyedBySerial.mk .ascii _ _ _ _ _ (by decide +kernel) nofun nofun)

theorem transfer_mirror_lower_case :
    (transferOf101 "ufz9876543210").refusal = none ∧
      @Transferred .ascii true defaultRegistry (transferOf101 "ufz9876543210") transferred101 ∧
        transferred101.ok = true ∧
          ¬ @KeepsMirror .ascii defaultRegistry (transferOf101 "ufz9876543210") transferred101
            "UFZ9876543210" wholeDeletion := by
  refine ⟨by decide +kernel, transferred_101 "ufz9876543210" (by decide +kernel), rfl, ?_⟩
  intro keeps
  have serial := @KeepsMirror.written .ascii _ _ _ _ _ keeps []
  revert serial
  decide +kernel

end PumoBioMetric.Router
