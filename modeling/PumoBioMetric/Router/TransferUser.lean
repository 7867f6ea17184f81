import PumoBioMetric.Core.HardwareRun
import PumoBioMetric.Router.DeviceUsers
import PumoBioMetric.Sync.DeviceSync

/-!
# Transferring a user, with the LMS's mirror

`api_transfer_single_user` of `migration.py` migrates one user and writes the mirror under the
identifiers of the request.  `delete_device_user` removes the mirror's row under the serial
that the identifier resolves to.
-/

set_option autoImplicit false

namespace PumoBioMetric.Router

open PumoBioMetric.Py PumoBioMetric.Core FaultyCalls

/-! ## The request -/

/-- The arguments of a transfer; PINs are trimmed, and a target PIN is not empty. -/
structure TransferArgs where
  sourceId : String
  targetId : String
  userId : String
  targetPin : Option String
  mode : String
  sourcePort : Int
  targetPort : Int
  simulate : Bool
  userTrimmed : strip userId = userId
  pinTrimmed : ∀ pin, targetPin = some pin → strip pin = pin ∧ pin ≠ ""

inductive TransferReply where
  | refused (status : Nat) (error : String)
  /-- Status 200 or 400 by `ok`. -/
  | answered (result : MigrationResult)
deriving DecidableEq, Repr

section

variable [UnicodeTables] [Sync.ValueTables]

/-- `str(data.get(a) or data.get(b) or ... or "")`, stripped. -/
def truthyField (data : Dict Json) (keys : List String) : String :=
  strip (((keys.filterMap fun key => data.get? key).find? Sync.isTruthy).elim "" Sync.strOf)

/-- `int(data.get(key, default))`; `none` where it raises. -/
def intField (data : Dict Json) (key : String) (default : Int) : Option Int :=
  (Sync.intOf ((data.get? key).getD (.int default))).toOption

/-- What the endpoint reads; `none` where an exception leaves it. -/
def transferArgs (data : Dict Json) : Option TransferArgs :=
  let userId := truthyField data ["userId", "user_id"]
  let targetPin := truthyField data ["targetPin", "targetUserId"]
  (intField data "sourcePort" 4370).bind fun sourcePort =>
    (intField data "targetPort" 4370).bind fun targetPort =>
      (intField data "timeout" 8).map fun _ =>
        { sourceId := truthyField data ["sourceSn", "sourceIp", "sourceDevice"]
          targetId := truthyField data ["targetSn", "targetIp", "targetDevice"]
          userId := userId
          targetPin := if targetPin = "" then none else some targetPin
          mode := strip (lower (((data.get? "mode").map Sync.strOf).getD "copy"))
          sourcePort := sourcePort
          targetPort := targetPort
          simulate := (data.get? "simulate").any Sync.isTruthy
          userTrimmed := strip_strip _
          pinTrimmed := by
            intro pin given
            split at given
            · cases given
            · rename_i present
              rw [← Option.some.inj given]
              exact ⟨strip_strip _, present⟩ }

end

namespace TransferArgs

variable (args : TransferArgs)

def refusal : Option String :=
  if args.sourceId = "" ∨ args.targetId = "" then
    some "Both source and target devices are required"
  else if args.userId = "" then some "User ID / PIN is required"
  else none

def run : MigrationRun where
  sourceIp := args.sourceId
  targetIp := args.targetId
  userIds := [args.userId]
  sourcePort := args.sourcePort
  targetPort := args.targetPort
  mode := args.mode
  targetUserIds := args.targetPin.map fun pin => [(args.userId, pin)]

/-! ## The mirror -/

def actualTargetPin (result : MigrationResult) : String :=
  firstTruthy [some result.targetUserId, args.targetPin] args.userId

def insertedRow (result : MigrationResult) : DeviceUserRow where
  deviceSerial := some args.targetId
  deviceUserId := args.actualTargetPin result
  name := some (if result.userName = "" then "User " ++ args.userId else result.userName)
  role := some "Normal User"

/-- The mirror after the `INSERT ... ON CONFLICT`. -/
def written (result : MigrationResult) (users : DeviceUserTable) : DeviceUserTable :=
  users.upsert (args.insertedRow result) fun held =>
    { held with name := (args.insertedRow result).name }

/-- `(device_serial = %s OR device_serial IS NULL) AND device_user_id = %s`. -/
def removesRow (row : DeviceUserRow) : Bool :=
  (row.deviceSerial == some args.sourceId || row.deviceSerial == none) &&
    row.deviceUserId == args.userId

/-- The mirror after a transfer that succeeded, with the database working. -/
def recordTransfer (result : MigrationResult) (users : DeviceUserTable) : DeviceUserTable :=
  if args.mode = "move" then (args.written result users).filter fun row => !args.removesRow row
  else args.written result users

def finishTransfer (results : List MigrationResult) (users : DeviceUserTable) :
    TransferReply × DeviceUserTable :=
  match results with
  | [] => (.refused 500 "Migration produced no result", users)
  | result :: _ =>
      (.answered result, if result.ok then args.recordTransfer result users else users)

end TransferArgs

structure TransferState where
  devices : SimDevices
  users : DeviceUserTable

section

variable {Net : Type} [Network Net] [UnicodeTables] [Sync.ValueTables]

/-- `api_transfer_single_user`; the body is `none` where it is no JSON, and the answer where an
exception leaves. -/
def apiTransferSingleUser (hasPyzk : Bool) (registry : Registry) (body : Option Json)
    (state : TransferState) : ReaderProgram Net (Option TransferReply × TransferState) :=
  match body with
  | none => pure (some (.refused 400 "Invalid JSON body"), state)
  | some (.obj data) =>
      match transferArgs data with
      | none => pure (none, state)
      | some args =>
          match args.refusal with
          | some error => pure (some (.refused 400 error), state)
          | none =>
              if args.simulate then
                match runMigrationSimulated registry state.devices args.run with
                | (none, devices) => pure (none, { state with devices := devices })
                | (some results, devices) =>
                    let (reply, users) := args.finishTransfer results state.users
                    pure (some reply, ⟨devices, users⟩)
              else do
                let results ← runMigrationReal hasPyzk registry args.run
                let (reply, users) := args.finishTransfer results state.users
                pure (some reply, { state with users := users })
  | some _ => pure (none, state)

end

/-! ## Deletion -/

/-- `_remove_user_metadata` on the name cache and the mirror. -/
def removeUserMetadata (deviceSerial userId : String) (cache : UserCache)
    (users : DeviceUserTable) : UserCache × DeviceUserTable :=
  let pin := strip userId
  (cache.pop pin, users.filter fun row => !row.isFor deviceSerial pin)

inductive DeviceDeletion where
  | simulated (result : DeleteResult)
  | real (reply : DeletionReply)
deriving DecidableEq, Repr

def DeviceDeletion.ok : DeviceDeletion → Bool
  | simulated result => result.ok
  | real (.missing _) => false
  | real _ => true

/-- What a deletion can change besides the readers. -/
structure DeletionState where
  devices : SimDevices
  queue : CommandQueue
  cache : UserCache
  users : DeviceUserTable

structure DeletionCall where
  hasPyzk : Bool
  port : Int
  deleteBiometricsOnly : Bool
  simulate : Bool
  ipOverride : Option String
deriving DecidableEq, Repr

section

variable {Net : Type} [Network Net] [UnicodeTables]

/-- `delete_device_user`.  With a reader every path of a full deletion removes the metadata:
where nobody has the PIN, after the deletion, and in the `finally` of the handler. -/
def deleteDeviceUser (registry : Registry) (deviceId userId : String) (call : DeletionCall)
    (state : DeletionState) : ReaderProgram Net (DeviceDeletion × DeletionState) :=
  if call.simulate then
    let (result, devices) := deleteDeviceUserSimulated registry state.devices deviceId userId
      call.deleteBiometricsOnly
    pure (.simulated result, { state with devices := devices })
  else do
    let (reply, queue) ← deleteDeviceUserReal call.hasPyzk registry state.queue deviceId userId
      call.port call.deleteBiometricsOnly call.ipOverride
    let (cache, users) :=
      if call.hasPyzk && !call.deleteBiometricsOnly then
        removeUserMetadata (resolveDevice registry deviceId call.port).sn userId state.cache
          state.users
      else (state.cache, state.users)
    pure (.real reply, { state with queue := queue, cache := cache, users := users })

end

end PumoBioMetric.Router
