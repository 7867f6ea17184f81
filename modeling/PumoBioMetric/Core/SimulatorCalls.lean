import PumoBioMetric.Core.ReaderCalls
import PumoBioMetric.Core.Simulator

/-!
# Calls on the simulated readers

`create_device_user`, `delete_batch_device_users` and `run_migration` with
`simulate=True`, and any call that changes the simulated devices as one step.
-/

set_option autoImplicit false

namespace PumoBioMetric.Core

open Py

inductive SimulatedCreation where
  | refused (error : String)
  | created (device userId name message : String)
deriving DecidableEq, Repr

def NewUser.simProfile (user : NewUser) : Profile where
  name := user.cleanName
  privilege := user.role
  password := user.password
  groupId := "1"
  card := user.card
  fingers := []

structure BatchDeletion where
  deletedCount : Nat
  totalRequested : Option Nat
  results : List DeleteResult
  message : Option String
deriving DecidableEq, Repr

structure MigrationRun where
  sourceIp : String
  targetIp : String
  userIds : List String
  sourcePort : Int
  targetPort : Int
  mode : String
  targetUserIds : Option (Dict String)
deriving DecidableEq, Repr

section

variable [UnicodeTables] (registry : Registry)

def createDeviceUserSimulated (devices : SimDevices) (deviceId : String) (user : NewUser)
    (port : Int) (ipOverride : Option String) : SimulatedCreation × SimDevices :=
  let resolved := resolveDevice registry deviceId port
  let sn := resolved.sn
  let ip := chosenIp ipOverride resolved
  if user.pin = "" ∨ user.cleanName = "" then
    (.refused "User ID / PIN and employee name are required.", devices)
  else if 24 < user.pin.length then
    (.refused "User ID / PIN must be at most 24 characters.", devices)
  else
    match (simulatedDevices.lookup sn).or (simulatedDevices.lookup ip) with
    | none => (.refused s!"Simulated device {sn} not found", devices)
    | some dev =>
      if (devices.users dev).any (SimUser.hasId user.pin) then
        (.refused s!"User {user.pin} already exists on device {sn}.", devices)
      else
        (.created sn user.pin user.cleanName
            s!"Created user {user.pin} ({user.cleanName}) on simulated device {sn}.",
          devices.setUsers dev (appendCopy (devices.users dev) user.simProfile user.pin))

def deleteEachSimulated (deviceId : String) (deleteBiometricsOnly : Bool) :
    SimDevices → List String → List DeleteResult × SimDevices
  | devices, [] => ([], devices)
  | devices, userId :: rest =>
      let (res, after) :=
        deleteDeviceUserSimulated registry devices deviceId userId deleteBiometricsOnly
      let (results, final) := deleteEachSimulated deviceId deleteBiometricsOnly after rest
      (res :: results, final)

def deleteBatchSimulated (devices : SimDevices) (deviceId : String) (userIds : List String)
    (deleteBiometricsOnly : Bool) : BatchDeletion × SimDevices :=
  if userIds = [] then (⟨0, none, [], none⟩, devices)
  else
    let (results, after) := deleteEachSimulated registry deviceId deleteBiometricsOnly devices userIds
    let deletedCount := (results.filter DeleteResult.deleted).length
    (⟨deletedCount, some userIds.length, results,
      some s!"Successfully deleted {deletedCount}/{userIds.length} users from simulated device."⟩,
      after)

/-- The loop of `run_migration`: the results, `none` where a `ValueError` leaves it, and
the devices as the calls before it left them. -/
def migrateEachSimulated (srcSn tgtSn mode : String) (tgtMap : Dict String) :
    SimDevices → List String → Option (List MigrationResult) × SimDevices
  | devices, [] => (some [], devices)
  | devices, userId :: rest =>
      let uid := strip userId
      if uid = "" then migrateEachSimulated srcSn tgtSn mode tgtMap devices rest
      else
        match migrateSingleUserSimulated registry devices
            ⟨some srcSn, some tgtSn, uid, mode, tgtMap.get? uid, none, none, none, none⟩ with
        | none => (none, devices)
        | some (res, after) =>
            let (results, final) := migrateEachSimulated srcSn tgtSn mode tgtMap after rest
            (results.map fun others => res.toDict :: others, final)

def runMigrationSimulated (devices : SimDevices) (run : MigrationRun) :
    Option (List MigrationResult) × SimDevices :=
  let srcSn := (resolveDevice registry run.sourceIp run.sourcePort).sn
  let tgtSn := (resolveDevice registry run.targetIp run.targetPort).sn
  migrateEachSimulated registry srcSn tgtSn run.mode (run.targetUserIds.getD []) devices run.userIds

end

/-! ## Any call -/

inductive SimulatorCall where
  | create (deviceId : String) (user : NewUser) (port : Int) (ipOverride : Option String)
  | migrate (request : MigrationRequest)
  | runMigration (run : MigrationRun)
  | delete (deviceId userId : String) (deleteBiometricsOnly : Bool)
  | deleteBatch (deviceId : String) (userIds : List String) (deleteBiometricsOnly : Bool)
  | reset
deriving DecidableEq, Repr

section

variable [UnicodeTables]

/-- The devices after a call, which reads the registry anew. -/
def SimulatorCall.after (devices : SimDevices) (registry : Registry) : SimulatorCall → SimDevices
  | .create deviceId user port ipOverride =>
      (createDeviceUserSimulated registry devices deviceId user port ipOverride).2
  | .migrate request =>
      match migrateSingleUserSimulated registry devices request with
      | none => devices
      | some (_, migrated) => migrated
  | .runMigration run => (runMigrationSimulated registry devices run).2
  | .delete deviceId userId deleteBiometricsOnly =>
      (deleteDeviceUserSimulated registry devices deviceId userId deleteBiometricsOnly).2
  | .deleteBatch deviceId userIds deleteBiometricsOnly =>
      (deleteBatchSimulated registry devices deviceId userIds deleteBiometricsOnly).2
  | .reset => resetSimulationState

/-- The devices after a sequence of calls, each with the registry of its moment. -/
def afterCalls (devices : SimDevices) (calls : List (Registry × SimulatorCall)) : SimDevices :=
  calls.foldl (fun current (registry, call) => call.after current registry) devices

end

end PumoBioMetric.Core
