import PumoBioMetric.Core.Directory

/-!
# Transfer, grant, revoke and dismissal

The four operations of `employee_service.py` that act on the readers.  Each loads the
directory, acts, and saves it: here it maps a directory and a world to the result, the
directory then on disk and the world.  `none` is an exception, after which nothing is
saved.
-/

set_option autoImplicit false

namespace PumoBioMetric.Core

open Py FirstMatch

/-! ## Results -/

/-- The migration dict with the keys that the employee operations add to it. -/
structure MigrationReport where
  migration : MigrationResult
  sourceDevice : Option String
  targetDevice : Option String
  isPinMapped : Bool
  targetPin : String
deriving DecidableEq, Repr

inductive BiometricResult where
  | skipped (reason : String)
  | migrated (report : MigrationReport)
deriving DecidableEq, Repr

def BiometricResult.ok : BiometricResult → Bool
  | .skipped _ => true
  | .migrated report => report.migration.ok

structure TransferResult where
  ok : Bool
  error : Option String
  employee : Option Employee
  fromBranch : Option Branch
  toBranch : Option Branch
  effectiveDate : Option String
  biometric : Option BiometricResult
  message : Option String
deriving DecidableEq, Repr

structure GrantResult where
  ok : Bool
  error : Option String
  employee : Option Employee
  biometric : Option MigrationReport
  message : Option String
deriving DecidableEq, Repr

structure RevokeResult where
  ok : Bool
  error : Option String
  employee : Option Employee
  deleted : Bool
  biometricsOnly : Bool
  message : Option String
deriving DecidableEq, Repr

structure FireResult where
  ok : Bool
  error : Option String
  employee : Option Employee
  action : String
  deleteMode : String
  devicesContacted : Nat
  biometricsWipedCount : Nat
  deviceResults : List DeviceDeletion
  message : Option String
deriving DecidableEq, Repr

section

variable [UnicodeTables] {World : Type} (readers : Readers World) (registered : Registry)

/-! ## Migrating an employee to another reader -/

def enrolRequest (srcSn tgtSn empPin mode targetPin : String) : MigrationRequest :=
  ⟨some srcSn, some tgtSn, empPin, mode, some targetPin, none, none, none, none⟩

/-- The PIN on the source reader, the PIN check on the target and the migration, as
`transfer_employee` and `grant_multi_branch_access` both do them. -/
def migrateEmployee (world : World) (emp : Employee) (srcSn tgtSn : String)
    (srcPort tgtPort : Int) (mode : String) :
    Option (PinCheck × MigrationResult × World) :=
  (emp.pinOn srcSn).bind fun empPin =>
    (readers.resolveTargetPin world tgtSn empPin emp.name).bind fun (pinCheck, checked) =>
      (readers.migrate checked (enrolRequest srcSn tgtSn empPin mode pinCheck.targetPin)
        srcPort tgtPort).map fun (res, migrated) => (pinCheck, res, migrated)

/-! ## `transfer_employee` -/

structure TransferArgs where
  employeeId : String
  toBranchId : Int
  effectiveDate : Option String
  reason : Option String
  transferBiometric : Bool
  biometricMode : String
deriving DecidableEq, Repr

def transferMode (biometricMode : String) : String :=
  let mode := strip (lower biometricMode)
  if mode = "move" ∨ mode = "copy" then mode else "move"

def accessAfterTransfer (mode : String) (accessList : List AccessEntry)
    (srcSn tgtSn targetPin : String) : List AccessEntry :=
  if mode = "move" then
    recordAccess (accessList.filter fun entry => !entry.isFor srcSn) tgtSn targetPin true
  else
    recordAccess accessList tgtSn targetPin false

def transferBiometrics (world : World) (emp : Employee) (fromBranch : Option Branch)
    (toBranch : Branch) (mode : String) :
    Option (BiometricResult × List AccessEntry × World) :=
  let fromName := (fromBranch.map Branch.name).getD (toString emp.branchId)
  match firstReader fromBranch with
  | none =>
      some (.skipped ("Current branch (" ++ fromName ++ ") has no registered biometric readers."),
        emp.access, world)
  | some srcDev =>
    match firstReader (some toBranch) with
    | none =>
        some (.skipped
          ("Target branch (" ++ toBranch.name ++ ") has no registered biometric readers."),
          emp.access, world)
    | some tgtDev =>
      (migrateEmployee readers world emp srcDev.sn tgtDev.sn srcDev.port tgtDev.port mode).map
        fun (pinCheck, res, migrated) =>
          (.migrated ⟨res.toDict, some srcDev.sn, some tgtDev.sn, pinCheck.isMapped,
            pinCheck.targetPin⟩,
            if res.ok then
              accessAfterTransfer mode emp.access srcDev.sn tgtDev.sn pinCheck.targetPin
            else emp.access,
            migrated)

/-- `a or b` of an optional text. -/
def orElseText (text : Option String) (default : String) : String := firstTruthy [text] default

def transferRecord (emp : Employee) (fromBranch : Option Branch) (toBranch : Branch)
    (today : String) (args : TransferArgs) (biometric : Option BiometricResult) :
    TransferRecord where
  fromBranchId := emp.branchId
  fromBranchName := (fromBranch.map Branch.name).getD ("Branch " ++ toString emp.branchId)
  toBranchId := args.toBranchId
  toBranchName := toBranch.name
  effectiveDate := orElseText args.effectiveDate today
  reason := orElseText args.reason "Transferred to new campus"
  biometricTransferred := args.transferBiometric
  biometricMode := if args.transferBiometric then some (transferMode args.biometricMode) else none
  biometricOk := (biometric.map BiometricResult.ok).getD false

def TransferResult.failed (error : String) : TransferResult :=
  ⟨false, some error, none, none, none, none, none, none⟩

def transferEmployee (today : String) (employees : Directory) (world : World)
    (args : TransferArgs) : Option (TransferResult × Directory × World) :=
  match findEmployee employees args.employeeId with
  | none =>
      some (.failed ("Employee " ++ args.employeeId ++ " not found."), employees, world)
  | some emp =>
    if emp.branchId = args.toBranchId then
      some (.failed "Destination branch must be different from current branch.",
        employees, world)
    else
      match branchById registered args.toBranchId with
      | none =>
          some (.failed
            ("Destination branch ID " ++ toString args.toBranchId ++ " does not exist."),
            employees, world)
      | some toBranch =>
        let fromBranch := branchById registered emp.branchId
        let biometrics : Option (Option BiometricResult × List AccessEntry × World) :=
          if args.transferBiometric then
            (transferBiometrics readers world emp fromBranch toBranch
              (transferMode args.biometricMode)).map
                fun (result, accessList, migrated) => (some result, accessList, migrated)
          else some (none, emp.access, world)
        biometrics.map fun (biometric, accessList, migrated) =>
          let changed : Employee := { emp with
            access := accessList
            branchId := args.toBranchId
            transferHistory := emp.transferHistory ++
              [transferRecord emp fromBranch toBranch today args biometric] }
          (⟨true, none, some changed, fromBranch, some toBranch,
            some (orElseText args.effectiveDate today), biometric,
            some ("Successfully transferred " ++ emp.name ++ " to " ++ toBranch.name ++ ".")⟩,
            saveEmployee employees args.employeeId changed, migrated)

/-! ## `grant_multi_branch_access` -/

structure GrantArgs where
  employeeId : String
  targetBranchId : Option Int
  targetDeviceSn : Option String
deriving DecidableEq, Repr

/-- The serial and port of the reader a grant is for. -/
def grantTarget (args : GrantArgs) : Option (String × Int) :=
  match args.targetDeviceSn.filter fun sn => sn != "" with
  | some sn => some (sn, registeredPort registered sn)
  | none =>
    (args.targetBranchId.filter fun branchId => branchId != 0).bind fun branchId =>
      (firstReader (branchById registered branchId)).map fun tgtDev => (tgtDev.sn, tgtDev.port)

def GrantResult.failed (error : String) : GrantResult :=
  ⟨false, some error, none, none, none⟩

def grantMultiBranchAccess (employees : Directory) (world : World) (args : GrantArgs) :
    Option (GrantResult × Directory × World) :=
  match findEmployee employees args.employeeId with
  | none =>
      some (.failed ("Employee " ++ args.employeeId ++ " not found."), employees, world)
  | some emp =>
    match firstReader (branchById registered emp.branchId) with
    | none =>
        some (.failed ("Employee's home branch (" ++ toString emp.branchId ++
          ") has no reader to copy biometrics from."), employees, world)
    | some srcDev =>
      match grantTarget registered args with
      | none =>
          some (.failed "Target branch or device Serial Number is required.", employees, world)
      | some (tgtSn, tgtPort) =>
        (migrateEmployee readers world emp srcDev.sn tgtSn srcDev.port tgtPort "copy").map
          fun (pinCheck, res, migrated) =>
            let changed : Employee :=
              if res.ok then
                { emp with access := recordAccess emp.access tgtSn pinCheck.targetPin false }
              else emp
            (⟨res.ok, none, some changed,
              some ⟨res.toDict, none, none, pinCheck.isMapped, pinCheck.targetPin⟩,
              some ("Multi-branch access to " ++ tgtSn ++
                (if res.ok then " granted successfully." else " failed."))⟩,
              if res.ok then saveEmployee employees args.employeeId changed else employees,
              migrated)

/-! ## `revoke_employee_device_access` -/

structure RevokeArgs where
  employeeId : String
  deviceSn : String
  deleteBiometricsOnly : Bool
deriving DecidableEq, Repr

def RevokeResult.failed (error : String) : RevokeResult :=
  ⟨false, some error, none, false, false, none⟩

def revokedEmployee (emp : Employee) (args : RevokeArgs) : Employee :=
  if args.deleteBiometricsOnly then
    { emp with access := emp.access.map fun entry =>
        if entry.isFor args.deviceSn then { entry with biometricsCleared := true } else entry }
  else
    { emp with access := emp.access.filter fun entry => !entry.isFor args.deviceSn }

def revokeEmployeeDeviceAccess (employees : Directory) (world : World) (args : RevokeArgs) :
    Option (RevokeResult × Directory × World) :=
  match findEmployee employees args.employeeId with
  | none =>
      some (.failed ("Employee " ++ args.employeeId ++ " not found."), employees, world)
  | some emp =>
    (emp.pinOn args.deviceSn).map fun pin =>
      let (delRes, wiped) := readers.deleteDeviceUser world args.deviceSn pin
        (registeredPort registered args.deviceSn) args.deleteBiometricsOnly
      let changed := if delRes.ok then revokedEmployee emp args else emp
      (⟨delRes.ok, none, some changed, delRes.deleted, args.deleteBiometricsOnly,
        some (delRes.message.getD
          ("Revoked access for " ++ emp.name ++ " on " ++ args.deviceSn ++ "."))⟩,
        if delRes.ok then saveEmployee employees args.employeeId changed else employees, wiped)

/-! ## `fire_employee_and_wipe_biometrics` -/

structure FireArgs where
  employeeId : String
  action : String
  deviceSn : Option String
  deleteMode : String
deriving DecidableEq, Repr

def FireArgs.deleteBiometricsOnly (args : FireArgs) : Bool := args.deleteMode == "biometrics_only"

/-- The serial of a single-device deletion: the action and a serial that is not empty. -/
def FireArgs.singleDevice (args : FireArgs) : Option String :=
  if args.action = "delete_device" then args.deviceSn.filter fun sn => sn != "" else none

/-- `target_devices`: serials with the PIN to delete there. -/
def targetDevices (emp : Employee) (args : FireArgs) : Option (List (String × String)) :=
  match args.singleDevice with
  | some sn => (emp.pinOn sn).map fun pin => [(sn, pin)]
  | none =>
    match emp.access with
    | [] => some (registered.map fun entry => (entry.1, emp.id))
    | accessList => some (accessList.map fun entry => (entry.deviceSn, entry.pin.getD emp.id))

def deleteFromReaders (deleteBiometricsOnly : Bool) :
    World → List (String × String) → List DeviceDeletion × World
  | world, [] => ([], world)
  | world, (sn, pin) :: rest =>
      let (res, wiped) := readers.deleteDeviceUser world sn pin (registeredPort registered sn)
        deleteBiometricsOnly
      let (results, final) := deleteFromReaders deleteBiometricsOnly wiped rest
      (⟨sn, pin, res.ok, res.deleted, res.message.getD "", res.simulated⟩ :: results, final)

def FireResult.failed (error : String) : FireResult :=
  ⟨false, some error, none, "", "", 0, 0, [], none⟩

/-- The employee after the loop, whatever its outcomes. -/
def firedEmployee (today : String) (emp : Employee) (args : FireArgs)
    (deviceResults : List DeviceDeletion) : Employee :=
  let history := emp.offboardHistory ++ [⟨today, args.action, args.deleteMode, deviceResults⟩]
  if args.action = "fire_all" then
    { emp with
      status := some "Terminated"
      terminatedDate := some today
      access := []
      offboardHistory := history }
  else
    { emp with
      access := emp.access.filter fun entry => !(args.deviceSn == some entry.deviceSn)
      offboardHistory := history }

def fireEmployeeAndWipeBiometrics (today : String) (employees : Directory) (world : World)
    (args : FireArgs) : Option (FireResult × Directory × World) :=
  match findEmployee employees args.employeeId with
  | none =>
      some (.failed ("Employee " ++ args.employeeId ++ " not found."), employees, world)
  | some emp =>
    (targetDevices registered emp args).map fun targets =>
      let (deviceResults, wiped) :=
        deleteFromReaders readers registered args.deleteBiometricsOnly world targets
      let changed := firedEmployee today emp args deviceResults
      let wipedCount := (deviceResults.filter DeviceDeletion.deleted).length
      (⟨true, none, some changed, args.action, args.deleteMode, deviceResults.length,
        wipedCount, deviceResults,
        some ("Offboarding completed for " ++ emp.name ++ ": " ++ toString wipedCount ++
          " device reader(s) updated.")⟩,
        saveEmployee employees args.employeeId changed, wiped)

end

/-! ## The edited access list -/

theorem accessFor_accessAfterTransfer (mode : String) (accessList : List AccessEntry)
    (srcSn tgtSn targetPin : String) :
    ∃ entry, (accessAfterTransfer mode accessList srcSn tgtSn targetPin).find?
        (AccessEntry.isFor tgtSn) = some entry ∧
      entry.deviceSn = tgtSn ∧ entry.pin = some targetPin := by
  unfold accessAfterTransfer
  split <;> exact accessFor_recordAccess _ _ _ _

/-! ## The changed record keeps what the lookup reads -/

@[simp] theorem revokedEmployee_id (emp : Employee) (args : RevokeArgs) :
    (revokedEmployee emp args).id = emp.id := by
  unfold revokedEmployee
  split <;> rfl

@[simp] theorem revokedEmployee_employeeCode (emp : Employee) (args : RevokeArgs) :
    (revokedEmployee emp args).employeeCode = emp.employeeCode := by
  unfold revokedEmployee
  split <;> rfl

@[simp] theorem firedEmployee_id (today : String) (emp : Employee) (args : FireArgs)
    (deviceResults : List DeviceDeletion) :
    (firedEmployee today emp args deviceResults).id = emp.id := by
  unfold firedEmployee
  split <;> rfl

@[simp] theorem firedEmployee_employeeCode (today : String) (emp : Employee) (args : FireArgs)
    (deviceResults : List DeviceDeletion) :
    (firedEmployee today emp args deviceResults).employeeCode = emp.employeeCode := by
  unfold firedEmployee
  split <;> rfl

end PumoBioMetric.Core
