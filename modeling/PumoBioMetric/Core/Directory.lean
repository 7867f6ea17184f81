import PumoBioMetric.Core.PinResolution

/-!
# The employee directory

`employee_service.py`: employees with their access entries, the fixed branches, and
the readers an operation acts on.  A reader call is a function of a `World`, so an
operation is the same definition over the simulated and over the real readers.
-/

set_option autoImplicit false

namespace PumoBioMetric.Core

open Py FirstMatch

structure AccessEntry where
  deviceSn : String
  pin : Option String
  primary : Bool
  biometricsCleared : Bool
deriving DecidableEq, Repr

def AccessEntry.isFor (sn : String) (entry : AccessEntry) : Bool := entry.deviceSn == sn

@[simp] theorem AccessEntry.isFor_iff (sn : String) (entry : AccessEntry) :
    entry.isFor sn = true ↔ entry.deviceSn = sn := by
  simp [AccessEntry.isFor]

structure TransferRecord where
  fromBranchId : Int
  fromBranchName : String
  toBranchId : Int
  toBranchName : String
  effectiveDate : String
  reason : String
  biometricTransferred : Bool
  biometricMode : Option String
  biometricOk : Bool
deriving DecidableEq, Repr

structure DeviceDeletion where
  deviceSn : String
  pin : String
  ok : Bool
  deleted : Bool
  message : String
  simulated : Bool
deriving DecidableEq, Repr

structure OffboardRecord where
  timestamp : String
  action : String
  deleteMode : String
  deviceResults : List DeviceDeletion
deriving DecidableEq, Repr

/-- `id` is the text `str(emp["id"])`, the only form in which the code uses it. -/
structure Employee where
  id : String
  employeeCode : String
  name : String
  branchId : Int
  access : List AccessEntry
  status : Option String
  terminatedDate : Option String
  transferHistory : List TransferRecord
  offboardHistory : List OffboardRecord
deriving DecidableEq, Repr

abbrev Directory := List Employee

def enrolledAt (id employeeCode name : String) (branchId : Int) (deviceSn pin : String) :
    Employee :=
  ⟨id, employeeCode, name, branchId, [⟨deviceSn, some pin, true, false⟩], none, none, [], []⟩

def defaultEmployees : Directory :=
  [enrolledAt "101" "EMP-101" "Member 1o" 1 "NFZ8254900401" "101",
    enrolledAt "102" "EMP-102" "Gowtham" 1 "NFZ8254900401" "102",
    enrolledAt "111" "EMP-111" "ARULAJAY" 1 "NFZ8254900401" "111",
    enrolledAt "9999" "EMP-9999" "Master Super Admin" 2 "UFZ9876543210" "9999"]

namespace Employee

/-- The first access entry for a reader. -/
def accessFor (employee : Employee) (sn : String) : Option AccessEntry :=
  employee.access.find? (AccessEntry.isFor sn)

/-- The PIN on a reader, else the employee's own id; `none` is the `KeyError` of an
entry without a PIN. -/
def pinOn (employee : Employee) (sn : String) : Option String :=
  match employee.accessFor sn with
  | some entry => entry.pin
  | none => some employee.id

end Employee

/-- Updates the first entry for a reader or appends one. -/
def recordAccess (accessList : List AccessEntry) (sn pin : String) (primary : Bool) :
    List AccessEntry :=
  match accessList.find? (AccessEntry.isFor sn) with
  | some _ =>
      updateFirst (AccessEntry.isFor sn)
        (fun entry => { entry with pin := some pin, primary := entry.primary || primary })
        accessList
  | none => accessList ++ [⟨sn, some pin, primary, false⟩]

theorem listed_of_find? {accessList : List AccessEntry} {sn : String} {entry : AccessEntry}
    (first : accessList.find? (AccessEntry.isFor sn) = some entry) :
    sn ∈ accessList.map AccessEntry.deviceSn :=
  List.mem_map.mpr ⟨entry, List.mem_of_find?_eq_some first, by simpa using List.find?_some first⟩

theorem accessFor_recordAccess (accessList : List AccessEntry) (sn pin : String)
    (primary : Bool) :
    ∃ entry, (recordAccess accessList sn pin primary).find? (AccessEntry.isFor sn) = some entry ∧
      entry.deviceSn = sn ∧ entry.pin = some pin := by
  unfold recordAccess
  split
  · rename_i entry first
    have owner : entry.deviceSn = sn := by simpa using List.find?_some first
    refine ⟨{ entry with pin := some pin, primary := entry.primary || primary }, ?_, owner, rfl⟩
    exact find?_updateFirst _ _ first (by simpa using owner)
  · rename_i missing
    refine ⟨⟨sn, some pin, primary, false⟩, ?_, rfl, rfl⟩
    simp [List.find?_append, missing]

theorem mem_recordAccess_of_eraseP {accessList : List AccessEntry} {entry : AccessEntry}
    {sn : String} (pin : String) (primary : Bool)
    (member : entry ∈ accessList.eraseP (AccessEntry.isFor sn)) :
    entry ∈ recordAccess accessList sn pin primary := by
  unfold recordAccess
  split
  · exact mem_updateFirst_of_eraseP _ _ member
  · exact List.mem_append_left _ (List.mem_of_mem_eraseP member)

section

variable [UnicodeTables]

/-- The lookup by id or, ignoring case, by employee code. -/
def Employee.answersTo (targetId : String) (employee : Employee) : Bool :=
  employee.id == targetId || lower employee.employeeCode == lower targetId

def findEmployee (employees : Directory) (employeeId : String) : Option Employee :=
  employees.find? (Employee.answersTo (strip employeeId))

/-- `save_employees` after the record that was found has been changed in place. -/
def saveEmployee (employees : Directory) (employeeId : String) (changed : Employee) :
    Directory :=
  updateFirst (Employee.answersTo (strip employeeId)) (fun _ => changed) employees

theorem findEmployee_saveEmployee {employees : Directory} {employeeId : String}
    {employee changed : Employee} (found : findEmployee employees employeeId = some employee)
    (sameId : changed.id = employee.id) (sameCode : changed.employeeCode = employee.employeeCode) :
    findEmployee (saveEmployee employees employeeId changed) employeeId = some changed := by
  apply find?_updateFirst _ _ found
  have answers := List.find?_some found
  simpa [Employee.answersTo, sameId, sameCode] using answers

def sameRecord (employees : Directory) (left right : String) : Bool :=
  employees.findIdx? (Employee.answersTo (strip left)) ==
    employees.findIdx? (Employee.answersTo (strip right))

theorem findEmployee_of_sameRecord {employees : Directory} {left right : String}
    (same : sameRecord employees left right = true) :
    findEmployee employees left = findEmployee employees right :=
  find?_of_findIdx?_eq _ (by simpa [sameRecord] using same)

theorem findEmployee_saveEmployee_other {employees : Directory} {employeeId other : String}
    {employee changed : Employee} (found : findEmployee employees employeeId = some employee)
    (sameId : changed.id = employee.id) (sameCode : changed.employeeCode = employee.employeeCode) :
    findEmployee (saveEmployee employees employeeId changed) other =
      if sameRecord employees employeeId other = true then some changed
      else findEmployee employees other := by
  have kept : ∀ item, employees.find? (Employee.answersTo (strip employeeId)) = some item →
      Employee.answersTo (strip other) changed = Employee.answersTo (strip other) item := by
    intro item first
    cases first.symm.trans found
    simp [Employee.answersTo, sameId, sameCode]
  unfold findEmployee at found
  unfold findEmployee saveEmployee sameRecord
  rw [find?_updateFirst_other _ _ kept, found]
  simp

end

/-! ## Branches -/

structure BranchDevice where
  sn : String
  name : String
  ip : String
  port : Int
deriving DecidableEq, Repr

structure Branch where
  id : Int
  code : String
  name : String
  devices : List BranchDevice
deriving DecidableEq, Repr

/-- `DEFAULT_BRANCHES`: id, code, name and reader serials. -/
def defaultBranches : List (Int × String × String × List String) :=
  [(1, "BR-01", "Main Campus (HQ)", ["NFZ8254900401"]),
    (2, "BR-02", "Floor 2 / City Branch", ["UFZ9876543210"]),
    (3, "BR-03", "Annex / Workshop", ["NFZ8242802542"]),
    (4, "BR-04", "Regional Center", ["ZK1"])]

def branchDevice (registered : Registry) (sn : String) : BranchDevice :=
  match registered.lookup sn with
  | some info => ⟨sn, info.name, info.ip, info.port.getD 4370⟩
  | none => ⟨sn, "Reader (" ++ sn ++ ")", "", 4370⟩

def getBranches (registered : Registry) : List Branch :=
  defaultBranches.map fun (id, code, name, serials) =>
    ⟨id, code, name, serials.map (branchDevice registered)⟩

def branchById (registered : Registry) (branchId : Int) : Option Branch :=
  (getBranches registered).find? fun branch => branch.id == branchId

def firstReader (branch : Option Branch) : Option BranchDevice :=
  branch.bind fun found => found.devices.head?

theorem firstReader_sn_ne_empty {registered : Registry} {branchId : Int} {device : BranchDevice}
    (first : firstReader (branchById registered branchId) = some device) : device.sn ≠ "" := by
  obtain ⟨branch, found, head⟩ := Option.bind_eq_some_iff.mp first
  have member := List.mem_of_find?_eq_some found
  have ownSerial : ∀ sn, (branchDevice registered sn).sn = sn := by
    intro sn
    unfold branchDevice
    split <;> rfl
  simp only [getBranches, defaultBranches, List.map_cons, List.map_nil, List.mem_cons,
    List.not_mem_nil, or_false] at member
  rcases member with rfl | rfl | rfl | rfl <;>
    · cases head
      rw [ownSerial]
      decide

/-! ## The readers an operation acts on -/

/-- The reader calls of `device_migration.py`; `none` is an exception leaving the call. -/
structure Readers (World : Type) where
  resolveTargetPin : World → String → String → String → Option (PinCheck × World)
  migrate : World → MigrationRequest → Int → Int → Option (MigrationResult × World)
  deleteDeviceUser : World → String → String → Int → Bool → DeleteResult × World

def simulatedReaders [UnicodeTables] (registry : Registry) : Readers SimDevices where
  resolveTargetPin := fun devices targetSn preferredPin userName =>
    (resolveTargetPinSimulated registry devices targetSn preferredPin (some userName)).map
      fun check => (check, devices)
  migrate := fun devices request _ _ => migrateSingleUserSimulated registry devices request
  deleteDeviceUser := fun devices deviceSn pin _ deleteBiometricsOnly =>
    deleteDeviceUserSimulated registry devices deviceSn pin deleteBiometricsOnly

def registeredPort (registered : Registry) (sn : String) : Int :=
  match registered.lookup sn with
  | some info => info.port.getD 4370
  | none => 4370

end PumoBioMetric.Core
