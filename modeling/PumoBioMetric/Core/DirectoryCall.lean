import PumoBioMetric.Core.AccessRemoval
import PumoBioMetric.Core.SimulatedEnrolment

/-!
# The operations on one employee, on the simulated readers

Enrolments, revocation and dismissal as one kind of call.  A revocation or dismissal
is a list of profile deletions, one for each serial it contacts.
-/

set_option autoImplicit false

namespace PumoBioMetric.Core

open Py FirstMatch

inductive DirectoryCall where
  | enrol (call : EnrolCall)
  | remove (call : RemovalCall)
deriving DecidableEq, Repr

def DirectoryCall.employeeId : DirectoryCall → String
  | enrol call => call.employeeId
  | remove call => call.employeeId

/-- The migration the call reports, the directory then on disk and the world. -/
def DirectoryCall.run [UnicodeTables] {World : Type} (readers : Readers World)
    (registered : Registry) (today : String) (employees : Directory) (world : World) :
    DirectoryCall → Option (Option MigrationReport × Directory × World)
  | enrol call => call.run readers registered today employees world
  | remove (.revoke args) =>
      (revokeEmployeeDeviceAccess readers registered employees world args).map
        fun (_, saved, wiped) => (none, saved, wiped)
  | remove (.fire args) =>
      (fireEmployeeAndWipeBiometrics readers registered today employees world args).map
        fun (_, saved, wiped) => (none, saved, wiped)

/-- Whether only fingerprints are deleted, and the serials and PINs of the deletions. -/
def RemovalCall.deletions (registered : Registry) (emp : Employee) :
    RemovalCall → Option (Bool × List (String × String))
  | revoke args =>
      (emp.pinOn args.deviceSn).map fun pin =>
        (args.deleteBiometricsOnly, [(args.deviceSn, pin)])
  | fire args =>
      (targetDevices registered emp args).map fun targets => (args.deleteBiometricsOnly, targets)

def RemovalCall.changed (today : String) (emp : Employee) (deviceResults : List DeviceDeletion) :
    RemovalCall → Employee
  | revoke args => if deviceResults.all DeviceDeletion.ok then revokedEmployee emp args else emp
  | fire args => firedEmployee today emp args deviceResults

/-! ## One deletion -/

/-- A deletion on the users of one device: of every match, or of the first match's
fingerprints. -/
def deleteUser (biometricsOnly : Bool) (pin : String) (users : List SimUser) : List SimUser :=
  if biometricsOnly then
    updateFirst (SimUser.hasId pin) SimUser.clearFingers users
  else users.filter fun user => !user.hasId pin

theorem deleteUser_absent {biometricsOnly : Bool} {pin : String} {users : List SimUser}
    (absent : users.find? (SimUser.hasId pin) = none) :
    deleteUser biometricsOnly pin users = users := by
  unfold deleteUser
  split
  · exact updateFirst_of_none _ _ absent
  · rw [List.filter_eq_self]
    intro user member
    have other := List.find?_eq_none.mp absent user member
    simpa [SimUser.hasId] using other

theorem filter_deleteUser (biometricsOnly : Bool) {pin other : String} (users : List SimUser)
    (apart : other ≠ pin) :
    (deleteUser biometricsOnly pin users).filter (SimUser.hasId other) =
      users.filter (SimUser.hasId other) := by
  unfold deleteUser
  split
  · apply filter_updateFirst
    · intro user held
      simp only [SimUser.hasId_iff] at held
      simp [SimUser.hasId, held, apart.symm]
    · intro user _
      rfl
  · exact filter_without_other users apart

theorem userIds_deleteUser_biometrics (pin : String) (users : List SimUser) :
    (deleteUser true pin users).map SimUser.userId = users.map SimUser.userId := by
  simp only [deleteUser, if_true]
  exact map_updateFirst _ SimUser.clearFingers fun _ _ _ => rfl

theorem mem_userIds_deleteUser_full (pin other : String) (users : List SimUser) :
    other ∈ (deleteUser false pin users).map SimUser.userId ↔
      other ∈ users.map SimUser.userId ∧ other ≠ pin := by
  simp only [deleteUser, Bool.false_eq_true, if_false, List.mem_map, List.mem_filter,
    Bool.not_eq_true', SimUser.hasId, beq_eq_false_iff_ne]
  constructor
  · rintro ⟨user, ⟨member, differs⟩, rfl⟩
    exact ⟨⟨user, member, rfl⟩, differs⟩
  · rintro ⟨⟨user, member, rfl⟩, differs⟩
    exact ⟨user, ⟨member, differs⟩, rfl⟩

section

variable [UnicodeTables] (registry : Registry)

def applyDeletion (biometricsOnly : Bool) (devices : SimDevices) (target : String × String) :
    SimDevices :=
  match simulatedDevice registry target.1 with
  | none => devices
  | some device =>
      devices.setUsers device (deleteUser biometricsOnly target.2 (devices.users device))

theorem deleteDeviceUserSimulated_devices (devices : SimDevices) (sn pin : String)
    (biometricsOnly : Bool) :
    (deleteDeviceUserSimulated registry devices sn pin biometricsOnly).2 =
      applyDeletion registry biometricsOnly devices (sn, pin) := by
  unfold deleteDeviceUserSimulated applyDeletion
  cases simulatedDevice registry sn with
  | none => rfl
  | some device =>
      cases first : (devices.users device).find? (SimUser.hasId pin) with
      | none => simp [first, deleteUser_absent first, SimDevices.setUsers_self]
      | some user => cases biometricsOnly <;> simp [first, deleteUser]

theorem deleteDeviceUserSimulated_ok (devices : SimDevices) (sn pin : String)
    (biometricsOnly : Bool) :
    (deleteDeviceUserSimulated registry devices sn pin biometricsOnly).1.ok =
      (simulatedDevice registry sn).isSome := by
  unfold deleteDeviceUserSimulated
  cases simulatedDevice registry sn with
  | none => rfl
  | some device =>
      cases first : (devices.users device).find? (SimUser.hasId pin) with
      | none => simp [first]
      | some user => cases biometricsOnly <;> simp [first]

theorem deleteFromReaders_devices (biometricsOnly : Bool) (devices : SimDevices)
    (targets : List (String × String)) :
    (deleteFromReaders (simulatedReaders registry) registry biometricsOnly devices targets).2 =
      targets.foldl (applyDeletion registry biometricsOnly) devices := by
  induction targets generalizing devices with
  | nil => rfl
  | cons target rest ih =>
      simp only [deleteFromReaders, List.foldl_cons, ih]
      rw [← deleteDeviceUserSimulated_devices]
      rfl

variable {registry} {devices : SimDevices}

theorem filter_applyDeletion (biometricsOnly : Bool) {target : String × String}
    {device : SimDevice} {pin : String}
    (apart : simulatedDevice registry target.1 = some device → pin ≠ target.2) :
    ((applyDeletion registry biometricsOnly devices target).users device).filter
        (SimUser.hasId pin) =
      (devices.users device).filter (SimUser.hasId pin) := by
  unfold applyDeletion
  cases named : simulatedDevice registry target.1 with
  | none => rfl
  | some other =>
      by_cases same : device = other
      · subst same
        simp only [SimDevices.users_setUsers_same]
        exact filter_deleteUser biometricsOnly _ (apart named)
      · simp only [SimDevices.users_setUsers_other _ _ same]

theorem userIds_applyDeletion_subset {biometricsOnly : Bool} {target : String × String}
    {device : SimDevice} {pin : String}
    (listed : pin ∈ ((applyDeletion registry biometricsOnly devices target).users device).map
      SimUser.userId) :
    pin ∈ (devices.users device).map SimUser.userId := by
  unfold applyDeletion at listed
  cases named : simulatedDevice registry target.1 with
  | none => rwa [named] at listed
  | some other =>
      rw [named] at listed
      by_cases same : device = other
      · subst same
        rw [SimDevices.users_setUsers_same] at listed
        cases biometricsOnly with
        | true => rwa [userIds_deleteUser_biometrics] at listed
        | false => exact ((mem_userIds_deleteUser_full _ _ _).mp listed).1
      · rwa [SimDevices.users_setUsers_other _ _ same] at listed

theorem notMem_applyDeletion_full {target : String × String} {device : SimDevice}
    (named : simulatedDevice registry target.1 = some device) :
    target.2 ∉ ((applyDeletion registry false devices target).users device).map
      SimUser.userId := by
  simp [applyDeletion, named, mem_userIds_deleteUser_full]

theorem userIds_applyDeletion_biometrics (target : String × String) (device : SimDevice) :
    ((applyDeletion registry true devices target).users device).map SimUser.userId =
      (devices.users device).map SimUser.userId := by
  unfold applyDeletion
  cases simulatedDevice registry target.1 with
  | none => rfl
  | some other =>
      by_cases same : device = other
      · subst same
        rw [SimDevices.users_setUsers_same, userIds_deleteUser_biometrics]
      · rw [SimDevices.users_setUsers_other _ _ same]

def Wiped (devices : SimDevices) (device : SimDevice) (pin : String) : Prop :=
  ∀ user, (devices.users device).find? (SimUser.hasId pin) = some user → user.fingers = []

theorem wiped_applyDeletion {target : String × String} {device : SimDevice}
    (named : simulatedDevice registry target.1 = some device) :
    Wiped (applyDeletion registry true devices target) device target.2 := by
  intro user first
  simp only [applyDeletion, named, SimDevices.users_setUsers_same, deleteUser, if_true] at first
  cases before : (devices.users device).find? (SimUser.hasId target.2) with
  | none => simp [updateFirst_of_none _ _ before, before] at first
  | some old =>
      have held : old.hasId target.2 = true := List.find?_some before
      have owner : old.clearFingers.hasId target.2 = true := held
      rw [find?_updateFirst _ _ before owner] at first
      cases first
      rfl

theorem Wiped.applyDeletion {device : SimDevice} {pin : String}
    (wiped : Wiped devices device pin) (target : String × String) :
    Wiped (Core.applyDeletion registry true devices target) device pin := by
  by_cases hit : simulatedDevice registry target.1 = some device ∧ pin = target.2
  · obtain ⟨named, rfl⟩ := hit
    exact wiped_applyDeletion named
  · intro user first
    have same : ((Core.applyDeletion registry true devices target).users device).filter
        (SimUser.hasId pin) = (devices.users device).filter (SimUser.hasId pin) :=
      filter_applyDeletion true fun named samePin => hit ⟨named, samePin⟩
    rw [find?_of_filter_eq same] at first
    exact wiped user first

/-! ## A list of deletions -/

theorem userIds_deletions_subset {biometricsOnly : Bool} {targets : List (String × String)}
    {device : SimDevice} {pin : String}
    (listed : pin ∈ ((targets.foldl (applyDeletion registry biometricsOnly) devices).users
      device).map SimUser.userId) :
    pin ∈ (devices.users device).map SimUser.userId := by
  induction targets generalizing devices with
  | nil => exact listed
  | cons target rest ih => exact userIds_applyDeletion_subset (ih listed)

theorem notMem_deletions_full {targets : List (String × String)} {target : String × String}
    {device : SimDevice} (member : target ∈ targets)
    (named : simulatedDevice registry target.1 = some device) :
    target.2 ∉ ((targets.foldl (applyDeletion registry false) devices).users device).map
      SimUser.userId := by
  induction targets generalizing devices with
  | nil => simp at member
  | cons head rest ih =>
      rcases List.mem_cons.mp member with rfl | later
      · intro listed
        exact notMem_applyDeletion_full named (userIds_deletions_subset listed)
      · exact ih later

theorem userIds_deletions_biometrics (targets : List (String × String)) (device : SimDevice) :
    ((targets.foldl (applyDeletion registry true) devices).users device).map SimUser.userId =
      (devices.users device).map SimUser.userId := by
  induction targets generalizing devices with
  | nil => rfl
  | cons target rest ih =>
      rw [List.foldl_cons, ih, userIds_applyDeletion_biometrics]

theorem Wiped.deletions {device : SimDevice} {pin : String} (wiped : Wiped devices device pin)
    (targets : List (String × String)) :
    Wiped (targets.foldl (Core.applyDeletion registry true) devices) device pin := by
  induction targets generalizing devices with
  | nil => exact wiped
  | cons target rest ih => exact ih (wiped.applyDeletion target)

theorem wiped_deletions {targets : List (String × String)} {target : String × String}
    {device : SimDevice} (member : target ∈ targets)
    (named : simulatedDevice registry target.1 = some device) :
    Wiped (targets.foldl (applyDeletion registry true) devices) device target.2 := by
  induction targets generalizing devices with
  | nil => simp at member
  | cons head rest ih =>
      rcases List.mem_cons.mp member with rfl | later
      · exact (wiped_applyDeletion named).deletions rest
      · exact ih later

/-! ## The deletions of a call -/

variable {today : String} {employees saved : Directory} {after : SimDevices}

theorem remove_unknown {call : RemovalCall}
    (missing : findEmployee employees call.employeeId = none) :
    DirectoryCall.run (simulatedReaders registry) registry today employees devices
      (.remove call) = some (none, employees, devices) := by
  cases call with
  | revoke args =>
      change findEmployee employees args.employeeId = none at missing
      simp [DirectoryCall.run, revokeEmployeeDeviceAccess, missing]
  | fire args =>
      change findEmployee employees args.employeeId = none at missing
      simp [DirectoryCall.run, fireEmployeeAndWipeBiometrics, missing]

/-- A revocation or dismissal is its deletions and the save of the changed record. -/
theorem remove_run {call : RemovalCall} {emp : Employee}
    (found : findEmployee employees call.employeeId = some emp) :
    DirectoryCall.run (simulatedReaders registry) registry today employees devices
        (.remove call) =
      (call.deletions registry emp).map fun (biometricsOnly, targets) =>
        (none,
          saveEmployee employees call.employeeId (call.changed today emp
            (deleteFromReaders (simulatedReaders registry) registry biometricsOnly devices
              targets).1),
          targets.foldl (applyDeletion registry biometricsOnly) devices) := by
  cases call with
  | revoke args =>
      change findEmployee employees args.employeeId = some emp at found
      simp only [DirectoryCall.run, revokeEmployeeDeviceAccess, found, RemovalCall.deletions,
        Option.map_map]
      congr 1
      funext pin
      have devicesAfter := deleteDeviceUserSimulated_devices registry devices args.deviceSn pin
        args.deleteBiometricsOnly
      cases ok : (deleteDeviceUserSimulated registry devices args.deviceSn pin
          args.deleteBiometricsOnly).1.ok with
      | true =>
          simp [Function.comp, simulatedReaders, deleteFromReaders, RemovalCall.changed,
            RemovalCall.employeeId, ok, devicesAfter]
      | false =>
          simp [Function.comp, simulatedReaders, deleteFromReaders, RemovalCall.changed,
            RemovalCall.employeeId, ok, devicesAfter, saveEmployee_self found]
  | fire args =>
      change findEmployee employees args.employeeId = some emp at found
      simp only [DirectoryCall.run, fireEmployeeAndWipeBiometrics, found, RemovalCall.deletions,
        Option.map_map]
      congr 1
      funext targets
      simp [Function.comp, RemovalCall.changed, RemovalCall.employeeId,
        deleteFromReaders_devices]

end

end PumoBioMetric.Core
