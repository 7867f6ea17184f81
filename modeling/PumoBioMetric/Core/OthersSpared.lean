import PumoBioMetric.Core.DirectoryCall

/-!
# One employee's operations and the other employees' profiles

A call chooses a PIN on each reader it touches: the one of the access entry, else the
employee's own id.  Whose profile that PIN is on the reader is not looked at, and two
serials may name one reader.
-/

set_option autoImplicit false

namespace PumoBioMetric.Core

open Py FirstMatch

/-! ## What can happen to a profile -/

def Removed (before after : SimDevices) (device : SimDevice) (pin : String) : Prop :=
  pin ∈ (before.users device).map SimUser.userId ∧
    pin ∉ (after.users device).map SimUser.userId

def FingersCleared (before after : SimDevices) (device : SimDevice) (pin : String) : Prop :=
  ∃ user left, (before.users device).find? (SimUser.hasId pin) = some user ∧
    user.fingers ≠ [] ∧
    (after.users device).find? (SimUser.hasId pin) = some left ∧ left.fingers = []

theorem not_removed_of_filter_eq {before after : SimDevices} {device : SimDevice} {pin : String}
    (same : (after.users device).filter (SimUser.hasId pin) =
      (before.users device).filter (SimUser.hasId pin)) : ¬ Removed before after device pin := by
  rintro ⟨listed, gone⟩
  rw [← find?_hasId_eq_none, find?_of_filter_eq same, find?_hasId_eq_none] at gone
  exact gone listed

theorem not_cleared_of_filter_eq {before after : SimDevices} {device : SimDevice} {pin : String}
    (same : (after.users device).filter (SimUser.hasId pin) =
      (before.users device).filter (SimUser.hasId pin)) :
    ¬ FingersCleared before after device pin := by
  rintro ⟨user, left, first, fingers, firstLeft, none⟩
  rw [find?_of_filter_eq same, first] at firstLeft
  cases firstLeft
  exact fingers none

section

variable [UnicodeTables] (registry : Registry)

/-- A different employee's access list names the PIN on the device. -/
def RecordedForOther (employees : Directory) (employeeId : String) (device : SimDevice)
    (pin : String) : Prop :=
  ∃ other ∈ employees.eraseP (Employee.answersTo (strip employeeId)),
    ∃ entry ∈ other.access,
      simulatedDevice registry entry.deviceSn = some device ∧ entry.pin = some pin

/-- The call reports a migration that read the profile from the device. -/
def CopiedFrom (employees : Directory) (call : DirectoryCall)
    (report : Option MigrationReport) (device : SimDevice) (pin : String) : Prop :=
  ∃ enrolment done emp route, call = .enrol enrolment ∧ report = some done ∧
    done.migration.ok = true ∧ done.migration.userId = pin ∧
    findEmployee employees enrolment.employeeId = some emp ∧
    enrolment.route registry emp = some route ∧
    simulatedDevice registry route.srcSn = some device

/-- No profile that a different employee's list names is deleted, moved away, stripped of
its fingerprints or copied. -/
def SparesOthers (today : String) (employees : Directory) (devices : SimDevices)
    (call : DirectoryCall) : Prop :=
  ∀ report saved after,
    call.run (simulatedReaders registry) registry today employees devices =
      some (report, saved, after) →
      ∀ device pin, RecordedForOther registry employees call.employeeId device pin →
        ¬ Removed devices after device pin ∧ ¬ FingersCleared devices after device pin ∧
          ¬ CopiedFrom registry employees call report device pin

/-! ## The condition -/

/-- A deletion on the serial finds no profile that is recorded for another employee, or
only clears fingerprints that are not there. -/
def DeletionSpares (employees : Directory) (devices : SimDevices) (employeeId : String)
    (biometricsOnly : Bool) (target : String × String) : Prop :=
  ∀ device, simulatedDevice registry target.1 = some device →
    RecordedForOther registry employees employeeId device target.2 →
      ∀ user, (devices.users device).find? (SimUser.hasId target.2) = some user →
        biometricsOnly = true ∧ user.fingers = []

/-- A migration that goes through reads a profile not recorded for another employee, and
writes none without fingerprints over a recorded one with them. -/
def EnrolmentSpares (employees : Directory) (devices : SimDevices) (call : EnrolCall) : Prop :=
  ∀ emp route empPin srcDev tgtDev srcUser,
    findEmployee employees call.employeeId = some emp →
    call.route registry emp = some route →
    emp.pinOn route.srcSn = some empPin →
    simulatedDevice registry route.srcSn = some srcDev →
    simulatedDevice registry route.tgtSn = some tgtDev →
    (devices.users srcDev).find? (SimUser.hasId empPin) = some srcUser →
    ¬ SearchRaises (devices.users tgtDev) emp.name srcUser.name empPin →
      ¬ RecordedForOther registry employees call.employeeId srcDev empPin ∧
      (¬ HeldByOther (devices.users tgtDev) emp.name empPin →
        RecordedForOther registry employees call.employeeId tgtDev
          (requestedPin empPin (strip empPin)) →
        ∀ holder, (devices.users tgtDev).find?
            (SimUser.hasId (requestedPin empPin (strip empPin))) = some holder →
          holder.name = srcUser.name → srcUser.fingers = [] → holder.fingers = [])

def CallSpares (employees : Directory) (devices : SimDevices) : DirectoryCall → Prop
  | .enrol call => EnrolmentSpares registry employees devices call
  | .remove call => ∀ emp biometricsOnly targets,
      findEmployee employees call.employeeId = some emp →
      call.deletions registry emp = some (biometricsOnly, targets) →
        ∀ target ∈ targets,
          DeletionSpares registry employees devices call.employeeId biometricsOnly target

variable {registry} {today : String} {employees saved : Directory} {devices after : SimDevices}

/-! ## Deletions -/

theorem DeletionSpares.filter {employeeId : String} {biometricsOnly : Bool}
    {target : String × String}
    (spares : DeletionSpares registry employees devices employeeId biometricsOnly target)
    {device : SimDevice} {pin : String}
    (recorded : RecordedForOther registry employees employeeId device pin) :
    ((applyDeletion registry biometricsOnly devices target).users device).filter
        (SimUser.hasId pin) =
      (devices.users device).filter (SimUser.hasId pin) := by
  by_cases hit : simulatedDevice registry target.1 = some device ∧ pin = target.2
  · obtain ⟨named, rfl⟩ := hit
    have unchanged : deleteUser biometricsOnly target.2 (devices.users device) =
        devices.users device := by
      cases first : (devices.users device).find? (SimUser.hasId target.2) with
      | none => exact deleteUser_absent first
      | some user =>
          obtain ⟨rfl, noFingers⟩ := spares device named recorded user first
          have same : user.clearFingers = user := by
            simp [SimUser.clearFingers, ← noFingers]
          exact updateFirst_self _ _ first same
    simp [applyDeletion, named, unchanged]
  · exact filter_applyDeletion biometricsOnly (fun named same => hit ⟨named, same⟩)

/-- Deletions that spare the others leave every recorded profile as it was. -/
theorem filter_deletions_of_spares {employeeId : String} {biometricsOnly : Bool}
    {targets : List (String × String)}
    (spares : ∀ target ∈ targets,
      DeletionSpares registry employees devices employeeId biometricsOnly target)
    {device : SimDevice} {pin : String}
    (recorded : RecordedForOther registry employees employeeId device pin) :
    ((targets.foldl (applyDeletion registry biometricsOnly) devices).users device).filter
        (SimUser.hasId pin) =
      (devices.users device).filter (SimUser.hasId pin) := by
  induction targets generalizing devices with
  | nil => rfl
  | cons target rest ih =>
      have head := spares target List.mem_cons_self
      have later : ∀ entry ∈ rest, DeletionSpares registry employees
          (applyDeletion registry biometricsOnly devices target) employeeId biometricsOnly
          entry := by
        intro entry member other named otherRecorded user first
        rw [find?_of_filter_eq (head.filter otherRecorded)] at first
        exact spares entry (List.mem_cons_of_mem _ member) other named otherRecorded user first
      rw [List.foldl_cons, ih later, head.filter recorded]

theorem harm_of_not_spares {employeeId : String} {biometricsOnly : Bool}
    {targets : List (String × String)} {target : String × String} (member : target ∈ targets)
    (harms : ¬ DeletionSpares registry employees devices employeeId biometricsOnly target) :
    ∃ device, RecordedForOther registry employees employeeId device target.2 ∧
      (Removed devices (targets.foldl (applyDeletion registry biometricsOnly) devices) device
          target.2 ∨
        FingersCleared devices (targets.foldl (applyDeletion registry biometricsOnly) devices)
          device target.2) := by
  unfold DeletionSpares at harms
  push Not at harms
  obtain ⟨device, named, recorded, user, first, worse⟩ := harms
  have listed : target.2 ∈ (devices.users device).map SimUser.userId :=
    List.mem_map.mpr ⟨user, List.mem_of_find?_eq_some first, userId_of_find? first⟩
  refine ⟨device, recorded, ?_⟩
  cases biometricsOnly with
  | false => exact Or.inl ⟨listed, notMem_deletions_full member named⟩
  | true =>
      cases firstLeft : ((targets.foldl (applyDeletion registry true) devices).users
          device).find? (SimUser.hasId target.2) with
      | none =>
          rw [find?_hasId_eq_none, userIds_deletions_biometrics] at firstLeft
          exact absurd listed firstLeft
      | some left =>
          exact Or.inr ⟨user, left, first, worse rfl, firstLeft,
            wiped_deletions member named left firstLeft⟩

/-! ## Enrolments -/

theorem sparesOthers_of_unchanged {call : EnrolCall} {report : Option MigrationReport}
    {device : SimDevice} {pin : String}
    (returned : call.run (simulatedReaders registry) registry today employees devices =
      some (report, saved, after))
    (failed : ∀ done, report = some done → done.migration.ok = false) :
    ¬ Removed devices after device pin ∧ ¬ FingersCleared devices after device pin ∧
      ¬ CopiedFrom registry employees (.enrol call) report device pin := by
  have same := devices_of_not_ok returned failed
  subst same
  refine ⟨not_removed_of_filter_eq rfl, not_cleared_of_filter_eq rfl, ?_⟩
  rintro ⟨_, done, _, _, _, reported, ok, _⟩
  simp [failed done reported] at ok

theorem EnrolmentDone.not_copied {call : EnrolCall} {report : MigrationReport}
    (done : EnrolmentDone registry employees devices call report saved after)
    {device : SimDevice} {pin : String}
    (notRead : ¬ RecordedForOther registry employees call.employeeId done.srcDev done.empPin)
    (recorded : RecordedForOther registry employees call.employeeId device pin) :
    ¬ CopiedFrom registry employees (.enrol call) (some report) device pin := by
  rintro ⟨_, _, emp, route, sameCall, sameReport, _, samePin, found, routed, srcFound⟩
  cases sameCall
  cases sameReport
  cases done.found.symm.trans found
  cases done.routed.symm.trans routed
  cases done.srcFound.symm.trans srcFound
  rw [← samePin, done.reportedUser] at recorded
  exact notRead recorded

theorem EnrolmentDone.fingers_of_overwritten {call : EnrolCall} {report : MigrationReport}
    (done : EnrolmentDone registry employees devices call report saved after)
    (notWiped : ¬ HeldByOther (devices.users done.tgtDev) done.emp.name done.empPin →
      RecordedForOther registry employees call.employeeId done.tgtDev
        (requestedPin done.empPin (strip done.empPin)) →
      ∀ holder, (devices.users done.tgtDev).find?
          (SimUser.hasId (requestedPin done.empPin (strip done.empPin))) = some holder →
        holder.name = done.srcUser.name → done.srcUser.fingers = [] → holder.fingers = [])
    (recorded : RecordedForOther registry employees call.employeeId done.tgtDev done.destPin)
    {user : SimUser}
    (first : (devices.users done.tgtDev).find? (SimUser.hasId done.destPin) = some user)
    (noFingers : done.srcUser.fingers = []) : user.fingers = [] := by
  have listed : done.destPin ∈ (devices.users done.tgtDev).map SimUser.userId :=
    List.mem_map.mpr ⟨user, List.mem_of_find?_eq_some first, userId_of_find? first⟩
  rcases done.target_cases with ⟨_, _, _, free⟩ | ⟨notHeld, target⟩
  · exact absurd listed free
  · obtain ⟨kept, existing, present, sameName⟩ := done.enrolled.of_listed listed
    rw [target] at kept
    rw [kept] at recorded first
    rw [target] at present
    cases present.symm.trans first
    exact notWiped notHeld recorded user first sameName noFingers

theorem enrolment_sparesOthers {call : EnrolCall}
    (spares : EnrolmentSpares registry employees devices call) :
    SparesOthers registry today employees devices (.enrol call) := by
  intro report saved after returned device pin recorded
  by_cases migrated : ∃ done, report = some done ∧ done.migration.ok = true
  · obtain ⟨report, rfl, ok⟩ := migrated
    obtain ⟨done⟩ := enrolmentDone_of_run returned ok
    obtain ⟨notRead, notWiped⟩ := spares _ _ _ _ _ _ done.found done.routed done.pinOnSource
      done.srcFound done.tgtFound done.first done.not_searchRaises
    have notMoved : ¬ (device = done.srcDev ∧ pin = done.empPin) := by
      rintro ⟨rfl, rfl⟩
      exact notRead recorded
    by_cases written : device = done.tgtDev ∧ pin = done.destPin
    · obtain ⟨rfl, rfl⟩ := written
      obtain ⟨left, firstLeft, profile⟩ := done.readsBack notMoved
      refine ⟨?_, ?_, done.not_copied notRead recorded⟩
      · rintro ⟨_, gone⟩
        rw [← find?_hasId_eq_none, firstLeft] at gone
        cases gone
      · rintro ⟨user, again, first, fingers, firstAgain, none⟩
        cases firstLeft.symm.trans firstAgain
        have noFingers : done.srcUser.fingers = [] := by
          rw [← profile]
          exact none
        exact fingers (done.fingers_of_overwritten notWiped recorded first noFingers)
    · have same := done.filter_other written notMoved
      exact ⟨not_removed_of_filter_eq same, not_cleared_of_filter_eq same,
        done.not_copied notRead recorded⟩
  · apply sparesOthers_of_unchanged returned
    intro done reported
    by_contra ok
    exact migrated ⟨done, reported, by simpa using ok⟩

theorem enrolmentSpares_of_sparesOthers {call : EnrolCall}
    (spared : SparesOthers registry today employees devices (.enrol call)) :
    EnrolmentSpares registry employees devices call := by
  intro emp route empPin srcDev tgtDev srcUser found routed pinFound srcFound tgtFound first goes
  obtain ⟨report, saved, after, returned, ok⟩ :=
    exists_enrolmentDone found routed pinFound srcFound tgtFound first goes
  obtain ⟨done⟩ := enrolmentDone_of_run returned ok
  obtain ⟨rfl, rfl, rfl, rfl, rfl, rfl⟩ :=
    done.lookups_unique found routed pinFound srcFound tgtFound first
  have notRead : ¬ RecordedForOther registry employees call.employeeId done.srcDev
      done.empPin := by
    intro recorded
    exact (spared _ _ _ returned _ _ recorded).2.2 ⟨call, report, done.emp, done.route, rfl, rfl,
      ok, done.reportedUser, done.found, done.routed, done.srcFound⟩
  refine ⟨notRead, ?_⟩
  intro notHeld recorded holder present sameName noFingers
  by_contra fingers
  rcases done.target_cases with ⟨held, _⟩ | ⟨_, target⟩
  · exact notHeld held
  · -- The holder is overwritten in place with a profile that has no fingerprints.
    have enrolled := done.enrolled
    rw [target] at enrolled
    have kept : done.destPin = requestedPin done.empPin (strip done.empPin) := by
      rw [enrolled.eq_requested_iff]
      intro existing again
      cases present.symm.trans again
      exact sameName
    rw [← kept] at recorded present
    obtain ⟨left, firstLeft, profile⟩ := done.readsBack (by
      rintro ⟨sameDevice, samePin⟩
      rw [sameDevice, samePin] at recorded
      exact notRead recorded)
    have cleared : left.fingers = [] := by
      rw [profile]
      exact noFingers
    exact (spared _ _ _ returned _ _ recorded).2.1
      ⟨holder, left, present, fingers, firstLeft, cleared⟩

/-! ## Revocation and dismissal -/

theorem removal_sparesOthers_iff {call : RemovalCall} :
    SparesOthers registry today employees devices (.remove call) ↔
      CallSpares registry employees devices (.remove call) := by
  constructor
  · intro spared emp biometricsOnly targets found chosen target member
    by_contra harms
    obtain ⟨device, recorded, harm⟩ := harm_of_not_spares member harms
    have returned : DirectoryCall.run (simulatedReaders registry) registry today employees
        devices (.remove call) = _ := remove_run found
    rw [chosen, Option.map_some] at returned
    obtain ⟨notRemoved, notCleared, _⟩ := spared _ _ _ returned device _ recorded
    exact harm.elim notRemoved notCleared
  · intro spares report saved after returned device pin recorded
    have notCopied : ¬ CopiedFrom registry employees (.remove call) report device pin := by
      rintro ⟨_, _, _, _, sameCall, _⟩
      cases sameCall
    have same : (after.users device).filter (SimUser.hasId pin) =
        (devices.users device).filter (SimUser.hasId pin) := by
      cases found : findEmployee employees call.employeeId with
      | none =>
          rw [remove_unknown found] at returned
          cases returned
          rfl
      | some emp =>
          rw [remove_run found] at returned
          obtain ⟨⟨biometricsOnly, targets⟩, chosen, outcome⟩ :=
            Option.map_eq_some_iff.mp returned
          cases outcome
          exact filter_deletions_of_spares (spares emp _ _ found chosen) recorded
    exact ⟨not_removed_of_filter_eq same, not_cleared_of_filter_eq same, notCopied⟩

/-- A call spares the other employees' profiles exactly when the PINs it acts on are not
recorded for them. -/
theorem spares_others_iff (call : DirectoryCall) :
    SparesOthers registry today employees devices call ↔
      CallSpares registry employees devices call := by
  cases call with
  | enrol call => exact ⟨enrolmentSpares_of_sparesOthers, enrolment_sparesOthers⟩
  | remove call => exact removal_sparesOthers_iff

end

/-! ## A PIN that is not the employee's -/

/-- No two employees' access lists share a serial with a PIN. -/
def NoSharedPairs (employees : Directory) : Prop :=
  employees.Pairwise fun left right => ∀ mine ∈ left.access, ∀ theirs ∈ right.access,
    ¬ (mine.deviceSn = theirs.deviceSn ∧ mine.pin = theirs.pin)

def remappedVisitor : Directory :=
  [enrolledAt "102" "EMP-102" "Gowtham" 1 "NFZ8254900401" "102",
    enrolledAt "7" "EMP-7" "Visitor" 2 "UFZ9876543210" "102"]

def visitorOnTarget : SimDevices :=
  resetSimulationState.setUsers .target [⟨⟨"Visitor", 0, "", "1", 0, []⟩, 1, "102"⟩]

/-- Revoking 102 on a reader it was never enrolled on deletes the profile of 7. -/
theorem revoke_removes_visitor :
    NoSharedPairs remappedVisitor ∧
      ¬ @SparesOthers UnicodeTables.ascii defaultRegistry "2026-09-14" remappedVisitor
        visitorOnTarget (.remove (.revoke ⟨"102", "UFZ9876543210", false⟩)) := by
  let := UnicodeTables.ascii
  refine ⟨by unfold NoSharedPairs; decide, ?_⟩
  intro spared
  have found : findEmployee remappedVisitor
      (RemovalCall.employeeId (.revoke ⟨"102", "UFZ9876543210", false⟩)) =
      some (enrolledAt "102" "EMP-102" "Gowtham" 1 "NFZ8254900401" "102") := by decide
  have chosen : (RemovalCall.revoke ⟨"102", "UFZ9876543210", false⟩).deletions defaultRegistry
      (enrolledAt "102" "EMP-102" "Gowtham" 1 "NFZ8254900401" "102") =
      some (false, [("UFZ9876543210", "102")]) := by decide
  have reader : simulatedDevice defaultRegistry "UFZ9876543210" = some .target := by decide
  have recorded : RecordedForOther defaultRegistry remappedVisitor "102" .target "102" :=
    ⟨enrolledAt "7" "EMP-7" "Visitor" 2 "UFZ9876543210" "102", by decide, _,
      List.mem_singleton.mpr rfl, reader, rfl⟩
  have holder : (visitorOnTarget.users .target).find? (SimUser.hasId "102") =
      some ⟨⟨"Visitor", 0, "", "1", 0, []⟩, 1, "102"⟩ := by decide
  have harmless := removal_sparesOthers_iff.mp spared _ _ _ found chosen _
    (List.mem_singleton.mpr rfl) .target reader recorded _ holder
  exact absurd harmless.1 (by decide)

end PumoBioMetric.Core
