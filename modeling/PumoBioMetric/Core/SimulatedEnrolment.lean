import PumoBioMetric.Core.EnrolCall

/-!
# An enrolment call on the simulated readers

Everything that holds between the directory and the readers before and after a call
whose migration returned ok, collected in one structure.
-/

set_option autoImplicit false

namespace PumoBioMetric.Core

open Py FirstMatch

/-- `str(target_user_id).strip() if target_user_id else str(user_id)`. -/
def requestedPin (empPin targetPin : String) : String :=
  if targetPin = "" then empPin else strip targetPin

theorem enrolRequest_srcIdentifier {srcSn tgtSn empPin mode targetPin : String}
    (named : srcSn ≠ "") :
    (enrolRequest srcSn tgtSn empPin mode targetPin).srcIdentifier = srcSn := by
  simp [MigrationRequest.srcIdentifier, enrolRequest, firstTruthy, named]

theorem enrolRequest_tgtIdentifier {srcSn tgtSn empPin mode targetPin : String}
    (named : tgtSn ≠ "") :
    (enrolRequest srcSn tgtSn empPin mode targetPin).tgtIdentifier = tgtSn := by
  simp [MigrationRequest.tgtIdentifier, enrolRequest, firstTruthy, named]

section

variable [UnicodeTables]

/-- The trimmed PIN is on the target under another name than the directory's. -/
def HeldByOther (tgtUsers : List SimUser) (empName empPin : String) : Prop :=
  ∃ holder, tgtUsers.find? (SimUser.hasId (strip empPin)) = some holder ∧
    isSameUser (some empName) holder.name = false

/-- The PIN an enrolment asks for is on the target under another name than the
source's, and it cannot be read as a number. -/
def EnrolRaises (tgtUsers : List SimUser) (srcName empPin : String) : Prop :=
  ∃ holder, tgtUsers.find? (SimUser.hasId (requestedPin empPin (strip empPin))) = some holder ∧
    holder.name ≠ srcName ∧ Unreadable (requestedPin empPin (strip empPin))

def SearchRaises (tgtUsers : List SimUser) (empName srcName empPin : String) : Prop :=
  (HeldByOther tgtUsers empName empPin ∧ Unreadable (strip empPin)) ∨
    (¬ HeldByOther tgtUsers empName empPin ∧ EnrolRaises tgtUsers srcName empPin)

end

section

variable [UnicodeTables] (registry : Registry)

structure EnrolmentDone (employees : Directory) (devices : SimDevices) (call : EnrolCall)
    (report : MigrationReport) (saved : Directory) (after : SimDevices) where
  emp : Employee
  changed : Employee
  route : Route
  pinCheck : PinCheck
  empPin : String
  srcDev : SimDevice
  tgtDev : SimDevice
  srcUser : SimUser
  destPin : String
  tgtUsers : List SimUser
  found : findEmployee employees call.employeeId = some emp
  routed : call.route registry emp = some route
  pinOnSource : emp.pinOn route.srcSn = some empPin
  srcFound : simulatedDevice registry route.srcSn = some srcDev
  tgtFound : simulatedDevice registry route.tgtSn = some tgtDev
  chosen : PinChosen ((devices.users tgtDev).map SimUser.listed) empPin (some emp.name) pinCheck
  first : (devices.users srcDev).find? (SimUser.hasId empPin) = some srcUser
  enrolled : Enrolled (devices.users tgtDev) srcUser.toProfile
    (requestedPin empPin pinCheck.targetPin) destPin tgtUsers
  afterEq : after = deleteIfMove (devices.setUsers tgtDev tgtUsers) srcDev
    (enrolRequest route.srcSn route.tgtSn empPin call.mode pinCheck.targetPin)
  reportedUser : report.migration.userId = empPin
  reportedPin : report.migration.targetUserId = if destPin = "" then empPin else destPin
  savedEq : saved = saveEmployee employees call.employeeId changed
  sameRecord : changed.SameButAccess emp
  recorded : changed.access =
    accessAfterTransfer call.mode emp.access route.srcSn route.tgtSn pinCheck.targetPin

variable {registry} {today : String} {employees saved : Directory} {devices after : SimDevices}
  {call : EnrolCall} {report : MigrationReport}

theorem EnrolmentDone.lookups_unique
    (done : EnrolmentDone registry employees devices call report saved after)
    {emp : Employee} {route : Route} {empPin : String} {srcDev tgtDev : SimDevice}
    {srcUser : SimUser}
    (found : findEmployee employees call.employeeId = some emp)
    (routed : call.route registry emp = some route)
    (pinFound : emp.pinOn route.srcSn = some empPin)
    (srcFound : simulatedDevice registry route.srcSn = some srcDev)
    (tgtFound : simulatedDevice registry route.tgtSn = some tgtDev)
    (first : (devices.users srcDev).find? (SimUser.hasId empPin) = some srcUser) :
    done.emp = emp ∧ done.route = route ∧ done.empPin = empPin ∧ done.srcDev = srcDev ∧
      done.tgtDev = tgtDev ∧ done.srcUser = srcUser := by
  cases done.found.symm.trans found
  cases done.routed.symm.trans routed
  cases done.pinOnSource.symm.trans pinFound
  cases done.srcFound.symm.trans srcFound
  cases done.tgtFound.symm.trans tgtFound
  cases done.first.symm.trans first
  exact ⟨rfl, rfl, rfl, rfl, rfl, rfl⟩

/-- A PIN held by another name is mapped once, to a free one; any other is kept. -/
theorem PinChosen.target_cases {users : List SimUser} {empPin empName : String}
    {pinCheck : PinCheck}
    (chosen : PinChosen (users.map SimUser.listed) empPin (some empName) pinCheck) :
    (HeldByOther users empName empPin ∧ ¬ Unreadable (strip empPin) ∧
      pinCheck.targetPin ∉ users.map SimUser.userId ∧
      requestedPin empPin pinCheck.targetPin = pinCheck.targetPin) ∨
    (¬ HeldByOther users empName empPin ∧ pinCheck.targetPin = strip empPin) := by
  cases chosen with
  | mapped listed differs search _ =>
      rw [find?_listed] at listed
      obtain ⟨holder, first, rfl⟩ := Option.map_eq_some_iff.mp listed
      rw [userIds_listed] at search
      have read : ¬ Unreadable (strip empPin) := by
        intro unreadable
        simp [nextFreePin_eq_none_iff.mpr unreadable] at search
      have requested : requestedPin empPin pinCheck.targetPin = pinCheck.targetPin := by
        rw [requestedPin, if_neg (nextFreePin_ne_empty search), nextFreePin_strip search]
      exact Or.inl ⟨⟨holder, first, differs⟩, read, nextFreePin_notMem search, requested⟩
  | free missing target _ =>
      rw [find?_listed, Option.map_eq_none_iff] at missing
      refine Or.inr ⟨?_, target⟩
      rintro ⟨holder, first, _⟩
      simp [missing] at first
  | sameUser listed same target _ =>
      rw [find?_listed] at listed
      obtain ⟨holder, first, rfl⟩ := Option.map_eq_some_iff.mp listed
      refine Or.inr ⟨?_, target⟩
      rintro ⟨other, again, differs⟩
      cases first.symm.trans again
      simp [SimUser.listed, differs] at same

theorem migrateEmployee_simulated {emp : Employee} {srcSn tgtSn mode : String}
    {srcPort tgtPort : Int} {pinCheck : PinCheck} {res : MigrationResult} :
    migrateEmployee (simulatedReaders registry) devices emp srcSn tgtSn srcPort tgtPort mode =
        some (pinCheck, res, after) ↔
      ∃ empPin, emp.pinOn srcSn = some empPin ∧
        resolveTargetPinSimulated registry devices tgtSn empPin (some emp.name) = some pinCheck ∧
        migrateSingleUserSimulated registry devices
          (enrolRequest srcSn tgtSn empPin mode pinCheck.targetPin) = some (res, after) := by
  unfold migrateEmployee
  simp only [simulatedReaders, Option.bind_eq_some_iff, Option.map_eq_some_iff, Prod.exists,
    Prod.mk.injEq]
  constructor
  · rintro ⟨empPin, pinFound, check, world, ⟨_, resolved, rfl, rfl⟩, result, left, ran, rfl, rfl, rfl⟩
    exact ⟨empPin, pinFound, resolved, ran⟩
  · rintro ⟨empPin, pinFound, resolved, ran⟩
    exact ⟨empPin, pinFound, pinCheck, devices, ⟨_, resolved, rfl, rfl⟩, res, after, ran,
      rfl, rfl, rfl⟩

theorem enrolmentDone_of_run
    (returned : call.run (simulatedReaders registry) registry today employees devices =
      some (some report, saved, after))
    (ok : report.migration.ok = true) :
    Nonempty (EnrolmentDone registry employees devices call report saved after) := by
  cases enrolEffect_of_run returned with
  | @migrated emp changed route pinCheck res _ _ found routed migrated sameReport _ sameRecord
      recorded =>
      obtain ⟨empPin, pinOnSource, resolved, ran⟩ := migrateEmployee_simulated.mp migrated
      have resOk : res.ok = true := by
        rw [sameReport] at ok
        exact ok
      obtain ⟨srcNamed, tgtNamed⟩ := EnrolCall.route_sn_ne_empty routed
      cases migrated_of_migrate registry ran with
      | refused failed => simp [failed] at resOk
      | @enrolled srcDev tgtDev srcUser tgtUsers srcFound tgtFound first enrolled _ resUser =>
          rw [enrolRequest_srcIdentifier srcNamed] at srcFound
          rw [enrolRequest_tgtIdentifier tgtNamed] at tgtFound
          have chosen := pinChosen_of_choosePin resolved
          rw [simulatedUsers, tgtFound] at chosen
          refine ⟨{
            emp := emp, changed := changed, route := route, pinCheck := pinCheck
            empPin := empPin, srcDev := srcDev, tgtDev := tgtDev, srcUser := srcUser
            destPin := res.targetUserId, tgtUsers := tgtUsers
            found := found, routed := routed, pinOnSource := pinOnSource
            srcFound := srcFound, tgtFound := tgtFound, chosen := chosen, first := first
            enrolled := enrolled, afterEq := rfl
            reportedUser := ?_, reportedPin := ?_
            savedEq := rfl, sameRecord := sameRecord, recorded := ?_ }⟩
          · rw [sameReport]
            exact resUser
          · rw [sameReport, MigrationResult.toDict, resUser]
            rfl
          · rw [recorded, if_pos resOk]

theorem devices_of_not_ok {outcome : Option MigrationReport}
    (returned : call.run (simulatedReaders registry) registry today employees devices =
      some (outcome, saved, after))
    (failed : ∀ done, outcome = some done → done.migration.ok = false) : after = devices := by
  cases enrolEffect_of_run returned with
  | unknown => rfl
  | unreached => rfl
  | @migrated _ _ _ _ res _ _ _ _ migrated sameReport _ _ _ =>
      obtain ⟨_, _, _, ran⟩ := migrateEmployee_simulated.mp migrated
      cases migrated_of_migrate registry ran with
      | refused => rfl
      | enrolled _ _ _ _ resOk _ =>
          have notOk := failed _ rfl
          rw [sameReport] at notOk
          exact absurd (notOk.symm.trans resOk) (by simp)

namespace EnrolmentDone

variable (done : EnrolmentDone registry employees devices call report saved after)

theorem empPin_of_requestedPin
    (empty : requestedPin done.empPin done.pinCheck.targetPin = "") : done.empPin = "" := by
  unfold requestedPin at empty
  split at empty
  · exact empty
  · rename_i named
    exact absurd (done.chosen.strip_targetPin.symm.trans empty) named

theorem reported_destPin : report.migration.targetUserId = done.destPin := by
  rw [done.reportedPin]
  split
  · rename_i empty
    by_cases kept : done.destPin = requestedPin done.empPin done.pinCheck.targetPin
    · rw [done.empPin_of_requestedPin (kept.symm.trans empty), empty]
    · exact absurd empty (done.enrolled.ne_empty kept)
  · rfl

theorem found_saved : findEmployee saved call.employeeId = some done.changed := by
  have kept : findEmployee (saveEmployee employees call.employeeId done.changed) call.employeeId =
      some done.changed :=
    findEmployee_saveEmployee done.found done.sameRecord.id_eq done.sameRecord.employeeCode_eq
  exact (congrArg (fun directory => findEmployee directory call.employeeId) done.savedEq).trans kept

theorem entry_recorded :
    ∃ entry, done.changed.accessFor done.route.tgtSn = some entry ∧
      entry.pin = some done.pinCheck.targetPin := by
  unfold Employee.accessFor
  rw [done.recorded]
  obtain ⟨entry, first, _, pin⟩ := accessFor_accessAfterTransfer call.mode done.emp.access
    done.route.srcSn done.route.tgtSn done.pinCheck.targetPin
  exact ⟨entry, first, pin⟩

theorem target_cases :
    (HeldByOther (devices.users done.tgtDev) done.emp.name done.empPin ∧
      ¬ Unreadable (strip done.empPin) ∧ done.destPin = done.pinCheck.targetPin ∧
      done.destPin ∉ (devices.users done.tgtDev).map SimUser.userId) ∨
    (¬ HeldByOther (devices.users done.tgtDev) done.emp.name done.empPin ∧
      done.pinCheck.targetPin = strip done.empPin) := by
  rcases done.chosen.target_cases with ⟨held, read, free, requested⟩ | kept
  · have enrolled := done.enrolled
    rw [requested] at enrolled
    have same : done.destPin = done.pinCheck.targetPin := by
      rw [enrolled.eq_requested_iff, find?_hasId_eq_none.mpr free]
      simp
    exact Or.inl ⟨held, read, same, same ▸ free⟩
  · exact Or.inr kept

theorem not_searchRaises :
    ¬ SearchRaises (devices.users done.tgtDev) done.emp.name done.srcUser.name done.empPin := by
  rcases done.target_cases with ⟨held, read, _⟩ | ⟨notHeld, target⟩
  · rintro (⟨_, unreadable⟩ | ⟨notHeld, _⟩)
    · exact read unreadable
    · exact notHeld held
  · have enrolled := done.enrolled
    rw [target] at enrolled
    rintro (⟨held, _⟩ | ⟨_, holder, first, differs, unreadable⟩)
    · exact notHeld held
    · exact enrolled.readable first differs unreadable

theorem users_target (other : done.srcDev ≠ done.tgtDev) :
    after.users done.tgtDev = done.tgtUsers := by
  calc after.users done.tgtDev
      = (deleteIfMove (devices.setUsers done.tgtDev done.tgtUsers) done.srcDev
          (enrolRequest done.route.srcSn done.route.tgtSn done.empPin call.mode
            done.pinCheck.targetPin)).users done.tgtDev :=
        congrArg (fun devices => devices.users done.tgtDev) done.afterEq
    _ = (devices.setUsers done.tgtDev done.tgtUsers).users done.tgtDev :=
        users_deleteIfMove_other _ _ other.symm
    _ = done.tgtUsers := SimDevices.users_setUsers_same _ _ _

theorem filter_other {device : SimDevice} {pin : String}
    (notWritten : ¬ (device = done.tgtDev ∧ pin = done.destPin))
    (notMoved : ¬ (device = done.srcDev ∧ pin = done.empPin)) :
    (after.users device).filter (SimUser.hasId pin) =
      (devices.users device).filter (SimUser.hasId pin) := by
  have kept := filter_deleteIfMove (devices.setUsers done.tgtDev done.tgtUsers)
    (enrolRequest done.route.srcSn done.route.tgtSn done.empPin call.mode done.pinCheck.targetPin)
    (fun same samePin => notMoved ⟨same, samePin⟩)
  have left := congrArg (fun devices => (devices.users device).filter (SimUser.hasId pin))
    done.afterEq
  refine (left.trans kept).trans ?_
  by_cases same : device = done.tgtDev
  · subst same
    rw [SimDevices.users_setUsers_same]
    exact done.enrolled.filter_other (fun samePin => notWritten ⟨rfl, samePin⟩)
  · rw [SimDevices.users_setUsers_other _ _ same]

theorem readsBack (notMoved : ¬ (done.tgtDev = done.srcDev ∧ done.destPin = done.empPin)) :
    ∃ user, (after.users done.tgtDev).find? (SimUser.hasId done.destPin) = some user ∧
      user.toProfile = done.srcUser.toProfile := by
  obtain ⟨user, written, _, profile⟩ := done.enrolled.readsBack
  refine ⟨user, ?_, profile⟩
  have kept := filter_deleteIfMove (devices.setUsers done.tgtDev done.tgtUsers)
    (enrolRequest done.route.srcSn done.route.tgtSn done.empPin call.mode done.pinCheck.targetPin)
    (fun same samePin => notMoved ⟨same, samePin⟩)
  have left := congrArg
    (fun devices => (devices.users done.tgtDev).filter (SimUser.hasId done.destPin)) done.afterEq
  rw [find?_of_filter_eq (left.trans kept), SimDevices.users_setUsers_same]
  exact written

end EnrolmentDone

/-! ## When a call goes through -/

theorem exists_resolved_enrolled {tgtSn empPin empName : String} {tgtDev : SimDevice}
    (profile : Profile) (tgtFound : simulatedDevice registry tgtSn = some tgtDev)
    (goes : ¬ SearchRaises (devices.users tgtDev) empName profile.name empPin) :
    ∃ pinCheck, resolveTargetPinSimulated registry devices tgtSn empPin (some empName) =
        some pinCheck ∧
      ∃ outcome, enrol (devices.users tgtDev) profile (requestedPin empPin pinCheck.targetPin) =
        some outcome := by
  have listed : simulatedUsers registry devices tgtSn = devices.users tgtDev := by
    rw [simulatedUsers, tgtFound]
  cases resolved : resolveTargetPinSimulated registry devices tgtSn empPin (some empName) with
  | none =>
      obtain ⟨holder, first, differs, unreadable⟩ := unreadable_of_choosePin resolved
      rw [listed, find?_listed] at first
      obtain ⟨user, present, rfl⟩ := Option.map_eq_some_iff.mp first
      exact absurd (Or.inl ⟨⟨user, present, differs⟩, unreadable⟩) goes
  | some pinCheck =>
      refine ⟨pinCheck, rfl, ?_⟩
      have chosen := pinChosen_of_choosePin resolved
      rw [listed] at chosen
      cases written : enrol (devices.users tgtDev) profile
          (requestedPin empPin pinCheck.targetPin) with
      | some outcome => exact ⟨outcome, rfl⟩
      | none =>
          have raises := unreadable_of_enrol written
          rcases chosen.target_cases with ⟨_, _, free, requested⟩ | ⟨notHeld, target⟩
          · obtain ⟨holder, first, _⟩ := raises
            rw [requested, find?_hasId_eq_none.mpr free] at first
            cases first
          · rw [target] at raises
            exact absurd (Or.inr ⟨notHeld, raises⟩) goes

theorem exists_enrolmentDone {emp : Employee} {route : Route} {empPin : String}
    {srcDev tgtDev : SimDevice} {srcUser : SimUser}
    (found : findEmployee employees call.employeeId = some emp)
    (routed : call.route registry emp = some route)
    (pinFound : emp.pinOn route.srcSn = some empPin)
    (srcFound : simulatedDevice registry route.srcSn = some srcDev)
    (tgtFound : simulatedDevice registry route.tgtSn = some tgtDev)
    (first : (devices.users srcDev).find? (SimUser.hasId empPin) = some srcUser)
    (goes : ¬ SearchRaises (devices.users tgtDev) emp.name srcUser.name empPin) :
    ∃ report saved after,
      call.run (simulatedReaders registry) registry today employees devices =
        some (some report, saved, after) ∧ report.migration.ok = true := by
  obtain ⟨srcNamed, tgtNamed⟩ := EnrolCall.route_sn_ne_empty routed
  obtain ⟨pinCheck, resolved, outcome, written⟩ :=
    exists_resolved_enrolled srcUser.toProfile tgtFound goes
  let request := enrolRequest route.srcSn route.tgtSn empPin call.mode pinCheck.targetPin
  have fromSource : simulatedDevice registry request.srcIdentifier = some srcDev := by
    rw [enrolRequest_srcIdentifier srcNamed, srcFound]
  have toTarget : simulatedDevice registry request.tgtIdentifier = some tgtDev := by
    rw [enrolRequest_tgtIdentifier tgtNamed, tgtFound]
  obtain ⟨res, ran, resOk, -⟩ := migrate_of_enrol registry fromSource toTarget first written
  obtain ⟨report, saved, returned, sameReport⟩ := run_of_migrate found routed
    (migrateEmployee_simulated.mpr ⟨empPin, pinFound, resolved, ran⟩)
  refine ⟨report, saved, _, returned, ?_⟩
  rw [sameReport]
  exact resOk

end

end PumoBioMetric.Core
