import PumoBioMetric.Core.SimulatedEnrolment

/-!
# The PIN the directory records

`resolve_target_pin` compares the target's holder of the PIN with the directory name,
trimmed and ignoring case; the migration compares it with the source reader's name,
exactly.  Where the first finds the same person and the second does not, the migration
picks another PIN than the one that is recorded.
-/

set_option autoImplicit false

namespace PumoBioMetric.Core

open Py FirstMatch

section

variable [UnicodeTables]

/-- The migration will not change the PIN that was resolved before it: the PIN is
somebody else's and so already mapped to a free one, or its holder has the name on the
source reader; else the call raises. -/
def PinAgrees (tgtUsers : List SimUser) (empName srcName empPin : String) : Prop :=
  HeldByOther tgtUsers empName empPin ∨
  (requestedPin empPin (strip empPin) = strip empPin ∧
    ∀ holder, tgtUsers.find? (SimUser.hasId (strip empPin)) = some holder →
      holder.name = srcName) ∨
  EnrolRaises tgtUsers srcName empPin

theorem not_searchRaises_of_disagree {tgtUsers : List SimUser} {empName srcName empPin : String}
    (disagree : ¬ PinAgrees tgtUsers empName srcName empPin) :
    ¬ SearchRaises tgtUsers empName srcName empPin := by
  rintro (⟨held, _⟩ | ⟨_, raises⟩)
  · exact disagree (Or.inl held)
  · exact disagree (Or.inr (Or.inr raises))

end

theorem requestedPin_strip_of_ne {empPin : String}
    (other : requestedPin empPin (strip empPin) ≠ strip empPin) :
    strip empPin = "" ∧ requestedPin empPin (strip empPin) = empPin ∧ empPin ≠ "" := by
  unfold requestedPin at other ⊢
  by_cases blank : strip empPin = ""
  · rw [if_pos blank] at other ⊢
    exact ⟨blank, rfl, fun empty => other (empty.trans blank.symm)⟩
  · rw [if_neg blank, strip_strip] at other
    exact absurd rfl other

theorem destPin_strip_iff {users after : List SimUser} {profile : Profile}
    {empPin destPin : String}
    (enrolled : Enrolled users profile (requestedPin empPin (strip empPin)) destPin after) :
    destPin = strip empPin ↔
      requestedPin empPin (strip empPin) = strip empPin ∧
        ∀ holder, users.find? (SimUser.hasId (strip empPin)) = some holder →
          holder.name = profile.name := by
  by_cases plain : requestedPin empPin (strip empPin) = strip empPin
  · rw [plain] at enrolled
    rw [enrolled.eq_requested_iff, and_iff_right plain]
  · obtain ⟨blank, raw, something⟩ := requestedPin_strip_of_ne plain
    have nonempty : destPin ≠ "" := by
      by_cases kept : destPin = requestedPin empPin (strip empPin)
      · rw [kept, raw]
        exact something
      · exact enrolled.ne_empty kept
    exact iff_of_false (fun same => nonempty (same.trans blank)) (fun agree => plain agree.1)

section

variable [UnicodeTables] (registry : Registry) (today : String)

/-- After every call whose migration returned ok the directory lists the reported PIN for
the target reader, and on another device than the source it reads back the profile. -/
def RecordsEnrolledPin (employees : Directory) (devices : SimDevices) (call : EnrolCall) :
    Prop :=
  ∀ report saved after,
    call.run (simulatedReaders registry) registry today employees devices =
      some (some report, saved, after) →
    report.migration.ok = true →
      ∃ emp route changed entry,
        findEmployee employees call.employeeId = some emp ∧
        call.route registry emp = some route ∧
        findEmployee saved call.employeeId = some changed ∧
        changed.accessFor route.tgtSn = some entry ∧
        entry.pin = some report.migration.targetUserId ∧
        ∀ srcDev tgtDev, simulatedDevice registry route.srcSn = some srcDev →
          simulatedDevice registry route.tgtSn = some tgtDev → srcDev ≠ tgtDev →
            ∃ srcUser user,
              (devices.users srcDev).find? (SimUser.hasId report.migration.userId) =
                some srcUser ∧
              (after.users tgtDev).find? (SimUser.hasId report.migration.targetUserId) =
                some user ∧
              user.toProfile = srcUser.toProfile

def RoutePinAgrees (employees : Directory) (devices : SimDevices) (call : EnrolCall) : Prop :=
  ∀ emp route empPin srcDev tgtDev srcUser,
    findEmployee employees call.employeeId = some emp →
    call.route registry emp = some route →
    emp.pinOn route.srcSn = some empPin →
    simulatedDevice registry route.srcSn = some srcDev →
    simulatedDevice registry route.tgtSn = some tgtDev →
    (devices.users srcDev).find? (SimUser.hasId empPin) = some srcUser →
      PinAgrees (devices.users tgtDev) emp.name srcUser.name empPin

variable {registry today} {employees saved : Directory} {devices after : SimDevices}
  {call : EnrolCall} {report : MigrationReport}

/-- The reported PIN is the recorded one exactly when the two decisions agree. -/
theorem EnrolmentDone.reported_eq_iff
    (done : EnrolmentDone registry employees devices call report saved after) :
    report.migration.targetUserId = done.pinCheck.targetPin ↔
      PinAgrees (devices.users done.tgtDev) done.emp.name done.srcUser.name done.empPin := by
  rw [done.reported_destPin]
  rcases done.target_cases with ⟨held, _, same, _⟩ | ⟨notHeld, target⟩
  · exact iff_of_true same (Or.inl held)
  · have enrolled := done.enrolled
    rw [target] at enrolled ⊢
    rw [destPin_strip_iff enrolled]
    constructor
    · intro agree
      exact Or.inr (Or.inl agree)
    · rintro (held | agree | ⟨holder, first, differs, unreadable⟩)
      · exact absurd held notHeld
      · exact agree
      · exact absurd unreadable (enrolled.readable first differs)

theorem recordsEnrolledPin_of_agrees (agrees : RoutePinAgrees registry employees devices call) :
    RecordsEnrolledPin registry today employees devices call := by
  intro report saved after returned ok
  obtain ⟨done⟩ := enrolmentDone_of_run returned ok
  obtain ⟨entry, listed, pin⟩ := done.entry_recorded
  have samePin : report.migration.targetUserId = done.pinCheck.targetPin :=
    done.reported_eq_iff.mpr (agrees _ _ _ _ _ _ done.found done.routed done.pinOnSource
      done.srcFound done.tgtFound done.first)
  refine ⟨done.emp, done.route, done.changed, entry, done.found, done.routed, done.found_saved,
    listed, samePin ▸ pin, ?_⟩
  intro srcDev tgtDev srcFound tgtFound different
  have sameSrc : done.srcDev = srcDev := Option.some.inj (done.srcFound.symm.trans srcFound)
  have sameTgt : done.tgtDev = tgtDev := Option.some.inj (done.tgtFound.symm.trans tgtFound)
  subst sameSrc sameTgt
  obtain ⟨user, written, _, profile⟩ := done.enrolled.readsBack
  refine ⟨done.srcUser, user, done.reportedUser ▸ done.first, ?_, profile⟩
  rw [done.users_target different, done.reported_destPin]
  exact written

theorem EnrolmentDone.reported_of_entry
    (done : EnrolmentDone registry employees devices call report saved after)
    {emp changed : Employee} {route : Route} {entry : AccessEntry}
    (found : findEmployee employees call.employeeId = some emp)
    (routed : call.route registry emp = some route)
    (foundSaved : findEmployee saved call.employeeId = some changed)
    (listed : changed.accessFor route.tgtSn = some entry)
    (pin : entry.pin = some report.migration.targetUserId) :
    report.migration.targetUserId = done.pinCheck.targetPin := by
  obtain ⟨recorded, listedAgain, recordedPin⟩ := done.entry_recorded
  cases done.found.symm.trans found
  cases done.routed.symm.trans routed
  cases done.found_saved.symm.trans foundSaved
  cases listedAgain.symm.trans listed
  exact Option.some.inj (pin.symm.trans recordedPin)

theorem EnrolmentDone.agrees_of_reported
    (done : EnrolmentDone registry employees devices call report saved after)
    {emp : Employee} {route : Route} {empPin : String} {srcDev tgtDev : SimDevice}
    {srcUser : SimUser}
    (found : findEmployee employees call.employeeId = some emp)
    (routed : call.route registry emp = some route)
    (pinFound : emp.pinOn route.srcSn = some empPin)
    (srcFound : simulatedDevice registry route.srcSn = some srcDev)
    (tgtFound : simulatedDevice registry route.tgtSn = some tgtDev)
    (first : (devices.users srcDev).find? (SimUser.hasId empPin) = some srcUser)
    (reported : report.migration.targetUserId = done.pinCheck.targetPin) :
    PinAgrees (devices.users tgtDev) emp.name srcUser.name empPin := by
  have agree := done.reported_eq_iff.mp reported
  obtain ⟨rfl, rfl, rfl, rfl, rfl, rfl⟩ :=
    done.lookups_unique found routed pinFound srcFound tgtFound first
  exact agree

theorem agrees_of_recordsEnrolledPin
    (records : RecordsEnrolledPin registry today employees devices call) :
    RoutePinAgrees registry employees devices call := by
  intro emp route empPin srcDev tgtDev srcUser found routed pinFound srcFound tgtFound first
  by_contra disagree
  obtain ⟨report, saved, after, returned, ok⟩ := exists_enrolmentDone found routed pinFound
    srcFound tgtFound first (not_searchRaises_of_disagree disagree)
  obtain ⟨done⟩ := enrolmentDone_of_run returned ok
  obtain ⟨_, _, _, _, foundAgain, routedAgain, foundSaved, listed, pin, _⟩ :=
    records _ _ _ returned ok
  exact disagree (done.agrees_of_reported found routed pinFound srcFound tgtFound first
    (done.reported_of_entry foundAgain routedAgain foundSaved listed pin))

theorem records_enrolled_pin_iff :
    RecordsEnrolledPin registry today employees devices call ↔
      RoutePinAgrees registry employees devices call :=
  ⟨agrees_of_recordsEnrolledPin, recordsEnrolledPin_of_agrees⟩

end

def capitalsOnTarget : SimDevices :=
  resetSimulationState.setUsers .target [⟨⟨"MEMBER 1O", 0, "", "1", 0, []⟩, 1, "101"⟩]

/-- A grant to branch 2 records PIN 101 where the migration enrolled PIN 102. -/
theorem grant_records_other_pin :
    ¬ @RecordsEnrolledPin UnicodeTables.ascii defaultRegistry "2026-09-14" defaultEmployees
      capitalsOnTarget (.grant ⟨"101", some 2, none⟩) := by
  let := UnicodeTables.ascii
  intro records
  have holds : (capitalsOnTarget.users .target).find? (SimUser.hasId (strip "101")) =
      some ⟨⟨"MEMBER 1O", 0, "", "1", 0, []⟩, 1, "101"⟩ := by decide
  have agrees : PinAgrees (capitalsOnTarget.users .target) "Member 1o" "Member 1o" "101" :=
    agrees_of_recordsEnrolledPin records
      (enrolledAt "101" "EMP-101" "Member 1o" 1 "NFZ8254900401" "101")
      ⟨"NFZ8254900401", "UFZ9876543210", 4370, 4370⟩ "101" .source .target
      ⟨⟨"Member 1o", 0, "", "1", 0, [⟨0, 1, bytes "TEMPLATE_FINGER_0_USER_101_SAMPLE"⟩,
        ⟨1, 1, bytes "TEMPLATE_FINGER_1_USER_101_SAMPLE"⟩]⟩, 1, "101"⟩
      (by decide) (by decide) (by decide) (by decide) (by decide) (by decide)
  rcases agrees with ⟨holder, first, differs⟩ | ⟨-, names⟩ | ⟨holder, -, -, unreadable⟩
  · have same := Option.some.inj (holds.symm.trans first)
    subst same
    have known : isSameUser (some "Member 1o") "MEMBER 1O" = true := by decide +kernel
    exact absurd (known.symm.trans differs) (by decide)
  · exact absurd (names _ holds) (by decide)
  · exact absurd (unreadable.2.symm.trans (int?_toString 101)) (by simp)

end PumoBioMetric.Core
