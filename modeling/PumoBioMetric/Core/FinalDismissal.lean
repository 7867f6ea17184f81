import Mathlib.Data.List.Perm.Subperm
import PumoBioMetric.Core.DirectoryRun

/-!
# Dismissal is final

A dismissal sets a status that no other call reads.  A transfer or grant lists a reader
for a dismissed employee again wherever it would for any other, and only there.
-/

set_option autoImplicit false

namespace PumoBioMetric.Core

open Py FirstMatch TransitionRun

structure SimulatedCall where
  registry : Registry
  today : String
  call : DirectoryCall
deriving DecidableEq

section

variable [UnicodeTables]

def SimulatedCall.made (dated : SimulatedCall) : MadeCall SimDevices :=
  ⟨simulatedReaders dated.registry, dated.registry, dated.today, dated.call⟩

def afterSimulated (state : Office SimDevices) (dated : SimulatedCall) : Office SimDevices :=
  makeCall state dated.made

end

/-! ## The property -/

/-- A dismissed employee stays dismissed, with no reader listed that was not before. -/
def StaysDismissed (before after : Employee) : Prop :=
  before.status = some "Terminated" →
    after.status = some "Terminated" ∧ after.serials.Subperm before.serials

theorem StaysDismissed.refl (employee : Employee) : StaysDismissed employee employee :=
  fun dismissed => ⟨dismissed, List.Subperm.refl _⟩

theorem StaysDismissed.trans {first middle final : Employee}
    (before : StaysDismissed first middle) (after : StaysDismissed middle final) :
    StaysDismissed first final := by
  intro dismissed
  obtain ⟨still, fewer⟩ := before dismissed
  obtain ⟨atEnd, least⟩ := after still
  exact ⟨atEnd, least.trans fewer⟩

/-- Record by record; the calls add and remove none. -/
def DismissalsFinal (before after : Office SimDevices) : Prop :=
  List.Forall₂ StaysDismissed before.employees after.employees

theorem DismissalsFinal.refl (state : Office SimDevices) : DismissalsFinal state state :=
  List.forall₂_same.mpr fun employee _ => StaysDismissed.refl employee

theorem DismissalsFinal.trans {first middle final : Office SimDevices}
    (before : DismissalsFinal first middle) (after : DismissalsFinal middle final) :
    DismissalsFinal first final := by
  unfold DismissalsFinal at *
  rw [List.forall₂_iff_get] at *
  obtain ⟨sameLength, here⟩ := before
  obtain ⟨sameLengthAgain, onward⟩ := after
  refine ⟨sameLength.trans sameLengthAgain, ?_⟩
  intro index inFirst inFinal
  exact (here index inFirst (by omega)).trans (onward index (by omega) inFinal)

/-! ## The condition -/

section

variable [UnicodeTables] (registry : Registry)

/-- The migration of the call finds its employee, readers and profile, and a PIN. -/
def GoesThrough (employees : Directory) (devices : SimDevices) (call : EnrolCall)
    (emp : Employee) (route : Route) : Prop :=
  findEmployee employees call.employeeId = some emp ∧
    call.route registry emp = some route ∧
    ∃ empPin srcDev tgtDev srcUser,
      emp.pinOn route.srcSn = some empPin ∧
      simulatedDevice registry route.srcSn = some srcDev ∧
      simulatedDevice registry route.tgtSn = some tgtDev ∧
      (devices.users srcDev).find? (SimUser.hasId empPin) = some srcUser ∧
      ¬ SearchRaises (devices.users tgtDev) emp.name srcUser.name empPin

/-- A migration that goes through for a dismissed employee, to a reader not on its list. -/
def Readmits (employees : Directory) (devices : SimDevices) (call : EnrolCall) : Prop :=
  ∃ emp route, GoesThrough registry employees devices call emp route ∧
    emp.status = some "Terminated" ∧ route.tgtSn ∉ emp.serials

def LeavesDismissed (state : Office SimDevices) (dated : SimulatedCall) : Prop :=
  ∀ call, dated.call = .enrol call →
    ¬ Readmits dated.registry state.employees state.world call

end

/-! ## The list after a migration -/

theorem subperm_recordAccess {kept accessList : List AccessEntry} {sn : String} (pin : String)
    (primary : Bool) (fewer : kept.Sublist accessList)
    (listed : sn ∈ accessList.map AccessEntry.deviceSn) :
    ((recordAccess kept sn pin primary).map AccessEntry.deviceSn).Subperm
      (accessList.map AccessEntry.deviceSn) := by
  have among : (kept.map AccessEntry.deviceSn).Subperm (accessList.map AccessEntry.deviceSn) :=
    (fewer.map _).subperm
  rw [serials_recordAccess]
  split
  · exact among
  · rename_i missing
    have rotated : (kept.map AccessEntry.deviceSn ++ [sn]).Subperm
        (sn :: kept.map AccessEntry.deviceSn) := (List.perm_append_singleton _ _).subperm
    exact rotated.trans (List.cons_subperm_of_not_mem_of_mem missing listed among)

theorem subperm_accessAfterTransfer_iff (mode : String) (accessList : List AccessEntry)
    (srcSn tgtSn pin : String) :
    ((accessAfterTransfer mode accessList srcSn tgtSn pin).map AccessEntry.deviceSn).Subperm
        (accessList.map AccessEntry.deviceSn) ↔
      tgtSn ∈ accessList.map AccessEntry.deviceSn := by
  constructor
  · intro fewer
    obtain ⟨entry, first, _⟩ := accessFor_accessAfterTransfer mode accessList srcSn tgtSn pin
    exact fewer.subset (listed_of_find? first)
  · intro listed
    unfold accessAfterTransfer
    split
    · exact subperm_recordAccess pin true List.filter_sublist listed
    · exact subperm_recordAccess pin false (List.Sublist.refl _) listed

/-! ## One record -/

theorem Employee.SameButAccess.status_eq {changed emp : Employee}
    (same : changed.SameButAccess emp) : changed.status = emp.status := by
  rw [same]

theorem staysDismissed_of_same {emp changed : Employee} (status : changed.status = emp.status)
    (access : changed.access = emp.access) : StaysDismissed emp changed := by
  intro dismissed
  refine ⟨status.trans dismissed, ?_⟩
  simp only [Employee.serials, access]
  exact List.Subperm.refl _

theorem Narrowed.staysDismissed {emp changed : Employee} (narrowed : Narrowed emp changed) :
    StaysDismissed emp changed := by
  intro dismissed
  constructor
  · rcases narrowed.status with same | terminated
    · exact same.trans dismissed
    · exact terminated
  · simp only [Employee.serials_eq_marks]
    exact (narrowed.marks.map _).subperm

section

variable [UnicodeTables] {registry : Registry} {today : String} {employees saved : Directory}
  {devices after : SimDevices}

/-! ## One call -/

theorem EnrolmentDone.goesThrough {call : EnrolCall} {report : MigrationReport}
    (done : EnrolmentDone registry employees devices call report saved after) :
    GoesThrough registry employees devices call done.emp done.route :=
  ⟨done.found, done.routed, done.empPin, done.srcDev, done.tgtDev, done.srcUser,
    done.pinOnSource, done.srcFound, done.tgtFound, done.first, done.not_searchRaises⟩

theorem GoesThrough.returns {call : EnrolCall} {emp : Employee} {route : Route}
    (through : GoesThrough registry employees devices call emp route) (today : String) :
    ∃ report saved after,
      call.run (simulatedReaders registry) registry today employees devices =
        some (some report, saved, after) ∧ report.migration.ok = true := by
  obtain ⟨found, routed, empPin, srcDev, tgtDev, srcUser, pinFound, srcFound, tgtFound, first,
    goes⟩ := through
  exact exists_enrolmentDone found routed pinFound srcFound tgtFound first goes

theorem forall₂_saveEmployee_iff {employeeId : String} {emp changed : Employee}
    (found : findEmployee employees employeeId = some emp) :
    List.Forall₂ StaysDismissed employees (saveEmployee employees employeeId changed) ↔
      StaysDismissed emp changed :=
  forall₂_updateFirst_iff _ _ StaysDismissed.refl found

/-- Of the transfers and grants that return ok, those for a dismissed employee and an
unlisted reader list it, and no others. -/
theorem EnrolmentDone.staysDismissed_iff {call : EnrolCall} {report : MigrationReport}
    (done : EnrolmentDone registry employees devices call report saved after) :
    StaysDismissed done.emp done.changed ↔
      ¬ Readmits registry employees devices call := by
  have listed : done.changed.serials.Subperm done.emp.serials ↔
      done.route.tgtSn ∈ done.emp.serials := by
    unfold Employee.serials
    rw [done.recorded]
    exact subperm_accessAfterTransfer_iff _ _ _ _ _
  have status : done.changed.status = done.emp.status := done.sameRecord.status_eq
  constructor
  · rintro stays ⟨emp, route, ⟨found, routed, _⟩, dismissed, unlisted⟩
    cases done.found.symm.trans found
    cases done.routed.symm.trans routed
    exact unlisted (listed.mp (stays dismissed).2)
  · intro none dismissed
    refine ⟨status.trans dismissed, ?_⟩
    by_contra more
    exact none ⟨_, _, done.goesThrough, dismissed, fun member => more (listed.mpr member)⟩

theorem not_readmits_of_not_ok {call : EnrolCall} {outcome : Option MigrationReport}
    (returned : call.run (simulatedReaders registry) registry today employees devices =
      some (outcome, saved, after))
    (failed : ∀ report, outcome = some report → report.migration.ok = false) :
    ¬ Readmits registry employees devices call := by
  rintro ⟨emp, route, through, _⟩
  obtain ⟨report, _, _, again, ok⟩ := through.returns today
  cases returned.symm.trans again
  exact absurd ((failed report rfl).symm.trans ok) (by simp)

theorem enrolment_final_iff {call : EnrolCall} {outcome : Option MigrationReport}
    (returned : call.run (simulatedReaders registry) registry today employees devices =
      some (outcome, saved, after)) :
    List.Forall₂ StaysDismissed employees saved ↔ ¬ Readmits registry employees devices call := by
  cases enrolEffect_of_run returned with
  | unknown =>
      refine iff_of_true (List.forall₂_same.mpr fun emp _ => StaysDismissed.refl emp) ?_
      exact not_readmits_of_not_ok returned (by simp)
  | unreached found _ same access =>
      rw [forall₂_saveEmployee_iff found]
      exact iff_of_true (staysDismissed_of_same same.status_eq access)
        (not_readmits_of_not_ok returned (by simp))
  | @migrated emp changed _ _ res report _ found _ _ sameReport _ same access =>
      cases ok : res.ok with
      | true =>
          have reportOk : report.migration.ok = true := by rw [sameReport]; exact ok
          obtain ⟨done⟩ := enrolmentDone_of_run returned reportOk
          have onDisk := done.savedEq
          rw [onDisk, forall₂_saveEmployee_iff done.found]
          exact done.staysDismissed_iff
      | false =>
          have reportFailed : report.migration.ok = false := by rw [sameReport]; exact ok
          rw [forall₂_saveEmployee_iff found]
          refine iff_of_true (staysDismissed_of_same same.status_eq ?_) ?_
          · rw [access, ok]
            rfl
          · exact not_readmits_of_not_ok returned (by simp [reportFailed])

theorem removal_final {call : RemovalCall} {outcome : Option MigrationReport}
    (returned : DirectoryCall.run (simulatedReaders registry) registry today employees devices
      (.remove call) = some (outcome, saved, after)) :
    List.Forall₂ StaysDismissed employees saved := by
  rcases removal_saved returned with rfl | ⟨emp, changed, found, narrowed, rfl⟩
  · exact List.forall₂_same.mpr fun emp _ => StaysDismissed.refl emp
  · rw [forall₂_saveEmployee_iff found]
    exact narrowed.staysDismissed

/-- One call leaves the dismissals final if and only if it readmits nobody. -/
theorem afterSimulated_final_iff (state : Office SimDevices) (dated : SimulatedCall) :
    DismissalsFinal state (afterSimulated state dated) ↔ LeavesDismissed state dated := by
  obtain ⟨registry, today, call⟩ := dated
  unfold afterSimulated makeCall SimulatedCall.made LeavesDismissed
  cases call with
  | enrol call =>
      simp only [DirectoryCall.enrol.injEq, forall_eq']
      split
      · rename_i raised
        refine iff_of_true (DismissalsFinal.refl state) ?_
        rintro ⟨emp, route, through, _⟩
        obtain ⟨_, _, _, returned, _⟩ := through.returns today
        exact absurd (raised.symm.trans returned) (by simp)
      · rename_i returned
        exact enrolment_final_iff returned
  | remove call =>
      refine iff_of_true ?_ (by simp)
      split
      · exact DismissalsFinal.refl state
      · rename_i returned
        exact removal_final returned

/-- Throughout a run of calls no dismissed employee gains an entry if and only if no call
readmits one. -/
theorem dismissal_final_iff (start : Office SimDevices) (calls : List SimulatedCall) :
    (∀ earlier between, earlier ++ between <+: calls →
        DismissalsFinal (earlier.foldl afterSimulated start)
          ((earlier ++ between).foldl afterSimulated start)) ↔
      ∀ earlier dated, earlier ++ [dated] <+: calls →
        LeavesDismissed (earlier.foldl afterSimulated start) dated :=
  forall_later_iff DismissalsFinal.refl DismissalsFinal.trans afterSimulated_final_iff start calls

end

/-! ## A grant after a dismissal -/

def dismissBiometrics : SimulatedCall :=
  ⟨defaultRegistry, "2026-09-14", .remove (.fire ⟨"101", "fire_all", none, "biometrics_only"⟩)⟩

def grantAfterwards : SimulatedCall :=
  ⟨defaultRegistry, "2026-09-15", .enrol (.grant ⟨"101", none, some "UFZ9876543210"⟩)⟩

theorem not_final_of_head {before after : Office SimDevices}
    (dismissed : before.employees.head?.map (fun emp => (emp.status, emp.serials)) =
      some (some "Terminated", []))
    {sn : String} (listed : after.employees.head?.map Employee.serials = some [sn]) :
    ¬ DismissalsFinal before after := by
  obtain ⟨employees, devices⟩ := before
  obtain ⟨saved, devicesAfter⟩ := after
  intro final
  change List.Forall₂ StaysDismissed employees saved at final
  cases final with
  | nil => simp at dismissed
  | cons stays _ =>
      simp only [List.head?_cons, Option.map_some, Option.some.injEq, Prod.mk.injEq] at dismissed
      simp only [List.head?_cons, Option.map_some, Option.some.injEq] at listed
      have fewer := (stays dismissed.1).2
      rw [dismissed.2, listed] at fewer
      exact absurd (fewer.subset List.mem_cons_self) List.not_mem_nil

/-- The fingerprints are wiped and the profile stays, and the grant copies it. -/
theorem grant_readmits_dismissed :
    ¬ DismissalsFinal
      ([dismissBiometrics].foldl (@afterSimulated .ascii) ⟨defaultEmployees, resetSimulationState⟩)
      ([dismissBiometrics, grantAfterwards].foldl (@afterSimulated .ascii)
        ⟨defaultEmployees, resetSimulationState⟩) := by
  let := UnicodeTables.ascii
  apply not_final_of_head (by decide +kernel)
  exact show _ = some ["UFZ9876543210"] by decide +kernel

end PumoBioMetric.Core
