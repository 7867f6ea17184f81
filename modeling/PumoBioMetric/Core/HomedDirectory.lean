import PumoBioMetric.Core.EnrolCall

/-!
# Employees enrolled at their branch

A transfer changes the branch whatever the migration returned, and the access list only where it
returned ok.  The employee then has an entry for the new branch, or keeps one from before.
-/

set_option autoImplicit false

namespace PumoBioMetric.Core

open Py FirstMatch

section

variable (registered : Registry)

/-- The employee has an access entry for the first reader of the branch, where there is one. -/
def EnrolledAtHome (employee : Employee) : Prop :=
  ∀ device, firstReader (branchById registered employee.branchId) = some device →
    (employee.accessFor device.sn).isSome = true

def Homed (employees : Directory) : Prop :=
  ∀ employee ∈ employees, EnrolledAtHome registered employee

instance (employees : Directory) : Decidable (Homed registered employees) :=
  decidable_of_iff
    (employees.all (fun employee =>
      (firstReader (branchById registered employee.branchId)).all fun device =>
        (employee.accessFor device.sn).isSome) = true)
    (by simp [Homed, EnrolledAtHome, Option.all_eq_true])

end

section

variable [UnicodeTables] {registered : Registry}

theorem homed_saveEmployee {employees : Directory} {employeeId : String} {emp changed : Employee}
    (homed : Homed registered employees) (found : findEmployee employees employeeId = some emp) :
    Homed registered (saveEmployee employees employeeId changed) ↔
      EnrolledAtHome registered changed :=
  forall_mem_updateFirst_iff _ _ found homed

variable {World : Type} {readers : Readers World} {today : String} {employees saved : Directory}
  {world after : World} {args : TransferArgs} {result : TransferResult} {emp : Employee}
  {srcDev tgtDev : BranchDevice}

theorem saved_of_transfer (found : findEmployee employees args.employeeId = some emp)
    (wanted : args.transferBiometric = true) (different : emp.branchId ≠ args.toBranchId)
    (srcFirst : firstReader (branchById registered emp.branchId) = some srcDev)
    (tgtFirst : firstReader (branchById registered args.toBranchId) = some tgtDev)
    (returned : transferEmployee readers registered today employees world args =
      some (result, saved, after)) :
    ∃ report changed, result.biometric = some (.migrated report) ∧
      saved = saveEmployee employees args.employeeId changed ∧
        changed.branchId = args.toBranchId ∧
          changed.access = (if report.migration.ok = true then
            accessAfterTransfer (transferMode args.biometricMode) emp.access srcDev.sn tgtDev.sn
              report.targetPin
          else emp.access) := by
  obtain ⟨toBranch, reached, head⟩ := Option.bind_eq_some_iff.mp tgtFirst
  have tgtHead : firstReader (some toBranch) = some tgtDev := head
  simp only [transferEmployee, found, different, if_false, reached, wanted, if_true,
    transferBiometrics, srcFirst, tgtHead, Option.map_map] at returned
  obtain ⟨⟨pinCheck, res, migrated⟩, _, same⟩ := Option.map_eq_some_iff.mp returned
  cases same
  exact ⟨_, _, rfl, rfl, rfl, rfl⟩

/-- A transfer leaves everyone enrolled at their branch exactly where its migration returned ok
or the employee already had an entry for the new one. -/
theorem transfer_homed_iff (homed : Homed registered employees)
    (found : findEmployee employees args.employeeId = some emp)
    (wanted : args.transferBiometric = true) (different : emp.branchId ≠ args.toBranchId)
    (srcFirst : firstReader (branchById registered emp.branchId) = some srcDev)
    (tgtFirst : firstReader (branchById registered args.toBranchId) = some tgtDev)
    (returned : transferEmployee readers registered today employees world args =
      some (result, saved, after)) :
    ∃ report, result.biometric = some (.migrated report) ∧
      (Homed registered saved ↔
        report.migration.ok = true ∨ (emp.accessFor tgtDev.sn).isSome = true) := by
  obtain ⟨report, changed, reported, rfl, branch, access⟩ :=
    saved_of_transfer found wanted different srcFirst tgtFirst returned
  refine ⟨report, reported, ?_⟩
  rw [homed_saveEmployee homed found, EnrolledAtHome, branch, tgtFirst]
  have first : (∀ device, some tgtDev = some device → (changed.accessFor device.sn).isSome = true) ↔
      (changed.accessFor tgtDev.sn).isSome = true := by
    simp
  rw [first, Employee.accessFor, access]
  cases ok : report.migration.ok with
  | false => simp [Employee.accessFor]
  | true =>
      obtain ⟨entry, listed, _⟩ := accessFor_accessAfterTransfer
        (transferMode args.biometricMode) emp.access srcDev.sn tgtDev.sn report.targetPin
      simp [listed]

end

def moveOf101 : TransferArgs := ⟨"101", 2, none, none, true, "move"⟩

theorem transfer_homed_101 :
    let := UnicodeTables.ascii
    ∃ result saved after, transferEmployee (simulatedReaders defaultRegistry) defaultRegistry
        "2026-08-15" defaultEmployees resetSimulationState moveOf101 =
          some (result, saved, after) ∧
      Homed defaultRegistry saved := by
  intro _
  have homed : Homed defaultRegistry defaultEmployees := by decide +kernel
  have found : findEmployee defaultEmployees moveOf101.employeeId =
      some (enrolledAt "101" "EMP-101" "Member 1o" 1 "NFZ8254900401" "101") := by
    decide +kernel
  have moved : ((transferEmployee (simulatedReaders defaultRegistry) defaultRegistry "2026-08-15"
      defaultEmployees resetSimulationState moveOf101).bind fun outcome =>
        outcome.1.biometric).map BiometricResult.ok = some true := by
    decide +kernel
  cases returned : transferEmployee (simulatedReaders defaultRegistry) defaultRegistry "2026-08-15"
      defaultEmployees resetSimulationState moveOf101 with
  | none =>
      rw [returned] at moved
      cases moved
  | some outcome =>
      obtain ⟨result, saved, after⟩ := outcome
      obtain ⟨report, reported, exactly⟩ := transfer_homed_iff homed found rfl
        (by decide +kernel) rfl rfl returned
      rw [returned, Option.bind_some, reported] at moved
      exact ⟨result, saved, after, rfl, exactly.mpr (.inl (Option.some.inj moved))⟩

/-- Nobody is on the home reader, so there is no profile to move. -/
theorem transfer_unhomes_101 :
    let := UnicodeTables.ascii
    Homed defaultRegistry defaultEmployees ∧
      ∃ result saved after, transferEmployee (simulatedReaders defaultRegistry) defaultRegistry
          "2026-08-15" defaultEmployees ⟨[], []⟩ moveOf101 = some (result, saved, after) ∧
        ¬ Homed defaultRegistry saved := by
  intro _
  refine ⟨by decide +kernel, ?_⟩
  have unhomed : ((transferEmployee (simulatedReaders defaultRegistry) defaultRegistry "2026-08-15"
      defaultEmployees ⟨[], []⟩ moveOf101).map fun outcome =>
        decide (Homed defaultRegistry outcome.2.1)) = some false := by
    decide +kernel
  obtain ⟨⟨result, saved, after⟩, returned, lost⟩ := Option.map_eq_some_iff.mp unhomed
  exact ⟨result, saved, after, returned, of_decide_eq_false lost⟩

end PumoBioMetric.Core
