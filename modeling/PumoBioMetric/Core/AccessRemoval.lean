import PumoBioMetric.Core.EmployeeService

/-!
# Access entries and profile deletions

Revocation edits the access list after the outcome of its one deletion.  Dismissal
edits it by the action and the serial it was called with, whatever the readers
answered.
-/

set_option autoImplicit false

namespace PumoBioMetric.Core

open Py FirstMatch

inductive RemovalCall where
  | revoke (args : RevokeArgs)
  | fire (args : FireArgs)
deriving DecidableEq, Repr

def RemovalCall.employeeId : RemovalCall → String
  | revoke args => args.employeeId
  | fire args => args.employeeId

def Employee.listsReader (employee : Employee) (sn : String) : Prop :=
  ∃ entry ∈ employee.access, entry.deviceSn = sn

/-! ## The readers a dismissal deletes on -/

section

variable {World : Type} (readers : Readers World) (registered : Registry) (world : World)

def FullyDeletes (emp : Employee) (args : FireArgs) (sn : String) : Prop :=
  args.deleteBiometricsOnly = false ∧
    ∃ targets, targetDevices registered emp args = some targets ∧
      ∃ deletion ∈ (deleteFromReaders readers registered false world targets).1,
        deletion.deviceSn = sn ∧ deletion.ok = true

/-- What the deletions must have done for the edit of the access list to be right. -/
def FireConsistent (emp : Employee) (args : FireArgs) : Prop :=
  if args.action = "fire_all" then
    ∀ entry ∈ emp.access, FullyDeletes readers registered world emp args entry.deviceSn
  else
    match args.singleDevice with
    | some sn =>
        emp.listsReader sn → emp.pinOn sn = none ∨ FullyDeletes readers registered world emp args sn
    | none =>
        ∀ entry ∈ emp.access, (args.deviceSn = some entry.deviceSn ↔
          FullyDeletes readers registered world emp args entry.deviceSn)

end

/-! ## What the call forgets -/

section

variable [UnicodeTables] {World : Type} (readers : Readers World) (registered : Registry)
  (today : String) (world : World)

/-- The serials on which the call deleted a whole profile with ok, and the directory
that is then on disk. -/
def RemovalCall.run (employees : Directory) : RemovalCall → Option (List String × Directory)
  | revoke args =>
      (revokeEmployeeDeviceAccess readers registered employees world args).map
        fun (result, saved, _) =>
          (if result.ok && !args.deleteBiometricsOnly then [args.deviceSn] else [], saved)
  | fire args =>
      (fireEmployeeAndWipeBiometrics readers registered today employees world args).map
        fun (result, saved, _) =>
          (if args.deleteBiometricsOnly then []
            else (result.deviceResults.filter DeviceDeletion.ok).map DeviceDeletion.deviceSn,
            saved)

/-- Of the readers listed before the call, exactly those with a full deletion that
returned ok are gone from the saved list. -/
def ForgetsExactly (employees : Directory) (call : RemovalCall) : Prop :=
  ∀ dropped saved, call.run readers registered today world employees = some (dropped, saved) →
    ∀ emp, findEmployee employees call.employeeId = some emp →
      ∀ sn, emp.listsReader sn →
        ((∀ left, findEmployee saved call.employeeId = some left → ¬ left.listsReader sn) ↔
          sn ∈ dropped)

def RemovalConsistent (employees : Directory) : RemovalCall → Prop
  | .revoke _ => True
  | .fire args => ∀ emp, findEmployee employees args.employeeId = some emp →
      FireConsistent readers registered world emp args

end

section

variable {World : Type} (readers : Readers World) (registered : Registry)

theorem deleteFromReaders_serials (deleteBiometricsOnly : Bool) (world : World)
    (targets : List (String × String)) :
    (deleteFromReaders readers registered deleteBiometricsOnly world targets).1.map
      DeviceDeletion.deviceSn = targets.map Prod.fst := by
  induction targets generalizing world with
  | nil => rfl
  | cons target rest ih => simp [deleteFromReaders, ih]

end

/-! ## The readers a dismissal contacts -/

section

variable {World : Type} {readers : Readers World} {registered : Registry} {world : World}

theorem targetDevices_single {emp : Employee} {args : FireArgs} {sn : String}
    (single : args.singleDevice = some sn) :
    targetDevices registered emp args = (emp.pinOn sn).map fun pin => [(sn, pin)] := by
  simp [targetDevices, single]

theorem targetDevices_isSome {emp : Employee} {args : FireArgs}
    (all : args.singleDevice = none) : (targetDevices registered emp args).isSome = true := by
  unfold targetDevices
  rw [all]
  cases emp.access <;> rfl

theorem FireArgs.of_singleDevice {args : FireArgs} {sn : String}
    (single : args.singleDevice = some sn) :
    args.action = "delete_device" ∧ args.deviceSn = some sn := by
  unfold FireArgs.singleDevice at single
  split at single
  · rename_i action
    exact ⟨action, (Option.filter_eq_some_iff.mp single).1⟩
  · cases single

theorem fireConsistent_of_raise {emp : Employee} {args : FireArgs}
    (raised : targetDevices registered emp args = none) :
    FireConsistent readers registered world emp args := by
  unfold FireConsistent
  cases single : args.singleDevice with
  | none =>
      have chosen : (targetDevices registered emp args).isSome = true := targetDevices_isSome single
      simp [raised] at chosen
  | some sn =>
      have otherAction : args.action ≠ "fire_all" := by
        rw [(FireArgs.of_singleDevice single).1]
        decide
      rw [targetDevices_single single] at raised
      rw [if_neg otherAction]
      intro _
      exact Or.inl (Option.map_eq_none_iff.mp raised)

theorem fire_consistent_iff {emp : Employee} {args : FireArgs} {targets : List (String × String)}
    (chosen : targetDevices registered emp args = some targets) :
    FireConsistent readers registered world emp args ↔
      ∀ sn, emp.listsReader sn → ((args.action = "fire_all" ∨ args.deviceSn = some sn) ↔
        FullyDeletes readers registered world emp args sn) := by
  unfold FireConsistent
  by_cases all : args.action = "fire_all"
  · simp [all, Employee.listsReader]
  · simp only [all, if_false, false_or]
    cases single : args.singleDevice with
    | none => simp [Employee.listsReader]
    | some target =>
        obtain ⟨-, serial⟩ := FireArgs.of_singleDevice single
        rw [targetDevices_single single] at chosen
        obtain ⟨pin, pinFound, same⟩ := Option.map_eq_some_iff.mp chosen
        -- Only the named reader is contacted.
        have contacted : ∀ sn, FullyDeletes readers registered world emp args sn → sn = target := by
          rintro sn ⟨-, others, chosenAgain, deletion, member, rfl, -⟩
          rw [targetDevices_single single, pinFound] at chosenAgain
          cases chosenAgain
          have serials := deleteFromReaders_serials readers registered false world [(target, pin)]
          have listed : deletion.deviceSn ∈ [(target, pin)].map Prod.fst :=
            serials ▸ List.mem_map.mpr ⟨deletion, member, rfl⟩
          simpa using listed
        simp only [pinFound, reduceCtorEq, false_or, serial, Option.some.injEq]
        constructor
        · intro deleted sn listed
          constructor
          · rintro rfl
            exact deleted listed
          · intro fully
            exact (contacted sn fully).symm
        · intro agree listed
          exact (agree target listed).mp rfl

end

/-! ## The access list after a call -/

theorem revokedEmployee_listsReader (emp : Employee) (args : RevokeArgs) (sn : String) :
    (revokedEmployee emp args).listsReader sn ↔
      emp.listsReader sn ∧ (args.deleteBiometricsOnly = true ∨ sn ≠ args.deviceSn) := by
  unfold revokedEmployee Employee.listsReader
  cases args.deleteBiometricsOnly with
  | true =>
      have sameSerials : ∀ entry : AccessEntry,
          (if entry.isFor args.deviceSn then { entry with biometricsCleared := true }
            else entry : AccessEntry).deviceSn = entry.deviceSn := by
        intro entry
        split <;> rfl
      simp only [if_true, List.mem_map, true_or, and_true]
      constructor
      · rintro ⟨_, ⟨entry, member, rfl⟩, same⟩
        exact ⟨entry, member, (sameSerials entry).symm.trans same⟩
      · rintro ⟨entry, member, same⟩
        exact ⟨_, ⟨entry, member, rfl⟩, (sameSerials entry).trans same⟩
  | false =>
      simp only [Bool.false_eq_true, if_false, List.mem_filter, Bool.not_eq_true',
        AccessEntry.isFor, beq_eq_false_iff_ne, false_or]
      constructor
      · rintro ⟨entry, ⟨member, other⟩, rfl⟩
        exact ⟨⟨entry, member, rfl⟩, other⟩
      · rintro ⟨⟨entry, member, rfl⟩, other⟩
        exact ⟨entry, ⟨member, other⟩, rfl⟩

theorem firedEmployee_listsReader (today : String) (emp : Employee)
    (args : FireArgs) (deviceResults : List DeviceDeletion) (sn : String) :
    (firedEmployee today emp args deviceResults).listsReader sn ↔
      emp.listsReader sn ∧ ¬ (args.action = "fire_all" ∨ args.deviceSn = some sn) := by
  unfold firedEmployee Employee.listsReader
  by_cases all : args.action = "fire_all"
  · simp [all]
  · simp only [all, if_false, List.mem_filter, Bool.not_eq_true', beq_eq_false_iff_ne, false_or]
    constructor
    · rintro ⟨entry, ⟨member, other⟩, rfl⟩
      exact ⟨⟨entry, member, rfl⟩, other⟩
    · rintro ⟨⟨entry, member, rfl⟩, other⟩
      exact ⟨entry, ⟨member, other⟩, rfl⟩

section

variable [UnicodeTables] {World : Type} {readers : Readers World} {registered : Registry}
  {today : String} {world : World} {employees : Directory}

/-! ## Revocation -/

theorem revoke_forgets_exactly (args : RevokeArgs) :
    ForgetsExactly readers registered today world employees (.revoke args) := by
  intro dropped saved ran emp found sn listed
  obtain ⟨⟨result, directory, wiped⟩, returned, same⟩ := Option.map_eq_some_iff.mp ran
  cases same
  change findEmployee employees args.employeeId = some emp at found
  simp only [revokeEmployeeDeviceAccess, found] at returned
  obtain ⟨pin, -, same⟩ := Option.map_eq_some_iff.mp returned
  cases same
  cases (readers.deleteDeviceUser world args.deviceSn pin
      (registeredPort registered args.deviceSn) args.deleteBiometricsOnly).1.ok with
  | false =>
      have kept : findEmployee employees args.employeeId = some emp := found
      simp [RemovalCall.employeeId, kept, listed]
  | true =>
      have kept : findEmployee (saveEmployee employees args.employeeId
          (revokedEmployee emp args)) args.employeeId = some (revokedEmployee emp args) :=
        findEmployee_saveEmployee found (by simp) (by simp)
      have left := revokedEmployee_listsReader emp args sn
      cases wholeProfile : args.deleteBiometricsOnly with
      | true => simp [RemovalCall.employeeId, kept, left, listed, wholeProfile]
      | false => simp [RemovalCall.employeeId, kept, left, listed, wholeProfile]

/-! ## Dismissal -/

theorem fire_run_eq {emp : Employee} {args : FireArgs} {targets : List (String × String)}
    (found : findEmployee employees args.employeeId = some emp)
    (chosen : targetDevices registered emp args = some targets) :
    ∃ dropped deviceResults,
      RemovalCall.run readers registered today world employees (.fire args) =
        some (dropped, saveEmployee employees args.employeeId
          (firedEmployee today emp args deviceResults)) ∧
      ∀ sn, sn ∈ dropped ↔ FullyDeletes readers registered world emp args sn := by
  simp only [RemovalCall.run, fireEmployeeAndWipeBiometrics, found, chosen, Option.map_some]
  refine ⟨_, _, rfl, ?_⟩
  intro sn
  cases wholeProfile : args.deleteBiometricsOnly with
  | true => simp [FullyDeletes, wholeProfile]
  | false =>
      simp only [FullyDeletes, wholeProfile, chosen, Bool.false_eq_true, if_false, List.mem_map,
        List.mem_filter, Option.some.injEq, true_and, exists_eq_left']
      constructor
      · rintro ⟨deletion, ⟨member, ok⟩, same⟩
        exact ⟨deletion, member, same, ok⟩
      · rintro ⟨deletion, member, same, ok⟩
        exact ⟨deletion, ⟨member, ok⟩, same⟩

theorem fire_forgets_iff {emp : Employee} {args : FireArgs} {targets : List (String × String)}
    (found : findEmployee employees args.employeeId = some emp)
    (chosen : targetDevices registered emp args = some targets) :
    ForgetsExactly readers registered today world employees (.fire args) ↔
      ∀ sn, emp.listsReader sn → ((args.action = "fire_all" ∨ args.deviceSn = some sn) ↔
        FullyDeletes readers registered world emp args sn) := by
  obtain ⟨dropped, deviceResults, ran, droppedIff⟩ :
      ∃ dropped deviceResults,
        RemovalCall.run readers registered today world employees (.fire args) =
          some (dropped, saveEmployee employees args.employeeId
            (firedEmployee today emp args deviceResults)) ∧
        ∀ sn, sn ∈ dropped ↔ FullyDeletes readers registered world emp args sn :=
    fire_run_eq found chosen
  have kept : findEmployee (saveEmployee employees args.employeeId
      (firedEmployee today emp args deviceResults)) args.employeeId =
      some (firedEmployee today emp args deviceResults) :=
    findEmployee_saveEmployee found (by simp) (by simp)
  have gone : ∀ sn, emp.listsReader sn →
      ((∀ left, findEmployee (saveEmployee employees args.employeeId
          (firedEmployee today emp args deviceResults)) args.employeeId = some left →
          ¬ left.listsReader sn) ↔ (args.action = "fire_all" ∨ args.deviceSn = some sn)) := by
    intro sn listed
    simp only [kept, Option.some.injEq, forall_eq', firedEmployee_listsReader, listed, true_and,
      not_not]
  constructor
  · intro exactly sn listed
    rw [← droppedIff, ← gone sn listed]
    exact exactly _ _ ran emp found sn listed
  · intro agree dropped' saved ran' emp' found' sn listed
    cases ran.symm.trans ran'
    cases found.symm.trans found'
    rw [droppedIff, ← agree sn listed]
    exact gone sn listed

/-- Revocation always forgets exactly what was deleted; dismissal exactly when its
deletions match the edit that its action makes. -/
theorem forgets_exactly_iff (call : RemovalCall) :
    ForgetsExactly readers registered today world employees call ↔
      RemovalConsistent readers registered world employees call := by
  cases call with
  | revoke args => exact iff_of_true (revoke_forgets_exactly args) trivial
  | fire args =>
      cases found : findEmployee employees args.employeeId with
      | none =>
          have absent : ∀ emp, findEmployee employees args.employeeId ≠ some emp := by
            simp [found]
          constructor
          · intro _ emp present
            exact absurd present (absent emp)
          · intro _ _ _ _ emp present
            exact absurd present (absent emp)
      | some emp =>
          have only : RemovalConsistent readers registered world employees (.fire args) ↔
              FireConsistent readers registered world emp args := by
            simp [RemovalConsistent, found]
          rw [only]
          cases chosen : targetDevices registered emp args with
          | some targets => rw [fire_forgets_iff found chosen, fire_consistent_iff chosen]
          | none =>
              -- A `KeyError` before the first deletion.
              have raised : RemovalCall.run readers registered today world employees
                  (.fire args) = none := by
                simp [RemovalCall.run, fireEmployeeAndWipeBiometrics, found, chosen]
              constructor
              · intro _
                exact fireConsistent_of_raise chosen
              · intro _ dropped saved ran
                exact absurd (raised.symm.trans ran) (by simp)

end

theorem fire_biometrics_only_forgets :
    ¬ @ForgetsExactly UnicodeTables.ascii SimDevices
      (@simulatedReaders UnicodeTables.ascii defaultRegistry) defaultRegistry "2026-09-14"
      resetSimulationState defaultEmployees
      (.fire ⟨"101", "fire_all", none, "biometrics_only"⟩) := by
  let := UnicodeTables.ascii
  intro exactly
  have found : findEmployee defaultEmployees
      (FireArgs.employeeId ⟨"101", "fire_all", none, "biometrics_only"⟩) =
      some (enrolledAt "101" "EMP-101" "Member 1o" 1 "NFZ8254900401" "101") := by decide
  have listed : (enrolledAt "101" "EMP-101" "Member 1o" 1 "NFZ8254900401" "101").listsReader
      "NFZ8254900401" := ⟨_, List.mem_singleton.mpr rfl, rfl⟩
  have chosen : targetDevices defaultRegistry
      (enrolledAt "101" "EMP-101" "Member 1o" 1 "NFZ8254900401" "101")
      ⟨"101", "fire_all", none, "biometrics_only"⟩ = some [("NFZ8254900401", "101")] := by decide
  have fully := ((fire_forgets_iff found chosen).mp exactly "NFZ8254900401" listed).mp (Or.inl rfl)
  exact absurd fully.1 (by decide)

end PumoBioMetric.Core
