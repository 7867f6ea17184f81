import PumoBioMetric.Core.DirectoryCall

/-!
# Permanent deletion

`delete_employee_permanently`: a dismissal, when biometrics are to be wiped, and then a
save of the directory that the operation loaded first, without every record that
answers to the identifier.  The lookup and the dismissal take the first of them alone.
-/

set_option autoImplicit false

namespace PumoBioMetric.Core

open Py FirstMatch

structure DeleteArgs where
  employeeId : String
  wipeBiometrics : Bool
deriving DecidableEq, Repr

structure PermanentDeletionResult where
  ok : Bool
  error : Option String
  deleted : Bool
  employeeId : Option String
  employeeName : Option String
  deviceResults : List DeviceDeletion
  message : Option String
deriving DecidableEq, Repr

def PermanentDeletionResult.failed (error : String) : PermanentDeletionResult :=
  ⟨false, some error, false, none, none, [], none⟩

def DeleteArgs.dismissal (args : DeleteArgs) : FireArgs :=
  ⟨args.employeeId, "fire_all", none, "full"⟩

section

variable [UnicodeTables]

/-- `updated_list`. -/
def withoutEmployee (employees : Directory) (employeeId : String) : Directory :=
  employees.filter fun emp => !emp.answersTo (strip employeeId)

def deletedPermanently (emp : Employee) (employeeId : String)
    (deviceResults : List DeviceDeletion) : PermanentDeletionResult :=
  ⟨true, none, true, some (strip employeeId), some emp.name, deviceResults,
    some ("Employee " ++ emp.name ++
      " permanently removed and biometrics wiped from all readers.")⟩

def deleteEmployeePermanently {World : Type} (readers : Readers World) (registered : Registry)
    (today : String) (employees : Directory) (world : World) (args : DeleteArgs) :
    Option (PermanentDeletionResult × Directory × World) :=
  match findEmployee employees args.employeeId with
  | none =>
      some (.failed ("Employee " ++ args.employeeId ++ " not found."), employees, world)
  | some emp =>
    if args.wipeBiometrics then
      -- The dismissal saves its own directory, which the save below overwrites.
      (fireEmployeeAndWipeBiometrics readers registered today employees world
        args.dismissal).map fun (fired, _, wiped) =>
          (deletedPermanently emp args.employeeId fired.deviceResults,
            withoutEmployee employees args.employeeId, wiped)
    else
      some (deletedPermanently emp args.employeeId [],
        withoutEmployee employees args.employeeId, world)

theorem findEmployee_withoutEmployee {employees : Directory} {employeeId other : String}
    (apart : ∀ emp, findEmployee employees other = some emp →
      emp.answersTo (strip employeeId) = false) :
    findEmployee (withoutEmployee employees employeeId) other = findEmployee employees other := by
  unfold findEmployee withoutEmployee at *
  induction employees with
  | nil => rfl
  | cons emp rest ih =>
      cases answers : emp.answersTo (strip other) with
      | true =>
          have kept := apart emp (by rw [List.find?_cons, answers])
          simp [kept, answers]
      | false =>
          have later : ∀ found, rest.find? (Employee.answersTo (strip other)) = some found →
              found.answersTo (strip employeeId) = false := by
            intro found first
            exact apart found (by rw [List.find?_cons, answers]; exact first)
          cases removed : emp.answersTo (strip employeeId) with
          | true => simpa [removed, answers] using ih later
          | false => simpa [removed, answers] using ih later

/-! ## The record that goes -/

/-- The readers were wiped of this employee, or of nobody where none were to be. -/
def DeleteArgs.WipedOf {World : Type} (args : DeleteArgs) (readers : Readers World)
    (registered : Registry) (world : World) (emp : Employee)
    (deviceResults : List DeviceDeletion) (after : World) : Prop :=
  if args.wipeBiometrics then
    ∃ targets, targetDevices registered emp args.dismissal = some targets ∧
      deleteFromReaders readers registered false world targets = (deviceResults, after)
  else deviceResults = [] ∧ after = world

/-- The saved directory is without one record: the one that the lookup selects and whose
readers were wiped. -/
def RemovesSelected {World : Type} (readers : Readers World) (registered : Registry)
    (employees : Directory) (world : World) (args : DeleteArgs)
    (result : PermanentDeletionResult) (saved : Directory) (after : World) : Prop :=
  ∃ front emp back, employees = front ++ emp :: back ∧
    (∀ other ∈ front, other.answersTo (strip args.employeeId) = false) ∧
    findEmployee employees args.employeeId = some emp ∧
    args.WipedOf readers registered world emp result.deviceResults after ∧
    saved = front ++ back

section

variable {World : Type} {readers : Readers World} {registered : Registry} {today : String}
  {employees saved : Directory} {world after : World} {args : DeleteArgs}
  {result : PermanentDeletionResult}

/-- A deletion that returns ok has found a record, wiped its readers and left out every
record that answers. -/
theorem deleteEmployeePermanently_ok
    (returned : deleteEmployeePermanently readers registered today employees world args =
      some (result, saved, after)) (ok : result.ok = true) :
    ∃ emp, findEmployee employees args.employeeId = some emp ∧
      args.WipedOf readers registered world emp result.deviceResults after ∧
      saved = withoutEmployee employees args.employeeId := by
  unfold deleteEmployeePermanently at returned
  cases found : findEmployee employees args.employeeId with
  | none =>
      simp only [found] at returned
      cases returned
      cases ok
  | some emp =>
      refine ⟨emp, rfl, ?_⟩
      simp only [found] at returned
      unfold DeleteArgs.WipedOf
      split at returned
      · rename_i wipes
        -- The dismissal looks the same record up again.
        have dismissed : findEmployee employees args.dismissal.employeeId = some emp := found
        simp only [fireEmployeeAndWipeBiometrics, dismissed, Option.map_map] at returned
        obtain ⟨targets, chosen, same⟩ := Option.map_eq_some_iff.mp returned
        cases same
        rw [if_pos wipes]
        exact ⟨⟨targets, chosen, rfl⟩, rfl⟩
      · rename_i spares
        cases returned
        rw [if_neg spares]
        exact ⟨⟨rfl, rfl⟩, rfl⟩

/-- A permanent deletion removes exactly the record it has wiped if and only if no other
record answers to the identifier. -/
theorem permanent_deletion_exact_iff
    (returned : deleteEmployeePermanently readers registered today employees world args =
      some (result, saved, after)) (ok : result.ok = true) :
    RemovesSelected readers registered employees world args result saved after ↔
      employees.countP (Employee.answersTo (strip args.employeeId)) = 1 := by
  obtain ⟨emp, found, wiped, rfl⟩ := deleteEmployeePermanently_ok returned ok
  have answers : emp.answersTo (strip args.employeeId) = true := List.find?_some found
  constructor
  · rintro ⟨front, again, back, rfl, none, foundAgain, _, left⟩
    cases found.symm.trans foundAgain
    exact (filter_not_eq_iff _ none answers).mp left
  · intro single
    obtain ⟨_, front, back, rfl, none⟩ := List.find?_eq_some_iff_append.mp found
    have unmatched : ∀ other ∈ front, other.answersTo (strip args.employeeId) = false := by
      intro other member
      simpa using none other member
    exact ⟨front, emp, back, rfl, unmatched, found, wiped,
      (filter_not_eq_iff _ unmatched answers).mpr single⟩

end

end

theorem permanent_deletion_exact_101 :
    ∃ result after,
      @deleteEmployeePermanently .ascii _ (@simulatedReaders .ascii defaultRegistry)
          defaultRegistry "2026-09-14" defaultEmployees resetSimulationState ⟨"101", true⟩ =
        some (result, defaultEmployees.tail, after) ∧
      @RemovesSelected .ascii _ (@simulatedReaders .ascii defaultRegistry) defaultRegistry
        defaultEmployees resetSimulationState ⟨"101", true⟩ result defaultEmployees.tail
        after := by
  let := UnicodeTables.ascii
  have ran : (deleteEmployeePermanently (simulatedReaders defaultRegistry) defaultRegistry
      "2026-09-14" defaultEmployees resetSimulationState ⟨"101", true⟩).any (fun outcome =>
        outcome.1.ok && decide (outcome.2.1 = defaultEmployees.tail)) = true := by
    decide +kernel
  obtain ⟨⟨result, saved, after⟩, returned, outcome⟩ := (Option.any_eq_true _ _).mp ran
  obtain ⟨ok, left⟩ := Bool.and_eq_true_iff.mp outcome
  cases of_decide_eq_true left
  exact ⟨result, after, returned,
    (permanent_deletion_exact_iff returned ok).mpr (by decide +kernel)⟩

def sharedKey : Directory :=
  [enrolledAt "5" "EMP-5" "Member 1o" 1 "NFZ8254900401" "5",
    enrolledAt "9" "5" "Gowtham" 2 "UFZ9876543210" "9"]

/-- Both records are gone; only the readers of the first were wiped. -/
theorem deletion_removes_both :
    ∃ result saved after,
      @deleteEmployeePermanently .ascii _ (@simulatedReaders .ascii defaultRegistry)
          defaultRegistry "2026-09-14" sharedKey resetSimulationState ⟨"5", true⟩ =
        some (result, saved, after) ∧
      result.ok = true ∧ saved = [] ∧
      result.deviceResults.map DeviceDeletion.deviceSn = ["NFZ8254900401"] ∧
      ¬ @RemovesSelected .ascii _ (@simulatedReaders .ascii defaultRegistry) defaultRegistry
        sharedKey resetSimulationState ⟨"5", true⟩ result saved after := by
  let := UnicodeTables.ascii
  have ran : (deleteEmployeePermanently (simulatedReaders defaultRegistry) defaultRegistry
      "2026-09-14" sharedKey resetSimulationState ⟨"5", true⟩).any (fun outcome =>
        outcome.1.ok && (decide (outcome.2.1 = []) &&
          decide (outcome.1.deviceResults.map DeviceDeletion.deviceSn = ["NFZ8254900401"]))) =
      true := by
    decide +kernel
  obtain ⟨⟨result, saved, after⟩, returned, outcome⟩ := (Option.any_eq_true _ _).mp ran
  obtain ⟨ok, rest⟩ := Bool.and_eq_true_iff.mp outcome
  obtain ⟨empty, serials⟩ := Bool.and_eq_true_iff.mp rest
  cases of_decide_eq_true empty
  refine ⟨result, [], after, returned, ok, rfl, of_decide_eq_true serials, ?_⟩
  rintro ⟨front, emp, back, parts, _, _, _, left⟩
  have before := congrArg List.length parts
  have afterwards := congrArg List.length left
  simp only [List.length_append, List.length_cons, List.length_nil, sharedKey] at before afterwards
  omega

end PumoBioMetric.Core
