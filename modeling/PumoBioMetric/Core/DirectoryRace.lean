import PumoBioMetric.Library.SharedStore
import PumoBioMetric.Core.PermanentDeletion

/-!
# Two directory operations at once

The API runs the employee operations in worker threads and `employee_service.py` takes
no lock.  Each operation loads the whole file, acts on the readers and saves the whole
list it loaded; a permanent deletion runs a dismissal, with a load and a save of its
own, between its load and its save.
-/

set_option autoImplicit false

namespace PumoBioMetric.Core

open Py FirstMatch SharedStore TransitionRun

/-- An operation with the date it writes. -/
inductive DirectoryOperation where
  | call (today : String) (call : DirectoryCall)
  | delete (today : String) (args : DeleteArgs)
deriving DecidableEq, Repr

def DirectoryOperation.employeeId : DirectoryOperation → String
  | call _ made => made.employeeId
  | delete _ args => args.employeeId

/-! ## The steps of an operation -/

section

variable [UnicodeTables] {World : Type} (readers : Readers World) (registered : Registry)
  (interrupted : DirectoryCall → Option Employee → World → World)

/-- Whether the call saves, the directory it would leave and the world after it. -/
def DirectoryCall.attempt (today : String) (employees : Directory) (world : World) :
    DirectoryCall → Option (Bool × Directory × World)
  | enrol (.transfer args) =>
      (transferEmployee readers registered today employees world args).map
        fun (result, saved, after) => (result.ok, saved, after)
  | enrol (.grant args) =>
      (grantMultiBranchAccess readers registered employees world args).map
        fun (result, saved, after) => (result.ok, saved, after)
  | remove (.revoke args) =>
      (revokeEmployeeDeviceAccess readers registered employees world args).map
        fun (result, saved, after) => (result.ok, saved, after)
  | remove (.fire args) =>
      (fireEmployeeAndWipeBiometrics readers registered today employees world args).map
        fun (result, saved, after) => (result.ok, saved, after)

/-- A call after its load: it acts on the readers and saves, and what runs it then saves
`rest`.  An exception saves nothing and leaves the readers as `interrupted` says. -/
def DirectoryCall.stage (today : String) (call : DirectoryCall) (rest : List Directory)
    (employees : Directory) : Stage Directory World :=
  .act
    (fun world =>
      match call.attempt readers registered today employees world with
      | none => interrupted call (findEmployee employees call.employeeId) world
      | some (_, _, after) => after)
    (fun world =>
      match call.attempt readers registered today employees world with
      | none => []
      | some (saves, saved, _) => (if saves then [saved] else []) ++ rest)

def DirectoryOperation.steps : DirectoryOperation → Operation Directory World
  | call today made => made.stage readers registered interrupted today []
  | delete today args => fun employees =>
      match findEmployee employees args.employeeId with
      | none => .save []
      | some _ =>
        let remaining := withoutEmployee employees args.employeeId
        if args.wipeBiometrics then
          .load ((DirectoryCall.remove (.fire args.dismissal)).stage readers registered
            interrupted today [remaining])
        else .save [remaining]

end

/-! ## What a call saves -/

section

variable [UnicodeTables] {World : Type} {readers : Readers World} {registered : Registry}
  {today : String} {employees employees' saved : Directory} {world after : World} {saves : Bool}

theorem DirectoryCall.attempt_unsaved {call : DirectoryCall}
    (returned : call.attempt readers registered today employees world =
      some (false, saved, after)) : saved = employees := by
  match call with
  | .enrol (.transfer args) =>
      obtain ⟨⟨result, directory, world'⟩, ran, same⟩ := Option.map_eq_some_iff.mp returned
      obtain ⟨failed, rfl, rfl⟩ : result.ok = false ∧ directory = saved ∧ world' = after := by
        simpa using same
      unfold transferEmployee at ran
      split at ran
      · cases ran
        rfl
      · split at ran
        · cases ran
          rfl
        · split at ran
          · cases ran
            rfl
          · obtain ⟨_, _, outcome⟩ := Option.map_eq_some_iff.mp ran
            cases outcome
            cases failed
  | .enrol (.grant args) =>
      obtain ⟨⟨result, directory, world'⟩, ran, same⟩ := Option.map_eq_some_iff.mp returned
      obtain ⟨failed, rfl, rfl⟩ : result.ok = false ∧ directory = saved ∧ world' = after := by
        simpa using same
      unfold grantMultiBranchAccess at ran
      split at ran
      · cases ran
        rfl
      · split at ran
        · cases ran
          rfl
        · split at ran
          · cases ran
            rfl
          · obtain ⟨⟨pinCheck, res, migrated⟩, _, outcome⟩ := Option.map_eq_some_iff.mp ran
            cases outcome
            change res.ok = false at failed
            simp [failed]
  | .remove (.revoke args) =>
      obtain ⟨⟨result, directory, world'⟩, ran, same⟩ := Option.map_eq_some_iff.mp returned
      obtain ⟨failed, rfl, rfl⟩ : result.ok = false ∧ directory = saved ∧ world' = after := by
        simpa using same
      unfold revokeEmployeeDeviceAccess at ran
      split at ran
      · cases ran
        rfl
      · obtain ⟨pin, _, outcome⟩ := Option.map_eq_some_iff.mp ran
        cases outcome
        change (readers.deleteDeviceUser world args.deviceSn pin
          (registeredPort registered args.deviceSn) args.deleteBiometricsOnly).1.ok = false at failed
        simp [failed]
  | .remove (.fire args) =>
      obtain ⟨⟨result, directory, world'⟩, ran, same⟩ := Option.map_eq_some_iff.mp returned
      obtain ⟨failed, rfl, rfl⟩ : result.ok = false ∧ directory = saved ∧ world' = after := by
        simpa using same
      unfold fireEmployeeAndWipeBiometrics at ran
      split at ran
      · cases ran
        rfl
      · obtain ⟨targets, _, outcome⟩ := Option.map_eq_some_iff.mp ran
        cases outcome
        cases failed

theorem EnrolEffect.savesRecord {call : EnrolCall} {report : Option MigrationReport}
    (effect : EnrolEffect readers registered employees world call report saved after) :
    saved = employees ∨ ∃ emp changed, findEmployee employees call.employeeId = some emp ∧
      changed.id = emp.id ∧ changed.employeeCode = emp.employeeCode ∧
      saved = saveEmployee employees call.employeeId changed := by
  cases effect with
  | unknown => exact Or.inl rfl
  | unreached found _ same _ =>
      exact Or.inr ⟨_, _, found, same.id_eq, same.employeeCode_eq, rfl⟩
  | migrated found _ _ _ _ same _ =>
      exact Or.inr ⟨_, _, found, same.id_eq, same.employeeCode_eq, rfl⟩

theorem DirectoryCall.attempt_saves {call : DirectoryCall}
    (returned : call.attempt readers registered today employees world =
      some (saves, saved, after)) :
    saved = employees ∨ ∃ emp changed, findEmployee employees call.employeeId = some emp ∧
      changed.id = emp.id ∧ changed.employeeCode = emp.employeeCode ∧
      saved = saveEmployee employees call.employeeId changed := by
  match call with
  | .enrol (.transfer args) =>
      obtain ⟨⟨result, directory, world'⟩, ran, same⟩ := Option.map_eq_some_iff.mp returned
      cases same
      exact (transfer_effect ran).savesRecord
  | .enrol (.grant args) =>
      obtain ⟨⟨result, directory, world'⟩, ran, same⟩ := Option.map_eq_some_iff.mp returned
      cases same
      exact (grant_effect ran).savesRecord
  | .remove (.revoke args) =>
      obtain ⟨⟨result, directory, world'⟩, ran, same⟩ := Option.map_eq_some_iff.mp returned
      cases same
      unfold revokeEmployeeDeviceAccess at ran
      split at ran
      · cases ran
        exact Or.inl rfl
      · rename_i emp found
        obtain ⟨pin, _, outcome⟩ := Option.map_eq_some_iff.mp ran
        cases outcome
        split
        · exact Or.inr ⟨emp, _, found, by simp, by simp, rfl⟩
        · exact Or.inl rfl
  | .remove (.fire args) =>
      obtain ⟨⟨result, directory, world'⟩, ran, same⟩ := Option.map_eq_some_iff.mp returned
      cases same
      unfold fireEmployeeAndWipeBiometrics at ran
      split at ran
      · cases ran
        exact Or.inl rfl
      · rename_i emp found
        obtain ⟨targets, _, outcome⟩ := Option.map_eq_some_iff.mp ran
        cases outcome
        exact Or.inr ⟨emp, _, found, by simp, by simp, rfl⟩

theorem DirectoryCall.attempt_other {call : DirectoryCall} {other : String}
    (apart : ∀ emp, findEmployee employees call.employeeId = some emp →
      sameRecord employees call.employeeId other = false)
    (returned : call.attempt readers registered today employees world =
      some (saves, saved, after)) :
    findEmployee saved other = findEmployee employees other := by
  rcases DirectoryCall.attempt_saves returned with
    rfl | ⟨emp, changed, found, sameId, sameCode, rfl⟩
  · rfl
  · rw [findEmployee_saveEmployee_other found sameId sameCode, if_neg (by simp [apart emp found])]

theorem DirectoryCall.attempt_congr (call : DirectoryCall)
    (same : findEmployee employees call.employeeId = findEmployee employees' call.employeeId) :
    (call.attempt readers registered today employees world).map
        (fun (saves, _, after) => (saves, after)) =
      (call.attempt readers registered today employees' world).map
        fun (saves, _, after) => (saves, after) := by
  cases call with
  | enrol enrolment =>
      cases enrolment with
      | transfer args =>
          change findEmployee employees args.employeeId = findEmployee employees' args.employeeId
            at same
          simp only [DirectoryCall.attempt, transferEmployee, same]
          cases findEmployee employees' args.employeeId with
          | none => rfl
          | some emp =>
              by_cases home : emp.branchId = args.toBranchId
              · simp [home]
              · cases branchById registered args.toBranchId with
                | none => simp [home]
                | some toBranch => simp [home, Function.comp_def]
      | grant args =>
          change findEmployee employees args.employeeId = findEmployee employees' args.employeeId
            at same
          simp only [DirectoryCall.attempt, grantMultiBranchAccess, same]
          cases findEmployee employees' args.employeeId with
          | none => rfl
          | some emp =>
              cases home : firstReader (branchById registered emp.branchId) with
              | none => simp [home]
              | some srcDev =>
                  cases target : grantTarget registered args with
                  | none => simp [home]
                  | some reader => simp [home, Function.comp_def]
  | remove removal =>
      cases removal with
      | revoke args =>
          change findEmployee employees args.employeeId = findEmployee employees' args.employeeId
            at same
          simp only [DirectoryCall.attempt, revokeEmployeeDeviceAccess, same]
          cases findEmployee employees' args.employeeId with
          | none => rfl
          | some emp => simp [Function.comp_def]
      | fire args =>
          change findEmployee employees args.employeeId = findEmployee employees' args.employeeId
            at same
          simp only [DirectoryCall.attempt, fireEmployeeAndWipeBiometrics, same]
          cases findEmployee employees' args.employeeId with
          | none => rfl
          | some emp => simp [Function.comp_def]

theorem DirectoryCall.attempt_alike (call : DirectoryCall)
    (same : findEmployee employees call.employeeId = findEmployee employees' call.employeeId) :
    (call.attempt readers registered today employees world = none ∧
        call.attempt readers registered today employees' world = none) ∨
      ∃ saves saved saved' after,
        call.attempt readers registered today employees world = some (saves, saved, after) ∧
        call.attempt readers registered today employees' world = some (saves, saved', after) := by
  have alike : (call.attempt readers registered today employees world).map
        (fun (saves, _, after) => (saves, after)) =
      (call.attempt readers registered today employees' world).map
        fun (saves, _, after) => (saves, after) := DirectoryCall.attempt_congr call same
  cases left : call.attempt readers registered today employees world with
  | none =>
      rw [left] at alike
      exact Or.inl ⟨rfl, Option.map_eq_none_iff.mp alike.symm⟩
  | some outcome =>
      rw [left] at alike
      obtain ⟨saves, saved, after⟩ := outcome
      obtain ⟨⟨saves', saved', after'⟩, right, agree⟩ := Option.map_eq_some_iff.mp alike.symm
      cases agree
      exact Or.inr ⟨saves, saved, saved', after, rfl, right⟩

end

/-! ## The steps of an operation alone -/

section

variable [UnicodeTables] {World : Type} {readers : Readers World} {registered : Registry}
  {interrupted : DirectoryCall → Option Employee → World → World} {today : String}
  {employees saved : Directory} {world after : World}

theorem DirectoryOperation.run_call {made : DirectoryCall} {saves : Bool}
    (returned : made.attempt readers registered today employees world =
      some (saves, saved, after)) :
    ((DirectoryOperation.call today made).steps readers registered interrupted).run
      (employees, world) = (saved, after) := by
  simp only [Operation.run, DirectoryOperation.steps, DirectoryCall.stage, Stage.run, Stage.writes,
    Stage.acted, returned]
  cases saves with
  | true => rfl
  | false => rw [DirectoryCall.attempt_unsaved returned]; rfl

theorem DirectoryOperation.run_delete {args : DeleteArgs} {result : PermanentDeletionResult}
    (returned : deleteEmployeePermanently readers registered today employees world args =
      some (result, saved, after)) :
    ((DirectoryOperation.delete today args).steps readers registered interrupted).run
      (employees, world) = (saved, after) := by
  unfold deleteEmployeePermanently at returned
  simp only [Operation.run, DirectoryOperation.steps, Stage.run]
  cases found : findEmployee employees args.employeeId with
  | none =>
      rw [found] at returned
      cases returned
      rfl
  | some emp =>
      rw [found] at returned
      cases wipes : args.wipeBiometrics with
      | false =>
          simp only [wipes, Bool.false_eq_true, if_false] at returned ⊢
          cases returned
          rfl
      | true =>
          simp only [wipes, if_true] at returned ⊢
          obtain ⟨⟨fired, directory, wiped⟩, ran, same⟩ := Option.map_eq_some_iff.mp returned
          cases same
          simp [Stage.writes, Stage.acted, DirectoryCall.stage, DirectoryCall.attempt, ran]

/-! ## Operations on different employees -/

/-- The operation neither changes nor removes the record that the identifier finds. -/
def DirectoryOperation.Spares (employees : Directory) (other : String) :
    DirectoryOperation → Prop
  | call _ made => ∀ emp, findEmployee employees made.employeeId = some emp →
      sameRecord employees made.employeeId other = false
  | delete _ args => ∀ emp, findEmployee employees other = some emp →
      emp.answersTo (strip args.employeeId) = false

def OnDifferentEmployees (employees : Directory) (left right : DirectoryOperation) : Prop :=
  left.Spares employees right.employeeId ∧ right.Spares employees left.employeeId

theorem DirectoryOperation.writes_other {operation : DirectoryOperation} {other : String}
    (spares : operation.Spares employees other) (written : Directory)
    (member : written ∈ (operation.steps readers registered interrupted employees).writes
      employees world) :
    findEmployee written other = findEmployee employees other := by
  cases operation with
  | call today made =>
      simp only [DirectoryOperation.steps, DirectoryCall.stage, Stage.writes] at member
      cases returned : made.attempt readers registered today employees world with
      | none => simp [returned] at member
      | some outcome =>
          obtain ⟨saves, saved, after⟩ := outcome
          cases saves with
          | false => simp [returned] at member
          | true =>
              rw [returned] at member
              rw [List.mem_singleton.mp member]
              exact DirectoryCall.attempt_other spares returned
  | delete today args =>
      have removed := findEmployee_withoutEmployee spares
      simp only [DirectoryOperation.steps] at member
      cases found : findEmployee employees args.employeeId with
      | none => simp [found, Stage.writes] at member
      | some emp =>
          -- The dismissed record is not the other's: that one does not answer.
          have apart : ∀ emp, findEmployee employees
              (DirectoryCall.remove (.fire args.dismissal)).employeeId = some emp →
              sameRecord employees (DirectoryCall.remove (.fire args.dismissal)).employeeId other
                = false := by
            intro owner first
            by_contra same
            have alike := findEmployee_of_sameRecord (Bool.not_eq_false _ ▸ same)
            have answers : owner.answersTo (strip args.employeeId) = true := List.find?_some first
            rw [spares owner (alike.symm.trans first)] at answers
            cases answers
          cases wipes : args.wipeBiometrics with
          | false =>
              simp only [found, wipes, Bool.false_eq_true, if_false, Stage.writes,
                List.mem_singleton] at member
              rw [member, removed]
          | true =>
              simp only [found, wipes, if_true, Stage.writes, DirectoryCall.stage] at member
              cases returned : (DirectoryCall.remove (.fire args.dismissal)).attempt readers
                  registered today employees world with
              | none => simp [returned] at member
              | some outcome =>
                  obtain ⟨saves, saved, after⟩ := outcome
                  cases saves with
                  | false =>
                      simp only [returned, Bool.false_eq_true, if_false, List.nil_append,
                        List.mem_singleton] at member
                      rw [member, removed]
                  | true =>
                      simp only [returned, if_true, List.cons_append, List.nil_append,
                        List.mem_cons, List.not_mem_nil, or_false] at member
                      rcases member with rfl | rfl
                      · exact DirectoryCall.attempt_other apart returned
                      · exact removed

theorem DirectoryCall.stage_alike (made : DirectoryCall) {rest rest' : List Directory}
    (bothEmpty : rest = [] → rest' = []) {employees' : Directory}
    (same : findEmployee employees made.employeeId = findEmployee employees' made.employeeId) :
    Alike (fun directory => findEmployee directory made.employeeId)
      (made.stage readers registered interrupted today rest employees)
      (made.stage readers registered interrupted today rest' employees') := by
  unfold DirectoryCall.stage
  rw [same]
  have changes : (fun world =>
      match made.attempt readers registered today employees world with
      | none => interrupted made (findEmployee employees' made.employeeId) world
      | some (_, _, after) => after) = fun world =>
      match made.attempt readers registered today employees' world with
      | none => interrupted made (findEmployee employees' made.employeeId) world
      | some (_, _, after) => after := by
    funext world
    rcases DirectoryCall.attempt_alike made same with ⟨left, right⟩ | ⟨_, _, _, _, left, right⟩
    · rw [left, right]
    · rw [left, right]
  rw [changes]
  refine .act fun world nothing => ?_
  rcases DirectoryCall.attempt_alike made same with
    ⟨left, right⟩ | ⟨saves, saved, saved', after, left, right⟩
  · rw [right]
  · rw [left] at nothing
    rw [right]
    obtain ⟨unsaved, last⟩ := List.append_eq_nil_iff.mp nothing
    refine List.append_eq_nil_iff.mpr ⟨?_, bothEmpty last⟩
    cases saves with
    | false => rfl
    | true => simp at unsaved

theorem DirectoryOperation.steps_local (operation : DirectoryOperation) :
    Operation.Local (fun directory => findEmployee directory operation.employeeId)
      (operation.steps readers registered interrupted) := by
  intro directory directory' same
  cases operation with
  | call today made => exact made.stage_alike id same
  | delete today args =>
      change findEmployee directory args.employeeId = findEmployee directory' args.employeeId
        at same
      simp only [DirectoryOperation.steps, same]
      cases findEmployee directory' args.employeeId with
      | none => exact .save id
      | some emp =>
          cases args.wipeBiometrics with
          | false => exact .save (by simp)
          | true =>
              refine .load fun inner inner' innerSame => ?_
              exact DirectoryCall.stage_alike (.remove (.fire args.dismissal)) (by simp) innerSame

/-! ## Every interleaving -/

/-- Two operations on different employees, step by step in any order: when no save is made
after the other operation has saved since one's own first load, the directory on disk
and the readers end as one of the two serial orders leaves them. -/
theorem directory_operations_serialisable {left right : DirectoryOperation}
    (different : OnDifferentEmployees employees left right) {sides : List Side}
    {final : Race Directory World}
    (run : Run (Guarded Race.UpToDate Race.Step)
      (Race.start (employees, world) (left.steps readers registered interrupted)
        (right.steps readers registered interrupted)) sides final)
    (finished : final.Finished) :
    (final.store, final.world) = (right.steps readers registered interrupted).run
        ((left.steps readers registered interrupted).run (employees, world)) ∨
      (final.store, final.world) = (left.steps readers registered interrupted).run
        ((right.steps readers registered interrupted).run (employees, world)) :=
  serial_of_run ⟨left.steps_local, right.steps_local, DirectoryOperation.writes_other different.1,
    DirectoryOperation.writes_other different.2⟩ run finished

end

/-! ## Two transfers at once -/

def plainTransfer (employeeId : String) (toBranchId : Int) : DirectoryOperation :=
  .call "2026-09-14" (.enrol (.transfer ⟨employeeId, toBranchId, none, none, false, "move"⟩))

section

variable [UnicodeTables]

def defaultSteps (operation : DirectoryOperation) : Operation Directory SimDevices :=
  operation.steps (simulatedReaders defaultRegistry) defaultRegistry fun _ _ devices => devices

def twoTransfers (left right : DirectoryOperation) : Race Directory SimDevices :=
  Race.start (defaultEmployees, ⟨[], []⟩) (defaultSteps left) (defaultSteps right)

end

theorem directory_operations_serialisable_overlap :
    let := UnicodeTables.ascii
    ∃ final, Run (Guarded Race.UpToDate Race.Step)
        (twoTransfers (plainTransfer "101" 2) (plainTransfer "102" 9))
        [.left, .right, .left, .right, .left] final ∧
      ((final.store, final.world) = (defaultSteps (plainTransfer "102" 9)).run
          ((defaultSteps (plainTransfer "101" 2)).run (defaultEmployees, ⟨[], []⟩)) ∨
        (final.store, final.world) = (defaultSteps (plainTransfer "101" 2)).run
          ((defaultSteps (plainTransfer "102" 9)).run (defaultEmployees, ⟨[], []⟩))) := by
  intro
  have executed : ([Side.left, .right, .left, .right, .left].foldlM Race.nextUpToDate
      (twoTransfers (plainTransfer "101" 2) (plainTransfer "102" 9))).any
      (fun final => final.left.finished && final.right.finished) = true := by
    decide +kernel
  obtain ⟨final, ran, done⟩ := (Option.any_eq_true _ _).mp executed
  have run := Race.run_of_upToDate ran
  have different : OnDifferentEmployees defaultEmployees (plainTransfer "101" 2)
      (plainTransfer "102" 9) := by
    constructor <;> intro emp _ <;> decide
  exact ⟨final, run,
    directory_operations_serialisable different run (Bool.and_eq_true_iff.mp done)⟩

/-- Both transfers load before either saves: the second save takes the first one back. -/
theorem transfers_lose_update :
    let := UnicodeTables.ascii
    OnDifferentEmployees defaultEmployees (plainTransfer "101" 2) (plainTransfer "102" 3) ∧
      ∃ final, Run Race.Step (twoTransfers (plainTransfer "101" 2) (plainTransfer "102" 3))
          [.left, .right, .left, .right, .left, .right] final ∧
        final.Finished ∧
        final.store ≠ ((defaultSteps (plainTransfer "102" 3)).run
          ((defaultSteps (plainTransfer "101" 2)).run (defaultEmployees, ⟨[], []⟩))).1 ∧
        final.store ≠ ((defaultSteps (plainTransfer "101" 2)).run
          ((defaultSteps (plainTransfer "102" 3)).run (defaultEmployees, ⟨[], []⟩))).1 := by
  intro
  have different : OnDifferentEmployees defaultEmployees (plainTransfer "101" 2)
      (plainTransfer "102" 3) := by
    constructor <;> intro emp _ <;> decide
  have executed : ([Side.left, .right, .left, .right, .left, .right].foldlM Race.step
      (twoTransfers (plainTransfer "101" 2) (plainTransfer "102" 3))).any
      (fun final => final.left.finished && final.right.finished &&
        final.store.all (fun emp => emp.id != "101" || emp.branchId == 1)) = true := by
    decide +kernel
  obtain ⟨final, ran, outcome⟩ := (Option.any_eq_true _ _).mp executed
  obtain ⟨done, stale⟩ := Bool.and_eq_true_iff.mp outcome
  refine ⟨different, final, Run.of_foldlM ran, Bool.and_eq_true_iff.mp done, ?_, ?_⟩
  · intro same
    rw [same] at stale
    exact absurd stale (by decide +kernel)
  · intro same
    rw [same] at stale
    exact absurd stale (by decide +kernel)

end PumoBioMetric.Core
