import PumoBioMetric.Core.DirectoryRun
import PumoBioMetric.Core.PermanentDeletion

/-!
# What the directory records of an employee

`transferHistory` and `offboardHistory` grow with the operations, and no other field tells of
them.  Over any run the transfers lead from the first branch to the present one, and the
dismissals account for the status.
-/

set_option autoImplicit false

namespace PumoBioMetric.Core

open Py FirstMatch TransitionRun

/-! ## Careers -/

/-- Transfers from one branch to another, each from where the one before it ended. -/
def Leads : Int → List TransferRecord → Int → Prop
  | first, [], last => first = last
  | first, record :: rest, last =>
      record.fromBranchId = first ∧ record.toBranchId ≠ first ∧ Leads record.toBranchId rest last

theorem leads_append {earlier later : List TransferRecord} {first middle last : Int}
    (front : Leads first earlier middle) (back : Leads middle later last) :
    Leads first (earlier ++ later) last := by
  induction earlier generalizing first with
  | nil =>
      cases front
      exact back
  | cons record rest ih =>
      obtain ⟨starts, moves, onward⟩ := front
      exact ⟨starts, moves, ih onward⟩

def Employee.standing (employee : Employee) : Option String × Option String :=
  (employee.status, employee.terminatedDate)

def offboarded (standing : Option String × Option String) (record : OffboardRecord) :
    Option String × Option String :=
  if record.action = "fire_all" then (some "Terminated", some record.timestamp) else standing

/-- What became of a record. -/
structure Career (before after : Employee) : Prop where
  person : after.id = before.id ∧ after.employeeCode = before.employeeCode ∧
    after.name = before.name
  transfers : ∃ made, after.transferHistory = before.transferHistory ++ made ∧
    Leads before.branchId made after.branchId
  offboardings : ∃ made, after.offboardHistory = before.offboardHistory ++ made ∧
    after.standing = made.foldl offboarded before.standing

theorem Career.refl (employee : Employee) : Career employee employee where
  person := ⟨rfl, rfl, rfl⟩
  transfers := ⟨[], (List.append_nil _).symm, rfl⟩
  offboardings := ⟨[], (List.append_nil _).symm, rfl⟩

theorem Career.trans {first middle last : Employee} (before : Career first middle)
    (after : Career middle last) : Career first last := by
  obtain ⟨⟨id, code, name⟩, ⟨moved, grew, front⟩, left, gone, standing⟩ := before
  obtain ⟨⟨sameId, sameCode, sameName⟩, ⟨movedOn, grewOn, back⟩, leftOn, goneOn,
    standingOn⟩ := after
  refine ⟨⟨sameId.trans id, sameCode.trans code, sameName.trans name⟩, ?_, ?_⟩
  · refine ⟨moved ++ movedOn, ?_, leads_append front back⟩
    rw [grewOn, grew, List.append_assoc]
  · refine ⟨left ++ leftOn, ?_, ?_⟩
    · rw [goneOn, gone, List.append_assoc]
    · rw [standingOn, standing, List.foldl_append]

theorem career_of_access {emp changed : Employee}
    (same : changed = { emp with access := changed.access }) : Career emp changed := by
  rw [same]
  exact ⟨⟨rfl, rfl, rfl⟩, ⟨[], (List.append_nil _).symm, rfl⟩, [], (List.append_nil _).symm, rfl⟩

theorem career_revoked (emp : Employee) (args : RevokeArgs) :
    Career emp (revokedEmployee emp args) := by
  refine career_of_access ?_
  unfold revokedEmployee
  split <;> rfl

theorem career_fired (today : String) (emp : Employee) (args : FireArgs)
    (deviceResults : List DeviceDeletion) :
    Career emp (firedEmployee today emp args deviceResults) := by
  unfold firedEmployee
  by_cases all : args.action = "fire_all"
  · rw [if_pos all]
    refine ⟨⟨rfl, rfl, rfl⟩, ⟨[], (List.append_nil _).symm, rfl⟩, [_], rfl, ?_⟩
    rw [List.foldl_cons, List.foldl_nil, offboarded, if_pos all]
    rfl
  · rw [if_neg all]
    refine ⟨⟨rfl, rfl, rfl⟩, ⟨[], (List.append_nil _).symm, rfl⟩, [_], rfl, ?_⟩
    rw [List.foldl_cons, List.foldl_nil, offboarded, if_neg all]
    rfl

/-! ## Directories -/

/-- Records may be gone; the others are in their order, each with its career. -/
def Continues (before after : Directory) : Prop :=
  ∃ kept, kept.Sublist before ∧ List.Forall₂ Career kept after

theorem continues_iff {before after : Directory} :
    Continues before after ↔ List.SublistForall₂ (flip Career) after before := by
  rw [List.sublistForall₂_iff, Continues]
  constructor
  · rintro ⟨kept, fewer, careers⟩
    exact ⟨kept, careers.flip, fewer⟩
  · rintro ⟨kept, careers, fewer⟩
    exact ⟨kept, fewer, careers.flip⟩

theorem Continues.refl (employees : Directory) : Continues employees employees :=
  ⟨employees, List.Sublist.refl _, List.forall₂_same.mpr fun employee _ => Career.refl employee⟩

theorem Continues.trans {first middle last : Directory} (before : Continues first middle)
    (after : Continues middle last) : Continues first last := by
  have career : IsTrans Employee (flip Career) := ⟨fun _ _ _ late early => early.trans late⟩
  have directory : IsTrans Directory (List.SublistForall₂ (flip Career)) := inferInstance
  rw [continues_iff] at *
  exact directory.trans _ _ _ after before

section

variable [UnicodeTables] {World : Type} {readers : Readers World} {registered : Registry}
  {today : String} {employees saved : Directory} {world after : World}

theorem continues_saveEmployee {employeeId : String} {emp changed : Employee}
    (found : findEmployee employees employeeId = some emp) (career : Career emp changed) :
    Continues employees (saveEmployee employees employeeId changed) :=
  ⟨employees, List.Sublist.refl _,
    (forall₂_updateFirst_iff _ _ Career.refl found).mpr career⟩

theorem continues_transfer {args : TransferArgs} {result : TransferResult}
    (returned : transferEmployee readers registered today employees world args =
      some (result, saved, after)) : Continues employees saved := by
  unfold transferEmployee at returned
  split at returned
  · cases returned
    exact .refl employees
  · rename_i emp found
    split at returned
    · cases returned
      exact .refl employees
    · rename_i elsewhere
      split at returned
      · cases returned
        exact .refl employees
      · rename_i toBranch reached
        obtain ⟨⟨biometric, accessList, migrated⟩, _, same⟩ := Option.map_eq_some_iff.mp returned
        cases same
        refine continues_saveEmployee found ⟨⟨rfl, rfl, rfl⟩, ⟨[_], rfl, ?_⟩, [], ?_, rfl⟩
        · exact ⟨rfl, Ne.symm elsewhere, rfl⟩
        · exact (List.append_nil _).symm

theorem continues_grant {args : GrantArgs} {result : GrantResult}
    (returned : grantMultiBranchAccess readers registered employees world args =
      some (result, saved, after)) : Continues employees saved := by
  unfold grantMultiBranchAccess at returned
  split at returned
  · cases returned
    exact .refl employees
  · rename_i emp found
    split at returned
    · cases returned
      exact .refl employees
    · split at returned
      · cases returned
        exact .refl employees
      · obtain ⟨⟨pinCheck, res, migrated⟩, _, same⟩ := Option.map_eq_some_iff.mp returned
        dsimp only at same
        split at same
        · cases same
          exact continues_saveEmployee found (career_of_access rfl)
        · cases same
          exact .refl employees

theorem continues_revoke {args : RevokeArgs} {result : RevokeResult}
    (returned : revokeEmployeeDeviceAccess readers registered employees world args =
      some (result, saved, after)) : Continues employees saved := by
  unfold revokeEmployeeDeviceAccess at returned
  split at returned
  · cases returned
    exact .refl employees
  · rename_i emp found
    obtain ⟨pin, _, outcome⟩ := Option.map_eq_some_iff.mp returned
    cases outcome
    cases (readers.deleteDeviceUser world args.deviceSn pin
        (registeredPort registered args.deviceSn) args.deleteBiometricsOnly).1.ok with
    | true => exact continues_saveEmployee found (career_revoked emp args)
    | false => exact .refl employees

theorem continues_fire {args : FireArgs} {result : FireResult}
    (returned : fireEmployeeAndWipeBiometrics readers registered today employees world args =
      some (result, saved, after)) : Continues employees saved := by
  unfold fireEmployeeAndWipeBiometrics at returned
  split at returned
  · cases returned
    exact .refl employees
  · rename_i emp found
    obtain ⟨targets, _, outcome⟩ := Option.map_eq_some_iff.mp returned
    cases outcome
    exact continues_saveEmployee found (career_fired today emp args _)

theorem continues_delete {args : DeleteArgs} {result : PermanentDeletionResult}
    (returned : deleteEmployeePermanently readers registered today employees world args =
      some (result, saved, after)) : Continues employees saved := by
  have removed : Continues employees (withoutEmployee employees args.employeeId) :=
    ⟨_, List.filter_sublist, List.forall₂_same.mpr fun employee _ => Career.refl employee⟩
  unfold deleteEmployeePermanently at returned
  split at returned
  · cases returned
    exact .refl employees
  · split at returned
    · obtain ⟨⟨fired, _, wiped⟩, _, same⟩ := Option.map_eq_some_iff.mp returned
      cases same
      exact removed
    · cases returned
      exact removed

end

/-! ## Runs -/

/-- One request to the employee router, with the readers and the registry that it meets. -/
inductive OfficeCall (World : Type) where
  | change (made : MadeCall World)
  | delete (readers : Readers World) (registered : Registry) (today : String) (args : DeleteArgs)

section

variable [UnicodeTables] {World : Type}

/-- A call that raises saves nothing. -/
def OfficeCall.apply (state : Office World) : OfficeCall World → Office World
  | .change made => makeCall state made
  | .delete readers registered today args =>
      match deleteEmployeePermanently readers registered today state.employees state.world args with
      | none => state
      | some (_, saved, after) => ⟨saved, after⟩

theorem continues_makeCall (state : Office World) (made : MadeCall World) :
    Continues state.employees (makeCall state made).employees := by
  unfold makeCall
  split
  · exact .refl _
  · rename_i report saved after returned
    cases called : made.call with
    | enrol call =>
        rw [called] at returned
        cases call with
        | transfer args =>
            obtain ⟨⟨result, directory, migrated⟩, ran, same⟩ := Option.map_eq_some_iff.mp returned
            cases same
            exact continues_transfer ran
        | grant args =>
            obtain ⟨⟨result, directory, migrated⟩, ran, same⟩ := Option.map_eq_some_iff.mp returned
            cases same
            exact continues_grant ran
    | remove call =>
        rw [called] at returned
        cases call with
        | revoke args =>
            obtain ⟨⟨result, directory, wiped⟩, ran, same⟩ := Option.map_eq_some_iff.mp returned
            cases same
            exact continues_revoke ran
        | fire args =>
            obtain ⟨⟨result, directory, wiped⟩, ran, same⟩ := Option.map_eq_some_iff.mp returned
            cases same
            exact continues_fire ran

theorem continues_apply (state : Office World) (call : OfficeCall World) :
    Continues state.employees (call.apply state).employees := by
  cases call with
  | change made => exact continues_makeCall state made
  | delete readers registered today args =>
      rw [OfficeCall.apply]
      split
      · exact .refl _
      · rename_i result saved after returned
        exact continues_delete returned

/-- After any operations, whatever the readers did: the directory holds some of the records that it
began with, in their order; the transfers of each lead from its first branch to its present one,
and its status and date of termination are those of its last dismissal. -/
theorem careers_recorded (start : Office World) (calls : List (OfficeCall World)) :
    ∃ kept, kept.Sublist start.employees ∧
      List.Forall₂ Career kept (calls.foldl OfficeCall.apply start).employees := by
  induction calls generalizing start with
  | nil => exact Continues.refl start.employees
  | cons call rest ih =>
      exact (continues_apply start call).trans (ih (call.apply start))

end

end PumoBioMetric.Core
