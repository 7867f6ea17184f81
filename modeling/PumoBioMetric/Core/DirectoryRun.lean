import PumoBioMetric.Library.TransitionRun
import PumoBioMetric.Core.DirectoryCall

/-!
# Runs of directory calls

Each call meets its own readers, registry and date.  A call saves the directory with at
most one record changed; a call that raises saves nothing.
-/

set_option autoImplicit false

namespace PumoBioMetric.Core

open Py FirstMatch

/-- The directory on disk and what the readers hold. -/
structure Office (World : Type) where
  employees : Directory
  world : World

structure MadeCall (World : Type) where
  readers : Readers World
  registered : Registry
  today : String
  call : DirectoryCall

def makeCall [UnicodeTables] {World : Type} (state : Office World) (made : MadeCall World) :
    Office World :=
  match made.call.run made.readers made.registered made.today state.employees state.world with
  | none => state
  | some (_, saved, after) => ⟨saved, after⟩

/-! ## What a removal makes of a record -/

def Employee.marks (employee : Employee) : List (String × Bool) :=
  employee.access.map fun entry => (entry.deviceSn, entry.primary)

def Employee.serials (employee : Employee) : List String := employee.access.map AccessEntry.deviceSn

theorem Employee.serials_eq_marks (employee : Employee) :
    employee.serials = employee.marks.map Prod.fst := by
  simp [Employee.serials, Employee.marks]

/-- Entries may be dropped, and the status may become Terminated. -/
structure Narrowed (emp changed : Employee) : Prop where
  marks : changed.marks.Sublist emp.marks
  status : changed.status = emp.status ∨ changed.status = some "Terminated"

theorem marks_cleared (sn : String) (entry : AccessEntry) :
    ((fun entry : AccessEntry => (entry.deviceSn, entry.primary)) ∘ fun entry : AccessEntry =>
        if entry.isFor sn then { entry with biometricsCleared := true } else entry) entry =
      (entry.deviceSn, entry.primary) := by
  simp only [Function.comp]
  split <;> rfl

theorem narrowed_revoked (emp : Employee) (args : RevokeArgs) :
    Narrowed emp (revokedEmployee emp args) := by
  unfold revokedEmployee
  split
  · refine ⟨?_, .inl rfl⟩
    simp only [Employee.marks, List.map_map]
    rw [List.map_congr_left fun entry _ => marks_cleared args.deviceSn entry]
  · exact ⟨List.filter_sublist.map _, .inl rfl⟩

theorem narrowed_fired (today : String) (emp : Employee) (args : FireArgs)
    (deviceResults : List DeviceDeletion) :
    Narrowed emp (firedEmployee today emp args deviceResults) := by
  unfold firedEmployee
  split
  · exact ⟨List.nil_sublist _, .inr rfl⟩
  · exact ⟨List.filter_sublist.map _, .inl rfl⟩

section

variable [UnicodeTables] {World : Type} {readers : Readers World} {registered : Registry}
  {today : String} {employees saved : Directory} {world after : World}
  {report : Option MigrationReport}

theorem removal_saved {call : RemovalCall}
    (returned : DirectoryCall.run readers registered today employees world (.remove call) =
      some (report, saved, after)) :
    saved = employees ∨
      ∃ emp changed, findEmployee employees call.employeeId = some emp ∧ Narrowed emp changed ∧
        saved = saveEmployee employees call.employeeId changed := by
  cases call with
  | revoke args =>
      obtain ⟨⟨result, directory, wiped⟩, ran, same⟩ := Option.map_eq_some_iff.mp returned
      cases same
      unfold revokeEmployeeDeviceAccess at ran
      split at ran
      · cases ran
        exact .inl rfl
      · rename_i emp found
        obtain ⟨pin, _, outcome⟩ := Option.map_eq_some_iff.mp ran
        cases outcome
        cases (readers.deleteDeviceUser world args.deviceSn pin
            (registeredPort registered args.deviceSn) args.deleteBiometricsOnly).1.ok with
        | true => exact .inr ⟨emp, _, found, narrowed_revoked emp args, rfl⟩
        | false => exact .inl rfl
  | fire args =>
      obtain ⟨⟨result, directory, wiped⟩, ran, same⟩ := Option.map_eq_some_iff.mp returned
      cases same
      unfold fireEmployeeAndWipeBiometrics at ran
      split at ran
      · cases ran
        exact .inl rfl
      · rename_i emp found
        obtain ⟨targets, _, outcome⟩ := Option.map_eq_some_iff.mp ran
        cases outcome
        exact .inr ⟨emp, _, found, narrowed_fired today emp args _, rfl⟩

end

/-! ## What an enrolment makes of a list -/

theorem serials_recordAccess (accessList : List AccessEntry) (sn pin : String) (primary : Bool) :
    (recordAccess accessList sn pin primary).map AccessEntry.deviceSn =
      if sn ∈ accessList.map AccessEntry.deviceSn then accessList.map AccessEntry.deviceSn
      else accessList.map AccessEntry.deviceSn ++ [sn] := by
  unfold recordAccess
  cases first : accessList.find? (AccessEntry.isFor sn) with
  | some entry =>
      rw [if_pos (listed_of_find? first)]
      exact map_updateFirst _ _ fun _ _ _ => rfl
  | none =>
      have missing : sn ∉ accessList.map AccessEntry.deviceSn := by
        intro listed
        obtain ⟨entry, member, owner⟩ := List.mem_map.mp listed
        have other := List.find?_eq_none.mp first entry member
        simp [AccessEntry.isFor, owner] at other
      rw [if_neg missing, List.map_append]
      rfl

end PumoBioMetric.Core
