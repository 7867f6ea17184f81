import PumoBioMetric.Core.Simulator

/-!
# A simulated move and the employee it moves

The write goes to the target list and the deletion filters the source list read
afterwards.  Two identifiers may name one device, and then the deletion also
reaches the record that was just written.
-/

set_option autoImplicit false

namespace PumoBioMetric.Core

open Py FirstMatch

section

variable [UnicodeTables] (registry : Registry)

/-- A call that returns ok leaves the profile on the target under the reported PIN. -/
def MoveKeepsEmployee (devices : SimDevices) (request : MigrationRequest) : Prop :=
  ∀ result after,
    migrateSingleUserSimulated registry devices request = some (result, after) →
      result.ok = true →
        ∃ srcDev srcUser tgtDev user,
          simulatedDevice registry request.srcIdentifier = some srcDev ∧
          (devices.users srcDev).find? (SimUser.hasId request.userId) = some srcUser ∧
          simulatedDevice registry request.tgtIdentifier = some tgtDev ∧
          user ∈ after.users tgtDev ∧ user.userId = result.targetUserId ∧
          user.toProfile = srcUser.toProfile

/-- Both identifiers name the device that holds the user, and the user keeps the PIN. -/
def MovesOntoItself (devices : SimDevices) (request : MigrationRequest) : Prop :=
  ∃ device,
    simulatedDevice registry request.srcIdentifier = some device ∧
    simulatedDevice registry request.tgtIdentifier = some device ∧
    request.userId ∈ (devices.users device).map SimUser.userId ∧
    request.destUserId = request.userId

variable {registry} {devices : SimDevices} {request : MigrationRequest}

theorem mem_deleteIfMove {written : SimDevices} {srcDev device : SimDevice} {user : SimUser}
    (member : user ∈ written.users device)
    (kept : device = srcDev → user.userId ≠ request.userId) :
    user ∈ (deleteIfMove written srcDev request).users device := by
  unfold deleteIfMove
  split
  · by_cases same : device = srcDev
    · subst same
      have other := kept rfl
      simpa [SimUser.hasId, other] using member
    · simpa [same] using member
  · exact member

theorem moveKeepsEmployee_of_not_onto_itself
    (elsewhere : ¬ MovesOntoItself registry devices request) :
    MoveKeepsEmployee registry devices request := by
  intro result after returned ok
  cases migrated_of_migrate registry returned with
  | refused failed => simp [failed] at ok
  | @enrolled srcDev tgtDev srcUser tgtUsers srcFound tgtFound first enrolled _ _ =>
      obtain ⟨user, written, userPin, sameProfile⟩ := enrolled.readsBack
      refine ⟨srcDev, srcUser, tgtDev, user, srcFound, first, tgtFound, ?_, userPin, sameProfile⟩
      apply mem_deleteIfMove
      · simpa using List.mem_of_find?_eq_some written
      · intro same
        subst same
        rw [userPin]
        have listed : request.userId ∈ (devices.users tgtDev).map SimUser.userId :=
          List.mem_map.mpr ⟨srcUser, List.mem_of_find?_eq_some first, userId_of_find? first⟩
        apply enrolled.ne_of_listed listed
        intro keepsPin
        exact elsewhere ⟨tgtDev, srcFound, tgtFound, listed, keepsPin⟩

theorem not_moveKeepsEmployee_of_onto_itself (move : lower request.mode = "move")
    (itself : MovesOntoItself registry devices request) :
    ¬ MoveKeepsEmployee registry devices request := by
  obtain ⟨device, srcFound, tgtFound, listed, keepsPin⟩ := itself
  intro keeps
  have present : ((devices.users device).find? (SimUser.hasId request.userId)).isSome := by
    rw [Option.isSome_iff_ne_none]
    intro missing
    exact find?_hasId_eq_none.mp missing listed
  obtain ⟨srcUser, first⟩ := Option.isSome_iff_exists.mp present
  -- The existing target record is the source record, so it is updated with its own profile.
  have written : enrol (devices.users device) srcUser.toProfile request.destUserId =
      some (request.userId, updateFirst (SimUser.hasId request.userId)
        (SimUser.withProfile srcUser.toProfile) (devices.users device)) := by
    simp [enrol, keepsPin, first]
  obtain ⟨result, returned, ok, reported⟩ := migrate_of_enrol registry srcFound tgtFound first written
  obtain ⟨_, _, tgtDev, user, _, _, found, member, userPin, _⟩ := keeps _ _ returned ok
  have same : tgtDev = device := Option.some.inj (found.symm.trans tgtFound)
  subst same
  apply notMem_deleteIfMove _ tgtDev move
  rw [← reported, ← userPin]
  exact List.mem_map.mpr ⟨user, member, rfl⟩

/-- A move keeps the employee exactly when it is not a move of a PIN onto itself. -/
theorem move_keeps_employee_iff (move : lower request.mode = "move") :
    MoveKeepsEmployee registry devices request ↔ ¬ MovesOntoItself registry devices request := by
  constructor
  · intro keeps itself
    exact not_moveKeepsEmployee_of_onto_itself move itself keeps
  · exact moveKeepsEmployee_of_not_onto_itself

end

def moveRequest (srcSn tgtSn userId targetPin : String) : MigrationRequest :=
  ⟨some srcSn, some tgtSn, userId, "move", some targetPin, none, none, none, none⟩

theorem move_keeps_employee_iff_branches :
    @MoveKeepsEmployee UnicodeTables.ascii defaultRegistry resetSimulationState
      (moveRequest "NFZ8254900401" "UFZ9876543210" "101" "101") := by
  let := UnicodeTables.ascii
  apply (move_keeps_employee_iff (by decide)).mpr
  rintro ⟨device, srcFound, tgtFound, -⟩
  have source : simulatedDevice defaultRegistry "NFZ8254900401" = some .source := by decide
  have target : simulatedDevice defaultRegistry "UFZ9876543210" = some .target := by decide
  have first : SimDevice.source = device := Option.some.inj (source.symm.trans srcFound)
  have second : SimDevice.target = device := Option.some.inj (target.symm.trans tgtFound)
  exact absurd (first.trans second.symm) (by decide)

/-- The readers of branches 2 and 3 are one simulated device: the move of its only
user answers ok and leaves the device empty. -/
theorem move_between_branches_destroys :
    ¬ @MoveKeepsEmployee UnicodeTables.ascii defaultRegistry resetSimulationState
      (moveRequest "UFZ9876543210" "NFZ8242802542" "9999" "9999") := by
  let := UnicodeTables.ascii
  intro keeps
  have returned : migrateSingleUserSimulated defaultRegistry resetSimulationState
      (moveRequest "UFZ9876543210" "NFZ8242802542" "9999" "9999") =
      some (⟨true, "move", "9999", "Master Super Admin", "UFZ9876543210", "NFZ8242802542",
        "9999", 1, none⟩, resetSimulationState.setUsers .target []) := by
    decide
  obtain ⟨_, _, tgtDev, user, _, _, found, member, _⟩ := keeps _ _ returned rfl
  have target : simulatedDevice defaultRegistry "NFZ8242802542" = some .target := by decide
  cases target.symm.trans found
  exact absurd member List.not_mem_nil

end PumoBioMetric.Core
