import PumoBioMetric.Core.Simulator

/-!
# What a simulated migration leaves alone

A migration that fails changes nothing.  One that succeeds writes one record on the
target and, in move mode, drops the users with the migrated PIN from the source; nothing
else on any device changes.
-/

set_option autoImplicit false

namespace PumoBioMetric.Core

open Py FirstMatch

/-- One record under the PIN is added, or takes the place of one under the same PIN. -/
def DiffersInRecord (pin : String) (before after : List SimUser) : Prop :=
  ∃ front back replaced record, before = front ++ replaced ++ back ∧
    after = front ++ record :: back ∧ record.userId = pin ∧ replaced.length ≤ 1 ∧
      ∀ old ∈ replaced, old.userId = pin

theorem differsInRecord_appendCopy (users : List SimUser) (profile : Profile) (pin : String) :
    DiffersInRecord pin users (appendCopy users profile pin) := by
  refine ⟨users, [], [], { toProfile := profile, uid := nextUid users, userId := pin }, ?_⟩
  simp [appendCopy]

theorem Enrolled.differsInRecord {users after : List SimUser} {profile : Profile}
    {requested pin : String} (enrolled : Enrolled users profile requested pin after) :
    DiffersInRecord pin users after := by
  cases enrolled with
  | added => exact differsInRecord_appendCopy users profile requested
  | remapped => exact differsInRecord_appendCopy users profile pin
  | @updated existing first _ =>
      have owner : existing.userId = requested := userId_of_find? first
      obtain ⟨front, back, before, changed⟩ :=
        split_updateFirst (SimUser.hasId requested) (SimUser.withProfile profile) first
      refine ⟨front, back, [existing], existing.withProfile profile, ?_, changed, owner, ?_, ?_⟩
      · simpa using before
      · simp
      · simpa using owner

theorem DiffersInRecord.filter_eq {pin : String} {before after : List SimUser}
    (differs : DiffersInRecord pin before after) {select : SimUser → Bool}
    (skips : ∀ user : SimUser, user.userId = pin → select user = false) :
    after.filter select = before.filter select := by
  obtain ⟨front, back, replaced, record, rfl, rfl, recordPin, _, replacedPin⟩ := differs
  have dropped : replaced.filter select = [] := by
    rw [List.filter_eq_nil_iff]
    intro old member
    simp [skips old (replacedPin old member)]
  simp [List.filter_append, skips record recordPin, dropped]

section

variable [UnicodeTables] (registry : Registry) (devices : SimDevices)

def sourceAfter (users : List SimUser) (request : MigrationRequest) : List SimUser :=
  if lower request.mode = "move" then users.filter fun user => !user.hasId request.userId
  else users

theorem users_deleteIfMove (request : MigrationRequest) (srcDev : SimDevice) :
    (deleteIfMove devices srcDev request).users srcDev =
      sourceAfter (devices.users srcDev) request := by
  unfold deleteIfMove sourceAfter
  split
  · exact SimDevices.users_setUsers_same _ _ _
  · rfl

theorem filter_sourceAfter (users : List SimUser) (request : MigrationRequest)
    {select : SimUser → Bool}
    (skips : ∀ user : SimUser, user.userId = request.userId → select user = false) :
    (sourceAfter users request).filter select = users.filter select := by
  unfold sourceAfter
  split
  · rw [List.filter_filter]
    apply List.filter_congr
    intro user _
    by_cases held : user.userId = request.userId
    · simp [skips user held]
    · simp [SimUser.hasId, held]
  · rfl

def besides (users : List SimUser) (pin other : String) : List SimUser :=
  users.filter fun user => !user.hasId pin && !user.hasId other

/-- Everything that a migration may change, for each way it can end. -/
structure ChangesOnly (request : MigrationRequest) (result : MigrationResult)
    (after : SimDevices) (srcDev tgtDev : SimDevice) : Prop where
  target : srcDev ≠ tgtDev →
    DiffersInRecord result.targetUserId (devices.users tgtDev) (after.users tgtDev)
  source : srcDev ≠ tgtDev →
    after.users srcDev = sourceAfter (devices.users srcDev) request
  oneDevice : srcDev = tgtDev →
    besides (after.users srcDev) result.targetUserId request.userId =
      besides (devices.users srcDev) result.targetUserId request.userId
  others : ∀ device, device ≠ srcDev → device ≠ tgtDev →
    after.users device = devices.users device

theorem changesOnly_of_enrolled {request : MigrationRequest} {result : MigrationResult}
    {srcDev tgtDev : SimDevice} {profile : Profile} {tgtUsers : List SimUser}
    (enrolled : Enrolled (devices.users tgtDev) profile request.destUserId
      result.targetUserId tgtUsers) :
    ChangesOnly devices request result
      (deleteIfMove (devices.setUsers tgtDev tgtUsers) srcDev request) srcDev tgtDev where
  target different := by
    rw [users_deleteIfMove_other _ _ (Ne.symm different), SimDevices.users_setUsers_same]
    exact enrolled.differsInRecord
  source different := by
    rw [users_deleteIfMove, SimDevices.users_setUsers_other _ _ different]
  oneDevice same := by
    subst same
    rw [users_deleteIfMove, SimDevices.users_setUsers_same, besides, filter_sourceAfter]
    · apply enrolled.differsInRecord.filter_eq
      intro user held
      simp [SimUser.hasId, held]
    · intro user held
      simp [SimUser.hasId, held]
  others := by
    intro device notSource notTarget
    rw [users_deleteIfMove_other _ _ notSource, SimDevices.users_setUsers_other _ _ notTarget]

/-- A migration that returns changes nothing else. -/
theorem migration_changes_nothing_else {devices after : SimDevices} {request : MigrationRequest}
    {result : MigrationResult}
    (returned : migrateSingleUserSimulated registry devices request = some (result, after)) :
    (result.ok = false → after = devices) ∧
      (result.ok = true → ∃ srcDev tgtDev,
        simulatedDevice registry request.srcIdentifier = some srcDev ∧
          simulatedDevice registry request.tgtIdentifier = some tgtDev ∧
          ChangesOnly devices request result after srcDev tgtDev) := by
  cases migrated_of_migrate registry returned with
  | refused failed =>
      refine ⟨fun _ => rfl, fun succeeded => ?_⟩
      rw [failed] at succeeded
      cases succeeded
  | @enrolled srcDev tgtDev srcUser tgtUsers srcFound tgtFound _ enrolled succeeded _ =>
      refine ⟨fun failed => ?_, fun _ => ⟨srcDev, tgtDev, srcFound, tgtFound, ?_⟩⟩
      · rw [succeeded] at failed
        cases failed
      · exact changesOnly_of_enrolled devices enrolled

end

theorem migration_changes_nothing_else_one_device :
    let := UnicodeTables.ascii
    let request : MigrationRequest :=
      ⟨some "NFZ8254900401", some "192.168.0.210", "101", "move", some "102",
        none, none, none, none⟩
    ∃ result after,
      migrateSingleUserSimulated defaultRegistry resetSimulationState request =
        some (result, after) ∧ result.ok = true ∧ result.targetUserId = "103" ∧
      ∃ srcDev tgtDev, ChangesOnly resetSimulationState request result after srcDev tgtDev := by
  intro _ request
  have returned : (migrateSingleUserSimulated defaultRegistry resetSimulationState request).map
      (fun outcome => (outcome.1.ok, outcome.1.targetUserId)) = some (true, "103") := by
    decide +kernel
  obtain ⟨⟨result, after⟩, run, reported⟩ := Option.map_eq_some_iff.mp returned
  obtain ⟨ok, pin⟩ := Prod.mk.inj reported
  obtain ⟨srcDev, tgtDev, _, _, only⟩ := (migration_changes_nothing_else _ run).2 ok
  exact ⟨result, after, run, ok, pin, srcDev, tgtDev, only⟩

end PumoBioMetric.Core
