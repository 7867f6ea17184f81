import PumoBioMetric.Core.SimulatorCalls
import PumoBioMetric.Library.KeyedTable

/-!
# The simulated devices stay well formed

On each device no two users share a PIN and no two share a uid.  New users get a PIN
that nobody has and one more than the greatest uid; everything else keeps the PINs and
uids of the users it keeps.
-/

set_option autoImplicit false

namespace PumoBioMetric.Core

open Py FirstMatch

/-- PINs and uids are pairwise distinct. -/
structure WellFormedUsers (users : List SimUser) : Prop where
  pins : (users.map SimUser.userId).Nodup
  uids : (users.map SimUser.uid).Nodup

def SimDevices.WellFormed (devices : SimDevices) : Prop :=
  ∀ device, WellFormedUsers (devices.users device)

theorem resetSimulationState_wellFormed : resetSimulationState.WellFormed := by
  intro device
  cases device with
  | source => exact ⟨by decide, by decide⟩
  | target => exact ⟨by decide, by decide⟩

/-! ## Lists of users -/

theorem WellFormedUsers.appendCopy {users : List SimUser} (wellFormed : WellFormedUsers users)
    (profile : Profile) {pin : String} (free : pin ∉ users.map SimUser.userId) :
    WellFormedUsers (appendCopy users profile pin) where
  pins := KeyedTable.nodup_append_row SimUser.userId users _ wellFormed.pins free
  uids := KeyedTable.nodup_append_row SimUser.uid users _ wellFormed.uids
    (FreeNumber.succ_max_notMem _)

theorem WellFormedUsers.filter {users : List SimUser} (wellFormed : WellFormedUsers users)
    (kept : SimUser → Bool) : WellFormedUsers (users.filter kept) where
  pins := wellFormed.pins.sublist (List.filter_sublist.map _)
  uids := wellFormed.uids.sublist (List.filter_sublist.map _)

theorem WellFormedUsers.updateFirst {users : List SimUser} (wellFormed : WellFormedUsers users)
    (test : SimUser → Bool) {change : SimUser → SimUser}
    (keepsPin : ∀ user, (change user).userId = user.userId)
    (keepsUid : ∀ user, (change user).uid = user.uid) :
    WellFormedUsers (updateFirst test change users) where
  pins := by
    rw [map_updateFirst test change fun user _ _ => keepsPin user]
    exact wellFormed.pins
  uids := by
    rw [map_updateFirst test change fun user _ _ => keepsUid user]
    exact wellFormed.uids

theorem Enrolled.wellFormed {users after : List SimUser} {profile : Profile}
    {requested pin : String} (enrolled : Enrolled users profile requested pin after)
    (wellFormed : WellFormedUsers users) : WellFormedUsers after := by
  cases enrolled with
  | added free => exact wellFormed.appendCopy profile (find?_hasId_eq_none.mp free)
  | updated => exact wellFormed.updateFirst _ (fun _ => rfl) (fun _ => rfl)
  | remapped _ _ found => exact wellFormed.appendCopy profile (nextFreePin_notMem found)

/-! ## Calls -/

theorem SimDevices.WellFormed.setUsers {devices : SimDevices} (wellFormed : devices.WellFormed)
    (device : SimDevice) {users : List SimUser} (new : WellFormedUsers users) :
    (devices.setUsers device users).WellFormed := by
  intro other
  by_cases same : other = device
  · subst same
    rw [SimDevices.users_setUsers_same]
    exact new
  · rw [SimDevices.users_setUsers_other _ _ same]
    exact wellFormed other

section

variable [UnicodeTables] {registry : Registry} {devices : SimDevices}

theorem deleteIfMove_wellFormed {written : SimDevices} (wellFormed : written.WellFormed)
    (srcDev : SimDevice) (request : MigrationRequest) :
    (deleteIfMove written srcDev request).WellFormed := by
  unfold deleteIfMove
  split
  · exact wellFormed.setUsers srcDev ((wellFormed srcDev).filter _)
  · exact wellFormed

theorem Migrated.wellFormed {request : MigrationRequest} {result : MigrationResult}
    {after : SimDevices} (migrated : Migrated registry devices request result after)
    (wellFormed : devices.WellFormed) : after.WellFormed := by
  cases migrated with
  | refused _ => exact wellFormed
  | @enrolled srcDev tgtDev _ _ _ _ _ enrolled _ _ =>
      have written := wellFormed.setUsers tgtDev (enrolled.wellFormed (wellFormed tgtDev))
      exact deleteIfMove_wellFormed written srcDev request

theorem migrateEachSimulated_wellFormed (wellFormed : devices.WellFormed)
    (srcSn tgtSn mode : String) (tgtMap : Dict String) (userIds : List String) :
    (migrateEachSimulated registry srcSn tgtSn mode tgtMap devices userIds).2.WellFormed := by
  induction userIds generalizing devices with
  | nil => exact wellFormed
  | cons userId rest ih =>
      rw [migrateEachSimulated]
      split
      · exact ih wellFormed
      · split
        · exact wellFormed
        · rename_i result after returned
          exact ih ((migrated_of_migrate registry returned).wellFormed wellFormed)

theorem createDeviceUserSimulated_wellFormed (wellFormed : devices.WellFormed) (deviceId : String)
    (user : NewUser) (port : Int) (ipOverride : Option String) :
    (createDeviceUserSimulated registry devices deviceId user port ipOverride).2.WellFormed := by
  simp only [createDeviceUserSimulated]
  split
  · exact wellFormed
  · split
    · exact wellFormed
    · split
      · exact wellFormed
      · rename_i dev _
        split
        · exact wellFormed
        · rename_i absent
          have free : user.pin ∉ (devices.users dev).map SimUser.userId := by
            simpa using absent
          exact wellFormed.setUsers dev ((wellFormed dev).appendCopy user.simProfile free)

theorem deleteDeviceUserSimulated_wellFormed (wellFormed : devices.WellFormed)
    (deviceId userId : String) (deleteBiometricsOnly : Bool) :
    (deleteDeviceUserSimulated registry devices deviceId userId
      deleteBiometricsOnly).2.WellFormed := by
  unfold deleteDeviceUserSimulated
  split
  · exact wellFormed
  · rename_i dev _
    split
    · exact wellFormed
    · split
      · exact wellFormed.setUsers dev
          ((wellFormed dev).updateFirst _ (fun _ => rfl) (fun _ => rfl))
      · exact wellFormed.setUsers dev ((wellFormed dev).filter _)

theorem deleteEachSimulated_wellFormed (wellFormed : devices.WellFormed) (deviceId : String)
    (deleteBiometricsOnly : Bool) (userIds : List String) :
    (deleteEachSimulated registry deviceId deleteBiometricsOnly devices userIds).2.WellFormed := by
  induction userIds generalizing devices with
  | nil => exact wellFormed
  | cons userId rest ih =>
      exact ih (deleteDeviceUserSimulated_wellFormed wellFormed deviceId userId
        deleteBiometricsOnly)

theorem SimulatorCall.after_wellFormed (wellFormed : devices.WellFormed) (registry : Registry)
    (call : SimulatorCall) : (call.after devices registry).WellFormed := by
  cases call with
  | create deviceId user port ipOverride =>
      exact createDeviceUserSimulated_wellFormed wellFormed deviceId user port ipOverride
  | migrate request =>
      rw [SimulatorCall.after]
      split
      · exact wellFormed
      · rename_i result migrated returned
        exact (migrated_of_migrate registry returned).wellFormed wellFormed
  | runMigration run => exact migrateEachSimulated_wellFormed wellFormed _ _ _ _ _
  | delete deviceId userId deleteBiometricsOnly =>
      exact deleteDeviceUserSimulated_wellFormed wellFormed deviceId userId deleteBiometricsOnly
  | deleteBatch deviceId userIds deleteBiometricsOnly =>
      rw [SimulatorCall.after, deleteBatchSimulated]
      split
      · exact wellFormed
      · exact deleteEachSimulated_wellFormed wellFormed deviceId deleteBiometricsOnly userIds
  | reset => exact resetSimulationState_wellFormed

/-- From well formed devices every sequence of calls leads to well formed devices. -/
theorem devices_stay_well_formed (wellFormed : devices.WellFormed)
    (calls : List (Registry × SimulatorCall)) : (afterCalls devices calls).WellFormed := by
  induction calls generalizing devices with
  | nil => exact wellFormed
  | cons first rest ih => exact ih (first.2.after_wellFormed wellFormed first.1)

end

theorem devices_stay_well_formed_there_and_back :
    let := UnicodeTables.ascii
    (afterCalls resetSimulationState
      [(defaultRegistry, .migrate ⟨some "NFZ8254900401", some "UFZ9876543210", "101", "copy",
          some "9999", none, none, none, none⟩),
        (defaultRegistry, .runMigration ⟨"UFZ9876543210", "NFZ8254900401", ["10000"], 4370, 4370,
          "move", none⟩)]).WellFormed := by
  intro _
  exact devices_stay_well_formed resetSimulationState_wellFormed _

end PumoBioMetric.Core
