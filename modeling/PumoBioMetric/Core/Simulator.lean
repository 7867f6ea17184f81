import Mathlib.Data.List.Basic
import PumoBioMetric.Library.FirstMatch
import PumoBioMetric.Core.Devices
import PumoBioMetric.Core.PinSearch

/-!
# The simulated readers

`delete_device_user_simulated` and `migrate_single_user_simulated` of
`device_migration.py` over the user lists of the two in-memory devices.  A PIN is
looked up as its first match; a full deletion removes every match.
-/

set_option autoImplicit false

namespace PumoBioMetric.Core

open Py FirstMatch

structure Finger where
  fid : Nat
  valid : Int
  template : List UInt8
deriving DecidableEq, Repr

/-- What a migration carries from one reader to another. -/
structure Profile where
  name : String
  privilege : Int
  password : String
  groupId : String
  card : Int
  fingers : List Finger
deriving DecidableEq, Repr

structure SimUser extends Profile where
  uid : Int
  userId : String
deriving DecidableEq, Repr

def SimUser.hasId (userId : String) (user : SimUser) : Bool := user.userId == userId

@[simp] theorem SimUser.hasId_iff (userId : String) (user : SimUser) :
    user.hasId userId = true ↔ user.userId = userId := by
  simp [SimUser.hasId]

theorem filter_without_other {pin other : String} (users : List SimUser) (apart : other ≠ pin) :
    (users.filter fun user => !user.hasId pin).filter (SimUser.hasId other) =
      users.filter (SimUser.hasId other) := by
  rw [List.filter_filter]
  congr 1
  funext user
  by_cases held : user.userId = other
  · simp [SimUser.hasId, held, apart]
  · simp [SimUser.hasId, held]

theorem find?_of_filter_eq {left right : List SimUser} {pin : String}
    (same : left.filter (SimUser.hasId pin) = right.filter (SimUser.hasId pin)) :
    left.find? (SimUser.hasId pin) = right.find? (SimUser.hasId pin) := by
  rw [← List.head?_filter, same, List.head?_filter]

/-- `existing_tgt.update(...)`: the uid and the PIN stay. -/
def SimUser.withProfile (profile : Profile) (user : SimUser) : SimUser :=
  { user with toProfile := profile }

def SimUser.clearFingers (user : SimUser) : SimUser := { user with fingers := [] }

/-- The `users` lists of the two simulated devices. -/
structure SimDevices where
  sourceUsers : List SimUser
  targetUsers : List SimUser
deriving DecidableEq, Repr

namespace SimDevices

def users (devices : SimDevices) : SimDevice → List SimUser
  | .source => devices.sourceUsers
  | .target => devices.targetUsers

def setUsers (devices : SimDevices) (device : SimDevice) (users : List SimUser) : SimDevices :=
  match device with
  | .source => { devices with sourceUsers := users }
  | .target => { devices with targetUsers := users }

@[simp] theorem users_setUsers_same (devices : SimDevices) (device : SimDevice)
    (users : List SimUser) : (devices.setUsers device users).users device = users := by
  cases device <;> rfl

@[simp] theorem users_setUsers_other (devices : SimDevices) {device other : SimDevice}
    (users : List SimUser) (different : other ≠ device) :
    (devices.setUsers device users).users other = devices.users other := by
  cases device <;> cases other <;> first | rfl | exact absurd rfl different

theorem setUsers_self (devices : SimDevices) (device : SimDevice) :
    devices.setUsers device (devices.users device) = devices := by
  cases device <;> rfl

end SimDevices

def bytes (text : String) : List UInt8 := text.toList.map fun char => char.toNat.toUInt8

def resetSimulationState : SimDevices where
  sourceUsers :=
    [⟨⟨"Member 1o", 0, "", "1", 0,
        [⟨0, 1, bytes "TEMPLATE_FINGER_0_USER_101_SAMPLE"⟩,
          ⟨1, 1, bytes "TEMPLATE_FINGER_1_USER_101_SAMPLE"⟩]⟩, 1, "101"⟩,
      ⟨⟨"Gowtham", 0, "", "1", 0,
        [⟨0, 1, bytes "TEMPLATE_FINGER_0_USER_102_SAMPLE"⟩]⟩, 2, "102"⟩,
      ⟨⟨"ARULAJAY", 14, "", "1", 0, []⟩, 3, "111"⟩]
  targetUsers :=
    [⟨⟨"Master Super Admin", 14, "", "1", 999999,
        [⟨0, 1, bytes "MOCK_TEMPLATE_FINGER_0_USER_9999_HEX_DATA_SAMPLE"⟩]⟩, 1, "9999"⟩]

/-! ## Deletion -/

structure DeleteResult where
  ok : Bool
  simulated : Bool
  deleted : Bool
  biometricsOnly : Option Bool
  device : Option String
  userId : Option String
  message : Option String
  error : Option String
deriving DecidableEq, Repr

section

variable [UnicodeTables] (registry : Registry)

def deleteDeviceUserSimulated (devices : SimDevices) (deviceId userId : String)
    (deleteBiometricsOnly : Bool) : DeleteResult × SimDevices :=
  let sn := (resolveDevice registry deviceId 4370).sn
  match simulatedDevice registry deviceId with
  | none =>
      (⟨false, false, false, none, none, none, none,
        some s!"Simulated device {sn} not found"⟩, devices)
  | some dev =>
    match (devices.users dev).find? (SimUser.hasId userId) with
    | none =>
        (⟨true, true, false, none, some sn, some userId,
          some s!"User {userId} not found on simulated device {sn}.", none⟩, devices)
    | some _ =>
      if deleteBiometricsOnly then
        (⟨true, true, true, some true, some sn, some userId,
          some s!"Enrolled fingerprint templates cleared for user {userId} on simulated device {sn}.",
          none⟩,
          devices.setUsers dev
            (updateFirst (SimUser.hasId userId) SimUser.clearFingers (devices.users dev)))
      else
        (⟨true, true, true, some false, some sn, some userId,
          some s!"User {userId} and all biometric templates deleted successfully from simulated device {sn}.",
          none⟩,
          devices.setUsers dev ((devices.users dev).filter fun user => !user.hasId userId))

/-! ## Migration -/

structure MigrationRequest where
  sourceId : Option String
  targetId : Option String
  userId : String
  mode : String
  targetUserId : Option String
  sourceIp : Option String
  targetIp : Option String
  sourceSn : Option String
  targetSn : Option String
deriving DecidableEq, Repr

namespace MigrationRequest

/-- `source_id or source_sn or source_ip or "NFZ8254900401"`. -/
def srcIdentifier (request : MigrationRequest) : String :=
  firstTruthy [request.sourceId, request.sourceSn, request.sourceIp] "NFZ8254900401"

/-- `target_id or target_sn or target_ip or "UFZ9876543210"`. -/
def tgtIdentifier (request : MigrationRequest) : String :=
  firstTruthy [request.targetId, request.targetSn, request.targetIp] "UFZ9876543210"

/-- `str(target_user_id).strip() if target_user_id else str(user_id)`. -/
def destUserId (request : MigrationRequest) : String :=
  match request.targetUserId with
  | none => request.userId
  | some pin => if pin = "" then request.userId else strip pin

end MigrationRequest

structure MigrationResult where
  ok : Bool
  mode : String
  userId : String
  userName : String
  sourceIp : String
  targetIp : String
  targetUserId : String
  fingersTransferred : Nat
  error : Option String
deriving DecidableEq, Repr

/-- `to_dict`: an empty target PIN is shown as the PIN of the source. -/
def MigrationResult.toDict (result : MigrationResult) : MigrationResult :=
  { result with
    targetUserId := if result.targetUserId = "" then result.userId else result.targetUserId }

/-- `max(uids, default=0) + 1`. -/
def nextUid (users : List SimUser) : Int := (users.map SimUser.uid).max?.getD 0 + 1

def appendCopy (users : List SimUser) (profile : Profile) (destUserId : String) : List SimUser :=
  users ++ [{ toProfile := profile, uid := nextUid users, userId := destUserId }]

/-- The write on the target: the PIN under which the profile ends up and the new list. -/
def enrol (users : List SimUser) (profile : Profile) (destUserId : String) :
    Option (String × List SimUser) :=
  match users.find? (SimUser.hasId destUserId) with
  | none => some (destUserId, appendCopy users profile destUserId)
  | some existing =>
    if existing.name ≠ profile.name then
      -- PIN collision: the profile goes to the next free number.
      (nextFreePin destUserId (users.map SimUser.userId)).map fun mapped =>
        (mapped, appendCopy users profile mapped)
    else
      some (destUserId, updateFirst (SimUser.hasId destUserId)
        (SimUser.withProfile profile) users)

/-- The last step: the source list is read again, and it may be the list just written. -/
def deleteIfMove (written : SimDevices) (srcDev : SimDevice) (request : MigrationRequest) :
    SimDevices :=
  if lower request.mode = "move" then
    written.setUsers srcDev
      ((written.users srcDev).filter fun user => !user.hasId request.userId)
  else written

theorem filter_deleteIfMove (written : SimDevices) {srcDev device : SimDevice}
    (request : MigrationRequest) {pin : String}
    (apart : device = srcDev → pin ≠ request.userId) :
    ((deleteIfMove written srcDev request).users device).filter (SimUser.hasId pin) =
      (written.users device).filter (SimUser.hasId pin) := by
  unfold deleteIfMove
  split
  · by_cases same : device = srcDev
    · subst same
      rw [SimDevices.users_setUsers_same]
      exact filter_without_other _ (apart rfl)
    · rw [SimDevices.users_setUsers_other _ _ same]
  · rfl

theorem users_deleteIfMove_other (written : SimDevices) {srcDev device : SimDevice}
    (request : MigrationRequest) (other : device ≠ srcDev) :
    (deleteIfMove written srcDev request).users device = written.users device := by
  unfold deleteIfMove
  split
  · exact SimDevices.users_setUsers_other _ _ other
  · rfl

theorem notMem_deleteIfMove (written : SimDevices) (srcDev : SimDevice)
    {request : MigrationRequest} (move : lower request.mode = "move") :
    request.userId ∉ ((deleteIfMove written srcDev request).users srcDev).map SimUser.userId := by
  simp [deleteIfMove, move, SimUser.hasId]

/-- `migrate_single_user_simulated`; `none` is a `ValueError` leaving it, with
nothing written yet. -/
def migrateSingleUserSimulated (devices : SimDevices) (request : MigrationRequest) :
    Option (MigrationResult × SimDevices) :=
  let srcSn := (resolveDevice registry request.srcIdentifier 4370).sn
  let tgtSn := (resolveDevice registry request.tgtIdentifier 4370).sn
  let failed (error : String) : MigrationResult :=
    ⟨false, request.mode, request.userId, "N/A", srcSn, tgtSn, request.userId, 0, some error⟩
  match simulatedDevice registry request.srcIdentifier with
  | none => some (failed s!"Source simulated device {srcSn} not found.", devices)
  | some srcDev =>
    match simulatedDevice registry request.tgtIdentifier with
    | none => some (failed s!"Target simulated device {tgtSn} not found.", devices)
    | some tgtDev =>
      match (devices.users srcDev).find? (SimUser.hasId request.userId) with
      | none => some (failed s!"User ID {request.userId} not found on source device", devices)
      | some srcUser =>
        (enrol (devices.users tgtDev) srcUser.toProfile request.destUserId).map
          fun (destUserId, tgtUsers) =>
            (⟨true, request.mode, request.userId, srcUser.name, srcSn, tgtSn, destUserId,
              srcUser.fingers.length, none⟩,
              deleteIfMove (devices.setUsers tgtDev tgtUsers) srcDev request)

end

/-! ## What an enrolment does -/

inductive Enrolled (users : List SimUser) (profile : Profile) (requested : String) :
    String → List SimUser → Prop where
  | added :
      users.find? (SimUser.hasId requested) = none →
        Enrolled users profile requested requested (appendCopy users profile requested)
  | updated {existing : SimUser} :
      users.find? (SimUser.hasId requested) = some existing → existing.name = profile.name →
        Enrolled users profile requested requested
          (updateFirst (SimUser.hasId requested)
            (SimUser.withProfile profile) users)
  | remapped {existing : SimUser} {mapped : String} :
      users.find? (SimUser.hasId requested) = some existing → existing.name ≠ profile.name →
        nextFreePin requested (users.map SimUser.userId) = some mapped →
          Enrolled users profile requested mapped (appendCopy users profile mapped)

theorem enrolled_of_enrol {users after : List SimUser} {profile : Profile}
    {requested pin : String} (written : enrol users profile requested = some (pin, after)) :
    Enrolled users profile requested pin after := by
  unfold enrol at written
  split at written
  · rename_i free
    cases written
    exact .added free
  · rename_i existing first
    split at written
    · rename_i differs
      obtain ⟨mapped, found, same⟩ := Option.map_eq_some_iff.mp written
      cases same
      exact .remapped first differs found
    · rename_i same
      cases written
      exact .updated first (not_not.mp same)

theorem unreadable_of_enrol {users : List SimUser} {profile : Profile} {requested : String}
    (raised : enrol users profile requested = none) :
    ∃ existing, users.find? (SimUser.hasId requested) = some existing ∧
      existing.name ≠ profile.name ∧ Unreadable requested := by
  unfold enrol at raised
  split at raised
  · cases raised
  · rename_i existing first
    split at raised
    · rename_i differs
      exact ⟨existing, first, differs, nextFreePin_eq_none_iff.mp (Option.map_eq_none_iff.mp raised)⟩
    · cases raised

theorem find?_hasId_eq_none {users : List SimUser} {userId : String} :
    users.find? (SimUser.hasId userId) = none ↔ userId ∉ users.map SimUser.userId := by
  simp [List.find?_eq_none]

theorem userId_of_find? {users : List SimUser} {userId : String} {user : SimUser}
    (first : users.find? (SimUser.hasId userId) = some user) : user.userId = userId := by
  have passes := List.find?_some first
  simpa using passes

theorem find?_appendCopy {users : List SimUser} {profile : Profile} {pin : String}
    (free : pin ∉ users.map SimUser.userId) :
    (appendCopy users profile pin).find? (SimUser.hasId pin) =
      some { toProfile := profile, uid := nextUid users, userId := pin } := by
  rw [appendCopy, List.find?_append, find?_hasId_eq_none.mpr free]
  simp [SimUser.hasId]

/-- After an enrolment the PIN it reports reads back the profile. -/
theorem Enrolled.readsBack {users after : List SimUser} {profile : Profile}
    {requested pin : String} (enrolled : Enrolled users profile requested pin after) :
    ∃ user, after.find? (SimUser.hasId pin) = some user ∧ user.userId = pin ∧
      user.toProfile = profile := by
  cases enrolled with
  | added free => exact ⟨_, find?_appendCopy (find?_hasId_eq_none.mp free), rfl, rfl⟩
  | remapped _ _ found => exact ⟨_, find?_appendCopy (nextFreePin_notMem found), rfl, rfl⟩
  | @updated existing first _ =>
      have owner : existing.userId = requested := userId_of_find? first
      refine ⟨existing.withProfile profile, ?_, owner, rfl⟩
      exact find?_updateFirst _ _ first (by simpa [SimUser.withProfile] using owner)

theorem Enrolled.eq_requested_iff {users after : List SimUser} {profile : Profile}
    {requested pin : String} (enrolled : Enrolled users profile requested pin after) :
    pin = requested ↔ ∀ existing, users.find? (SimUser.hasId requested) = some existing →
      existing.name = profile.name := by
  cases enrolled with
  | added free => simp [free]
  | updated first same => simp [first, same]
  | @remapped existing mapped first differs found =>
      have taken : requested ∈ users.map SimUser.userId :=
        List.mem_map.mpr ⟨existing, List.mem_of_find?_eq_some first, userId_of_find? first⟩
      have moved : pin ≠ requested := fun same => nextFreePin_notMem found (same ▸ taken)
      simp [moved, first, differs]

theorem Enrolled.readable {users after : List SimUser} {profile : Profile}
    {requested pin : String} (enrolled : Enrolled users profile requested pin after)
    {existing : SimUser} (first : users.find? (SimUser.hasId requested) = some existing)
    (differs : existing.name ≠ profile.name) : ¬ Unreadable requested := by
  have search : nextFreePin requested (users.map SimUser.userId) = none ↔ Unreadable requested :=
    nextFreePin_eq_none_iff
  rw [← search]
  cases enrolled with
  | added free => simp [free] at first
  | updated found same =>
      cases found.symm.trans first
      exact absurd same differs
  | remapped _ _ searched => simp [searched]

theorem Enrolled.ne_empty {users after : List SimUser} {profile : Profile}
    {requested pin : String} (enrolled : Enrolled users profile requested pin after)
    (moved : pin ≠ requested) : pin ≠ "" := by
  cases enrolled with
  | added => exact absurd rfl moved
  | updated => exact absurd rfl moved
  | remapped _ _ found => exact nextFreePin_ne_empty found

theorem Enrolled.of_listed {users after : List SimUser} {profile : Profile}
    {requested pin : String} (enrolled : Enrolled users profile requested pin after)
    (listed : pin ∈ users.map SimUser.userId) :
    pin = requested ∧ ∃ existing, users.find? (SimUser.hasId requested) = some existing ∧
      existing.name = profile.name := by
  cases enrolled with
  | added free => exact absurd listed (find?_hasId_eq_none.mp free)
  | updated first same => exact ⟨rfl, _, first, same⟩
  | remapped _ _ found => exact absurd listed (nextFreePin_notMem found)

theorem Enrolled.filter_other {users after : List SimUser} {profile : Profile}
    {requested pin other : String} (enrolled : Enrolled users profile requested pin after)
    (apart : other ≠ pin) :
    after.filter (SimUser.hasId other) = users.filter (SimUser.hasId other) := by
  have appended : ∀ free, other ≠ free →
      (appendCopy users profile free).filter (SimUser.hasId other) =
        users.filter (SimUser.hasId other) := by
    intro free differs
    simp [appendCopy, List.filter_append, SimUser.hasId, differs.symm]
  cases enrolled with
  | added => exact appended requested apart
  | remapped => exact appended pin apart
  | updated =>
      apply filter_updateFirst
      · intro user held
        simp only [SimUser.hasId_iff] at held
        simp [SimUser.hasId, held, apart.symm]
      · intro user _
        rfl

theorem Enrolled.ne_of_listed {users after : List SimUser} {profile : Profile}
    {requested pin userId : String} (enrolled : Enrolled users profile requested pin after)
    (listed : userId ∈ users.map SimUser.userId) (other : requested ≠ userId) :
    pin ≠ userId := by
  cases enrolled with
  | added => exact other
  | updated => exact other
  | remapped _ _ found =>
      intro same
      exact nextFreePin_notMem found (same ▸ listed)

/-! ## What a migration does -/

section

variable [UnicodeTables] (registry : Registry)

inductive Migrated (devices : SimDevices) (request : MigrationRequest) :
    MigrationResult → SimDevices → Prop where
  | refused {result : MigrationResult} :
      result.ok = false → Migrated devices request result devices
  | enrolled {result : MigrationResult} {srcDev tgtDev : SimDevice} {srcUser : SimUser}
      {tgtUsers : List SimUser} :
      simulatedDevice registry request.srcIdentifier = some srcDev →
      simulatedDevice registry request.tgtIdentifier = some tgtDev →
      (devices.users srcDev).find? (SimUser.hasId request.userId) = some srcUser →
      Enrolled (devices.users tgtDev) srcUser.toProfile request.destUserId
        result.targetUserId tgtUsers →
      result.ok = true → result.userId = request.userId →
        Migrated devices request result
          (deleteIfMove (devices.setUsers tgtDev tgtUsers) srcDev request)

theorem migrated_of_migrate {devices after : SimDevices} {request : MigrationRequest}
    {result : MigrationResult}
    (returned : migrateSingleUserSimulated registry devices request = some (result, after)) :
    Migrated registry devices request result after := by
  unfold migrateSingleUserSimulated at returned
  split at returned
  · cases returned
    exact .refused rfl
  · rename_i srcDev srcFound
    split at returned
    · cases returned
      exact .refused rfl
    · rename_i tgtDev tgtFound
      split at returned
      · cases returned
        exact .refused rfl
      · rename_i srcUser first
        obtain ⟨⟨pin, tgtUsers⟩, written, same⟩ := Option.map_eq_some_iff.mp returned
        cases same
        exact .enrolled srcFound tgtFound first (enrolled_of_enrol written) rfl rfl

theorem migrate_of_enrol {devices : SimDevices} {request : MigrationRequest}
    {srcDev tgtDev : SimDevice} {srcUser : SimUser} {pin : String} {tgtUsers : List SimUser}
    (srcFound : simulatedDevice registry request.srcIdentifier = some srcDev)
    (tgtFound : simulatedDevice registry request.tgtIdentifier = some tgtDev)
    (first : (devices.users srcDev).find? (SimUser.hasId request.userId) = some srcUser)
    (written : enrol (devices.users tgtDev) srcUser.toProfile request.destUserId =
      some (pin, tgtUsers)) :
    ∃ result, migrateSingleUserSimulated registry devices request =
        some (result, deleteIfMove (devices.setUsers tgtDev tgtUsers) srcDev request) ∧
      result.ok = true ∧ result.targetUserId = pin := by
  simp only [migrateSingleUserSimulated, srcFound, tgtFound, first, written]
  exact ⟨_, rfl, rfl, rfl⟩

end

end PumoBioMetric.Core
