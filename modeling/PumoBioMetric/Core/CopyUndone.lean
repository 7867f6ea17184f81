import PumoBioMetric.Core.DeviceNaming
import PumoBioMetric.Core.HardwareRun

/-!
# Deleting a copied user undoes the copy

A copy that creates a profile adds one record at the end of the target's list, under a PIN
that nobody there had.  The deletion resolves the target anew and removes whoever has the
PIN that the migration reported.
-/

set_option autoImplicit false

namespace PumoBioMetric.Core

open Py FirstMatch

/-- A list with a new record at its end is restored by deleting the record's PIN. -/
theorem filter_append_eq_self_iff {users : List SimUser} {record : SimUser}
    (free : record.userId ∉ users.map SimUser.userId) (pin : String) :
    (users ++ [record]).filter (fun user => !user.hasId pin) = users ↔ record.userId = pin := by
  constructor
  · intro restored
    by_contra other
    have kept : record ∈ (users ++ [record]).filter fun user => !user.hasId pin := by
      simp [SimUser.hasId, other]
    rw [restored] at kept
    exact free (List.mem_map_of_mem kept)
  · rintro rfl
    have others : ∀ user ∈ users, (!user.hasId record.userId) = true := by
      intro user listed
      have differs : user.userId ≠ record.userId :=
        fun same => free (same ▸ List.mem_map_of_mem listed)
      simpa [SimUser.hasId] using differs
    have dropped : [record].filter (fun user => !user.hasId record.userId) = [] := by
      simp [SimUser.hasId]
    rw [List.filter_append, List.filter_eq_self.mpr others, dropped, List.append_nil]

section

variable [UnicodeTables] (registry : Registry)

theorem deleteDeviceUserSimulated_full {devices : SimDevices} {deviceId : String}
    {dev : SimDevice} (found : simulatedDevice registry deviceId = some dev) (userId : String) :
    (deleteDeviceUserSimulated registry devices deviceId userId false).2 =
      devices.setUsers dev ((devices.users dev).filter fun user => !user.hasId userId) := by
  simp only [deleteDeviceUserSimulated, found]
  split
  · rename_i absent
    have all : (devices.users dev).filter (fun user => !user.hasId userId) = devices.users dev := by
      rw [List.filter_eq_self]
      intro user listed
      have other := List.find?_eq_none.mp absent user listed
      simpa [SimUser.hasId] using other
    rw [all, SimDevices.setUsers_self]
  · rfl

theorem deleteDeviceUserSimulated_missing {devices : SimDevices} {deviceId : String}
    (missing : simulatedDevice registry deviceId = none) (userId : String)
    (deleteBiometricsOnly : Bool) :
    (deleteDeviceUserSimulated registry devices deviceId userId deleteBiometricsOnly).2 =
      devices := by
  simp only [deleteDeviceUserSimulated, missing]

variable (run : MigrationRun)

def MigrationRun.targetSerial : String :=
  let tgtSn := (resolveDevice registry run.targetIp run.targetPort).sn
  if tgtSn = "" then SimDevice.target.sn else tgtSn

def MigrationRun.requestedPin (uid : String) : String := (run.request "" "" uid).destUserId

/-- A run over one user in a mode other than a move has created a profile. -/
structure CreatedBy (devices : SimDevices) (userId : String) (result : MigrationResult)
    (after : SimDevices) (place : SimDevice) (record : SimUser) : Prop where
  single : run.userIds = [userId]
  copies : lower run.mode ≠ "move"
  returned : runMigrationSimulated registry devices run = (some [result], after)
  added : after = devices.setUsers place (devices.users place ++ [record])

omit [UnicodeTables] in
/-- An enrolment whose list is longer by one record has added it under its PIN, which was
free; the PIN is the requested one or a number. -/
theorem Enrolled.appended {users after : List SimUser} {profile : Profile}
    {requested pin : String} (enrolled : Enrolled users profile requested pin after)
    {record : SimUser} (added : after = users ++ [record]) :
    record.userId = pin ∧ pin ∉ users.map SimUser.userId ∧
      (pin = "" ↔ requested = "" ∧ "" ∉ users.map SimUser.userId) := by
  cases enrolled with
  | added free =>
      have last := List.append_cancel_left added
      have unheld : requested ∉ users.map SimUser.userId := find?_hasId_eq_none.mp free
      refine ⟨?_, unheld, ?_⟩
      · rw [← (List.cons.inj last).1]
      · constructor
        · rintro rfl
          exact ⟨rfl, unheld⟩
        · exact And.left
  | updated first _ =>
      have lengths := congrArg List.length added
      have uids : (updateFirst (SimUser.hasId requested) (SimUser.withProfile profile) users).map
          SimUser.uid = users.map SimUser.uid :=
        map_updateFirst _ _ fun _ _ _ => rfl
      have same := congrArg List.length uids
      simp only [List.length_map] at same
      simp [same] at lengths
  | remapped first differs found =>
      have last := List.append_cancel_left added
      have unheld : pin ∉ users.map SimUser.userId := nextFreePin_notMem found
      refine ⟨?_, unheld, ?_⟩
      · rw [← (List.cons.inj last).1]
      · refine iff_of_false (nextFreePin_ne_empty found) ?_
        rintro ⟨rfl, absent⟩
        rw [find?_hasId_eq_none.mpr absent] at first
        cases first

variable {registry run}

omit [UnicodeTables] in
theorem users_of_added {devices : SimDevices} {place other : SimDevice} {record : SimUser}
    {users : List SimUser}
    (added : devices.setUsers other users = devices.setUsers place (devices.users place ++ [record])) :
    other = place ∧ users = devices.users place ++ [record] := by
  have new := congrArg (fun after => SimDevices.users after place) added
  simp only [SimDevices.users_setUsers_same] at new
  by_cases same : other = place
  · subst same
    rw [SimDevices.users_setUsers_same] at new
    exact ⟨rfl, new⟩
  · rw [SimDevices.users_setUsers_other _ _ (Ne.symm same)] at new
    have lengths := congrArg List.length new
    simp at lengths

structure CreatedRecord (devices : SimDevices) (uid : String) (result : MigrationResult)
    (place : SimDevice) (record : SimUser) : Prop where
  user : uid ≠ ""
  written : simulatedDevice registry (run.targetSerial registry) = some place
  free : record.userId ∉ (devices.users place).map SimUser.userId
  reported : result.targetUserId = if record.userId = "" then uid else record.userId
  blank : record.userId = "" ↔
    run.requestedPin uid = "" ∧ "" ∉ (devices.users place).map SimUser.userId

theorem CreatedBy.record {devices after : SimDevices} {userId : String}
    {result : MigrationResult} {place : SimDevice} {record : SimUser}
    (created : CreatedBy registry run devices userId result after place record) :
    @CreatedRecord _ registry run devices (strip userId) result place record := by
  obtain ⟨single, copies, returned, added⟩ := created
  rw [runMigrationSimulated, single, migrateEachSimulated] at returned
  by_cases user : strip userId = ""
  · simp [user, migrateEachSimulated] at returned
  · simp only [user, if_false] at returned
    split at returned
    · cases returned
    · rename_i res migrated ran
      obtain ⟨same, rfl⟩ : res.toDict = result ∧ migrated = after := by
        simpa [migrateEachSimulated] using returned
      cases migrated_of_migrate registry ran with
      | refused _ =>
          have lengths := congrArg (fun state => (SimDevices.users state place).length) added
          simp at lengths
      | @enrolled srcDev tgtDev srcUser tgtUsers _ tgtFound _ enrolled _ resUser =>
          have kept : deleteIfMove (devices.setUsers tgtDev tgtUsers) srcDev
              (run.request (resolveDevice registry run.sourceIp run.sourcePort).sn
                (resolveDevice registry run.targetIp run.targetPort).sn (strip userId)) =
              devices.setUsers tgtDev tgtUsers := if_neg copies
          obtain ⟨rfl, appended⟩ := users_of_added (kept.symm.trans added)
          obtain ⟨pin, free, blank⟩ := enrolled.appended appended
          refine ⟨user, ?_, pin ▸ free, ?_, pin ▸ blank⟩
          · rw [MigrationRun.targetSerial, ← tgtIdentifier_request]
            exact tgtFound
          · rw [← same, pin]
            change (if res.targetUserId = "" then res.userId else res.targetUserId) = _
            rw [resUser]

omit [UnicodeTables] in
/-- A list set over a new one restores the devices if it is the old one. -/
theorem setUsers_setUsers_eq_iff (devices : SimDevices) (device : SimDevice)
    (first second : List SimUser) :
    (devices.setUsers device first).setUsers device second = devices ↔
      second = devices.users device := by
  constructor
  · intro restored
    rw [← congrArg (fun state => SimDevices.users state device) restored]
    simp
  · rintro rfl
    cases device <;> rfl

/-- The reported PIN is the record's own unless that is empty. -/
theorem CreatedRecord.reported_iff {devices : SimDevices} {uid : String}
    {result : MigrationResult} {place : SimDevice} {record : SimUser}
    (known : @CreatedRecord _ registry run devices uid result place record) :
    record.userId = result.targetUserId ↔
      (run.requestedPin uid = "" → "" ∈ (devices.users place).map SimUser.userId) := by
  rw [known.reported]
  by_cases empty : record.userId = ""
  · obtain ⟨asked, untaken⟩ := known.blank.mp empty
    rw [if_pos empty, empty]
    refine iff_of_false (Ne.symm known.user) ?_
    intro taken
    exact untaken (taken asked)
  · rw [if_neg empty]
    refine iff_of_true rfl ?_
    intro asked
    by_contra untaken
    exact empty (known.blank.mpr ⟨asked, untaken⟩)

/-- Deleting the PIN that the run reported from its target restores both devices exactly if
the target is found again and the PIN asked for was not blank, or the empty PIN was taken. -/
theorem deletion_undoes_copy_iff {devices after : SimDevices} {userId : String}
    {result : MigrationResult} {place : SimDevice} {record : SimUser}
    (created : CreatedBy registry run devices userId result after place record) :
    (deleteDeviceUserSimulated registry after run.targetIp result.targetUserId false).2 = devices ↔
      simulatedDevice registry (run.targetSerial registry) =
          simulatedDevice registry run.targetIp ∧
        (run.requestedPin (strip userId) = "" →
          "" ∈ (devices.users place).map SimUser.userId) := by
  have known := created.record
  rw [created.added, known.written, ← known.reported_iff]
  cases found : simulatedDevice registry run.targetIp with
  | none =>
      rw [deleteDeviceUserSimulated_missing registry found]
      refine iff_of_false ?_ (fun both => by cases both.1)
      intro restored
      have lengths := congrArg (fun state => (SimDevices.users state place).length) restored
      simp at lengths
  | some dev =>
      rw [deleteDeviceUserSimulated_full registry found]
      by_cases same : dev = place
      · subst same
        rw [setUsers_setUsers_eq_iff, SimDevices.users_setUsers_same,
          filter_append_eq_self_iff known.free]
        simp
      · -- The new record stays on the device that was written.
        refine iff_of_false ?_ ?_
        · intro restored
          have lengths := congrArg (fun state => (SimDevices.users state place).length) restored
          simp [SimDevices.users_setUsers_other _ _ (Ne.symm same)] at lengths
        · rintro ⟨again, -⟩
          exact same (Option.some.inj again).symm

end

/-! ## Copies of one user -/

def copyOf101 (targetUserIds : Option (Dict String)) : MigrationRun :=
  ⟨"NFZ8254900401", "192.168.0.154", ["101"], 4370, 4370, "copy", targetUserIds⟩

def record101 (userId : String) : SimUser :=
  ⟨⟨"Member 1o", 0, "", "1", 0,
    [⟨0, 1, bytes "TEMPLATE_FINGER_0_USER_101_SAMPLE"⟩,
      ⟨1, 1, bytes "TEMPLATE_FINGER_1_USER_101_SAMPLE"⟩]⟩, 2, userId⟩

theorem createdBy_copyOf101 {targetUserIds : Option (Dict String)} {userId : String}
    (returned : @runMigrationSimulated .ascii defaultRegistry resetSimulationState
        (copyOf101 targetUserIds) =
      (some [⟨true, "copy", "101", "Member 1o", "NFZ8254900401", "NFZ8242802542", "101", 2, none⟩],
        resetSimulationState.setUsers .target
          (resetSimulationState.targetUsers ++ [record101 userId]))) :
    @CreatedBy .ascii defaultRegistry (copyOf101 targetUserIds) resetSimulationState "101"
      ⟨true, "copy", "101", "Member 1o", "NFZ8254900401", "NFZ8242802542", "101", 2, none⟩
      (resetSimulationState.setUsers .target
        (resetSimulationState.targetUsers ++ [record101 userId])) .target (record101 userId) := by
  have copies : @lower .ascii "copy" ≠ "move" := by decide +kernel
  exact @CreatedBy.mk .ascii _ _ _ _ _ _ _ _ rfl copies returned rfl

theorem deletion_undoes_copy_of_101 :
    let := UnicodeTables.ascii
    ∃ result after, runMigrationSimulated defaultRegistry resetSimulationState (copyOf101 none) =
        (some [result], after) ∧ after ≠ resetSimulationState ∧
      (deleteDeviceUserSimulated defaultRegistry after "192.168.0.154" result.targetUserId
        false).2 = resetSimulationState := by
  intro _
  have created := @createdBy_copyOf101 none "101" (by decide +kernel)
  refine ⟨_, _, created.returned, by decide +kernel, ?_⟩
  exact (@deletion_undoes_copy_iff .ascii _ _ _ _ _ _ _ _ created).mpr
    ⟨by decide +kernel, by decide +kernel⟩

/-- A map to a blank PIN: the profile stands under the empty PIN and 101 is reported. -/
theorem deletion_leaves_copy_under_blank_pin :
    let := UnicodeTables.ascii
    ∃ result after, CreatedBy defaultRegistry (copyOf101 (some [("101", " ")]))
        resetSimulationState "101" result after .target (record101 "") ∧
      (deleteDeviceUserSimulated defaultRegistry after "192.168.0.154" result.targetUserId
        false).2 ≠ resetSimulationState := by
  intro _
  have created := @createdBy_copyOf101 (some [("101", " ")]) "" (by decide +kernel)
  exact ⟨_, _, created, by decide +kernel⟩

end PumoBioMetric.Core
