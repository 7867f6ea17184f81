import PumoBioMetric.Core.ReaderContents

/-!
# What the simulator says of the readers

Both migrations from the same contents.  The simulator takes a holder of the requested PIN
for the employee where the names are equal, and replaces all its fingers; between readers
the names are compared trimmed and ignoring case, a nameless holder is taken for the
employee, fingers with other numbers stay, and a nameless employee gets a name.
-/

set_option autoImplicit false

namespace PumoBioMetric.Core

open Py FirstMatch FaultyCalls

section

variable [UnicodeTables]

/-- Two readers and the two simulated devices with the same contents. -/
structure Paired (registry : Registry) (request : MigrationRequest) (ends : Endpoints)
    (devices : SimDevices) (readers : Address → Reader) (srcDev tgtDev : SimDevice)
    (srcVersion tgtVersion : Int) : Prop where
  srcDevice : simulatedDevice registry request.srcIdentifier = some srcDev
  tgtDevice : simulatedDevice registry request.tgtIdentifier = some tgtDev
  distinct : srcDev ≠ tgtDev
  apart : ends.srcConnection.address ≠ ends.tgtConnection.address
  srcReader : sourceReader ends readers = readerOf srcVersion (devices.users srcDev)
  tgtReader : targetReader ends readers = readerOf tgtVersion (devices.users tgtDev)
  srcUsers : WellFormedUsers (devices.users srcDev)
  tgtUsers : WellFormedUsers (devices.users tgtDev)

structure Agrees (ends : Endpoints) (srcDev tgtDev : SimDevice) (predicted : MigrationResult)
    (devices : SimDevices) (result : MigrationResult) (readers : Address → Reader) : Prop where
  ok : predicted.ok = result.ok
  targetPin : predicted.targetUserId = result.targetUserId
  fingers : predicted.fingersTransferred = result.fingersTransferred
  source : (sourceReader ends readers).SameContents
    (readerOf (sourceReader ends readers).fpVersion (devices.users srcDev))
  target : (targetReader ends readers).SameContents
    (readerOf (targetReader ends readers).fpVersion (devices.users tgtDev))

/-- Both take the holder of the PIN for the employee and leave it the same fingers, or
both take it for somebody else and find another PIN. -/
def HolderAlike (user holder : SimUser) (destUserId : String) : Prop :=
  (holder.name = user.name ∧
      ∀ finger ∈ holder.fingers, finger.fid ∈ user.fingers.map Finger.fid) ∨
    (occupiedByOther holder.zkUser user.name = true ∧ ¬ Unreadable destUserId)

def OneFingerEach (fingers : List Finger) : Prop :=
  ∀ left ∈ fingers, ∀ right ∈ fingers, left.fid = right.fid → left = right

/-- The employee, where there is one, has a name and one finger of each number, and both
migrations tell the holder of the requested PIN alike. -/
def Predictable (srcUsers tgtUsers : List SimUser) (request : MigrationRequest) : Prop :=
  ∀ user, srcUsers.find? (SimUser.hasId request.userId) = some user →
    user.name ≠ "" ∧ OneFingerEach user.fingers ∧
      ∀ holder, tgtUsers.find? (SimUser.hasId request.destUserId) = some holder →
        HolderAlike user holder request.destUserId

/-! ## The names -/

theorem occupiedByOther_namesake {holder : ZkUser} {userName : String}
    (same : holder.name = userName) : occupiedByOther holder userName = false := by
  simp [occupiedByOther, same]

omit [UnicodeTables] in
theorem migratedName_eq_iff {user : ZkUser} {userId : String} :
    migratedName user userId = user.name ↔ user.name ≠ "" := by
  unfold migratedName
  split
  · rename_i nameless
    rw [nameless]
    refine iff_of_false (fun same => ?_) fun named => named rfl
    have letters := congrArg String.length same
    have prefixed : "User ".length = 5 := rfl
    have empty : "".length = 0 := rfl
    rw [String.length_append] at letters
    omega
  · rename_i named
    exact iff_of_true rfl named

/-! ## The target -/

variable {registry : Registry} {request : MigrationRequest} {ends : Endpoints}
  {devices : SimDevices} {readers : Address → Reader} {srcDev tgtDev : SimDevice}
  {srcVersion tgtVersion : Int} {user : SimUser}

omit [UnicodeTables] in
/-- Under one PIN both targets hold the same if and only if the employee has a name and
exactly its fingers are left under the uid of the slot. -/
theorem target_sameContents_iff {users after : List SimUser} {pin : String} {slot : Slot}
    (wellFormed : WellFormedUsers users)
    (sound : SlotSound (readerOf tgtVersion users).users request.destUserId slot)
    (enrolled : Enrolled users user.toProfile request.destUserId pin after)
    (samePin : pin = slot.userId) (version : Int) :
    ((readerOf tgtVersion users).write (slotProfile request user.zkUser slot)
        (user.fingers.map (Finger.at slot.uid))).SameContents (readerOf version after) ↔
      user.name ≠ "" ∧ OneFingerEach user.fingers ∧
        ∀ finger : Finger, finger.at slot.uid ∈ (readerOf tgtVersion users).templates →
          finger.fid ∈ user.fingers.map Finger.fid := by
  subst samePin
  have real := @SlotSound.enrols tgtVersion users request.destUserId slot sound wellFormed
    (slotProfile request user.zkUser slot) rfl rfl user.fingers
  have simulated : (readerOf version after).Enrols _ _ _ _ _ := enrolled.enrols wellFormed
  have named : migratedName user.zkUser request.userId = user.name ↔ user.name ≠ "" :=
    migratedName_eq_iff
  rw [real.sameContents_iff simulated, mem_upsertAll_at_iff]
  exact and_congr_left fun _ => named

omit [UnicodeTables] in
theorem no_template_of_newUid {users : List SimUser} {uid : Int}
    (new : uid ∉ (readerOf tgtVersion users).users.map ZkUser.uid) (finger : Finger) :
    finger.at uid ∉ (readerOf tgtVersion users).templates := by
  intro stored
  rw [uids_readerOf] at new
  exact new (uid_mem_of_template stored)

omit [UnicodeTables] in
theorem find?_of_readerOf {users : List SimUser} {pin : String} {found : ZkUser}
    (first : (readerOf tgtVersion users).users.find? (ZkUser.hasId pin) = some found) :
    ∃ holder, users.find? (SimUser.hasId pin) = some holder ∧ holder.zkUser = found := by
  rw [find?_readerOf] at first
  exact Option.map_eq_some_iff.mp first

/-- The slot and the simulator's PIN, chosen over the same users, agree and leave no finger
over under the condition on the holder. -/
theorem agreed_iff_holderAlike {users after : List SimUser} {pin : String} {slot : Slot}
    (wellFormed : WellFormedUsers users)
    (chosen : SlotChosen (readerOf tgtVersion users).users user.name request.destUserId slot)
    (enrolled : Enrolled users user.toProfile request.destUserId pin after) :
    (pin = slot.userId ∧ ∀ finger : Finger,
        finger.at slot.uid ∈ (readerOf tgtVersion users).templates →
          finger.fid ∈ user.fingers.map Finger.fid) ↔
      ∀ holder, users.find? (SimUser.hasId request.destUserId) = some holder →
        HolderAlike user holder request.destUserId := by
  have nothing : ∀ finger : Finger,
      finger.at (nextFreeUid (readerOf tgtVersion users).users) ∈
        (readerOf tgtVersion users).templates → finger.fid ∈ user.fingers.map Finger.fid :=
    fun finger stored => absurd stored (no_template_of_newUid (nextFreeUid_notMem _) finger)
  cases chosen with
  | free missing =>
      have unheld : users.find? (SimUser.hasId request.destUserId) = none := by
        rwa [find?_readerOf, Option.map_eq_none_iff] at missing
      cases enrolled with
      | added => exact iff_of_true ⟨rfl, nothing⟩ (by simp [unheld])
      | updated first _ => exact absurd (unheld.symm.trans first) (by simp)
      | remapped first _ _ => exact absurd (unheld.symm.trans first) (by simp)
  | kept first own =>
      obtain ⟨holder, held, rfl⟩ := find?_of_readerOf first
      have listed := List.mem_of_find?_eq_some held
      have alike : (∀ other, users.find? (SimUser.hasId request.destUserId) = some other →
          HolderAlike user other request.destUserId) ↔ HolderAlike user holder request.destUserId := by
        simp [held]
      rw [alike]
      cases enrolled with
      | added missing => exact absurd (missing.symm.trans held) (by simp)
      | updated again same =>
          cases held.symm.trans again
          have templates : ∀ finger : Finger,
              finger.at holder.uid ∈ (readerOf tgtVersion users).templates ↔
                finger ∈ holder.fingers :=
            fun _ => mem_templates_readerOf wellFormed.uids listed
          constructor
          · rintro ⟨_, covered⟩
            exact Or.inl ⟨same, fun finger stored => covered finger ((templates finger).mpr stored)⟩
          · rintro (⟨_, covered⟩ | ⟨other, _⟩)
            · exact ⟨rfl, fun finger stored => covered finger ((templates finger).mp stored)⟩
            · exact absurd (own.symm.trans other) (by simp)
      | remapped again differs found =>
          cases held.symm.trans again
          apply iff_of_false
          · rintro ⟨samePin, _⟩
            have taken : request.destUserId ∈ users.map SimUser.userId :=
              List.mem_map.mpr ⟨holder, listed, userId_of_find? held⟩
            exact nextFreePin_notMem found (samePin ▸ taken)
          · rintro (⟨same, _⟩ | ⟨other, _⟩)
            · exact differs same
            · exact absurd (own.symm.trans other) (by simp)
  | mapped first other found =>
      obtain ⟨holder, held, rfl⟩ := find?_of_readerOf first
      rw [userIds_readerOf] at found
      have readable : ¬ Unreadable request.destUserId := by
        intro unreadable
        exact absurd ((nextFreePin_eq_none_iff.mpr unreadable).symm.trans found) (by simp)
      cases enrolled with
      | added missing => exact absurd (missing.symm.trans held) (by simp)
      | updated again same =>
          cases held.symm.trans again
          exact absurd ((occupiedByOther_namesake same).symm.trans other) (by simp)
      | remapped _ _ again =>
          cases found.symm.trans again
          refine iff_of_true ⟨rfl, nothing⟩ fun second sameHolder => ?_
          cases held.symm.trans sameHolder
          exact Or.inr ⟨other, readable⟩

/-! ## Both migrations -/

theorem source_after (paired : Paired registry request ends devices readers srcDev tgtDev
      srcVersion tgtVersion)
    (first : (devices.users srcDev).find? (SimUser.hasId request.userId) = some user)
    (slot : Slot) (tgtUsers : List SimUser) :
    sourceReader ends (deletedReaders (writtenReaders ends request readers user.zkUser slot)
        ends.srcConnection.address request.mode user.zkUser) =
      readerOf srcVersion
        ((deleteIfMove (devices.setUsers tgtDev tgtUsers) srcDev request).users srcDev) := by
  have kept : writtenReaders ends request readers user.zkUser slot ends.srcConnection.address =
      readerOf srcVersion (devices.users srcDev) := by
    rw [writtenReaders, putReader_other _ _ paired.apart]
    exact paired.srcReader
  have simulated : (devices.setUsers tgtDev tgtUsers).users srcDev = devices.users srcDev :=
    SimDevices.users_setUsers_other _ _ paired.distinct
  have owner : user.userId = request.userId := userId_of_find? first
  unfold sourceReader deletedReaders deleteIfMove
  by_cases move : lower request.mode = "move"
  · rw [if_pos move, if_pos move, putReader_same, kept, SimDevices.users_setUsers_same, simulated,
      ← owner]
    exact dropUser_readerOf paired.srcUsers (List.mem_of_find?_eq_some first)
  · rw [if_neg move, if_neg move, kept, simulated]

theorem target_after (paired : Paired registry request ends devices readers srcDev tgtDev
      srcVersion tgtVersion)
    (first : (devices.users srcDev).find? (SimUser.hasId request.userId) = some user)
    (slot : Slot) :
    targetReader ends (deletedReaders (writtenReaders ends request readers user.zkUser slot)
        ends.srcConnection.address request.mode user.zkUser) =
      (readerOf tgtVersion (devices.users tgtDev)).write (slotProfile request user.zkUser slot)
        (user.fingers.map (Finger.at slot.uid)) := by
  have fingers : slotFingers ends readers user.zkUser slot =
      user.fingers.map (Finger.at slot.uid) := by
    have own := @fingersOf_readerOf srcVersion _ user paired.srcUsers.uids
      (List.mem_of_find?_eq_some first)
    unfold slotFingers
    rw [paired.srcReader]
    change fingersAt slot ((readerOf srcVersion (devices.users srcDev)).fingersOf user.uid) = _
    rw [own]
    simp [fingersAt, SimUser.zkFingers, Finger.at]
  have other : ends.tgtConnection.address ≠ ends.srcConnection.address := paired.apart.symm
  unfold targetReader deletedReaders writtenReaders
  rw [fingers, paired.tgtReader]
  split
  · rw [putReader_other _ _ other, putReader_same]
  · rw [putReader_same]

theorem CalmOutcome.agrees_of_absent {result : MigrationResult} {after : Address → Reader}
    {written : List (Role × ZkUser)}
    (outcome : CalmOutcome ends request readers result after written)
    (paired : Paired registry request ends devices readers srcDev tgtDev srcVersion tgtVersion)
    (missing : (devices.users srcDev).find? (SimUser.hasId request.userId) = none) :
    ∃ predicted devices', migrateSingleUserSimulated registry devices request =
        some (predicted, devices') ∧
      Agrees ends srcDev tgtDev predicted devices' result after := by
  have unlisted : (sourceReader ends readers).users.find? (ZkUser.hasId request.userId) = none := by
    rw [paired.srcReader, find?_readerOf, missing]
    rfl
  unfold migrateSingleUserSimulated
  simp only [paired.srcDevice, paired.tgtDevice, missing]
  refine ⟨_, _, rfl, ?_⟩
  cases outcome with
  | raised again _ => exact absurd (unlisted.symm.trans again) (by simp)
  | written again _ => exact absurd (unlisted.symm.trans again) (by simp)
  | absent _ =>
      refine ⟨rfl, rfl, rfl, ?_, ?_⟩
      · rw [paired.srcReader]
        exact Reader.sameContents_refl _
      · rw [paired.tgtReader]
        exact Reader.sameContents_refl _

theorem agrees_iff_of_written {result predicted : MigrationResult} {tgtUsers : List SimUser}
    {slot : Slot} {pin : String}
    (paired : Paired registry request ends devices readers srcDev tgtDev srcVersion tgtVersion)
    (first : (devices.users srcDev).find? (SimUser.hasId request.userId) = some user)
    (chosen : chooseSlot (readerOf tgtVersion (devices.users tgtDev)).users
      (migratedName user.zkUser request.userId) request.destUserId = some slot)
    (enrolled : Enrolled (devices.users tgtDev) user.toProfile request.destUserId pin tgtUsers)
    (ok : predicted.ok = result.ok) (pins : predicted.targetUserId = pin ∧
      result.targetUserId = slot.userId)
    (fingers : predicted.fingersTransferred = result.fingersTransferred) :
    Agrees ends srcDev tgtDev predicted
        (deleteIfMove (devices.setUsers tgtDev tgtUsers) srcDev request) result
        (deletedReaders (writtenReaders ends request readers user.zkUser slot)
          ends.srcConnection.address request.mode user.zkUser) ↔
      user.name ≠ "" ∧ OneFingerEach user.fingers ∧
        ∀ holder, (devices.users tgtDev).find? (SimUser.hasId request.destUserId) = some holder →
          HolderAlike user holder request.destUserId := by
  have source := source_after paired first slot tgtUsers
  have target := target_after paired first slot
  have simulated : (deleteIfMove (devices.setUsers tgtDev tgtUsers) srcDev request).users tgtDev =
      tgtUsers := by
    rw [users_deleteIfMove_other _ _ paired.distinct.symm, SimDevices.users_setUsers_same]
  have sound := (slotChosen_of_chooseSlot chosen).sound
  have contents : ∀ samePin version, _ :=
    fun samePin version => target_sameContents_iff paired.tgtUsers sound enrolled samePin version
  constructor
  · intro agrees
    have samePin : pin = slot.userId := pins.1.symm.trans (agrees.targetPin.trans pins.2)
    have same := agrees.target
    rw [simulated, target] at same
    obtain ⟨named, one, covered⟩ := (contents samePin _).mp same
    rw [migratedName_eq_iff.mpr named] at chosen
    exact ⟨named, one, (agreed_iff_holderAlike paired.tgtUsers (slotChosen_of_chooseSlot chosen)
      enrolled).mp ⟨samePin, covered⟩⟩
  · rintro ⟨named, one, alike⟩
    rw [migratedName_eq_iff.mpr named] at chosen
    obtain ⟨samePin, covered⟩ := (agreed_iff_holderAlike paired.tgtUsers
      (slotChosen_of_chooseSlot chosen) enrolled).mpr alike
    refine ⟨ok, pins.1.trans (samePin.trans pins.2.symm), fingers, ?_, ?_⟩
    · rw [source]
      exact Reader.sameContents_refl _
    · rw [simulated, target]
      exact (contents samePin _).mpr ⟨named, one, covered⟩

theorem CalmOutcome.agrees_iff_of_found {result : MigrationResult} {after : Address → Reader}
    {written : List (Role × ZkUser)}
    (outcome : CalmOutcome ends request readers result after written)
    (paired : Paired registry request ends devices readers srcDev tgtDev srcVersion tgtVersion)
    (first : (devices.users srcDev).find? (SimUser.hasId request.userId) = some user) :
    (∃ predicted devices', migrateSingleUserSimulated registry devices request =
        some (predicted, devices') ∧
        Agrees ends srcDev tgtDev predicted devices' result after) ↔
      user.name ≠ "" ∧ OneFingerEach user.fingers ∧
        ∀ holder, (devices.users tgtDev).find? (SimUser.hasId request.destUserId) = some holder →
          HolderAlike user holder request.destUserId := by
  have listed : (sourceReader ends readers).users.find? (ZkUser.hasId request.userId) =
      some user.zkUser := by
    rw [paired.srcReader, find?_readerOf, first]
    rfl
  have ended := outcome.of_found listed
  rw [paired.tgtReader] at ended
  unfold migrateSingleUserSimulated
  simp only [paired.srcDevice, paired.tgtDevice, first]
  cases enrolment : enrol (devices.users tgtDev) user.toProfile request.destUserId with
  | none =>
      obtain ⟨holder, held, differs, unreadable⟩ := unreadable_of_enrol enrolment
      apply iff_of_false
      · rintro ⟨_, _, raised, _⟩
        cases raised
      · rintro ⟨_, _, alike⟩
        rcases alike holder held with ⟨same, _⟩ | ⟨_, readable⟩
        · exact differs same
        · exact readable unreadable
  | some written =>
      obtain ⟨pin, tgtUsers⟩ := written
      have enrolled := enrolled_of_enrol enrolment
      rcases ended with ⟨raised, failed, _, _⟩ | ⟨slot, chosen, ok, slotPin, count, final, _⟩
      · obtain ⟨found, held, other, unreadable⟩ := unreadable_of_chooseSlot raised
        obtain ⟨holder, holds, rfl⟩ := find?_of_readerOf held
        apply iff_of_false
        · rintro ⟨_, _, same, agrees⟩
          cases same
          exact absurd (agrees.ok.trans failed) (by simp)
        · rintro ⟨named, _, alike⟩
          rw [migratedName_eq_iff.mpr named] at other
          rcases alike holder holds with ⟨same, _⟩ | ⟨_, readable⟩
          · exact absurd ((occupiedByOther_namesake same).symm.trans other) (by simp)
          · exact readable unreadable
      · have counted : result.fingersTransferred = user.fingers.length := by
          have own := @fingersOf_readerOf srcVersion _ user paired.srcUsers.uids
            (List.mem_of_find?_eq_some first)
          rw [count, paired.srcReader]
          change ((readerOf srcVersion (devices.users srcDev)).fingersOf user.uid).length = _
          rw [own]
          exact List.length_map _
        subst final
        constructor
        · rintro ⟨_, _, same, agrees⟩
          cases same
          exact (agrees_iff_of_written paired first chosen enrolled ok.symm ⟨rfl, slotPin⟩
            counted.symm).mp agrees
        · intro alike
          exact ⟨_, _, rfl, (agrees_iff_of_written paired first chosen enrolled ok.symm
            ⟨rfl, slotPin⟩ counted.symm).mpr alike⟩

theorem CalmOutcome.agrees_iff_predictable {result : MigrationResult} {after : Address → Reader}
    {written : List (Role × ZkUser)}
    (outcome : CalmOutcome ends request readers result after written)
    (paired : Paired registry request ends devices readers srcDev tgtDev srcVersion tgtVersion) :
    (∃ predicted devices', migrateSingleUserSimulated registry devices request =
        some (predicted, devices') ∧
        Agrees ends srcDev tgtDev predicted devices' result after) ↔
      Predictable (devices.users srcDev) (devices.users tgtDev) request := by
  cases first : (devices.users srcDev).find? (SimUser.hasId request.userId) with
  | none =>
      refine iff_of_true (outcome.agrees_of_absent paired first) ?_
      intro user found
      exact absurd (first.symm.trans found) (by simp)
  | some user =>
      rw [outcome.agrees_iff_of_found paired first]
      constructor
      · intro alike _ found
        cases first.symm.trans found
        exact alike
      · exact fun predictable => predictable user first

/-- From the same contents, the simulator and the migration between readers end alike if
and only if the names and fingers let both tell the holder of the PIN alike. -/
theorem simulator_predicts_iff (registry : Registry) (request : MigrationRequest)
    (sourcePort targetPort : Int) (devices : SimDevices) (readers : Address → Reader)
    (srcDev tgtDev : SimDevice) (srcVersion tgtVersion : Int)
    (paired : Paired registry request (endpoints registry request sourcePort targetPort) devices
      readers srcDev tgtDev srcVersion tgtVersion) :
    ∃ result session,
      migrateSingleUserReal true registry request sourcePort targetPort noFaults
        (ZkSession.fresh readers) = (.ok result, session) ∧
      ((∃ predicted devices', migrateSingleUserSimulated registry devices request =
          some (predicted, devices') ∧
          Agrees (endpoints registry request sourcePort targetPort) srcDev tgtDev predicted
            devices' result session.world.readers) ↔
        Predictable (devices.users srcDev) (devices.users tgtDev) request) := by
  obtain ⟨result, session, returned, outcome⟩ :=
    calmOutcome_of_run registry request sourcePort targetPort readers
  exact ⟨result, session, returned, outcome.agrees_iff_predictable paired⟩

end

/-! ## Two pairs -/

def pairedReaders (devices : SimDevices) (address : Address) : Reader :=
  if address = ⟨"192.168.0.210", 4370⟩ then readerOf 10 devices.sourceUsers
  else readerOf 12 devices.targetUsers

theorem paired_copyMember {devices : SimDevices} (wellFormed : devices.WellFormed) :
    @Paired .ascii defaultRegistry copyMember (@endpoints .ascii defaultRegistry copyMember 4370 4370)
      devices (pairedReaders devices) .source .target 10 12 := by
  let := UnicodeTables.ascii
  rw [endpoints_copyMember]
  exact ⟨by decide, by decide, by decide, by decide, rfl, rfl, wellFormed .source,
    wellFormed .target⟩

theorem simulator_predicts_after_reset :
    ∃ result session predicted devices',
      @migrateSingleUserReal .ascii true defaultRegistry copyMember 4370 4370 noFaults
        (ZkSession.fresh (pairedReaders resetSimulationState)) = (.ok result, session) ∧
      @migrateSingleUserSimulated .ascii defaultRegistry resetSimulationState copyMember =
        some (predicted, devices') ∧
      Agrees (@endpoints .ascii defaultRegistry copyMember 4370 4370) .source .target predicted
        devices' result session.world.readers := by
  let := UnicodeTables.ascii
  obtain ⟨result, session, returned, agrees⟩ :=
    simulator_predicts_iff defaultRegistry copyMember 4370 4370 resetSimulationState
      (pairedReaders resetSimulationState) .source .target 10 12
      (paired_copyMember resetSimulationState_wellFormed)
  have predictable : Predictable (resetSimulationState.users .source)
      (resetSimulationState.users .target) copyMember := by
    intro user found
    cases found
    refine ⟨by decide, ?_, ?_⟩
    · unfold OneFingerEach
      decide
    · intro holder held
      cases held
  obtain ⟨predicted, devices', ran, alike⟩ := agrees.mpr predictable
  exact ⟨result, session, predicted, devices', returned, ran, alike⟩

def capitalsDevices : SimDevices where
  sourceUsers := [⟨⟨"Member 1o", 0, "", "1", 0, []⟩, 1, "101"⟩]
  targetUsers := [⟨⟨"MEMBER 1O", 0, "", "1", 0, []⟩, 1, "101"⟩]

theorem not_holderAlike_capitals :
    ¬ @HolderAlike .ascii ⟨⟨"Member 1o", 0, "", "1", 0, []⟩, 1, "101"⟩
      ⟨⟨"MEMBER 1O", 0, "", "1", 0, []⟩, 1, "101"⟩ "101" := by
  rintro (⟨same, _⟩ | ⟨other, _⟩)
  · exact absurd same (by decide)
  · exact absurd other (by decide +kernel)

theorem simulator_mispredicts_capitals :
    ∃ result session,
      @migrateSingleUserReal .ascii true defaultRegistry copyMember 4370 4370 noFaults
        (ZkSession.fresh (pairedReaders capitalsDevices)) = (.ok result, session) ∧
      ¬ ∃ predicted devices',
        @migrateSingleUserSimulated .ascii defaultRegistry capitalsDevices copyMember =
          some (predicted, devices') ∧
        Agrees (@endpoints .ascii defaultRegistry copyMember 4370 4370) .source .target predicted
          devices' result session.world.readers := by
  let := UnicodeTables.ascii
  have wellFormed : capitalsDevices.WellFormed := by
    intro device
    cases device with
    | source => exact ⟨by decide, by decide⟩
    | target => exact ⟨by decide, by decide⟩
  obtain ⟨result, session, returned, outcome⟩ :=
    calmOutcome_of_run defaultRegistry copyMember 4370 4370 (pairedReaders capitalsDevices)
  refine ⟨result, session, returned, ?_⟩
  rw [outcome.agrees_iff_predictable (paired_copyMember wellFormed)]
  intro predictable
  obtain ⟨_, _, alike⟩ := predictable ⟨⟨"Member 1o", 0, "", "1", 0, []⟩, 1, "101"⟩ rfl
  exact not_holderAlike_capitals (alike ⟨⟨"MEMBER 1O", 0, "", "1", 0, []⟩, 1, "101"⟩ rfl)

end PumoBioMetric.Core
