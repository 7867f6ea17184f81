import PumoBioMetric.Core.CalmMigration
import PumoBioMetric.Core.UsablePin
import PumoBioMetric.Library.KeyedTable

/-!
# The slot on the target

Two searches for a gap, one over the uids and one over the integers that the PINs read
as.  The slot is the one of the PIN's holder or new in both, so a write to it keeps the
uids and PINs of the target apart.
-/

set_option autoImplicit false

namespace PumoBioMetric.Core

open Py FirstMatch FaultyCalls

/-! ## What `chooseSlot` can choose -/

section

variable [UnicodeTables]

inductive SlotChosen (tgtUsers : List ZkUser) (userName destUserId : String) : Slot → Prop where
  | free :
      tgtUsers.find? (ZkUser.hasId destUserId) = none →
        SlotChosen tgtUsers userName destUserId ⟨nextFreeUid tgtUsers, destUserId⟩
  | kept {holder : ZkUser} :
      tgtUsers.find? (ZkUser.hasId destUserId) = some holder →
      occupiedByOther holder userName = false →
        SlotChosen tgtUsers userName destUserId ⟨holder.uid, destUserId⟩
  | mapped {holder : ZkUser} {pin : String} :
      tgtUsers.find? (ZkUser.hasId destUserId) = some holder →
      occupiedByOther holder userName = true →
      nextFreePin destUserId (tgtUsers.map ZkUser.userId) = some pin →
        SlotChosen tgtUsers userName destUserId ⟨nextFreeUid tgtUsers, pin⟩

theorem slotChosen_of_chooseSlot {tgtUsers : List ZkUser} {userName destUserId : String}
    {slot : Slot} (chosen : chooseSlot tgtUsers userName destUserId = some slot) :
    SlotChosen tgtUsers userName destUserId slot := by
  unfold chooseSlot at chosen
  split at chosen
  · rename_i missing
    cases chosen
    exact .free missing
  · rename_i holder first
    split at chosen
    · rename_i other
      obtain ⟨pin, found, same⟩ := Option.map_eq_some_iff.mp chosen
      cases same
      exact .mapped first other found
    · rename_i own
      cases chosen
      exact .kept first (by simpa using own)

theorem unreadable_of_chooseSlot {tgtUsers : List ZkUser} {userName destUserId : String}
    (raised : chooseSlot tgtUsers userName destUserId = none) :
    ∃ holder, tgtUsers.find? (ZkUser.hasId destUserId) = some holder ∧
      occupiedByOther holder userName = true ∧ Unreadable destUserId := by
  unfold chooseSlot at raised
  split at raised
  · cases raised
  · rename_i holder first
    split at raised
    · rename_i other
      exact ⟨holder, first, other, nextFreePin_eq_none_iff.mp (Option.map_eq_none_iff.mp raised)⟩
    · cases raised

end

theorem ZkUser.find?_hasId_eq_none {users : List ZkUser} {userId : String} :
    users.find? (ZkUser.hasId userId) = none ↔ userId ∉ users.map ZkUser.userId := by
  simp [List.find?_eq_none, ZkUser.hasId]

theorem ZkUser.userId_of_find? {users : List ZkUser} {userId : String} {user : ZkUser}
    (first : users.find? (ZkUser.hasId userId) = some user) : user.userId = userId := by
  simpa [ZkUser.hasId] using List.find?_some first

theorem ZkUser.find?_hasUid_eq_none {users : List ZkUser} {uid : Int} :
    users.find? (ZkUser.hasUid uid) = none ↔ uid ∉ users.map ZkUser.uid := by
  simp [List.find?_eq_none, ZkUser.hasUid]

theorem nextFreeUid_notMem (tgtUsers : List ZkUser) :
    nextFreeUid tgtUsers ∉ tgtUsers.map ZkUser.uid :=
  FreeNumber.firstFree_notMem _ _

/-! ## A sound slot -/

/-- The pair of the PIN's holder, or a uid and a PIN that nobody has. -/
def SlotSound (users : List ZkUser) (destUserId : String) (slot : Slot) : Prop :=
  (∃ holder ∈ users, holder.userId = destUserId ∧ slot = ⟨holder.uid, holder.userId⟩) ∨
    (slot.uid ∉ users.map ZkUser.uid ∧ slot.userId ∉ users.map ZkUser.userId)

theorem SlotChosen.sound [UnicodeTables] {users : List ZkUser} {userName destUserId : String}
    {slot : Slot} (chosen : SlotChosen users userName destUserId slot) :
    SlotSound users destUserId slot := by
  cases chosen with
  | free missing =>
      exact Or.inr ⟨nextFreeUid_notMem users, ZkUser.find?_hasId_eq_none.mp missing⟩
  | @kept holder first _ =>
      have owner := ZkUser.userId_of_find? first
      exact Or.inl ⟨holder, List.mem_of_find?_eq_some first, owner, by rw [owner]⟩
  | mapped _ _ found => exact Or.inr ⟨nextFreeUid_notMem users, nextFreePin_notMem found⟩

/-- Both loops end: over the uids from 1, over the PINs from where the search starts. -/
def SearchesStop (users : List ZkUser) (destUserId : String) : Prop :=
  (∃ uid, FreeNumber.Loop (users.map ZkUser.uid) 1 uid) ∧
    ∃ start number, SearchStart destUserId start ∧
      FreeNumber.Loop (usedPins (users.map ZkUser.userId)) start number

theorem searchesStop {destUserId : String} (ascii : isAscii destUserId) (users : List ZkUser) :
    SearchesStop users destUserId := by
  obtain ⟨_, start, number, _, starts, least⟩ :=
    nextFreePin_least ascii (users.map ZkUser.userId)
  exact ⟨⟨_, FreeNumber.loop_firstFree _ 1⟩, start, number, starts, least.loop⟩

/-! ## A write to a sound slot -/

/-- One record is the profile, the others are as they were, and no two share a PIN or a
uid. -/
structure WriteSound (users : List ZkUser) (profile : ZkUser) (after : List ZkUser) : Prop where
  written : after.filter (ZkUser.hasUid profile.uid) = [profile]
  others : (after.filter fun user => !user.hasUid profile.uid) =
    users.filter fun user => !user.hasUid profile.uid
  pins : (after.map ZkUser.userId).Nodup
  uids : (after.map ZkUser.uid).Nodup

theorem ZkUser.filter_hasUid {users : List ZkUser} {user : ZkUser}
    (uids : (users.map ZkUser.uid).Nodup) (member : user ∈ users) :
    users.filter (ZkUser.hasUid user.uid) = [user] :=
  KeyedTable.filter_key_eq ZkUser.uid users uids member

theorem writeSound_new {reader : Reader} {profile : ZkUser}
    (pins : (reader.users.map ZkUser.userId).Nodup) (uids : (reader.users.map ZkUser.uid).Nodup)
    (newUid : profile.uid ∉ reader.users.map ZkUser.uid)
    (newPin : profile.userId ∉ reader.users.map ZkUser.userId) :
    WriteSound reader.users profile (reader.putUser profile).users := by
  have missing := ZkUser.find?_hasUid_eq_none.mpr newUid
  have none : reader.users.filter (ZkUser.hasUid profile.uid) = [] := by
    rw [List.filter_eq_nil_iff]
    exact fun user member => by simpa using List.find?_eq_none.mp missing user member
  simp only [Reader.putUser, missing]
  constructor
  · simp [none, ZkUser.hasUid]
  · simp [ZkUser.hasUid]
  · exact KeyedTable.nodup_append_row ZkUser.userId _ _ pins newPin
  · exact KeyedTable.nodup_append_row ZkUser.uid _ _ uids newUid

theorem writeSound_kept {reader : Reader} {profile holder : ZkUser}
    (pins : (reader.users.map ZkUser.userId).Nodup) (uids : (reader.users.map ZkUser.uid).Nodup)
    (member : holder ∈ reader.users) (sameUid : profile.uid = holder.uid)
    (samePin : profile.userId = holder.userId) :
    WriteSound reader.users profile (reader.putUser profile).users := by
  have single : reader.users.filter (ZkUser.hasUid profile.uid) = [holder] := by
    rw [sameUid]
    exact ZkUser.filter_hasUid uids member
  have first : reader.users.find? (ZkUser.hasUid profile.uid) = some holder := by
    rw [← List.head?_filter, single]
    rfl
  have only : ∀ user ∈ reader.users, ZkUser.hasUid profile.uid user = true → user = holder := by
    intro user listed held
    have found := List.mem_filter.mpr ⟨listed, held⟩
    rw [single] at found
    exact List.mem_singleton.mp found
  simp only [Reader.putUser, first]
  constructor
  · exact filter_updateFirst_single _ (fun _ => profile) single (by simp [ZkUser.hasUid])
  · apply filter_updateFirst
    · intro user held
      simp [held]
    · intro user held
      rw [held]
      simp [ZkUser.hasUid]
  · rw [map_updateFirst]
    · exact pins
    · intro user listed held
      rw [only user listed held, samePin]
  · rw [map_updateFirst]
    · exact uids
    · intro user listed held
      rw [only user listed held, sameUid]

theorem SlotSound.write {reader : Reader} {destUserId : String} {slot : Slot} {profile : ZkUser}
    (sound : SlotSound reader.users destUserId slot)
    (pins : (reader.users.map ZkUser.userId).Nodup) (uids : (reader.users.map ZkUser.uid).Nodup)
    (atUid : profile.uid = slot.uid) (atPin : profile.userId = slot.userId)
    (fingers : List ZkFinger) :
    WriteSound reader.users profile (reader.write profile fingers).users := by
  rw [Reader.users_write]
  rcases sound with ⟨holder, member, _, rfl⟩ | ⟨newUid, newPin⟩
  · exact writeSound_kept pins uids member atUid atPin
  · exact writeSound_new pins uids (atUid ▸ newUid) (atPin ▸ newPin)

/-! ## The slot of a migration -/

section

variable [UnicodeTables]

theorem target_users_deletedReaders (ends : Endpoints) (request : MigrationRequest)
    (readers : Address → Reader) (user : ZkUser) (slot : Slot) :
    (targetReader ends (deletedReaders (writtenReaders ends request readers user slot)
      ends.srcConnection.address request.mode user)).users =
      let written := ((targetReader ends readers).write (slotProfile request user slot)
        (slotFingers ends readers user slot)).users
      if lower request.mode = "move" ∧ ends.tgtConnection.address = ends.srcConnection.address
      then written.filter fun other => !other.hasUid user.uid else written := by
  unfold targetReader deletedReaders writtenReaders
  by_cases move : lower request.mode = "move"
  · by_cases same : ends.tgtConnection.address = ends.srcConnection.address
    · simp [move, same, Reader.dropUser, targetReader]
    · simp [move, same, targetReader]
  · simp [move, targetReader]

/-- What a migration of a user found on the source does to the users of the target. -/
structure SlotWritten (ends : Endpoints) (request : MigrationRequest)
    (readers : Address → Reader) (user : ZkUser) (result : MigrationResult)
    (session : ZkSession) (slot : Slot) : Prop where
  sound : SlotSound (targetReader ends readers).users request.destUserId slot
  reported : result.ok = true ∧ result.targetUserId = slot.userId
  writes : writtenProfiles session.trace ≠ [] ∧ ∀ write ∈ writtenProfiles session.trace,
    write = (.target, slotProfile request user slot)
  after : ∃ written,
    WriteSound (targetReader ends readers).users (slotProfile request user slot) written ∧
    (targetReader ends session.world.readers).users =
      if lower request.mode = "move" ∧ ends.tgtConnection.address = ends.srcConnection.address
      then written.filter fun other => !other.hasUid user.uid else written

theorem CalmOutcome.slotWritten {ends : Endpoints} {request : MigrationRequest}
    {readers : Address → Reader} {user : ZkUser} {result : MigrationResult} {session : ZkSession}
    (outcome : CalmOutcome ends request readers result session.world.readers
      (writtenProfiles session.trace))
    (ascii : isAscii request.destUserId)
    (pins : ((targetReader ends readers).users.map ZkUser.userId).Nodup)
    (uids : ((targetReader ends readers).users.map ZkUser.uid).Nodup)
    (first : (sourceReader ends readers).users.find? (ZkUser.hasId request.userId) = some user) :
    ∃ slot, SlotWritten ends request readers user result session slot := by
  rcases outcome.of_found first with ⟨raised, _⟩ | ⟨slot, chosen, ok, reported, _, final, writes⟩
  · obtain ⟨_, _, _, unreadable⟩ := unreadable_of_chooseSlot raised
    exact absurd unreadable (not_unreadable ascii)
  · have sound := (slotChosen_of_chooseSlot chosen).sound
    refine ⟨slot, sound, ⟨ok, reported⟩, ?_, ?_⟩
    · rw [writes]
      exact ⟨List.cons_ne_nil _ _, fun write member => mem_targetWrites member⟩
    · refine ⟨_, sound.write pins uids rfl rfl (slotFingers ends readers user slot), ?_⟩
      rw [final]
      exact target_users_deletedReaders ends request readers user slot

/-- Where no call raises, both searches end, and what is written is the pair of the one
user with the requested PIN, or a uid and a PIN that nobody on the target has. -/
theorem slot_allocation_sound (registry : Registry) (request : MigrationRequest)
    (sourcePort targetPort : Int) (readers : Address → Reader)
    (ascii : isAscii request.destUserId)
    (pins : ((targetReader (endpoints registry request sourcePort targetPort) readers).users.map
      ZkUser.userId).Nodup)
    (uids : ((targetReader (endpoints registry request sourcePort targetPort) readers).users.map
      ZkUser.uid).Nodup) :
    SearchesStop (targetReader (endpoints registry request sourcePort targetPort) readers).users
      request.destUserId ∧
    ∃ result session,
      migrateSingleUserReal true registry request sourcePort targetPort noFaults
        (ZkSession.fresh readers) = (.ok result, session) ∧
      ((sourceReader (endpoints registry request sourcePort targetPort) readers).users.find?
          (ZkUser.hasId request.userId) = none →
        result.ok = false ∧ session.world.readers = readers ∧
          writtenProfiles session.trace = []) ∧
      ∀ user,
        (sourceReader (endpoints registry request sourcePort targetPort) readers).users.find?
          (ZkUser.hasId request.userId) = some user →
        ∃ slot, SlotWritten (endpoints registry request sourcePort targetPort) request readers
          user result session slot := by
  refine ⟨searchesStop ascii _, ?_⟩
  obtain ⟨result, session, returned, outcome⟩ :=
    calmOutcome_of_run registry request sourcePort targetPort readers
  exact ⟨result, session, returned, outcome.of_absent, fun _ first =>
    outcome.slotWritten ascii pins uids first⟩

end

/-! ## A crowded target -/

def crowdedSource : Reader := ⟨[⟨1, "Member 1o", 0, "", "1", "101", 0⟩], [], 10⟩

def crowdedTarget : Reader :=
  ⟨[⟨3, "Visitor", 0, "", "1", "101", 0⟩, ⟨1, "", 0, "", "1", "00102", 0⟩,
    ⟨2, "Gowtham", 0, "", "1", "102", 0⟩], [], 10⟩

def crowdedReaders (address : Address) : Reader :=
  if address = ⟨"192.168.0.210", 4370⟩ then crowdedSource else crowdedTarget

def copyMember : MigrationRequest :=
  ⟨some "NFZ8254900401", some "UFZ9876543210", "101", "copy", none, none, none, none, none⟩

theorem endpoints_copyMember : @endpoints .ascii defaultRegistry copyMember 4370 4370 =
    ⟨⟨"NFZ8254900401", "192.168.0.210", 4370, "eSSL SilkBio-101TC (NFZ8254900401)"⟩,
      ⟨"UFZ9876543210", "192.168.0.154", 4370, "eSSL uFace 202 (UFZ9876543210)"⟩⟩ := by decide

theorem slot_allocation_sound_crowded :
    ∃ result session slot,
      @migrateSingleUserReal .ascii true defaultRegistry copyMember 4370 4370 noFaults
        (ZkSession.fresh crowdedReaders) = (.ok result, session) ∧
      @SlotWritten .ascii (@endpoints .ascii defaultRegistry copyMember 4370 4370) copyMember
        crowdedReaders ⟨1, "Member 1o", 0, "", "1", "101", 0⟩ result session slot := by
  let := UnicodeTables.ascii
  have target : targetReader (endpoints defaultRegistry copyMember 4370 4370) crowdedReaders =
      crowdedTarget := by rw [endpoints_copyMember]; decide
  have source : (sourceReader (endpoints defaultRegistry copyMember 4370 4370)
      crowdedReaders).users.find? (ZkUser.hasId copyMember.userId) =
        some ⟨1, "Member 1o", 0, "", "1", "101", 0⟩ := by rw [endpoints_copyMember]; decide
  obtain ⟨_, result, session, returned, _, found⟩ :=
    slot_allocation_sound defaultRegistry copyMember 4370 4370 crowdedReaders
      (by simp [isAscii, copyMember, MigrationRequest.destUserId])
      (by rw [target]; decide) (by rw [target]; decide)
  obtain ⟨slot, written⟩ := found _ source
  exact ⟨result, session, slot, returned, written⟩

end PumoBioMetric.Core
