import PumoBioMetric.Core.SlotAllocation
import PumoBioMetric.Core.WellFormedDevices

/-!
# The contents of a reader

Who is enrolled under which PIN and with which fingers, whatever the uids are.  A
simulated device has the contents of a reader, and what a migration writes to either is
one more enrolment beside those of the other PINs.
-/

set_option autoImplicit false

namespace PumoBioMetric.Core

open Py FirstMatch

/-! ## A simulated device as a reader -/

def Finger.at (uid : Int) (finger : Finger) : ZkFinger :=
  ⟨uid, finger.fid, finger.valid, finger.template⟩

theorem exists_at {finger : ZkFinger} {uid : Int} (here : finger.uid = uid) :
    ∃ own : Finger, finger = own.at uid :=
  ⟨⟨finger.fid, finger.valid, finger.template⟩, by rw [← here]; rfl⟩

theorem Finger.at_inj {uid : Int} {left right : Finger} :
    left.at uid = right.at uid ↔ left = right := by
  cases left
  cases right
  simp [Finger.at]

def SimUser.zkUser (user : SimUser) : ZkUser :=
  ⟨user.uid, user.name, user.privilege, user.password, user.groupId, user.userId, user.card⟩

def SimUser.zkFingers (user : SimUser) : List ZkFinger := user.fingers.map (Finger.at user.uid)

def readerOf (version : Int) (users : List SimUser) : Reader :=
  ⟨users.map SimUser.zkUser, users.flatMap SimUser.zkFingers, version⟩

variable {version : Int}

theorem userIds_readerOf (users : List SimUser) :
    (readerOf version users).users.map ZkUser.userId = users.map SimUser.userId := by
  simp [readerOf, SimUser.zkUser]

theorem uids_readerOf (users : List SimUser) :
    (readerOf version users).users.map ZkUser.uid = users.map SimUser.uid := by
  simp [readerOf, SimUser.zkUser]

theorem find?_readerOf (users : List SimUser) (pin : String) :
    (readerOf version users).users.find? (ZkUser.hasId pin) =
      (users.find? (SimUser.hasId pin)).map SimUser.zkUser := by
  simp only [readerOf, List.find?_map]
  rfl

theorem uid_mem_of_template {users : List SimUser} {finger : ZkFinger}
    (stored : finger ∈ (readerOf version users).templates) : finger.uid ∈ users.map SimUser.uid := by
  obtain ⟨user, listed, own⟩ := List.mem_flatMap.mp stored
  obtain ⟨_, _, rfl⟩ := List.mem_map.mp own
  exact List.mem_map.mpr ⟨user, listed, rfl⟩

theorem SimUser.eq_of_uid {users : List SimUser} (uids : (users.map SimUser.uid).Nodup)
    {left right : SimUser} (leftIn : left ∈ users) (rightIn : right ∈ users)
    (same : left.uid = right.uid) : left = right :=
  List.inj_on_of_nodup_map uids leftIn rightIn same

theorem SimUser.eq_of_userId {users : List SimUser} (pins : (users.map SimUser.userId).Nodup)
    {left right : SimUser} (leftIn : left ∈ users) (rightIn : right ∈ users)
    (same : left.userId = right.userId) : left = right :=
  List.inj_on_of_nodup_map pins leftIn rightIn same

theorem fingersOf_readerOf {users : List SimUser} {user : SimUser}
    (uids : (users.map SimUser.uid).Nodup) (listed : user ∈ users) :
    (readerOf version users).fingersOf user.uid = user.zkFingers := by
  unfold Reader.fingersOf readerOf
  induction users with
  | nil => cases listed
  | cons first rest ih =>
      obtain ⟨new, distinct⟩ := List.nodup_cons.mp uids
      have own : ∀ other : SimUser, (other.zkFingers.filter fun finger => finger.uid == user.uid) =
          if other.uid = user.uid then other.zkFingers else [] := by
        intro other
        by_cases same : other.uid = user.uid
        · simp [SimUser.zkFingers, Finger.at, same, Function.comp_def, List.filter_map]
        · simp [SimUser.zkFingers, Finger.at, same, Function.comp_def, List.filter_map]
      rw [List.flatMap_cons, List.filter_append, own]
      rcases List.mem_cons.mp listed with rfl | later
      · rw [if_pos rfl, List.filter_eq_nil_iff.mpr, List.append_nil]
        intro finger stored same
        have held := @uid_mem_of_template version rest finger stored
        exact new (by simpa [beq_iff_eq.mp same] using held)
      · have apart : first.uid ≠ user.uid :=
          fun same => new (same ▸ List.mem_map.mpr ⟨user, later, rfl⟩)
        rw [if_neg apart, List.nil_append]
        exact ih distinct later

theorem dropUser_readerOf {users : List SimUser} (wellFormed : WellFormedUsers users)
    {user : SimUser} (listed : user ∈ users) :
    (readerOf version users).dropUser user.uid =
      readerOf version (users.filter fun other => !other.hasId user.userId) := by
  have same : ∀ other ∈ users, (!other.hasId user.userId) = (other.uid != user.uid) := by
    intro other member
    rw [Bool.eq_iff_iff]
    simp only [SimUser.hasId, Bool.not_eq_true', beq_eq_false_iff_ne, bne_iff_ne, ne_eq, not_iff_not]
    constructor
    · exact fun equal => congrArg SimUser.uid (SimUser.eq_of_userId wellFormed.pins member listed equal)
    · exact fun equal => congrArg SimUser.userId (SimUser.eq_of_uid wellFormed.uids member listed equal)
  rw [List.filter_congr same]
  simp only [Reader.dropUser, readerOf, Reader.mk.injEq, and_true]
  constructor
  · simp only [List.filter_map]
    rfl
  · clear same listed wellFormed
    induction users with
    | nil => rfl
    | cons first rest ih =>
        rw [List.flatMap_cons, List.filter_append, ih]
        by_cases own : first.uid = user.uid
        · simp [own, SimUser.zkFingers, Finger.at, List.filter_map, Function.comp_def]
        · have apart : (first.uid != user.uid) = true := by simpa using own
          simp [apart, SimUser.zkFingers, Finger.at, List.filter_map, Function.comp_def]

/-! ## Contents up to uids -/

namespace Reader

def HasUser (reader : Reader) (pin name : String) (privilege : Int) : Prop :=
  ∃ user ∈ reader.users, user.userId = pin ∧ user.name = name ∧ user.privilege = privilege

def HasFinger (reader : Reader) (pin : String) (finger : Finger) : Prop :=
  ∃ user ∈ reader.users, user.userId = pin ∧ finger.at user.uid ∈ reader.templates

structure SameContents (left right : Reader) : Prop where
  users : ∀ pin name privilege, left.HasUser pin name privilege ↔ right.HasUser pin name privilege
  fingers : ∀ pin finger, left.HasFinger pin finger ↔ right.HasFinger pin finger

theorem sameContents_refl (reader : Reader) : reader.SameContents reader :=
  ⟨fun _ _ _ => Iff.rfl, fun _ _ => Iff.rfl⟩

/-- What was enrolled under other PINs, and one enrolment under this one. -/
structure Enrols (reader : Reader) (others : List SimUser) (pin name : String) (privilege : Int)
    (stored : Finger → Prop) : Prop where
  apart : ∀ user ∈ others, user.userId ≠ pin
  users : ∀ other otherName otherPrivilege, reader.HasUser other otherName otherPrivilege ↔
    (∃ user ∈ others, user.userId = other ∧ user.name = otherName ∧
      user.privilege = otherPrivilege) ∨
    (other = pin ∧ otherName = name ∧ otherPrivilege = privilege)
  fingers : ∀ other finger, reader.HasFinger other finger ↔
    (∃ user ∈ others, user.userId = other ∧ finger ∈ user.fingers) ∨ (other = pin ∧ stored finger)

theorem Enrols.name_eq {reader : Reader} {others : List SimUser} {pin name : String}
    {privilege : Int} {stored : Finger → Prop}
    (enrols : reader.Enrols others pin name privilege stored) {otherName : String}
    {otherPrivilege : Int} (held : reader.HasUser pin otherName otherPrivilege) :
    otherName = name := by
  rcases (enrols.users _ _ _).mp held with ⟨user, listed, same, _⟩ | ⟨_, equal, _⟩
  · exact absurd same (enrols.apart user listed)
  · exact equal

theorem Enrols.sameContents_iff {left right : Reader} {others : List SimUser}
    {pin leftName rightName : String} {privilege : Int} {leftStored rightStored : Finger → Prop}
    (leftEnrols : left.Enrols others pin leftName privilege leftStored)
    (rightEnrols : right.Enrols others pin rightName privilege rightStored) :
    left.SameContents right ↔
      leftName = rightName ∧ ∀ finger, leftStored finger ↔ rightStored finger := by
  have noOther : ∀ {proposition : SimUser → Prop},
      ¬ ∃ user ∈ others, user.userId = pin ∧ proposition user :=
    fun ⟨user, listed, same, _⟩ => leftEnrols.apart user listed same
  constructor
  · intro same
    constructor
    · have named := (same.users pin leftName privilege).mp
        ((leftEnrols.users _ _ _).mpr (Or.inr ⟨rfl, rfl, rfl⟩))
      exact rightEnrols.name_eq named
    · intro finger
      have shared := same.fingers pin finger
      rw [leftEnrols.fingers, rightEnrols.fingers] at shared
      simpa [noOther] using shared
  · rintro ⟨rfl, stored⟩
    constructor
    · intro other name privilege
      rw [leftEnrols.users, rightEnrols.users]
    · intro other finger
      rw [leftEnrols.fingers, rightEnrols.fingers, stored]

end Reader

theorem hasUser_readerOf {users : List SimUser} {pin name : String} {privilege : Int} :
    (readerOf version users).HasUser pin name privilege ↔
      ∃ user ∈ users, user.userId = pin ∧ user.name = name ∧ user.privilege = privilege := by
  simp [Reader.HasUser, readerOf, SimUser.zkUser]

theorem mem_templates_readerOf {users : List SimUser} (uids : (users.map SimUser.uid).Nodup)
    {user : SimUser} (listed : user ∈ users) {finger : Finger} :
    finger.at user.uid ∈ (readerOf version users).templates ↔ finger ∈ user.fingers := by
  have own : finger.at user.uid ∈ (readerOf version users).fingersOf user.uid ↔
      finger ∈ user.fingers := by
    rw [fingersOf_readerOf uids listed]
    simp [SimUser.zkFingers, Finger.at_inj]
  rw [← own]
  simp [Reader.fingersOf, Finger.at]

theorem hasFinger_readerOf {users : List SimUser} (uids : (users.map SimUser.uid).Nodup)
    {pin : String} {finger : Finger} :
    (readerOf version users).HasFinger pin finger ↔
      ∃ user ∈ users, user.userId = pin ∧ finger ∈ user.fingers := by
  constructor
  · rintro ⟨_, member, rfl, stored⟩
    obtain ⟨user, listed, rfl⟩ := List.mem_map.mp member
    exact ⟨user, listed, rfl, (mem_templates_readerOf uids listed).mp stored⟩
  · rintro ⟨user, listed, rfl, own⟩
    exact ⟨user.zkUser, List.mem_map.mpr ⟨user, listed, rfl⟩, rfl,
      (mem_templates_readerOf uids listed).mpr own⟩

/-! ## What a migration enrols -/

theorem Enrolled.mem_after {users after : List SimUser} {profile : Profile}
    {requested pin : String} (enrolled : Enrolled users profile requested pin after)
    (wellFormed : WellFormedUsers users) :
    ∃ written : SimUser, written.userId = pin ∧ written.toProfile = profile ∧
      ∀ user, user ∈ after ↔ (user ∈ users ∧ user.userId ≠ pin) ∨ user = written := by
  obtain ⟨written, first, owner, carried⟩ := enrolled.readsBack
  have listed := List.mem_of_find?_eq_some first
  have kept : ∀ user : SimUser, user.userId ≠ pin → (user ∈ after ↔ user ∈ users) := by
    intro user apart
    have same := enrolled.filter_other apart
    have both : user ∈ after.filter (SimUser.hasId user.userId) ↔
        user ∈ users.filter (SimUser.hasId user.userId) := by rw [same]
    simpa [SimUser.hasId] using both
  refine ⟨written, owner, carried, fun user => ?_⟩
  constructor
  · intro member
    by_cases held : user.userId = pin
    · exact Or.inr (SimUser.eq_of_userId (enrolled.wellFormed wellFormed).pins member listed
        (held.trans owner.symm))
    · exact Or.inl ⟨(kept user held).mp member, held⟩
  · rintro (⟨member, apart⟩ | rfl)
    · exact (kept user apart).mpr member
    · exact listed

def withoutPin (users : List SimUser) (pin : String) : List SimUser :=
  users.filter fun user => !user.hasId pin

theorem mem_withoutPin {users : List SimUser} {pin : String} {user : SimUser} :
    user ∈ withoutPin users pin ↔ user ∈ users ∧ user.userId ≠ pin := by
  simp [withoutPin, SimUser.hasId]

theorem Enrolled.enrols {users after : List SimUser} {profile : Profile}
    {requested pin : String} (enrolled : Enrolled users profile requested pin after)
    (wellFormed : WellFormedUsers users) :
    (readerOf version after).Enrols (withoutPin users pin) pin profile.name profile.privilege
      fun finger => finger ∈ profile.fingers := by
  obtain ⟨written, rfl, rfl, members⟩ := enrolled.mem_after wellFormed
  constructor
  · exact fun user listed => (mem_withoutPin.mp listed).2
  · intro other name privilege
    rw [hasUser_readerOf]
    simp only [members, mem_withoutPin]
    constructor
    · rintro ⟨user, listed | rfl, rest⟩
      · exact Or.inl ⟨user, listed, rest⟩
      · exact Or.inr ⟨rest.1.symm, rest.2.1.symm, rest.2.2.symm⟩
    · rintro (⟨user, listed, rest⟩ | ⟨rfl, rfl, rfl⟩)
      · exact ⟨user, Or.inl listed, rest⟩
      · exact ⟨written, Or.inr rfl, rfl, rfl, rfl⟩
  · intro other finger
    rw [hasFinger_readerOf (enrolled.wellFormed wellFormed).uids]
    simp only [members, mem_withoutPin]
    constructor
    · rintro ⟨user, listed | rfl, rest⟩
      · exact Or.inl ⟨user, listed, rest⟩
      · exact Or.inr ⟨rest.1.symm, rest.2⟩
    · rintro (⟨user, listed, rest⟩ | ⟨rfl, stored⟩)
      · exact ⟨user, Or.inl listed, rest⟩
      · exact ⟨written, Or.inr rfl, rfl, stored⟩

def ZkFinger.place (finger : ZkFinger) : Int × Nat := (finger.uid, finger.fid)

theorem templates_foldl_putTemplate (reader : Reader) (fingers : List ZkFinger) :
    (fingers.foldl Reader.putTemplate reader).templates =
      KeyedTable.upsertAll ZkFinger.place reader.templates fingers := by
  induction fingers generalizing reader with
  | nil => rfl
  | cons finger rest ih =>
      have put : (reader.putTemplate finger).templates =
          KeyedTable.upsert ZkFinger.place reader.templates finger := by
        simp only [Reader.putTemplate, KeyedTable.upsert, ZkFinger.place, ZkFinger.isAt]
        congr 1
        apply List.filter_congr
        intro stored _
        rw [Bool.eq_iff_iff]
        simp [Prod.ext_iff, imp_iff_not_or]
      exact (ih _).trans (by rw [put]; rfl)

theorem templates_write (reader : Reader) (profile : ZkUser) (fingers : List ZkFinger) :
    (reader.write profile fingers).templates =
      KeyedTable.upsertAll ZkFinger.place reader.templates fingers :=
  templates_foldl_putTemplate _ _

section

variable {users : List SimUser} {destUserId : String} {slot : Slot}

theorem SlotSound.uid_iff (sound : SlotSound (readerOf version users).users destUserId slot)
    (wellFormed : WellFormedUsers users) {user : SimUser} (listed : user ∈ users) :
    user.uid = slot.uid ↔ user.userId = slot.userId := by
  rcases sound with ⟨_, member, _, rfl⟩ | ⟨newUid, newPin⟩
  · obtain ⟨holder, holds, rfl⟩ := List.mem_map.mp member
    constructor
    · intro same
      rw [SimUser.eq_of_uid wellFormed.uids listed holds same]
      rfl
    · intro same
      rw [SimUser.eq_of_userId wellFormed.pins listed holds same]
      rfl
  · rw [uids_readerOf] at newUid
    rw [userIds_readerOf] at newPin
    constructor
    · intro same
      exact absurd (List.mem_map.mpr ⟨user, listed, same⟩) newUid
    · intro same
      exact absurd (List.mem_map.mpr ⟨user, listed, same⟩) newPin

theorem SlotSound.mem_write (sound : SlotSound (readerOf version users).users destUserId slot)
    (wellFormed : WellFormedUsers users) {profile : ZkUser} (atUid : profile.uid = slot.uid)
    (atPin : profile.userId = slot.userId) (fingers : List ZkFinger) (user : ZkUser) :
    user ∈ ((readerOf version users).write profile fingers).users ↔
      (∃ other ∈ withoutPin users slot.userId, other.zkUser = user) ∨ user = profile := by
  have write := sound.write (by rw [userIds_readerOf]; exact wellFormed.pins)
    (by rw [uids_readerOf]; exact wellFormed.uids) atUid atPin fingers
  by_cases held : user.uid = profile.uid
  · have filtered : user ∈ ((readerOf version users).write profile fingers).users ↔ user = profile := by
      rw [← List.mem_singleton, ← write.written]
      simp [ZkUser.hasUid, held]
    rw [filtered]
    constructor
    · exact Or.inr
    · rintro (⟨other, listed, rfl⟩ | same)
      · obtain ⟨member, apart⟩ := mem_withoutPin.mp listed
        exact absurd ((sound.uid_iff wellFormed member).mp (held.trans atUid)) apart
      · exact same
  · have filtered : user ∈ ((readerOf version users).write profile fingers).users ↔
        user ∈ (readerOf version users).users := by
      have same := write.others
      have both : user ∈ (((readerOf version users).write profile fingers).users.filter fun other =>
            !other.hasUid profile.uid) ↔
          user ∈ (readerOf version users).users.filter fun other => !other.hasUid profile.uid := by
        rw [same]
      simpa [ZkUser.hasUid, held] using both
    rw [filtered]
    constructor
    · intro member
      obtain ⟨other, listed, rfl⟩ := List.mem_map.mp member
      refine Or.inl ⟨other, mem_withoutPin.mpr ⟨listed, fun same => held ?_⟩, rfl⟩
      exact ((sound.uid_iff wellFormed listed).mpr same).trans atUid.symm
    · rintro (⟨other, listed, rfl⟩ | rfl)
      · exact List.mem_map.mpr ⟨other, (mem_withoutPin.mp listed).1, rfl⟩
      · exact absurd rfl held

theorem mem_upsertAll_other {templates : List ZkFinger} {uid : Int} {fingers : List Finger}
    {finger : ZkFinger} (apart : finger.uid ≠ uid) :
    finger ∈ KeyedTable.upsertAll ZkFinger.place templates (fingers.map (Finger.at uid)) ↔
      finger ∈ templates := by
  have free : finger.place ∉ (fingers.map (Finger.at uid)).map ZkFinger.place := by
    intro member
    obtain ⟨_, written, same⟩ := List.mem_map.mp member
    obtain ⟨_, _, rfl⟩ := List.mem_map.mp written
    exact apart (congrArg Prod.fst same).symm
  rw [KeyedTable.mem_upsertAll]
  constructor
  · rintro (last | ⟨stored, _⟩)
    · exact absurd (List.mem_map.mpr ⟨finger, last.mem, rfl⟩) free
    · exact stored
  · exact fun stored => Or.inr ⟨stored, free⟩

theorem SlotSound.enrols (sound : SlotSound (readerOf version users).users destUserId slot)
    (wellFormed : WellFormedUsers users) {profile : ZkUser} (atUid : profile.uid = slot.uid)
    (atPin : profile.userId = slot.userId) (fingers : List Finger) :
    ((readerOf version users).write profile (fingers.map (Finger.at slot.uid))).Enrols
      (withoutPin users slot.userId) slot.userId profile.name profile.privilege
      fun finger => finger.at slot.uid ∈ KeyedTable.upsertAll ZkFinger.place
        (readerOf version users).templates (fingers.map (Finger.at slot.uid)) := by
  have members := sound.mem_write wellFormed atUid atPin (fingers.map (Finger.at slot.uid))
  constructor
  · exact fun user listed => (mem_withoutPin.mp listed).2
  · intro other name privilege
    simp only [Reader.HasUser, members]
    constructor
    · rintro ⟨_, ⟨user, listed, rfl⟩ | rfl, rest⟩
      · exact Or.inl ⟨user, listed, rest⟩
      · exact Or.inr ⟨rest.1.symm.trans atPin, rest.2.1.symm, rest.2.2.symm⟩
    · rintro (⟨user, listed, rest⟩ | ⟨rfl, rfl, rfl⟩)
      · exact ⟨user.zkUser, Or.inl ⟨user, listed, rfl⟩, rest⟩
      · exact ⟨profile, Or.inr rfl, atPin, rfl, rfl⟩
  · intro other finger
    have kept : ∀ user ∈ withoutPin users slot.userId,
        (finger.at user.uid ∈ KeyedTable.upsertAll ZkFinger.place (readerOf version users).templates
          (fingers.map (Finger.at slot.uid)) ↔ finger ∈ user.fingers) := by
      intro user listed
      obtain ⟨member, apart⟩ := mem_withoutPin.mp listed
      have elsewhere : (finger.at user.uid).uid ≠ slot.uid :=
        fun same => apart ((sound.uid_iff wellFormed member).mp same)
      rw [mem_upsertAll_other elsewhere, mem_templates_readerOf wellFormed.uids member]
    simp only [Reader.HasFinger, members, templates_write]
    constructor
    · rintro ⟨_, ⟨user, listed, rfl⟩ | rfl, owner, stored⟩
      · exact Or.inl ⟨user, listed, owner, (kept user listed).mp stored⟩
      · rw [atUid] at stored
        exact Or.inr ⟨owner.symm.trans atPin, stored⟩
    · rintro (⟨user, listed, owner, own⟩ | ⟨rfl, stored⟩)
      · exact ⟨user.zkUser, Or.inl ⟨user, listed, rfl⟩, owner, (kept user listed).mpr own⟩
      · exact ⟨profile, Or.inr rfl, atPin, by rw [atUid]; exact stored⟩

end

/-- What is stored under a uid after the write is what was written: no fid is written
twice, and none that was stored is left over. -/
theorem mem_upsertAll_at_iff {templates : List ZkFinger} {uid : Int} {fingers : List Finger} :
    (∀ finger : Finger, finger.at uid ∈ KeyedTable.upsertAll ZkFinger.place templates
        (fingers.map (Finger.at uid)) ↔ finger ∈ fingers) ↔
      (∀ left ∈ fingers, ∀ right ∈ fingers, left.fid = right.fid → left = right) ∧
        ∀ finger : Finger, finger.at uid ∈ templates → finger.fid ∈ fingers.map Finger.fid := by
  have written : ∀ finger : Finger, finger.at uid ∈ fingers.map (Finger.at uid) ↔
      finger ∈ fingers := fun finger => by simp [Finger.at_inj]
  have placed : ∀ finger : Finger, (finger.at uid).place ∈
      (fingers.map (Finger.at uid)).map ZkFinger.place ↔ finger.fid ∈ fingers.map Finger.fid :=
    fun finger => by simp [ZkFinger.place, Finger.at]
  have own := KeyedTable.mem_upsertAll_iff_mem ZkFinger.place
    (templates.filter fun finger => finger.uid == uid) (fingers.map (Finger.at uid))
  have stored : (∀ finger : ZkFinger, finger ∈ KeyedTable.upsertAll ZkFinger.place
        (templates.filter fun finger => finger.uid == uid) (fingers.map (Finger.at uid)) ↔
        finger ∈ fingers.map (Finger.at uid)) ↔
      ∀ finger : Finger, finger.at uid ∈ KeyedTable.upsertAll ZkFinger.place templates
        (fingers.map (Finger.at uid)) ↔ finger ∈ fingers := by
    constructor
    · intro same finger
      rw [← written, ← same, KeyedTable.mem_upsertAll, KeyedTable.mem_upsertAll, List.mem_filter]
      simp [Finger.at]
    · intro same finger
      by_cases here : finger.uid = uid
      · obtain ⟨own, rfl⟩ := exists_at here
        rw [written, ← same, KeyedTable.mem_upsertAll, KeyedTable.mem_upsertAll, List.mem_filter]
        simp [Finger.at]
      · rw [mem_upsertAll_other here]
        refine iff_of_false (fun held => here ?_) fun held => here ?_
        · simpa using (List.mem_filter.mp held).2
        · obtain ⟨_, _, rfl⟩ := List.mem_map.mp held
          rfl
  rw [← stored, own]
  apply and_congr
  · have samePlace : ∀ left right : Finger, (left.at uid).place = (right.at uid).place ↔
        left.fid = right.fid := fun left right => by simp [ZkFinger.place, Finger.at]
    simp only [List.forall_mem_map, samePlace, Finger.at_inj]
  · constructor
    · intro covered finger held
      exact (placed finger).mp (covered _ (List.mem_filter.mpr ⟨held, by simp [Finger.at]⟩))
    · intro covered finger held
      obtain ⟨member, here⟩ := List.mem_filter.mp held
      obtain ⟨own, rfl⟩ := exists_at (beq_iff_eq.mp here)
      exact (placed own).mpr (covered own member)

end PumoBioMetric.Core
