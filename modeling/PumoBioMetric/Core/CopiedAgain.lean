import PumoBioMetric.Core.RecordedPin

/-!
# A copy made again

The PIN check and the enrolment of one copy, on the users of the target.  A second copy
finds the first under the PIN it asks for, and writes the same profile there, or it finds
somebody of another name there and adds the profile once more under a new PIN.
-/

set_option autoImplicit false

namespace PumoBioMetric.Core

open Py FirstMatch

/-! ## The same enrolment again -/

theorem enrol_of_written {users : List SimUser} {profile : Profile} {pin : String}
    {written : SimUser} (first : users.find? (SimUser.hasId pin) = some written)
    (same : written.toProfile = profile) : enrol users profile pin = some (pin, users) := by
  subst same
  have unchanged : updateFirst (SimUser.hasId pin) (SimUser.withProfile written.toProfile) users =
      users := updateFirst_self _ _ first rfl
  simp [enrol, first, unchanged]

theorem Enrolled.ne_of_added {users after : List SimUser} {profile : Profile}
    {requested pin : String} (enrolled : Enrolled users profile requested pin after)
    (added : pin ∉ users.map SimUser.userId) : after ≠ users := by
  obtain ⟨written, first, owner, _⟩ := enrolled.readsBack
  rintro rfl
  exact added (List.mem_map.mpr ⟨written, List.mem_of_find?_eq_some first, owner⟩)

theorem Enrolled.added_of_differs {users after : List SimUser} {profile : Profile}
    {requested pin : String} (enrolled : Enrolled users profile requested pin after)
    {holder : SimUser} (first : users.find? (SimUser.hasId requested) = some holder)
    (differs : holder.name ≠ profile.name) : pin ∉ users.map SimUser.userId := by
  intro listed
  obtain ⟨_, existing, again, same⟩ := enrolled.of_listed listed
  cases first.symm.trans again
  exact differs same

theorem Enrolled.find?_other {users after : List SimUser} {profile : Profile}
    {requested pin other : String} (enrolled : Enrolled users profile requested pin after)
    (apart : other ≠ pin) :
    after.find? (SimUser.hasId other) = users.find? (SimUser.hasId other) :=
  find?_of_filter_eq (enrolled.filter_other apart)

/-- A second enrolment of a profile under the same PIN leaves what the first left, unless
somebody else had the PIN. -/
theorem enrol_again_iff {users after : List SimUser} {profile : Profile} {requested pin : String}
    (written : enrol users profile requested = some (pin, after)) :
    (∀ pin' after', enrol after profile requested = some (pin', after') → after' = after) ↔
      ∀ holder, users.find? (SimUser.hasId requested) = some holder →
        holder.name = profile.name := by
  have enrolled := enrolled_of_enrol written
  constructor
  · intro repeats holder first
    by_contra differs
    have added := enrolled.added_of_differs first differs
    have moved : requested ≠ pin := by
      rintro rfl
      exact added (List.mem_map.mpr
        ⟨holder, List.mem_of_find?_eq_some first, userId_of_find? first⟩)
    have still : after.find? (SimUser.hasId requested) = some holder := by
      rw [enrolled.find?_other moved, first]
    cases again : enrol after profile requested with
    | none =>
        obtain ⟨_, _, _, unreadable⟩ := unreadable_of_enrol again
        exact enrolled.readable first differs unreadable
    | some outcome =>
        have second := enrolled_of_enrol again
        exact second.ne_of_added (second.added_of_differs still differs) (repeats _ _ again)
  · intro recognised
    obtain ⟨user, first, _, same⟩ := enrolled.readsBack
    rw [enrolled.eq_requested_iff.mpr recognised] at first
    intro pin' after' again
    rw [enrol_of_written first same] at again
    cases again
    rfl

/-! ## The check before the enrolment -/

section

variable [UnicodeTables]

/-- The PIN that is recorded, and the users of the target, after one copy; `none` where one
of the two searches raises. -/
def copyOnto (targetSn : String) (users : List SimUser) (empName empPin : String)
    (profile : Profile) : Option (String × List SimUser) :=
  (choosePin targetSn empPin (some empName) (users.map SimUser.listed)).bind fun pinCheck =>
    (enrol users profile (requestedPin empPin pinCheck.targetPin)).map fun (_, after) =>
      (pinCheck.targetPin, after)

theorem choosePin_of_not_held (targetSn : String) {empName empPin : String} {users : List SimUser}
    (free : ¬ HeldByOther users empName empPin) :
    ∃ pinCheck, choosePin targetSn empPin (some empName) (users.map SimUser.listed) =
        some pinCheck ∧ pinCheck.targetPin = strip empPin := by
  cases answer : choosePin targetSn empPin (some empName) (users.map SimUser.listed) with
  | none =>
      obtain ⟨_, first, differs, _⟩ := unreadable_of_choosePin answer
      rw [find?_listed] at first
      obtain ⟨holder, held, rfl⟩ := Option.map_eq_some_iff.mp first
      exact absurd ⟨holder, held, differs⟩ free
  | some pinCheck =>
      rcases (pinChosen_of_choosePin answer).target_cases with ⟨held, _⟩ | ⟨_, target⟩
      · exact absurd held free
      · exact ⟨pinCheck, rfl, target⟩

theorem choosePin_of_held (targetSn : String) {empName empPin : String} {users : List SimUser}
    (held : HeldByOther users empName empPin) :
    (Unreadable (strip empPin) ∧
      choosePin targetSn empPin (some empName) (users.map SimUser.listed) = none) ∨
    ∃ pinCheck, choosePin targetSn empPin (some empName) (users.map SimUser.listed) =
        some pinCheck ∧ pinCheck.targetPin ∉ users.map SimUser.userId ∧
      requestedPin empPin pinCheck.targetPin = pinCheck.targetPin ∧
      ¬ Unreadable (strip empPin) := by
  cases answer : choosePin targetSn empPin (some empName) (users.map SimUser.listed) with
  | none =>
      obtain ⟨_, _, _, unreadable⟩ := unreadable_of_choosePin answer
      exact Or.inl ⟨unreadable, rfl⟩
  | some pinCheck =>
      rcases (pinChosen_of_choosePin answer).target_cases with
        ⟨_, readable, free, requested⟩ | ⟨notHeld, _⟩
      · exact Or.inr ⟨pinCheck, rfl, free, requested, readable⟩
      · exact absurd held notHeld

theorem copyOnto_of_written {targetSn empName empPin : String} {users : List SimUser}
    {profile : Profile} {written : SimUser} (free : ¬ HeldByOther users empName empPin)
    (first : users.find? (SimUser.hasId (requestedPin empPin (strip empPin))) = some written)
    (same : written.toProfile = profile) :
    copyOnto targetSn users empName empPin profile = some (strip empPin, users) := by
  obtain ⟨pinCheck, answer, target⟩ := choosePin_of_not_held targetSn free
  rw [copyOnto, answer]
  simp [target, enrol_of_written first same]

theorem copyOnto_of_held {targetSn empName empPin : String} {users : List SimUser}
    (profile : Profile) (held : HeldByOther users empName empPin) :
    (Unreadable (strip empPin) ∧ copyOnto targetSn users empName empPin profile = none) ∨
      (¬ Unreadable (strip empPin) ∧ ∃ pin after,
        copyOnto targetSn users empName empPin profile = some (pin, after) ∧ after ≠ users) := by
  rcases choosePin_of_held targetSn held with
    ⟨unreadable, answer⟩ | ⟨pinCheck, answer, free, requested, readable⟩
  · exact Or.inl ⟨unreadable, by rw [copyOnto, answer]; rfl⟩
  · refine Or.inr ⟨readable, ?_⟩
    have written : enrol users profile (requestedPin empPin pinCheck.targetPin) =
        some (pinCheck.targetPin, appendCopy users profile pinCheck.targetPin) := by
      unfold enrol
      rw [requested, find?_hasId_eq_none.mpr free]
    refine ⟨pinCheck.targetPin, appendCopy users profile pinCheck.targetPin, ?_, ?_⟩
    · rw [copyOnto, answer]
      simp [written]
    · exact (enrolled_of_enrol written).ne_of_added free

theorem copyOnto_of_differs {targetSn empName empPin : String} {users : List SimUser}
    {profile : Profile} {holder : SimUser} (free : ¬ HeldByOther users empName empPin)
    (first : users.find? (SimUser.hasId (requestedPin empPin (strip empPin))) = some holder)
    (differs : holder.name ≠ profile.name)
    (readable : ¬ Unreadable (requestedPin empPin (strip empPin))) :
    ∃ pin after, copyOnto targetSn users empName empPin profile = some (pin, after) ∧
      after ≠ users := by
  obtain ⟨pinCheck, answer, target⟩ := choosePin_of_not_held targetSn free
  cases written : enrol users profile (requestedPin empPin (strip empPin)) with
  | none =>
      obtain ⟨_, _, _, unreadable⟩ := unreadable_of_enrol written
      exact absurd unreadable readable
  | some outcome =>
      have enrolled := enrolled_of_enrol written
      refine ⟨strip empPin, outcome.2, ?_, enrolled.ne_of_added (enrolled.added_of_differs first differs)⟩
      rw [copyOnto, answer]
      simp [target, written]

/-! ## The first copy -/

theorem heldByOther_congr {left right : List SimUser} {empName empPin : String}
    (same : left.find? (SimUser.hasId (strip empPin)) = right.find? (SimUser.hasId (strip empPin))) :
    HeldByOther left empName empPin ↔ HeldByOther right empName empPin := by
  rw [HeldByOther, HeldByOther, same]

theorem heldByOther_strip {users : List SimUser} {empName empPin : String} :
    HeldByOther users empName (strip empPin) ↔ HeldByOther users empName empPin := by
  rw [HeldByOther, HeldByOther, strip_strip]

theorem heldByOther_iff_of_find? {users : List SimUser} {empName empPin : String}
    {holder : SimUser} (first : users.find? (SimUser.hasId (strip empPin)) = some holder) :
    HeldByOther users empName empPin ↔ isSameUser (some empName) holder.name = false := by
  simp [HeldByOther, first]

theorem PinChosen.mapped_pin {users : List SimUser} {empPin empName : String}
    {pinCheck : PinCheck}
    (chosen : PinChosen (users.map SimUser.listed) empPin (some empName) pinCheck)
    (held : HeldByOther users empName empPin) :
    ¬ Unreadable pinCheck.targetPin := by
  obtain ⟨holder, first, differs⟩ := held
  have listed : (users.map SimUser.listed).find? (ListedUser.hasId (strip empPin)) =
      some holder.listed := by
    rw [find?_listed, first]
    rfl
  cases chosen with
  | free missing => exact absurd (missing.symm.trans listed) (by simp)
  | sameUser again same =>
      cases again.symm.trans listed
      exact absurd (differs.symm.trans same) (by simp)
  | mapped _ _ search _ =>
      obtain ⟨start, spelled⟩ := nextFreePin_eq search
      rw [spelled]
      rintro ⟨_, unread⟩
      exact absurd ((int?_toString _).symm.trans unread) (by simp)

/-- Somebody else has the PIN and the profile went to a new one, or it was asked for under
the employee's own. -/
inductive FirstCopy (users : List SimUser) (empName empPin : String) (profile : Profile) :
    String → List SimUser → Prop where
  | mapped {pin : String} {after : List SimUser} :
      HeldByOther users empName empPin → ¬ Unreadable (strip empPin) →
      pin ∉ users.map SimUser.userId → strip pin = pin → ¬ Unreadable pin →
      Enrolled users profile pin pin after →
        FirstCopy users empName empPin profile pin after
  | kept {dest : String} {after : List SimUser} :
      ¬ HeldByOther users empName empPin →
      Enrolled users profile (requestedPin empPin (strip empPin)) dest after →
        FirstCopy users empName empPin profile (strip empPin) after

theorem firstCopy_of_copyOnto {targetSn empName empPin pin : String} {users after : List SimUser}
    {profile : Profile}
    (copied : copyOnto targetSn users empName empPin profile = some (pin, after)) :
    FirstCopy users empName empPin profile pin after := by
  obtain ⟨pinCheck, answer, onward⟩ := Option.bind_eq_some_iff.mp copied
  obtain ⟨⟨dest, list⟩, written, same⟩ := Option.map_eq_some_iff.mp onward
  cases same
  have chosen := pinChosen_of_choosePin answer
  have enrolled := enrolled_of_enrol written
  rcases chosen.target_cases with ⟨held, readable, free, requested⟩ | ⟨notHeld, target⟩
  · rw [requested] at enrolled
    have plain : dest = pinCheck.targetPin := by
      rw [enrolled.eq_requested_iff, find?_hasId_eq_none.mpr free]
      simp
    rw [plain] at enrolled
    exact .mapped held readable free chosen.strip_targetPin (chosen.mapped_pin held) enrolled
  · rw [target] at enrolled ⊢
    exact .kept notHeld enrolled

section

variable {users after : List SimUser} {empName empPin dest : String} {profile : Profile}

/-- After a copy under the employee's own PIN nobody else has that PIN, unless the copy
itself is taken for somebody else. -/
theorem not_held_after (notHeld : ¬ HeldByOther users empName empPin)
    (enrolled : Enrolled users profile (requestedPin empPin (strip empPin)) dest after)
    (present : requestedPin empPin (strip empPin) = strip empPin →
      users.find? (SimUser.hasId (strip empPin)) ≠ none) :
    ¬ HeldByOther after empName empPin := by
  by_cases atPin : strip empPin = dest
  · -- The copy is in the place of a holder with its name.
    have plain : requestedPin empPin (strip empPin) = strip empPin := by
      by_contra other
      obtain ⟨blank, _, _⟩ := requestedPin_strip_of_ne other
      by_cases moved : dest = requestedPin empPin (strip empPin)
      · exact other (moved.symm.trans atPin.symm)
      · exact enrolled.ne_empty moved (atPin.symm.trans blank)
    obtain ⟨holder, first⟩ := Option.ne_none_iff_exists'.mp (present plain)
    rw [plain] at enrolled
    obtain ⟨written, again, _, same⟩ := enrolled.readsBack
    have named := enrolled.eq_requested_iff.mp atPin.symm holder first
    rw [heldByOther_iff_of_find? first] at notHeld
    rw [heldByOther_iff_of_find? (atPin ▸ again), congrArg Profile.name same, ← named]
    exact notHeld
  · rw [heldByOther_congr (enrolled.find?_other atPin)]
    exact notHeld

omit [UnicodeTables] in
theorem requestedPin_self {pin : String} (stripped : strip pin = pin) :
    requestedPin pin (strip pin) = pin := by
  unfold requestedPin
  split
  · rfl
  · rw [strip_strip, stripped]

/-- A second copy knows the first as the employee's: the one under a new PIN only where it
starts from there, the one under the employee's own PIN by its name. -/
def CopyRecognised (tgtUsers : List SimUser) (empName empPin srcName : String) (home : Prop) :
    Prop :=
  (HeldByOther tgtUsers empName empPin → home ∧ isSameUser (some empName) srcName = true) ∧
  (¬ HeldByOther tgtUsers empName empPin →
    (tgtUsers.find? (SimUser.hasId (requestedPin empPin (strip empPin))) = none →
      requestedPin empPin (strip empPin) = strip empPin →
        isSameUser (some empName) srcName = true ∨ Unreadable (strip empPin)) ∧
    ∀ holder, tgtUsers.find? (SimUser.hasId (requestedPin empPin (strip empPin))) = some holder →
      holder.name = srcName ∨ home)

theorem repeats_of_written {targetSn empPin' : String} {written : SimUser}
    (free : ¬ HeldByOther after empName empPin')
    (first : after.find? (SimUser.hasId (requestedPin empPin' (strip empPin'))) = some written)
    (same : written.toProfile = profile) {pin' : String} {after' : List SimUser}
    (second : copyOnto targetSn after empName empPin' profile = some (pin', after')) :
    pin' = strip empPin' ∧ after' = after := by
  rw [copyOnto_of_written free first same] at second
  cases second
  exact ⟨rfl, rfl⟩

theorem copied_again_of_free {targetSn empPin' : String}
    (notHeld : ¬ HeldByOther users empName empPin)
    (plain : requestedPin empPin (strip empPin) = strip empPin)
    (missing : users.find? (SimUser.hasId (strip empPin)) = none)
    (enrolled : Enrolled users profile (requestedPin empPin (strip empPin)) dest after)
    (sameStrip : strip empPin' = strip empPin)
    (asked : requestedPin empPin' (strip empPin') = strip empPin) (home : Prop) :
    (CopyRecognised users empName empPin profile.name home ∧
      ∀ pin' after', copyOnto targetSn after empName empPin' profile = some (pin', after') →
        pin' = strip empPin ∧ after' = after) ∨
    (¬ CopyRecognised users empName empPin profile.name home ∧
      ∃ pin' after', copyOnto targetSn after empName empPin' profile = some (pin', after') ∧
        after' ≠ after) := by
  have recognised : CopyRecognised users empName empPin profile.name home ↔
      isSameUser (some empName) profile.name = true ∨ Unreadable (strip empPin) := by
    unfold CopyRecognised
    rw [plain, missing]
    simp [notHeld]
  rw [plain] at enrolled
  obtain ⟨written, first, _, same⟩ := enrolled.readsBack
  rw [enrolled.eq_requested_iff.mpr (by simp [missing])] at first
  have heldAfter : HeldByOther after empName empPin' ↔
      isSameUser (some empName) profile.name = false := by
    rw [heldByOther_iff_of_find? (sameStrip ▸ first), congrArg Profile.name same]
  rw [recognised, ← sameStrip]
  cases named : isSameUser (some empName) profile.name with
  | true =>
      have free : ¬ HeldByOther after empName empPin' := by simp [heldAfter, named]
      exact Or.inl ⟨Or.inl rfl,
        fun _ _ second => repeats_of_written free (asked.symm ▸ first) same second⟩
  | false =>
      rcases copyOnto_of_held profile (heldAfter.mpr named) with
        ⟨unreadable, raised⟩ | ⟨readable, added⟩
      · refine Or.inl ⟨Or.inr unreadable, ?_⟩
        intro _ _ second
        rw [raised] at second
        cases second
      · exact Or.inr ⟨by simp [readable], added⟩

theorem copied_again {targetSn pin : String}
    (copied : copyOnto targetSn users empName empPin profile = some (pin, after)) :
    (CopyRecognised users empName empPin profile.name False ∧
      ∀ pin' after', copyOnto targetSn after empName empPin profile = some (pin', after') →
        pin' = pin ∧ after' = after) ∨
    (¬ CopyRecognised users empName empPin profile.name False ∧
      ∃ pin' after', copyOnto targetSn after empName empPin profile = some (pin', after') ∧
        after' ≠ after) := by
  cases firstCopy_of_copyOnto copied with
  | mapped held readable free _ _ enrolled =>
      refine Or.inr ⟨fun recognised => (recognised.1 held).1, ?_⟩
      have apart : strip empPin ≠ pin := by
        obtain ⟨holder, first, _⟩ := held
        rintro rfl
        exact free (List.mem_map.mpr
          ⟨holder, List.mem_of_find?_eq_some first, userId_of_find? first⟩)
      have still := (heldByOther_congr (enrolled.find?_other apart)).mpr held
      rcases copyOnto_of_held profile still with ⟨unreadable, _⟩ | ⟨_, added⟩
      · exact absurd unreadable readable
      · exact added
  | @kept dest _ notHeld enrolled =>
      cases atPin : users.find? (SimUser.hasId (requestedPin empPin (strip empPin))) with
      | none =>
          by_cases plain : requestedPin empPin (strip empPin) = strip empPin
          · exact copied_again_of_free notHeld plain (plain ▸ atPin) enrolled rfl plain False
          · have free := not_held_after notHeld enrolled fun same => absurd same plain
            obtain ⟨written, first, _, same⟩ := enrolled.readsBack
            rw [enrolled.eq_requested_iff.mpr (by simp [atPin])] at first
            exact Or.inl ⟨by simp [CopyRecognised, notHeld, atPin, plain],
              fun _ _ second => repeats_of_written free first same second⟩
      | some holder =>
          have free := not_held_after notHeld enrolled fun plain => by
            rw [← plain, atPin]
            simp
          by_cases named : holder.name = profile.name
          · obtain ⟨written, first, _, same⟩ := enrolled.readsBack
            rw [enrolled.eq_requested_iff.mpr (by simp [atPin, named])] at first
            exact Or.inl ⟨by simp [CopyRecognised, notHeld, atPin, named],
              fun _ _ second => repeats_of_written free first same second⟩
          · refine Or.inr ⟨by simp [CopyRecognised, notHeld, atPin, named], ?_⟩
            have added := enrolled.added_of_differs atPin named
            have apart : requestedPin empPin (strip empPin) ≠ dest := by
              rintro same
              exact added (same ▸ List.mem_map.mpr
                ⟨holder, List.mem_of_find?_eq_some atPin, userId_of_find? atPin⟩)
            have still := (enrolled.find?_other apart).trans atPin
            exact copyOnto_of_differs free still named (enrolled.readable atPin named)

theorem copied_again_home {targetSn pin : String}
    (copied : copyOnto targetSn users empName empPin profile = some (pin, after)) :
    (CopyRecognised users empName empPin profile.name True ∧
      ∀ user, after.find? (SimUser.hasId pin) = some user →
        ∀ pin' after', copyOnto targetSn after empName pin user.toProfile = some (pin', after') →
          pin' = pin ∧ after' = after) ∨
    (¬ CopyRecognised users empName empPin profile.name True ∧
      ∃ user, after.find? (SimUser.hasId pin) = some user ∧
        ∃ pin' after', copyOnto targetSn after empName pin user.toProfile = some (pin', after') ∧
          after' ≠ after) := by
  cases firstCopy_of_copyOnto copied with
  | mapped held _ free stripped readable enrolled =>
      have recognised : CopyRecognised users empName empPin profile.name True ↔
          isSameUser (some empName) profile.name = true := by
        simp [CopyRecognised, held]
      obtain ⟨written, first, _, rfl⟩ := enrolled.readsBack
      have heldAfter : HeldByOther after empName pin ↔
          isSameUser (some empName) written.name = false :=
        heldByOther_iff_of_find? (stripped.symm ▸ first)
      rw [recognised]
      cases named : isSameUser (some empName) written.name with
      | true =>
          refine Or.inl ⟨rfl, fun user found pin' after' second => ?_⟩
          cases first.symm.trans found
          have notHeld : ¬ HeldByOther after empName pin := by simp [heldAfter, named]
          have atPin := (requestedPin_self stripped).symm ▸ first
          have repeated := repeats_of_written notHeld atPin rfl second
          rwa [stripped] at repeated
      | false =>
          refine Or.inr ⟨by simp, written, first, ?_⟩
          rcases copyOnto_of_held written.toProfile (heldAfter.mpr named) with
            ⟨unreadable, _⟩ | ⟨_, added⟩
          · exact absurd (stripped ▸ unreadable) readable
          · exact added
  | @kept dest _ notHeld enrolled =>
      have stripped : strip (strip empPin) = strip empPin := strip_strip empPin
      by_cases fresh : requestedPin empPin (strip empPin) = strip empPin ∧
          users.find? (SimUser.hasId (strip empPin)) = none
      · obtain ⟨plain, missing⟩ := fresh
        have second := @copied_again_of_free _ _ _ _ _ _ _ targetSn _ notHeld plain missing enrolled
          stripped (requestedPin_self stripped) True
        rw [plain] at enrolled
        obtain ⟨written, first, _, same⟩ := enrolled.readsBack
        rw [enrolled.eq_requested_iff.mpr (by simp [missing])] at first
        rcases second with ⟨recognised, repeats⟩ | ⟨unrecognised, added⟩
        · refine Or.inl ⟨recognised, fun user found => ?_⟩
          cases first.symm.trans found
          rw [same]
          exact repeats
        · exact Or.inr ⟨unrecognised, written, first, same ▸ added⟩
      · have free := not_held_after notHeld enrolled fun plain missing => fresh ⟨plain, missing⟩
        refine Or.inl ⟨?_, fun user found pin' after' second => ?_⟩
        · refine ⟨fun held => absurd held notHeld, fun _ => ⟨fun missing plain => ?_, ?_⟩⟩
          · exact absurd ⟨plain, plain ▸ missing⟩ fresh
          · exact fun _ _ => Or.inr trivial
        · have atPin := (requestedPin_self stripped).symm ▸ found
          have repeated := repeats_of_written (mt heldByOther_strip.mp free) atPin rfl second
          rwa [stripped] at repeated

end

end

end PumoBioMetric.Core
