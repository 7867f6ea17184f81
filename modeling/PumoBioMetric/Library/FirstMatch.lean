import Mathlib.Data.List.Basic
import Mathlib.Data.List.Forall2

/-!
# Updating the first element of a list that satisfies a test
-/

set_option autoImplicit false

namespace FirstMatch

universe u v

variable {Item : Type u} {Key : Type v} (test : Item → Bool) (change : Item → Item)

def updateFirst : List Item → List Item
  | [] => []
  | item :: rest => if test item then change item :: rest else item :: updateFirst rest

theorem find?_updateFirst {items : List Item} {found : Item}
    (first : items.find? test = some found) (still : test (change found) = true) :
    (updateFirst test change items).find? test = some (change found) := by
  induction items with
  | nil => simp at first
  | cons item rest ih =>
      by_cases passes : test item = true
      · have same : item = found := by
          simpa [List.find?_cons_of_pos passes] using first
        subst same
        simp [updateFirst, passes, List.find?_cons_of_pos still]
      · rw [List.find?_cons_of_neg passes] at first
        simp [updateFirst, passes, ih first]

theorem updateFirst_self {items : List Item} {found : Item}
    (first : items.find? test = some found) (same : change found = found) :
    updateFirst test change items = items := by
  induction items with
  | nil => rfl
  | cons item rest ih =>
      by_cases passes : test item = true
      · rw [List.find?_cons_of_pos passes] at first
        cases first
        simp [updateFirst, passes, same]
      · rw [List.find?_cons_of_neg passes] at first
        simp [updateFirst, passes, ih first]

theorem mem_updateFirst_of_eraseP {items : List Item} {item : Item}
    (member : item ∈ items.eraseP test) : item ∈ updateFirst test change items := by
  induction items with
  | nil => simp at member
  | cons head rest ih =>
      by_cases passes : test head = true
      · rw [List.eraseP_cons_of_pos passes] at member
        simp [updateFirst, passes, member]
      · rw [List.eraseP_cons_of_neg passes] at member
        rcases List.mem_cons.mp member with rfl | later
        · simp [updateFirst, passes]
        · simp [updateFirst, passes, ih later]

theorem updateFirst_of_none {items : List Item} (missing : items.find? test = none) :
    updateFirst test change items = items := by
  induction items with
  | nil => rfl
  | cons item rest ih =>
      rw [List.find?_cons] at missing
      split at missing
      · cases missing
      · rename_i fails
        simp [updateFirst, fails, ih missing]

/-- Items outside a class that the test stays within are left as they are. -/
theorem filter_updateFirst {select : Item → Bool} {items : List Item}
    (apart : ∀ item, test item = true → select item = false)
    (keeps : ∀ item, test item = true → select (change item) = select item) :
    (updateFirst test change items).filter select = items.filter select := by
  induction items with
  | nil => rfl
  | cons item rest ih =>
      by_cases passes : test item = true
      · have unselected := apart item passes
        have still := (keeps item passes).trans unselected
        simp [updateFirst, passes, unselected, still]
      · simp only [updateFirst, passes, if_false, Bool.false_eq_true, List.filter_cons, ih]

theorem filter_updateFirst_single {items : List Item} {found : Item}
    (single : items.filter test = [found]) (still : test (change found) = true) :
    (updateFirst test change items).filter test = [change found] := by
  induction items with
  | nil => simp at single
  | cons item rest ih =>
      by_cases passes : test item = true
      · rw [List.filter_cons_of_pos passes] at single
        obtain ⟨rfl, none⟩ := List.cons.inj single
        simp [updateFirst, passes, List.filter_cons_of_pos still, none]
      · rw [List.filter_cons_of_neg passes] at single
        simp [updateFirst, passes, ih single]

/-- A change of the first item for one key, seen through the lookup of another key: the
same item is found for both or the second lookup is not affected. -/
theorem find?_updateFirst_other {other : Item → Bool} {items : List Item}
    (keeps : ∀ item, items.find? test = some item → other (change item) = other item) :
    (updateFirst test change items).find? other =
      if items.findIdx? test = items.findIdx? other then (items.find? test).map change
      else items.find? other := by
  induction items with
  | nil => rfl
  | cons item rest ih =>
      by_cases passes : test item = true
      · have same := keeps item (List.find?_cons_of_pos passes)
        by_cases found : other item = true
        · simp [updateFirst, passes, found, same, List.findIdx?_cons]
        · have later : some 0 ≠ (rest.findIdx? other).map fun index => index + 1 := by
            cases rest.findIdx? other <;> simp
          simp [updateFirst, passes, found, same, List.findIdx?_cons, later]
      · have restKeeps : ∀ entry, rest.find? test = some entry → other (change entry) = other entry := by
          intro entry first
          exact keeps entry (by rw [List.find?_cons_of_neg passes, first])
        by_cases found : other item = true
        · simp [updateFirst, passes, found, List.findIdx?_cons]
        · have shifted : ((rest.findIdx? test).map fun index => index + 1) =
              ((rest.findIdx? other).map fun index => index + 1) ↔
              rest.findIdx? test = rest.findIdx? other := by
            cases rest.findIdx? test <;> cases rest.findIdx? other <;> simp
          simp [updateFirst, passes, found, List.findIdx?_cons, shifted, ih restKeeps]

theorem find?_of_findIdx?_eq {other : Item → Bool} {items : List Item}
    (same : items.findIdx? test = items.findIdx? other) :
    items.find? test = items.find? other := by
  induction items with
  | nil => rfl
  | cons item rest ih =>
      rw [List.findIdx?_cons, List.findIdx?_cons] at same
      rw [List.find?_cons, List.find?_cons]
      by_cases passes : test item = true
      · by_cases found : other item = true
        · simp [passes, found]
        · cases index : rest.findIdx? other <;> simp [passes, found, index] at same
      · by_cases found : other item = true
        · cases index : rest.findIdx? test <;> simp [passes, found, index] at same
        · have sameRest : rest.findIdx? test = rest.findIdx? other := by
            cases front : rest.findIdx? test <;> cases back : rest.findIdx? other <;>
              simp_all
          simp [passes, found, ih sameRest]

theorem map_updateFirst {key : Item → Key} {items : List Item}
    (keeps : ∀ item ∈ items, test item = true → key (change item) = key item) :
    (updateFirst test change items).map key = items.map key := by
  induction items with
  | nil => rfl
  | cons item rest ih =>
      by_cases passes : test item = true
      · simp [updateFirst, passes, keeps item List.mem_cons_self passes]
      · simp [updateFirst, passes, ih fun other member => keeps other (List.mem_cons_of_mem _ member)]

/-- What holds of all items holds of them after the change where it does of the changed. -/
theorem forall_mem_updateFirst_iff {property : Item → Prop} {items : List Item} {found : Item}
    (first : items.find? test = some found) (all : ∀ item ∈ items, property item) :
    (∀ item ∈ updateFirst test change items, property item) ↔ property (change found) := by
  induction items with
  | nil => simp at first
  | cons item rest ih =>
      have restAll : ∀ other ∈ rest, property other :=
        fun other member => all other (List.mem_cons_of_mem _ member)
      by_cases passes : test item = true
      · rw [List.find?_cons_of_pos passes] at first
        cases first
        simp only [updateFirst, passes, if_true, List.forall_mem_cons]
        exact and_iff_left restAll
      · rw [List.find?_cons_of_neg passes] at first
        simp only [updateFirst, passes, Bool.false_eq_true, if_false, List.forall_mem_cons]
        rw [ih first restAll]
        exact and_iff_right (all item List.mem_cons_self)

theorem forall₂_updateFirst_iff {related : Item → Item → Prop} {items : List Item} {found : Item}
    (refl : ∀ item, related item item) (first : items.find? test = some found) :
    List.Forall₂ related items (updateFirst test change items) ↔ related found (change found) := by
  induction items with
  | nil => simp at first
  | cons item rest ih =>
      by_cases passes : test item = true
      · rw [List.find?_cons_of_pos passes] at first
        cases first
        simp only [updateFirst, passes, if_true, List.forall₂_cons]
        exact and_iff_left (List.forall₂_same.mpr fun other _ => refl other)
      · rw [List.find?_cons_of_neg passes] at first
        simp only [updateFirst, passes, Bool.false_eq_true, if_false, List.forall₂_cons]
        rw [ih first]
        exact and_iff_right (refl item)

theorem split_updateFirst {items : List Item} {found : Item}
    (first : items.find? test = some found) :
    ∃ front back, items = front ++ found :: back ∧
      updateFirst test change items = front ++ change found :: back := by
  induction items with
  | nil => simp at first
  | cons item rest ih =>
      by_cases passes : test item = true
      · rw [List.find?_cons_of_pos passes] at first
        cases first
        exact ⟨[], rest, rfl, by simp [updateFirst, passes]⟩
      · rw [List.find?_cons_of_neg passes] at first
        obtain ⟨front, back, items, changed⟩ := ih first
        exact ⟨item :: front, back, by simp [items], by simp [updateFirst, passes, changed]⟩

theorem filter_not_eq_iff {front back : List Item} {found : Item}
    (none : ∀ item ∈ front, test item = false) (passes : test found = true) :
    (front ++ found :: back).filter (fun item => !test item) = front ++ back ↔
      (front ++ found :: back).countP test = 1 := by
  have kept : front.filter (fun item => !test item) = front := by
    rw [List.filter_eq_self]
    intro item member
    rw [none item member]
    rfl
  have unmatched : front.countP test = 0 := by
    rw [List.countP_eq_zero]
    intro item member
    rw [none item member]
    exact Bool.false_ne_true
  rw [List.filter_append, kept, List.filter_cons_of_neg (by simp [passes]),
    List.append_cancel_left_eq, List.countP_append, unmatched, List.countP_cons_of_pos passes]
  have later : back.filter (fun item => !test item) = back ↔ back.countP test = 0 := by
    simp [List.filter_eq_self, List.countP_eq_zero]
  rw [later]
  omega

end FirstMatch
