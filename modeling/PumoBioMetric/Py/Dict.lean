import Mathlib.Data.List.Basic

/-!
# `dict` with text keys

An association list in insertion order: a key that is set again keeps its place.
-/

set_option autoImplicit false

namespace PumoBioMetric.Py

universe u

abbrev Dict (Value : Type u) := List (String × Value)

namespace Dict

variable {Value : Type u}

def get? (dict : Dict Value) (key : String) : Option Value := dict.lookup key

def set (dict : Dict Value) (key : String) (value : Value) : Dict Value :=
  match dict with
  | [] => [(key, value)]
  | (held, old) :: rest =>
      if held = key then (held, value) :: rest else (held, old) :: Dict.set rest key value

/-- `dict.pop(key, None)`, without the value it returns. -/
def pop (dict : Dict Value) (key : String) : Dict Value :=
  dict.filter fun entry => entry.1 != key

theorem get?_cons (held : String) (value : Value) (rest : Dict Value) (key : String) :
    get? ((held, value) :: rest) key = if key = held then some value else rest.get? key := by
  rw [get?, get?, List.lookup_cons]
  by_cases same : key = held
  · simp [same]
  · rw [if_neg same, beq_eq_false_iff_ne.mpr same]

theorem get?_set (dict : Dict Value) (key : String) (value : Value) (other : String) :
    (dict.set key value).get? other = if other = key then some value else dict.get? other := by
  induction dict with
  | nil => exact get?_cons key value [] other
  | cons head rest ih =>
      obtain ⟨held, old⟩ := head
      rw [Dict.set]
      by_cases same : held = key
      · subst same
        rw [if_pos rfl, get?_cons, get?_cons]
        split <;> rfl
      · rw [if_neg same, get?_cons, get?_cons, ih]
        by_cases wanted : other = held
        · rw [if_pos wanted, if_pos wanted, if_neg (wanted ▸ same)]
        · rw [if_neg wanted, if_neg wanted]

theorem get?_pop (dict : Dict Value) (key other : String) :
    (dict.pop key).get? other = if other = key then none else dict.get? other := by
  induction dict with
  | nil => exact (ite_self none).symm
  | cons head rest ih =>
      obtain ⟨held, value⟩ := head
      rw [pop, List.filter_cons]
      by_cases popped : held = key
      · rw [if_neg (by simp [popped])]
        rw [pop] at ih
        rw [ih, get?_cons, popped]
        split <;> rfl
      · rw [if_pos (by simp [popped]), get?_cons, get?_cons]
        rw [pop] at ih
        rw [ih]
        by_cases wanted : other = held
        · rw [if_pos wanted, if_pos wanted, if_neg (wanted ▸ popped)]
        · rw [if_neg wanted, if_neg wanted]

theorem values_set (property : Value → Prop) {dict : Dict Value}
    {key : String} {value : Value} (held : ∀ entry ∈ dict, property entry.2)
    (new : property value) : ∀ entry ∈ dict.set key value, property entry.2 := by
  induction dict with
  | nil =>
      intro entry member
      rw [List.mem_singleton.mp member]
      exact new
  | cons head rest ih =>
      obtain ⟨other, old⟩ := head
      have later := ih fun entry member => held entry (List.mem_cons_of_mem _ member)
      intro entry member
      rw [Dict.set] at member
      split at member
      · rcases List.mem_cons.mp member with rfl | after
        · exact new
        · exact held entry (List.mem_cons_of_mem _ after)
      · rcases List.mem_cons.mp member with rfl | after
        · exact held _ List.mem_cons_self
        · exact later entry after

theorem keys_set (dict : Dict Value) (key : String) (value : Value) :
    (dict.set key value).map Prod.fst =
      if key ∈ dict.map Prod.fst then dict.map Prod.fst else dict.map Prod.fst ++ [key] := by
  induction dict with
  | nil => rfl
  | cons head rest ih =>
      obtain ⟨held, old⟩ := head
      rw [Dict.set]
      by_cases same : held = key
      · subst same
        simp
      · rw [if_neg same, List.map_cons, List.map_cons, ih]
        by_cases listed : key ∈ rest.map Prod.fst
        · rw [if_pos listed, if_pos (List.mem_cons_of_mem _ listed)]
        · have absent : key ∉ held :: rest.map Prod.fst := by
            rw [List.mem_cons, not_or]
            exact ⟨Ne.symm same, listed⟩
          rw [if_neg listed, if_neg absent]
          rfl

theorem nodup_set {dict : Dict Value} (distinct : (dict.map Prod.fst).Nodup) (key : String)
    (value : Value) : ((dict.set key value).map Prod.fst).Nodup := by
  rw [keys_set]
  split
  · exact distinct
  · rename_i fresh
    refine List.nodup_append.mpr ⟨distinct, by simp, ?_⟩
    intro held listed new isKey same
    rw [List.mem_singleton.mp isKey] at same
    exact fresh (same ▸ listed)

theorem get?_eq_none_of_notMem {dict : Dict Value} {key : String}
    (absent : key ∉ dict.map Prod.fst) : dict.get? key = none := by
  induction dict with
  | nil => rfl
  | cons head rest ih =>
      obtain ⟨held, old⟩ := head
      rw [List.map_cons, List.mem_cons, not_or] at absent
      rw [get?_cons, if_neg absent.1, ih absent.2]

theorem get?_update {entries : Dict Value} (distinct : (entries.map Prod.fst).Nodup)
    (base : Dict Value) (key : String) :
    (entries.foldl (fun current entry => current.set entry.1 entry.2) base).get? key =
      (entries.get? key).or (base.get? key) := by
  induction entries generalizing base with
  | nil => rfl
  | cons head rest ih =>
      obtain ⟨held, value⟩ := head
      rw [List.map_cons, List.nodup_cons] at distinct
      rw [List.foldl_cons, ih distinct.2, get?_set, get?_cons]
      by_cases same : key = held
      · subst same
        rw [if_pos rfl, if_pos rfl, get?_eq_none_of_notMem distinct.1]
        rfl
      · rw [if_neg same, if_neg same]

theorem mem_set {dict : Dict Value} {key : String} {value : Value} {entry : String × Value}
    (member : entry ∈ dict.set key value) : entry = (key, value) ∨ entry ∈ dict := by
  induction dict with
  | nil => exact .inl (List.mem_singleton.mp member)
  | cons head rest ih =>
      obtain ⟨held, old⟩ := head
      rw [Dict.set] at member
      split at member
      · rename_i same
        rcases List.mem_cons.mp member with here | after
        · exact .inl (same ▸ here)
        · exact .inr (List.mem_cons_of_mem _ after)
      · rcases List.mem_cons.mp member with here | after
        · exact .inr (here ▸ List.mem_cons_self)
        · exact (ih after).imp_right (List.mem_cons_of_mem _)

theorem mem_of_get? {dict : Dict Value} {key : String} {value : Value}
    (found : dict.get? key = some value) : (key, value) ∈ dict := by
  induction dict with
  | nil => cases found
  | cons head rest ih =>
      obtain ⟨held, old⟩ := head
      rw [get?_cons] at found
      split at found
      · rename_i same
        rw [same, ← Option.some.inj found]
        exact List.mem_cons_self
      · exact List.mem_cons_of_mem _ (ih found)

theorem get?_map {Other : Type u} (convert : Value → Other) (dict : Dict Value) (key : String) :
    get? (dict.map fun entry => (entry.1, convert entry.2)) key = (dict.get? key).map convert := by
  induction dict with
  | nil => rfl
  | cons head rest ih =>
      obtain ⟨held, value⟩ := head
      rw [List.map_cons, get?_cons, get?_cons, ih]
      split <;> rfl

/-! ## Entries that carry their own key -/

/-- Distinct keys, each of which its entry carries. -/
structure Keyed (keyOf : Value → String) (dict : Dict Value) : Prop where
  unique : (dict.map Prod.fst).Nodup
  own : ∀ entry ∈ dict, keyOf entry.2 = entry.1

variable {keyOf : Value → String} {dict : Dict Value}

theorem Keyed.of_get? (keyed : Keyed keyOf dict) {key : String} {value : Value}
    (found : dict.get? key = some value) : keyOf value = key :=
  keyed.own (key, value) (mem_of_get? found)

theorem Keyed.set (keyed : Keyed keyOf dict) {key : String} {value : Value}
    (own : keyOf value = key) : Keyed keyOf (dict.set key value) where
  unique := nodup_set keyed.unique key value
  own := by
    intro entry member
    rcases mem_set member with rfl | before
    · exact own
    · exact keyed.own entry before

theorem Keyed.update (keyed : Keyed keyOf dict) {entries : Dict Value}
    (own : ∀ entry ∈ entries, keyOf entry.2 = entry.1) :
    Keyed keyOf (entries.foldl (fun current entry => current.set entry.1 entry.2) dict) := by
  induction entries generalizing dict with
  | nil => exact keyed
  | cons head rest ih =>
      obtain ⟨here, later⟩ := List.forall_mem_cons.mp own
      exact ih (keyed.set here) later

end Dict

end PumoBioMetric.Py
