import PumoBioMetric.Library.FreeNumber
import PumoBioMetric.Py.Text

/-!
# The next free PIN

`resolve_target_pin` and both migrations search a free PIN with the same loop over
the integers that the occupied PINs read as.
-/

set_option autoImplicit false

namespace PumoBioMetric.Core

open Py

/-- `used_pins`: the PINs that `int` accepts. -/
def usedPins (userIds : List String) : List Int := userIds.filterMap int?

/-- The search loop; `none` is the `ValueError` of `int` on digit-like text such as `²`. -/
def nextFreePin (pin : String) (userIds : List String) : Option String :=
  if isDigit pin then
    (int? pin).map fun start => toString (FreeNumber.firstFree (usedPins userIds) start.toNat)
  else
    some (toString (FreeNumber.firstFree (usedPins userIds) 1))

/-- Digits to `str.isdigit` but not to `int`. -/
def Unreadable (pin : String) : Prop := isDigit pin = true ∧ int? pin = none

theorem nextFreePin_eq_none_iff {pin : String} {userIds : List String} :
    nextFreePin pin userIds = none ↔ Unreadable pin := by
  unfold nextFreePin Unreadable
  by_cases digits : isDigit pin = true
  · simp [digits]
  · simp [digits]

theorem nextFreePin_eq {pin : String} {userIds : List String} {free : String}
    (found : nextFreePin pin userIds = some free) :
    ∃ start, free = toString (FreeNumber.firstFree (usedPins userIds) start) := by
  unfold nextFreePin at found
  split at found
  · obtain ⟨start, -, spelled⟩ := Option.map_eq_some_iff.mp found
    exact ⟨start.toNat, spelled.symm⟩
  · exact ⟨1, (Option.some.inj found).symm⟩

theorem toString_firstFree_notMem (userIds : List String) (start : Nat) :
    toString (FreeNumber.firstFree (usedPins userIds) start) ∉ userIds := by
  intro member
  have used : (FreeNumber.firstFree (usedPins userIds) start : Int) ∈ usedPins userIds :=
    List.mem_filterMap.mpr ⟨_, member, int?_toString _⟩
  exact FreeNumber.firstFree_notMem (usedPins userIds) start used

theorem nextFreePin_notMem {pin : String} {userIds : List String} {free : String}
    (found : nextFreePin pin userIds = some free) : free ∉ userIds := by
  obtain ⟨start, rfl⟩ := nextFreePin_eq found
  exact toString_firstFree_notMem userIds start

theorem nextFreePin_ne_empty {pin : String} {userIds : List String} {free : String}
    (found : nextFreePin pin userIds = some free) : free ≠ "" := by
  obtain ⟨start, rfl⟩ := nextFreePin_eq found
  exact toString_ne_empty _

theorem nextFreePin_strip {pin : String} {userIds : List String} {free : String}
    (found : nextFreePin pin userIds = some free) : strip free = free := by
  obtain ⟨start, rfl⟩ := nextFreePin_eq found
  exact strip_toString _

end PumoBioMetric.Core
