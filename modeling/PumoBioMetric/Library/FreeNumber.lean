import Mathlib.Data.Finset.Card
import Mathlib.Data.Finset.Image
import Mathlib.Data.Finset.Range
import Mathlib.Data.Int.Order.Basic

/-!
# The least free number from a start

The loop `while candidate in used: candidate += 1`.  As many steps as `used` has
entries are always enough, so the bounded search is the loop.
-/

set_option autoImplicit false

namespace FreeNumber

/-- The loop, from a candidate to the number it stops at. -/
inductive Loop (used : List Int) : Nat → Nat → Prop where
  | stop {candidate : Nat} : (candidate : Int) ∉ used → Loop used candidate candidate
  | next {candidate result : Nat} :
      (candidate : Int) ∈ used → Loop used (candidate + 1) result → Loop used candidate result

def search (used : List Int) : Nat → Nat → Nat
  | 0, candidate => candidate
  | fuel + 1, candidate =>
      if (candidate : Int) ∈ used then search used fuel (candidate + 1) else candidate

def firstFree (used : List Int) (start : Nat) : Nat := search used used.length start

theorem used_of_lt_search (used : List Int) (fuel start number : Nat)
    (low : start ≤ number) (high : number < search used fuel start) :
    (number : Int) ∈ used := by
  induction fuel generalizing start with
  | zero =>
      rw [search] at high
      omega
  | succ fuel ih =>
      rw [search] at high
      split at high
      · rename_i taken
        by_cases same : number = start
        · exact same ▸ taken
        · exact ih (start + 1) (by omega) high
      · omega

theorem search_exhausted (used : List Int) (fuel start : Nat)
    (taken : (search used fuel start : Int) ∈ used) :
    search used fuel start = start + fuel := by
  induction fuel generalizing start with
  | zero => rfl
  | succ fuel ih =>
      rw [search] at taken ⊢
      split
      · rename_i here
        rw [if_pos here] at taken
        rw [ih (start + 1) taken]
        omega
      · rename_i free
        rw [if_neg free] at taken
        exact absurd taken free

theorem firstFree_notMem (used : List Int) (start : Nat) :
    (firstFree used start : Int) ∉ used := by
  intro taken
  have stopped : firstFree used start = start + used.length :=
    search_exhausted used used.length start taken
  -- All of `start, ..., start + length` would be among `length` entries.
  have all_used : ((Finset.range (used.length + 1)).image
      fun offset : Nat => ((start + offset : Nat) : Int)) ⊆ used.toFinset := by
    intro number member
    obtain ⟨offset, inRange, rfl⟩ := Finset.mem_image.mp member
    rw [List.mem_toFinset]
    have bound : offset ≤ used.length := Nat.lt_succ_iff.mp (Finset.mem_range.mp inRange)
    by_cases last : offset = used.length
    · rw [last, ← stopped]
      exact taken
    · have high : start + offset < firstFree used start := by omega
      exact used_of_lt_search used used.length start _ (by omega) high
  have count := Finset.card_le_card all_used
  rw [Finset.card_image_of_injective, Finset.card_range] at count
  · have bound := used.toFinset_card_le
    omega
  · intro left right same
    have nat_same : ((start + left : Nat) : Int) = ((start + right : Nat) : Int) := same
    omega

theorem loop_firstFree (used : List Int) (start : Nat) : Loop used start (firstFree used start) := by
  have unused := firstFree_notMem used start
  unfold firstFree at unused ⊢
  generalize used.length = fuel at unused ⊢
  induction fuel generalizing start with
  | zero => exact .stop unused
  | succ fuel ih =>
      rw [search] at unused ⊢
      split
      · rename_i taken
        rw [if_pos taken] at unused
        exact .next taken (ih (start + 1) unused)
      · rename_i free
        exact .stop free

theorem Loop.notMem {used : List Int} {start result : Nat} (loop : Loop used start result) :
    (result : Int) ∉ used := by
  induction loop with
  | stop free => exact free
  | next _ _ ih => exact ih

theorem Loop.le {used : List Int} {start result : Nat} (loop : Loop used start result) :
    start ≤ result := by
  induction loop with
  | stop => exact Nat.le_refl _
  | next _ _ ih => omega

theorem Loop.used {used : List Int} {start result number : Nat} (loop : Loop used start result)
    (low : start ≤ number) (high : number < result) : (number : Int) ∈ used := by
  induction loop with
  | stop => omega
  | @next candidate result taken _ ih =>
      by_cases same : number = candidate
      · exact same ▸ taken
      · exact ih (by omega) high

theorem succ_max_notMem (used : List Int) : used.max?.getD 0 + 1 ∉ used := by
  intro taken
  cases greatest : used.max? with
  | none =>
      rw [List.max?_eq_none_iff] at greatest
      rw [greatest] at taken
      cases taken
  | some top =>
      rw [greatest, Option.getD_some] at taken
      have bound := (List.max?_eq_some_iff.mp greatest).2 _ taken
      omega

end FreeNumber
