import Mathlib.Algebra.Order.BigOperators.Group.List
import Mathlib.Algebra.Order.Group.Nat
import Mathlib.Algebra.Ring.Nat
import Mathlib.Data.List.Chain
import Mathlib.Data.List.Forall2

/-!
# Cutting a list into pieces of given kinds

A list is cut into one piece for each kind of a sequence.  There is one cut at most where
each kind stops before what the next one begins with, and where every piece has its
greatest or its least length.
-/

set_option autoImplicit false

universe u v

/-- The pieces of `text`, one for each of `kinds`, each fitting its kind. -/
@[ext] structure Cut {Kind : Type u} {Item : Type v} (Fits : Kind → List Item → Prop)
    (kinds : List Kind) (text : List Item) where
  pieces : List (List Item)
  fits : List.Forall₂ Fits kinds pieces
  whole : pieces.flatten = text

namespace Cut

variable {Kind : Type u} {Item : Type v} {Fits : Kind → List Item → Prop}

/-! ## Kinds that stop -/

/-- After its first item a piece of `kind` has none that a piece of `next` begins with. -/
def Stops (Fits : Kind → List Item → Prop) (kind next : Kind) : Prop :=
  ∃ begins : Item → Prop,
    (∀ piece, Fits kind piece →
      ∃ head tail, piece = head :: tail ∧ ∀ item ∈ tail, ¬ begins item) ∧
    ∀ piece, Fits next piece → ∃ head tail, piece = head :: tail ∧ begins head

theorem split_unique {begins : Item → Prop} {left other right more : List Item}
    {item mark : Item} (same : left ++ item :: right = other ++ mark :: more)
    (leftFree : ∀ found ∈ left, ¬ begins found) (otherFree : ∀ found ∈ other, ¬ begins found)
    (itemBegins : begins item) (markBegins : begins mark) :
    left = other ∧ item :: right = mark :: more := by
  induction left generalizing other with
  | nil =>
      cases other with
      | nil => exact ⟨rfl, same⟩
      | cons head tail =>
          obtain ⟨rfl, _⟩ := List.cons.inj same
          exact absurd itemBegins (otherFree item List.mem_cons_self)
  | cons head tail ih =>
      cases other with
      | nil =>
          obtain ⟨rfl, _⟩ := List.cons.inj same
          exact absurd markBegins (leftFree head List.mem_cons_self)
      | cons front back =>
          obtain ⟨rfl, rest⟩ := List.cons.inj same
          obtain ⟨rfl, ends⟩ := ih rest
            (fun found member => leftFree found (List.mem_cons_of_mem _ member))
            fun found member => otherFree found (List.mem_cons_of_mem _ member)
          exact ⟨rfl, ends⟩

theorem pieces_unique {kinds : List Kind} {pieces others : List (List Item)}
    (separated : kinds.IsChain (Stops Fits)) (fits : List.Forall₂ Fits kinds pieces)
    (othersFit : List.Forall₂ Fits kinds others) (same : pieces.flatten = others.flatten) :
    pieces = others := by
  induction kinds generalizing pieces others with
  | nil =>
      cases fits
      cases othersFit
      rfl
  | cons kind kinds ih =>
      cases fits with
      | cons piece rest =>
      cases othersFit with
      | cons other otherRest =>
      cases kinds with
      | nil =>
          cases rest
          cases otherRest
          simpa using same
      | cons next kinds =>
          rw [List.isChain_cons_cons] at separated
          obtain ⟨begins, stops, starts⟩ := separated.1
          obtain ⟨head, tail, rfl, free⟩ := stops _ piece
          obtain ⟨otherHead, otherTail, rfl, otherFree⟩ := stops _ other
          cases rest with
          | cons second rest =>
          cases otherRest with
          | cons otherSecond otherRest =>
          obtain ⟨first, more, rfl, begun⟩ := starts _ second
          obtain ⟨otherFirst, otherMore, rfl, otherBegun⟩ := starts _ otherSecond
          simp only [List.flatten_cons, List.cons_append, List.cons.injEq] at same
          obtain ⟨rfl, same⟩ := same
          obtain ⟨rfl, behind⟩ := split_unique same free otherFree begun otherBegun
          rw [ih separated.2 (.cons second rest) (.cons otherSecond otherRest) behind]

/-- Where each kind stops before the next, a list has one cut. -/
theorem unique_of_stops {kinds : List Kind} {text : List Item}
    (separated : kinds.IsChain (Stops Fits)) (cut other : Cut Fits kinds text) : cut = other :=
  Cut.ext (pieces_unique separated cut.fits other.fits (cut.whole.trans other.whole.symm))

/-! ## Lengths -/

def lengths {kinds : List Kind} {text : List Item} (cut : Cut Fits kinds text) : List Nat :=
  cut.pieces.map List.length

theorem sum_lengths {kinds : List Kind} {text : List Item} (cut : Cut Fits kinds text) :
    cut.lengths.sum = text.length := by
  rw [lengths, ← List.length_flatten, cut.whole]

theorem eq_of_lengths {kinds : List Kind} {text : List Item} {cut other : Cut Fits kinds text}
    (same : cut.lengths = other.lengths) : cut = other :=
  Cut.ext (List.eq_iff_flatten_eq.mpr ⟨cut.whole.trans other.whole.symm, same⟩)

theorem eq_of_sum_eq {low high : List Nat} (ordered : List.Forall₂ (· ≤ ·) low high)
    (sums : high.sum ≤ low.sum) : low = high := by
  induction ordered with
  | nil => rfl
  | @cons least most low high first rest ih =>
      have below : low.sum ≤ high.sum := List.Forall₂.sum_le_sum rest
      simp only [List.sum_cons] at sums
      obtain rfl : least = most := by omega
      rw [ih (by omega)]

/-- A list as long as the kinds allow, or as short, has one cut. -/
theorem unique_of_length {kinds : List Kind} {text : List Item} {least most : Kind → Nat}
    (atLeast : ∀ kind ∈ kinds, ∀ piece, Fits kind piece → least kind ≤ piece.length)
    (atMost : ∀ kind ∈ kinds, ∀ piece, Fits kind piece → piece.length ≤ most kind)
    (extreme : text.length = (kinds.map least).sum ∨ text.length = (kinds.map most).sum)
    (cut other : Cut Fits kinds text) : cut = other := by
  have paired : ∀ cut : Cut Fits kinds text,
      List.Forall₂ (fun kind piece => kind ∈ kinds ∧ Fits kind piece) kinds cut.pieces := by
    intro cut
    exact (List.forall₂_and_left _ _).mpr ⟨fun kind member => member, cut.fits⟩
  have low : ∀ cut : Cut Fits kinds text, List.Forall₂ (· ≤ ·) (kinds.map least) cut.lengths := by
    intro cut
    rw [lengths, List.forall₂_map_left_iff, List.forall₂_map_right_iff]
    exact (paired cut).imp fun kind piece fit => atLeast kind fit.1 piece fit.2
  have high : ∀ cut : Cut Fits kinds text, List.Forall₂ (· ≤ ·) cut.lengths (kinds.map most) := by
    intro cut
    rw [lengths, List.forall₂_map_left_iff, List.forall₂_map_right_iff]
    exact ((paired cut).imp fun kind piece fit => atMost kind fit.1 piece fit.2).flip
  apply eq_of_lengths
  rcases extreme with shortest | longest
  · have every : ∀ cut : Cut Fits kinds text, kinds.map least = cut.lengths := fun cut =>
      eq_of_sum_eq (low cut) (by rw [cut.sum_lengths, shortest])
    exact (every cut).symm.trans (every other)
  · have every : ∀ cut : Cut Fits kinds text, cut.lengths = kinds.map most := fun cut =>
      eq_of_sum_eq (high cut) (by rw [cut.sum_lengths, longest])
    exact (every cut).trans (every other).symm

end Cut
