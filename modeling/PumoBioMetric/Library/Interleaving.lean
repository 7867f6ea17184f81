import Mathlib.Logic.Function.Basic
import PumoBioMetric.Library.TransitionRun

/-!
# Threads over shared memory

Each thread has a place in its program; a step is a move of one thread, which sees the shared
memory and its own place.  What holds of the memory, what a thread relies on at its place and
what keeps two threads apart is shown of one move: the thread keeps it for itself and does not
disturb another.
-/

set_option autoImplicit false

namespace Interleaving

open TransitionRun

universe u v w x

variable {Thread : Type u} {Shared : Type v} {Place : Type w} {Label : Type x}

structure State (Thread : Type u) (Shared : Type v) (Place : Type w) where
  shared : Shared
  place : Thread → Place

/-- The memory and the place after a move, `none` where the thread cannot make it. -/
abbrev Move (Shared : Type v) (Place : Type w) (Label : Type x) :=
  Label → Shared → Place → Option (Shared × Place)

section

variable [DecidableEq Thread]

def State.step (move : Move Shared Place Label) (state : State Thread Shared Place)
    (event : Thread × Label) : Option (State Thread Shared Place) :=
  (move event.2 state.shared (state.place event.1)).map fun after =>
    ⟨after.1, Function.update state.place event.1 after.2⟩

def Step (move : Move Shared Place Label) (before : State Thread Shared Place)
    (event : Thread × Label) (after : State Thread Shared Place) : Prop :=
  before.step move event = some after

theorem step_iff {move : Move Shared Place Label} {before after : State Thread Shared Place}
    {event : Thread × Label} :
    Step move before event after ↔
      ∃ place, move event.2 before.shared (before.place event.1) =
        some (after.shared, place) ∧
        after.place = Function.update before.place event.1 place := by
  rw [Step, State.step, Option.map_eq_some_iff]
  constructor
  · rintro ⟨⟨shared, place⟩, moved, rfl⟩
    exact ⟨place, moved, rfl⟩
  · rintro ⟨place, moved, places⟩
    refine ⟨_, moved, ?_⟩
    rw [← places]

end

/-- The memory is sane, each thread has what it relies on at its place, and any two threads are
apart. -/
structure Holds (sane : Shared → Prop) (relies : Shared → Place → Prop)
    (apart : Place → Place → Prop) (state : State Thread Shared Place) : Prop where
  sane : sane state.shared
  relies : ∀ thread, relies state.shared (state.place thread)
  apart : ∀ thread other, thread ≠ other → apart (state.place thread) (state.place other)

/-- What one move has to show, for its thread and for another one that is `there`. -/
structure Sound (move : Move Shared Place Label) (sane : Shared → Prop)
    (relies : Shared → Place → Prop) (apart : Place → Place → Prop) : Prop where
  symm : ∀ {here there}, apart here there → apart there here
  kept : ∀ {label before place after next}, sane before → relies before place →
    move label before place = some (after, next) → sane after ∧ relies after next
  stable : ∀ {label before place after next there}, sane before → relies before place →
    move label before place = some (after, next) → relies before there → apart place there →
      relies after there ∧ apart next there

variable [DecidableEq Thread] {move : Move Shared Place Label} {sane : Shared → Prop}
  {relies : Shared → Place → Prop} {apart : Place → Place → Prop}

theorem Sound.step (sound : Sound move sane relies apart) (before : State Thread Shared Place)
    (event : Thread × Label) (after : State Thread Shared Place)
    (holds : Holds sane relies apart before) (taken : Step move before event after) :
    Holds sane relies apart after := by
  obtain ⟨place, moved, places⟩ := step_iff.mp taken
  obtain ⟨saneAfter, own⟩ := sound.kept holds.sane (holds.relies event.1) moved
  have others : ∀ other, other ≠ event.1 →
      relies after.shared (before.place other) ∧ apart place (before.place other) :=
    fun other same => sound.stable holds.sane (holds.relies event.1) moved (holds.relies other)
      (holds.apart event.1 other same.symm)
  refine ⟨saneAfter, fun thread => ?_, fun thread other different => ?_⟩
  · by_cases same : thread = event.1
    · rw [places, same, Function.update_self]
      exact own
    · rw [places, Function.update_of_ne same]
      exact (others thread same).1
  · rw [places]
    by_cases mover : thread = event.1
    · subst mover
      rw [Function.update_self, Function.update_of_ne different.symm]
      exact (others other different.symm).2
    · rw [Function.update_of_ne mover]
      by_cases moved : other = event.1
      · subst moved
        rw [Function.update_self]
        exact sound.symm (others thread mover).2
      · rw [Function.update_of_ne moved]
        exact holds.apart thread other different

/-- In every interleaving the memory stays sane, no thread loses what it relies on and no two
threads meet. -/
theorem Sound.run (sound : Sound move sane relies apart) {first final : State Thread Shared Place}
    {events : List (Thread × Label)} (run : Run (Step move) first events final)
    (start : Holds sane relies apart first) : Holds sane relies apart final :=
  run.preserves sound.step start

end Interleaving
