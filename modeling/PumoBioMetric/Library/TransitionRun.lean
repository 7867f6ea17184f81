import Mathlib.Data.List.Basic
import Mathlib.Data.List.Induction

/-!
# Runs of a labelled step relation

A run is a finite list of labels together with the states it passes through.
Invariants are proved of one step and transported to the end of every run; a
condition on the steps of a run is a restriction of the step relation, so the
same rule serves guarded runs.
-/

set_option autoImplicit false

namespace TransitionRun

universe u v w

variable {State : Type u} {Label : Type v}

inductive Run (step : State → Label → State → Prop) :
    State → List Label → State → Prop where
  | nil (state : State) : Run step state [] state
  | cons {first middle final : State} {label : Label} {rest : List Label} :
      step first label middle → Run step middle rest final →
        Run step first (label :: rest) final

/-- The steps of `step` that are taken from a state where `guard` allows them. -/
def Guarded (guard : State → Label → Prop) (step : State → Label → State → Prop) :
    State → Label → State → Prop :=
  fun before label after => guard before label ∧ step before label after

variable {step : State → Label → State → Prop}

theorem Run.preserves {invariant : State → Prop}
    (stepPreserves : ∀ before label after, invariant before →
      step before label after → invariant after)
    {first final : State} {labels : List Label}
    (run : Run step first labels final) (start : invariant first) :
    invariant final := by
  induction run with
  | nil state => exact start
  | cons head _ ih => exact ih (stepPreserves _ _ _ start head)

theorem Run.preserves_while {invariant : State → Prop} {kind : Label → Prop}
    (kept : ∀ before label after, kind label → step before label after →
      invariant before → invariant after)
    {first final : State} {labels : List Label} (run : Run step first labels final)
    (kinds : ∀ label ∈ labels, kind label) (start : invariant first) : invariant final := by
  induction run with
  | nil state => exact start
  | cons head _ ih =>
      obtain ⟨here, later⟩ := List.forall_mem_cons.mp kinds
      exact ih later (kept _ _ _ here head start)

/-- Where each step keeps a property unless something happens at it, the property holds at the
end of a run, or that happened at one of its steps. -/
theorem Run.preserves_or {invariant property : State → Prop} {happens : State → Label → Prop}
    (kept : ∀ before label after, invariant before → step before label after → invariant after)
    (keeps : ∀ before label after, invariant before → step before label after →
      property before → property after ∨ happens before label)
    {first final : State} {labels : List Label} (run : Run step first labels final)
    (start : invariant first) (held : property first) :
    property final ∨ ∃ earlier label later before, labels = earlier ++ label :: later ∧
      Run step first earlier before ∧ happens before label := by
  induction run with
  | nil state => exact .inl held
  | @cons first middle final label rest head _ ih =>
      rcases keeps _ _ _ start head held with still | here
      · refine (ih (kept _ _ _ start head) still).imp_right ?_
        rintro ⟨earlier, other, later, before, rfl, onward, happened⟩
        exact ⟨label :: earlier, other, later, before, rfl, .cons head onward, happened⟩
      · exact .inr ⟨[], label, rest, first, rfl, .nil first, here⟩

theorem Run.append {first middle final : State} {labels more : List Label}
    (run : Run step first labels middle) (onward : Run step middle more final) :
    Run step first (labels ++ more) final := by
  induction run with
  | nil state => exact onward
  | cons head _ ih => exact .cons head (ih onward)

theorem Run.split {first final : State} {labels more : List Label}
    (run : Run step first (labels ++ more) final) :
    ∃ middle, Run step first labels middle ∧ Run step middle more final := by
  induction labels generalizing first with
  | nil => exact ⟨first, .nil first, run⟩
  | cons label rest ih =>
      cases run with
      | cons head onward =>
          obtain ⟨middle, front, back⟩ := ih onward
          exact ⟨middle, .cons head front, back⟩

theorem Run.uncons {first final : State} {label : Label} {labels : List Label}
    (run : Run step first (label :: labels) final) :
    ∃ middle, step first label middle ∧ Run step middle labels final := by
  cases run with
  | cons head onward => exact ⟨_, head, onward⟩

theorem Run.mono {step' : State → Label → State → Prop}
    (wider : ∀ before label after, step before label after → step' before label after)
    {first final : State} {labels : List Label} (run : Run step first labels final) :
    Run step' first labels final := by
  induction run with
  | nil state => exact .nil state
  | cons head _ ih => exact .cons (wider _ _ _ head) ih

/-- Where each step has a matching step of the specification, each run has a matching run. -/
theorem Run.simulated {Spec : Type w} {specStep : Spec → Label → Spec → Prop}
    {related : State → Spec → Prop}
    (matched : ∀ before label after spec, related before spec → step before label after →
      ∃ spec', specStep spec label spec' ∧ related after spec')
    {first final : State} {labels : List Label} (run : Run step first labels final)
    {spec : Spec} (start : related first spec) :
    ∃ spec', Run specStep spec labels spec' ∧ related final spec' := by
  induction run generalizing spec with
  | nil state => exact ⟨spec, .nil spec, start⟩
  | cons head _ ih =>
      obtain ⟨middle, taken, relatedMiddle⟩ := matched _ _ _ _ start head
      obtain ⟨last, onward, relatedLast⟩ := ih relatedMiddle
      exact ⟨last, .cons taken onward, relatedLast⟩

/-! ## Conditions that some steps set and some labels reset -/

section

variable {invariant flag : State → Prop} {sets : State → Label → Prop} {resets : Label → Prop}

/-- Each step sets the condition, or keeps it and does not reset it, or leaves it false. -/
structure Latch (step : State → Label → State → Prop) (invariant flag : State → Prop)
    (sets : State → Label → Prop) (resets : Label → Prop) : Prop where
  kept : ∀ before label after, invariant before → step before label after → invariant after
  latch : ∀ before label after, invariant before → step before label after →
    (flag after ↔ sets before label ∨ flag before ∧ ¬ resets label)

theorem Latch.stays (latched : Latch step invariant flag sets resets) {first final : State}
    {labels : List Label} (run : Run step first labels final) (start : invariant first)
    (held : flag first) (unreset : ∀ label ∈ labels, ¬ resets label) : flag final := by
  let both := fun state => invariant state ∧ flag state
  have entered : both first := ⟨start, held⟩
  have stays : ∀ before label after, ¬ resets label → step before label after →
      both before → both after := by
    rintro before label after here taken ⟨good, set⟩
    exact ⟨latched.kept before label after good taken,
      (latched.latch before label after good taken).mpr (.inr ⟨set, here⟩)⟩
  exact (run.preserves_while stays unreset entered).2

/-- At the end of a run the condition holds exactly where a step has set it, or it held at
first, and it was not reset since. -/
theorem Latch.run_iff (latched : Latch step invariant flag sets resets) {first final : State}
    {labels : List Label} (run : Run step first labels final) (start : invariant first) :
    flag final ↔ (flag first ∧ ∀ label ∈ labels, ¬ resets label) ∨
      ∃ earlier label later before after, labels = earlier ++ label :: later ∧
        Run step first earlier before ∧ step before label after ∧ Run step after later final ∧
        sets before label ∧ ∀ other ∈ later, ¬ resets other := by
  constructor
  · intro held
    induction run with
    | nil state => exact .inl ⟨held, by simp⟩
    | @cons first middle final label rest head onward ih =>
        rcases ih (latched.kept _ _ _ start head) held with
          ⟨here, unreset⟩ | ⟨earlier, other, later, before, after, rfl, run, taken, ended, set⟩
        · rcases (latched.latch _ _ _ start head).mp here with set | ⟨before, stays⟩
          · exact .inr ⟨[], label, rest, first, middle, rfl, .nil first, head, onward, set, unreset⟩
          · exact .inl ⟨before, List.forall_mem_cons.mpr ⟨stays, unreset⟩⟩
        · exact .inr ⟨label :: earlier, other, later, before, after, rfl, .cons head run, taken,
            ended, set⟩
  · rintro (⟨held, unreset⟩ | ⟨earlier, label, later, before, after, _, reached, taken, onward, set,
      unreset⟩)
    · exact latched.stays run start held unreset
    · have good := reached.preserves latched.kept start
      have next := (latched.latch _ _ _ good taken).mpr (.inl set)
      exact latched.stays onward (latched.kept _ _ _ good taken) next unreset

/-- Where the label alone says whether the condition is set, the last label that sets or resets
it decides. -/
theorem Latch.run_iff_label {setBy : Label → Prop}
    (latched : Latch step invariant flag (fun _ label => setBy label) resets)
    {first final : State} {labels : List Label} (run : Run step first labels final)
    (start : invariant first) :
    flag final ↔ (flag first ∧ ∀ label ∈ labels, ¬ resets label) ∨
      ∃ earlier label later, labels = earlier ++ label :: later ∧ setBy label ∧
        ∀ other ∈ later, ¬ resets other := by
  rw [latched.run_iff run start]
  refine or_congr_right ⟨?_, ?_⟩
  · rintro ⟨earlier, label, later, _, _, split, _, _, _, set, unreset⟩
    exact ⟨earlier, label, later, split, set, unreset⟩
  · rintro ⟨earlier, label, later, rfl, set, unreset⟩
    obtain ⟨before, front, back⟩ := run.split
    obtain ⟨after, taken, onward⟩ := back.uncons
    exact ⟨earlier, label, later, before, after, rfl, front, taken, onward, set, unreset⟩

end

theorem Run.of_foldlM {next : State → Label → Option State} {first final : State}
    {labels : List Label} (executed : labels.foldlM next first = some final) :
    Run (fun before label after => next before label = some after) first labels final := by
  induction labels generalizing first with
  | nil =>
      cases Option.some.inj executed
      exact .nil _
  | cons label rest ih =>
      rw [List.foldlM_cons] at executed
      obtain ⟨middle, head, tail⟩ := Option.bind_eq_some_iff.mp executed
      exact .cons head (ih tail)

/-! ## Runs of a step function -/

section Functional

variable {next : State → Label → State} {good : State → Label → Prop} {start : State}

/-- What holds at the start and is kept by the good steps and no others holds throughout a
run if and only if all its steps are good. -/
theorem forall_reached_iff {invariant : State → Prop}
    (kept : ∀ state label, invariant state → (invariant (next state label) ↔ good state label))
    (holds : invariant start) (labels : List Label) :
    (∀ earlier, earlier <+: labels → invariant (earlier.foldl next start)) ↔
      ∀ earlier label, earlier ++ [label] <+: labels → good (earlier.foldl next start) label := by
  constructor
  · intro throughout earlier label within
    have before := throughout earlier ((List.prefix_append earlier [label]).trans within)
    have after := throughout (earlier ++ [label]) within
    rw [List.foldl_append] at after
    exact (kept _ _ before).mp after
  · intro steps earlier
    induction earlier using List.reverseRecOn with
    | nil => exact fun _ => holds
    | append_singleton front label ih =>
        intro within
        have before := ih ((List.prefix_append front [label]).trans within)
        rw [List.foldl_append]
        exact (kept _ _ before).mpr (steps front label within)

theorem forall_steps_cons_iff (start : State) (label : Label) (rest : List Label) :
    (∀ earlier other, earlier ++ [other] <+: label :: rest →
        good (earlier.foldl next start) other) ↔
      good start label ∧ ∀ earlier other, earlier ++ [other] <+: rest →
        good (earlier.foldl next (next start label)) other := by
  constructor
  · intro steps
    refine ⟨steps [] label (List.cons_prefix_cons.mpr ⟨rfl, List.nil_prefix⟩), ?_⟩
    intro earlier other within
    exact steps (label :: earlier) other (List.cons_prefix_cons.mpr ⟨rfl, within⟩)
  · rintro ⟨head, later⟩ earlier other within
    cases earlier with
    | nil =>
        obtain ⟨rfl, _⟩ := List.cons_prefix_cons.mp within
        exact head
    | cons first more =>
        obtain ⟨rfl, inside⟩ := List.cons_prefix_cons.mp within
        exact later more other inside

/-- A preorder that the good steps respect, and no others, relates each state of a run to
all later ones if and only if all its steps are good. -/
theorem forall_later_iff {related : State → State → Prop}
    (refl : ∀ state, related state state)
    (trans : ∀ {first middle final}, related first middle → related middle final →
      related first final)
    (single : ∀ state label, related state (next state label) ↔ good state label)
    (start : State) (labels : List Label) :
    (∀ earlier between, earlier ++ between <+: labels →
        related (earlier.foldl next start) ((earlier ++ between).foldl next start)) ↔
      ∀ earlier label, earlier ++ [label] <+: labels → good (earlier.foldl next start) label := by
  constructor
  · intro throughout earlier label within
    have after := throughout earlier [label] within
    rw [List.foldl_append] at after
    exact (single _ _).mp after
  · intro steps earlier between
    induction between using List.reverseRecOn with
    | nil =>
        intro _
        rw [List.append_nil]
        exact refl _
    | append_singleton front label ih =>
        rw [← List.append_assoc]
        intro within
        have before := ih ((List.prefix_append (earlier ++ front) [label]).trans within)
        rw [List.foldl_append]
        exact trans before ((single _ _).mpr (steps (earlier ++ front) label within))

end Functional

end TransitionRun
