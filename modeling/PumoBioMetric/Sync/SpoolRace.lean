import PumoBioMetric.Library.TransitionRun
import PumoBioMetric.Sync.SpoolFile

/-!
# Two spool objects on one path

`push_ingest` and the supervisor each own a `PunchSpool`, so their locks do not
exclude each other: one drain of the supervisor runs against any sequence of
`add` and `drain` calls of `ingest`, file step by file step.
-/

set_option autoImplicit false

namespace PumoBioMetric.Sync

open TransitionRun

structure Race where
  files : Files
  /-- The supervisor's one drain; `none` once it has returned. -/
  supervisor : Option SpoolOp
  /-- The call `ingest` is in, if any. -/
  ingest : Option SpoolOp
  /-- Everything drains have returned. -/
  returned : List Punch
  /-- Everything finished `add` calls have written. -/
  added : List Punch
  deriving DecidableEq

inductive RaceEvent where
  | supervisor
  | ingest
  | callAdd (punches : List Punch)
  | callDrain
  deriving DecidableEq

def Race.step (race : Race) : RaceEvent → Option Race
  | .supervisor =>
      match race.supervisor with
      | none => none
      | some op =>
          let after := op.step race.files
          some { race with
            files := after.1
            supervisor := after.2.op
            returned := race.returned ++ after.2.returned
            added := race.added ++ after.2.stored }
  | .ingest =>
      match race.ingest with
      | none => none
      | some op =>
          let after := op.step race.files
          some { race with
            files := after.1
            ingest := after.2.op
            returned := race.returned ++ after.2.returned
            added := race.added ++ after.2.stored }
  | .callAdd punches =>
      if race.ingest = none then
        -- `add` returns at once when it is given nothing.
        if punches = [] then some race else some { race with ingest := some (.addOpen punches) }
      else none
  | .callDrain =>
      if race.ingest = none then some { race with ingest := some .drainExists } else none

def Race.Step (before : Race) (event : RaceEvent) (after : Race) : Prop :=
  before.step event = some after

def Race.initial (files : Files) : Race :=
  { files := files, supervisor := some .drainExists, ingest := none, returned := [],
    added := [] }

def Race.Quiet (race : Race) : Prop := race.supervisor = none ∧ race.ingest = none

/-- The punch is in a list some drain returned or still in the spool file. -/
def Race.Safe (race : Race) (punch : Punch) : Prop :=
  punch ∈ race.returned ∨ punch ∈ race.files.spooled

/-- The step at hand spares what the other party still has to read. -/
def Undisturbed (race : Race) : RaceEvent → Prop
  | .supervisor => ∀ op ∈ race.supervisor, op.Spares race.files race.ingest
  | .ingest => ∀ op ∈ race.ingest, op.Spares race.files race.supervisor
  | _ => True

structure RaceInvariant (start : List Punch) (race : Race) : Prop where
  valid : race.files.Valid race.supervisor race.ingest
  kept : ∀ punch ∈ start ++ race.added, punch ∈ race.returned ∨
    punch ∈ race.files.spooled ∨ punch ∈ race.files.heldBy race.supervisor ∨
      punch ∈ race.files.heldBy race.ingest

theorem Files.Valid.swap {files : Files} {one other : Option SpoolOp}
    (valid : files.Valid one other) : files.Valid other one :=
  ⟨valid.path, valid.other, valid.one⟩

theorem kept_of_step {files : Files} {op : SpoolOp} {other : Option SpoolOp}
    {start added returned : List Punch} (valid : files.Valid (some op) other)
    (spares : op.Spares files other)
    (kept : ∀ punch ∈ start ++ added, punch ∈ returned ∨ punch ∈ files.spooled ∨
      punch ∈ files.heldBy (some op) ∨ punch ∈ files.heldBy other) :
    ∀ punch ∈ start ++ (added ++ (op.step files).2.stored),
      punch ∈ returned ++ (op.step files).2.returned ∨
        punch ∈ (op.step files).1.spooled ∨
        punch ∈ (op.step files).1.heldBy (op.step files).2.op ∨
        punch ∈ (op.step files).1.heldBy other := by
  intro punch member
  rw [← List.append_assoc, List.mem_append] at member
  rcases member with old | written
  · rcases kept punch old with returned | present
    · exact Or.inl (List.mem_append_left _ returned)
    · rcases SpoolOp.step_keeps spares punch present with spooled | returned | own | theirs
      · exact Or.inr (Or.inl spooled)
      · exact Or.inl (List.mem_append_right _ returned)
      · exact Or.inr (Or.inr (Or.inl own))
      · exact Or.inr (Or.inr (Or.inr theirs))
  · rcases SpoolOp.step_stores valid.one spares punch written with spooled | theirs
    · exact Or.inr (Or.inl spooled)
    · exact Or.inr (Or.inr (Or.inr theirs))

theorem RaceInvariant.startCall {start : List Punch} {race : Race} {op : SpoolOp}
    (invariant : RaceInvariant start race) (idle : race.ingest = none)
    (handle : race.files.HandleValid (some op)) (empty : race.files.heldBy (some op) = []) :
    RaceInvariant start { race with ingest := some op } := by
  refine ⟨⟨invariant.valid.path, invariant.valid.one, handle⟩, ?_⟩
  intro punch member
  rw [empty, ← show race.files.heldBy race.ingest = [] by rw [idle]; rfl]
  exact invariant.kept punch member

theorem raceInvariant_step {start : List Punch} (before : Race) (event : RaceEvent)
    (after : Race) (invariant : RaceInvariant start before)
    (step : Guarded Undisturbed Race.Step before event after) :
    RaceInvariant start after := by
  obtain ⟨undisturbed, taken⟩ := step
  cases event with
  | supervisor =>
      cases running : before.supervisor with
      | none => simp [Race.Step, Race.step, running] at taken
      | some op =>
          simp only [Race.Step, Race.step, running] at taken
          cases Option.some.inj taken
          have valid := invariant.valid
          have kept := invariant.kept
          rw [running] at valid kept
          exact ⟨SpoolOp.step_valid valid, kept_of_step valid (undisturbed op running) kept⟩
  | ingest =>
      cases running : before.ingest with
      | none => simp [Race.Step, Race.step, running] at taken
      | some op =>
          simp only [Race.Step, Race.step, running] at taken
          cases Option.some.inj taken
          have valid := invariant.valid.swap
          have kept : ∀ punch ∈ start ++ before.added, punch ∈ before.returned ∨
              punch ∈ before.files.spooled ∨ punch ∈ before.files.heldBy (some op) ∨
                punch ∈ before.files.heldBy before.supervisor := by
            intro punch member
            rcases invariant.kept punch member with returned | spooled | theirs | own
            · exact Or.inl returned
            · exact Or.inr (Or.inl spooled)
            · exact Or.inr (Or.inr (Or.inr theirs))
            · rw [running] at own
              exact Or.inr (Or.inr (Or.inl own))
          rw [running] at valid
          refine ⟨(SpoolOp.step_valid valid).swap, ?_⟩
          intro punch member
          rcases kept_of_step valid (undisturbed op running) kept punch member with
            returned | spooled | own | theirs
          · exact Or.inl returned
          · exact Or.inr (Or.inl spooled)
          · exact Or.inr (Or.inr (Or.inr own))
          · exact Or.inr (Or.inr (Or.inl theirs))
  | callAdd punches =>
      simp only [Race.Step, Race.step] at taken
      split at taken
      · rename_i idle
        split at taken
        · cases Option.some.inj taken
          exact invariant
        · cases Option.some.inj taken
          exact invariant.startCall idle trivial rfl
      · contradiction
  | callDrain =>
      simp only [Race.Step, Race.step] at taken
      split at taken
      · rename_i idle
        cases Option.some.inj taken
        exact invariant.startCall idle trivial rfl
      · contradiction

/-- While every step spares what the other party still has to read, the race loses
nothing. -/
theorem race_loses_nothing (files : Files)
    (exists_ : ∀ file ∈ files.path, file < files.content.length)
    (events : List RaceEvent) (race : Race)
    (run : Run (Guarded Undisturbed Race.Step) (.initial files) events race)
    (quiet : race.Quiet) :
    ∀ punch ∈ files.spooled ++ race.added, race.Safe punch := by
  have start : RaceInvariant files.spooled (.initial files) := by
    refine ⟨⟨exists_, trivial, trivial⟩, ?_⟩
    intro punch member
    have spooled : punch ∈ files.spooled := by simpa [Race.initial] using member
    exact Or.inr (Or.inl spooled)
  have invariant := run.preserves raceInvariant_step start
  intro punch member
  rcases invariant.kept punch member with returned | spooled | theirs | own
  · exact Or.inl returned
  · exact Or.inr spooled
  · simp [quiet.1, Files.heldBy] at theirs
  · simp [quiet.2, Files.heldBy] at own

/-! ## Schedules -/

theorem race_loses_nothing_serial :
    ∃ race, Run (Guarded Undisturbed Race.Step) (.initial oneSpooled)
        [.supervisor, .supervisor, .supervisor, .supervisor, .supervisor,
          .callAdd [punchOf "102"], .ingest, .ingest] race ∧
      ∀ punch ∈ oneSpooled.spooled ++ race.added, race.Safe punch := by
  let final : Race :=
    { files := { path := some 1, staging := none, content := [[punchOf "101"], [punchOf "102"]] }
      supervisor := none, ingest := none, returned := [punchOf "101"],
      added := [punchOf "102"] }
  have run : Run (Guarded Undisturbed Race.Step) (.initial oneSpooled)
      [.supervisor, .supervisor, .supervisor, .supervisor, .supervisor,
        .callAdd [punchOf "102"], .ingest, .ingest] final := by
    refine .cons ⟨fun op isOp => by cases isOp; trivial, rfl⟩ ?_
    refine .cons ⟨fun op isOp => (by cases isOp; intro _ idle; cases idle), rfl⟩ ?_
    refine .cons ⟨fun op isOp => by cases isOp; trivial, rfl⟩ ?_
    refine .cons ⟨fun op isOp => by cases isOp; trivial, rfl⟩ ?_
    refine .cons ⟨fun op isOp => (by cases isOp; intro idle; cases idle), rfl⟩ ?_
    refine .cons ⟨trivial, rfl⟩ ?_
    refine .cons ⟨fun op isOp => by cases isOp; trivial, rfl⟩ ?_
    refine .cons ⟨fun op isOp => by cases isOp; exact Or.inl rfl, rfl⟩ ?_
    exact .nil final
  exact ⟨final, run, race_loses_nothing oneSpooled (by decide) _ final run ⟨rfl, rfl⟩⟩

/-- `ingest` adds and drains between the supervisor's rename and its open: the second
rename overwrites the staged file, and what was spooled is gone. -/
theorem race_overwrites_staged :
    ¬ ∀ (files : Files), (∀ file ∈ files.path, file < files.content.length) →
      ∀ (events : List RaceEvent) (race : Race),
        Run Race.Step (.initial files) events race → race.Quiet →
          ∀ punch ∈ files.spooled ++ race.added, race.Safe punch := by
  intro safe
  let schedule : List RaceEvent :=
    [.supervisor, .supervisor, .callAdd [punchOf "102"], .ingest, .ingest, .callDrain,
      .ingest, .ingest, .supervisor, .supervisor, .supervisor, .ingest, .ingest]
  let final : Race :=
    { files := { path := none, staging := none, content := [[punchOf "101"], [punchOf "102"]] }
      supervisor := none, ingest := none, returned := [punchOf "102"],
      added := [punchOf "102"] }
  have executed : schedule.foldlM Race.step (.initial oneSpooled) = some final := rfl
  have kept := safe oneSpooled (by decide) schedule final (.of_foldlM executed) ⟨rfl, rfl⟩
    (punchOf "101") (by decide)
  revert kept
  unfold Race.Safe
  decide

end PumoBioMetric.Sync
