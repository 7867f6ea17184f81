import PumoBioMetric.Library.TransitionRun
import PumoBioMetric.Sync.Delivery
import PumoBioMetric.Sync.SpoolFile

/-!
# A process killed between two steps

One `_flush` or one `ingest`, file step by file step.  A kill keeps the files and
the table and forgets the rest, so a punch survives when the table has its key or
a drain of the restarted process returns it.
-/

set_option autoImplicit false

namespace PumoBioMetric.Sync

open PumoBioMetric.Router TransitionRun

/-- A call in progress, named by the step it takes next. -/
inductive Proc where
  | flushSpool (op : SpoolOp)
  | flushSave (waiting : List Punch)
  | flushRestore (op : SpoolOp)
  | ingestSpool (punches : List Punch) (op : SpoolOp)
  | ingestSaveWaiting (punches waiting : List Punch)
  | ingestRestore (punches : List Punch) (op : SpoolOp)
  | ingestSave (punches : List Punch)
  | ingestAdd (op : SpoolOp)
  deriving DecidableEq

/-- Which of its steps the call has put behind it: the rename, then the commit or the
restore of what was drained. -/
inductive Batch where
  | spooled
  | aside
  | stored
  | restored
  deriving DecidableEq

structure Machine where
  files : Files
  table : List Punch
  proc : Option Proc
  batch : Batch
  /-- What the final `add` of an `ingest` has written. -/
  added : List Punch
  deriving DecidableEq

def renamed (op : SpoolOp) (files : Files) (batch : Batch) : Batch :=
  if op = .drainRename ∧ files.path.isSome then .aside else batch

def Machine.step (machine : Machine) (outcome : SaveOutcome) : Option Machine :=
  match machine.proc with
  | none => none
  | some (.flushSpool op) =>
      let after := op.step machine.files
      let moved := { machine with files := after.1, batch := renamed op machine.files machine.batch }
      match after.2 with
      | .next op => some { moved with proc := some (.flushSpool op) }
      | .drained waiting =>
          some { moved with proc := if waiting = [] then none else some (.flushSave waiting) }
      | .added _ => none
  | some (.flushSave waiting) =>
      match outcome with
      | .commit =>
          some { machine with
            table := savePunches machine.table waiting, proc := none, batch := .stored }
      | .unavailable | .otherError =>
          some { machine with proc := some (.flushRestore (.addOpen waiting)) }
  | some (.flushRestore op) =>
      let after := op.step machine.files
      match after.2 with
      | .next op => some { machine with files := after.1, proc := some (.flushRestore op) }
      | .added _ => some { machine with files := after.1, proc := none, batch := .restored }
      | .drained _ => none
  | some (.ingestSpool punches op) =>
      let after := op.step machine.files
      let moved := { machine with files := after.1, batch := renamed op machine.files machine.batch }
      match after.2 with
      | .next op => some { moved with proc := some (.ingestSpool punches op) }
      | .drained waiting =>
          some { moved with
            proc := some (if waiting = [] then .ingestSave punches
              else .ingestSaveWaiting punches waiting) }
      | .added _ => none
  | some (.ingestSaveWaiting punches waiting) =>
      match outcome with
      | .commit =>
          some { machine with
            table := savePunches machine.table waiting, proc := some (.ingestSave punches),
            batch := .stored }
      | .unavailable =>
          some { machine with proc := some (.ingestRestore punches (.addOpen waiting)) }
      | .otherError => some { machine with proc := some (.ingestAdd (.addOpen punches)) }
  | some (.ingestRestore punches op) =>
      let after := op.step machine.files
      match after.2 with
      | .next op => some { machine with files := after.1, proc := some (.ingestRestore punches op) }
      | .added _ =>
          some { machine with
            files := after.1, proc := some (.ingestAdd (.addOpen punches)), batch := .restored }
      | .drained _ => none
  | some (.ingestSave punches) =>
      match outcome with
      | .commit => some { machine with table := savePunches machine.table punches, proc := none }
      | .unavailable | .otherError =>
          some { machine with proc := some (.ingestAdd (.addOpen punches)) }
  | some (.ingestAdd op) =>
      let after := op.step machine.files
      match after.2 with
      | .next op => some { machine with files := after.1, proc := some (.ingestAdd op) }
      | .added punches =>
          some { machine with files := after.1, proc := none, added := machine.added ++ punches }
      | .drained _ => none

def Machine.Step (before : Machine) (outcome : SaveOutcome) (after : Machine) : Prop :=
  before.step outcome = some after

inductive Call where
  | flush
  | ingest (records : List PunchRecord)

def Call.start : Call → Option Proc
  | .flush => some (.flushSpool .drainExists)
  | .ingest records =>
      if usable records = [] then none else some (.ingestSpool (usable records) .drainExists)

def Machine.initial (files : Files) (table : List Punch) (call : Call) : Machine :=
  { files := files, table := table, proc := call.start, batch := .spooled, added := [] }

def Machine.Survives (machine : Machine) (punch : Punch) : Prop :=
  punch.key ∈ keys machine.table ∨ punch ∈ drainAll machine.files

/-! ## One step of an add, one step of a drain that has renamed -/

def SpoolOp.batch : SpoolOp → List Punch
  | .addOpen punches | .addAppend punches _ => punches
  | _ => []

def Files.PathValid (files : Files) : Prop :=
  ∀ file ∈ files.path, file < files.content.length

def Files.Adding (files : Files) : SpoolOp → Prop
  | .addOpen _ => files.PathValid
  | .addAppend _ file => files.path = some file ∧ file < files.content.length
  | _ => False

theorem adding_step {files : Files} {op : SpoolOp} (adding : files.Adding op) :
    (∃ next, (op.step files).2 = .next next ∧ next.batch = op.batch ∧
      (op.step files).1.Adding next ∧ (op.step files).1.spooled = files.spooled) ∨
    ((op.step files).2 = .added op.batch ∧
      (op.step files).1.spooled = files.spooled ++ op.batch) := by
  cases op with
  | addOpen punches =>
      left
      cases found : files.path with
      | none =>
          rw [addOpen_none punches found]
          refine ⟨_, rfl, rfl, ⟨rfl, by simp [Files.create]⟩, ?_⟩
          simp [Files.spooled, Files.named, found, Files.create, Files.read]
      | some file =>
          rw [addOpen_some punches found]
          exact ⟨_, rfl, rfl, ⟨found, adding file found⟩, rfl⟩
  | addAppend punches file =>
      right
      obtain ⟨atPath, inside⟩ := adding
      refine ⟨rfl, ?_⟩
      have name : (files.append file punches).path = some file := atPath
      change (files.append file punches).spooled = _
      simp only [Files.spooled, Files.named, name, atPath, SpoolOp.batch]
      exact read_append_self punches inside
  | drainExists | drainRename | drainOpen | drainRead | drainUnlink => exact adding.elim

theorem adding_valid {files : Files} {op : SpoolOp} (adding : files.Adding op) :
    (op.step files).1.PathValid := by
  have valid : files.Valid (some op) none := by
    cases op with
    | addOpen punches => exact ⟨adding, trivial, trivial⟩
    | addAppend punches file =>
        refine ⟨?_, adding.2, trivial⟩
        intro held isPath
        cases Option.some.inj (adding.1.symm.trans isPath)
        exact adding.2
    | drainExists | drainRename | drainOpen | drainRead | drainUnlink => exact adding.elim
  exact (SpoolOp.step_valid valid).path

def Files.Taking (files : Files) (punch : Punch) (op : SpoolOp) : Prop :=
  match op with
  | .drainOpen | .drainRead _ | .drainUnlink _ => punch ∈ files.heldBy (some op)
  | _ => False

theorem taking_step {files : Files} {punch : Punch} {op : SpoolOp}
    (taking : files.Taking punch op) :
    (op.step files).1.spooled = files.spooled ∧
    (files.PathValid → (op.step files).1.PathValid) ∧
    ((∃ next, (op.step files).2 = .next next ∧ (op.step files).1.Taking punch next) ∨
      ∃ punches, (op.step files).2 = .drained punches ∧ punch ∈ punches) := by
  cases op with
  | drainOpen =>
      have staged : punch ∈ files.staged := taking
      cases found : files.staging with
      | none => simp [Files.staged, Files.named, found] at staged
      | some file =>
          rw [drainOpen_some found]
          refine ⟨rfl, id, Or.inl ⟨_, rfl, ?_⟩⟩
          simpa [Files.Taking, Files.heldBy, Files.staged, Files.named, found] using staged
  | drainRead file => exact ⟨rfl, id, Or.inl ⟨_, rfl, taking⟩⟩
  | drainUnlink punches => exact ⟨rfl, id, Or.inr ⟨_, rfl, taking⟩⟩
  | drainExists | drainRename | addOpen | addAppend => exact taking.elim

theorem rename_takes {files : Files} {file : Nat} {punch : Punch} (path : files.path = some file)
    (spooled : punch ∈ files.spooled) :
    ∃ moved, SpoolOp.step .drainRename files = (moved, .next .drainOpen) ∧ moved.spooled = [] ∧
      moved.PathValid ∧ moved.Taking punch .drainOpen := by
  have taken : punch ∈ files.read file := by
    simpa [Files.spooled, Files.named, path] using spooled
  refine ⟨_, drainRename_some path, rfl, ?_, taken⟩
  intro held isPath
  cases isPath

theorem renamed_of_taking {files : Files} {punch : Punch} {op : SpoolOp}
    (taking : files.Taking punch op) (batch : Batch) : renamed op files batch = batch := by
  cases op with
  | drainRename => exact taking.elim
  | drainExists | drainOpen | drainRead | drainUnlink | addOpen | addAppend => simp [renamed]

/-! ## Where a spooled punch is, by the step the call is at -/

def Machine.BeforeRename (machine : Machine) : Prop :=
  match machine.proc with
  | some (.flushSpool op) | some (.ingestSpool _ op) => op = .drainExists ∨ op = .drainRename
  -- An `ingest` without usable records has returned at once.
  | none => True
  | _ => False

/-- Between the rename and the commit or restore; an `ingest` that met an exception
other than `LmsUnavailableError` stays here for good. -/
def Machine.Carries (machine : Machine) (punch : Punch) : Prop :=
  match machine.proc with
  | some (.flushSpool op) | some (.ingestSpool _ op) =>
      machine.files.PathValid ∧ machine.files.Taking punch op
  | some (.flushSave waiting) | some (.ingestSaveWaiting _ waiting) =>
      machine.files.PathValid ∧ punch ∈ waiting
  | some (.flushRestore op) | some (.ingestRestore _ op) =>
      machine.files.Adding op ∧ punch ∈ op.batch
  | some (.ingestAdd op) => machine.files.Adding op
  | some (.ingestSave _) => False
  | none => True

def Machine.Rewriting (machine : Machine) : Prop :=
  match machine.proc with
  | some (.ingestAdd op) => machine.files.Adding op
  | none => True
  | _ => False

def Machine.Settled (machine : Machine) : Prop :=
  match machine.proc with
  | some (.ingestSave _) | some (.ingestAdd _) | none => True
  | _ => False

def Machine.Tracks (start : Files) (table : List Punch) (punch : Punch)
    (machine : Machine) : Prop :=
  match machine.batch with
  | .spooled =>
      machine.files = start ∧ machine.table = table ∧ machine.added = [] ∧ machine.BeforeRename
  | .aside =>
      machine.table = table ∧ (∀ other, other ∈ machine.files.spooled ↔ other ∈ machine.added) ∧
        machine.Carries punch
  | .stored => punch.key ∈ keys machine.table ∧ machine.Settled
  | .restored => punch ∈ machine.files.spooled ∧ machine.Rewriting

section Tracks

variable {start : Files} {table : List Punch} {punch : Punch} {before after : Machine}
  {outcome : SaveOutcome}

theorem tracks_step_spooled (spooled : punch ∈ start.spooled) (batch : before.batch = .spooled)
    (tracks : before.Tracks start table punch) (step : before.Step outcome after) :
    after.Tracks start table punch := by
  simp only [Machine.Tracks, batch] at tracks
  obtain ⟨files, rows, added, place⟩ := tracks
  rw [← files] at spooled
  obtain ⟨file, path⟩ : ∃ file, before.files.path = some file := by
    cases found : before.files.path with
    | none => simp [Files.spooled, Files.named, found] at spooled
    | some file => exact ⟨file, rfl⟩
  have existing := drainExists_some path
  obtain ⟨moved, rename, empty, valid, taking⟩ := rename_takes path spooled
  have spool : ∀ other, other ∈ moved.spooled ↔ other ∈ before.added := by
    intro other
    rw [empty, added]
  cases proc : before.proc with
  | none => simp [Machine.Step, Machine.step, proc] at step
  | some running =>
      cases running with
      | flushSpool op =>
          simp only [Machine.BeforeRename, proc] at place
          rcases place with rfl | rfl
          · simp only [Machine.Step, Machine.step, proc, existing] at step
            cases Option.some.inj step
            simp [Machine.Tracks, renamed, batch, files, rows, added, Machine.BeforeRename]
          · simp only [Machine.Step, Machine.step, proc, rename] at step
            cases Option.some.inj step
            simp only [Machine.Tracks, renamed, path, Option.isSome_some, and_self, if_true]
            exact ⟨rows, spool, valid, taking⟩
      | ingestSpool punches op =>
          simp only [Machine.BeforeRename, proc] at place
          rcases place with rfl | rfl
          · simp only [Machine.Step, Machine.step, proc, existing] at step
            cases Option.some.inj step
            simp [Machine.Tracks, renamed, batch, files, rows, added, Machine.BeforeRename]
          · simp only [Machine.Step, Machine.step, proc, rename] at step
            cases Option.some.inj step
            simp only [Machine.Tracks, renamed, path, Option.isSome_some, and_self, if_true]
            exact ⟨rows, spool, valid, taking⟩
      | flushSave | flushRestore | ingestSaveWaiting | ingestRestore | ingestSave | ingestAdd =>
          simp [Machine.BeforeRename, proc] at place

/-! ### Past the rename -/

section Aside

variable (batch : before.batch = .aside) (rows : before.table = table)
  (spool : ∀ other, other ∈ before.files.spooled ↔ other ∈ before.added)
  (carries : before.Carries punch) (step : before.Step outcome after)

include batch rows spool carries step

theorem tracks_step_taking {running : Proc} {op : SpoolOp} (proc : before.proc = some running)
    (isTaking : running = .flushSpool op ∨ ∃ punches, running = .ingestSpool punches op) :
    after.Tracks start table punch := by
  have held : before.files.PathValid ∧ before.files.Taking punch op := by
    rcases isTaking with rfl | ⟨punches, rfl⟩
    · simpa only [Machine.Carries, proc] using carries
    · simpa only [Machine.Carries, proc] using carries
  obtain ⟨valid, taking⟩ := held
  obtain ⟨samePlace, stillValid, progress⟩ := taking_step taking
  have unmoved := renamed_of_taking taking before.batch
  rw [← samePlace] at spool
  rcases progress with ⟨next, moved, taking'⟩ | ⟨waiting, moved, held⟩
  · rcases isTaking with rfl | ⟨punches, rfl⟩
    · simp only [Machine.Step, Machine.step, proc, moved, unmoved] at step
      cases Option.some.inj step
      simp only [Machine.Tracks, batch]
      exact ⟨rows, spool, stillValid valid, taking'⟩
    · simp only [Machine.Step, Machine.step, proc, moved, unmoved] at step
      cases Option.some.inj step
      simp only [Machine.Tracks, batch]
      exact ⟨rows, spool, stillValid valid, taking'⟩
  · have nonempty : waiting ≠ [] := List.ne_nil_of_mem held
    rcases isTaking with rfl | ⟨punches, rfl⟩
    · simp only [Machine.Step, Machine.step, proc, moved, unmoved, nonempty, if_false] at step
      cases Option.some.inj step
      simp only [Machine.Tracks, batch]
      exact ⟨rows, spool, stillValid valid, held⟩
    · simp only [Machine.Step, Machine.step, proc, moved, unmoved, nonempty, if_false] at step
      cases Option.some.inj step
      simp only [Machine.Tracks, batch]
      exact ⟨rows, spool, stillValid valid, held⟩

theorem tracks_step_saving {running : Proc} {waiting : List Punch}
    (proc : before.proc = some running)
    (isSaving : running = .flushSave waiting ∨
      ∃ punches, running = .ingestSaveWaiting punches waiting) :
    after.Tracks start table punch := by
  have held : before.files.PathValid ∧ punch ∈ waiting := by
    rcases isSaving with rfl | ⟨punches, rfl⟩
    · simpa only [Machine.Carries, proc] using carries
    · simpa only [Machine.Carries, proc] using carries
  have committed : punch.key ∈ keys (savePunches before.table waiting) :=
    (mem_keys_savePunches _ _ _).mpr (Or.inr ⟨punch, held.2, rfl⟩)
  rcases isSaving with rfl | ⟨punches, rfl⟩
  · cases outcome with
    | commit =>
        simp only [Machine.Step, Machine.step, proc] at step
        cases Option.some.inj step
        exact ⟨committed, trivial⟩
    | unavailable | otherError =>
        simp only [Machine.Step, Machine.step, proc] at step
        cases Option.some.inj step
        simp only [Machine.Tracks, batch]
        exact ⟨rows, spool, held⟩
  · cases outcome with
    | commit =>
        simp only [Machine.Step, Machine.step, proc] at step
        cases Option.some.inj step
        exact ⟨committed, trivial⟩
    | unavailable =>
        simp only [Machine.Step, Machine.step, proc] at step
        cases Option.some.inj step
        simp only [Machine.Tracks, batch]
        exact ⟨rows, spool, held⟩
    | otherError =>
        simp only [Machine.Step, Machine.step, proc] at step
        cases Option.some.inj step
        simp only [Machine.Tracks, batch]
        exact ⟨rows, spool, held.1⟩

theorem tracks_step_restoring {running : Proc} {op : SpoolOp} (proc : before.proc = some running)
    (isRestoring : running = .flushRestore op ∨ ∃ punches, running = .ingestRestore punches op) :
    after.Tracks start table punch := by
  have held : before.files.Adding op ∧ punch ∈ op.batch := by
    rcases isRestoring with rfl | ⟨punches, rfl⟩
    · simpa only [Machine.Carries, proc] using carries
    · simpa only [Machine.Carries, proc] using carries
  obtain ⟨adding, held⟩ := held
  rcases adding_step adding with ⟨next, moved, sameBatch, adding', same⟩ | ⟨moved, grown⟩
  · rw [← same] at spool
    rw [← sameBatch] at held
    rcases isRestoring with rfl | ⟨punches, rfl⟩
    · simp only [Machine.Step, Machine.step, proc, moved] at step
      cases Option.some.inj step
      simp only [Machine.Tracks, batch]
      exact ⟨rows, spool, adding', held⟩
    · simp only [Machine.Step, Machine.step, proc, moved] at step
      cases Option.some.inj step
      simp only [Machine.Tracks, batch]
      exact ⟨rows, spool, adding', held⟩
  · have back : punch ∈ (op.step before.files).1.spooled := by
      rw [grown]
      exact List.mem_append_right _ held
    rcases isRestoring with rfl | ⟨punches, rfl⟩
    · simp only [Machine.Step, Machine.step, proc, moved] at step
      cases Option.some.inj step
      exact ⟨back, trivial⟩
    · simp only [Machine.Step, Machine.step, proc, moved] at step
      cases Option.some.inj step
      exact ⟨back, adding_valid adding⟩

theorem tracks_step_readding {op : SpoolOp} (proc : before.proc = some (.ingestAdd op)) :
    after.Tracks start table punch := by
  simp only [Machine.Carries, proc] at carries
  rcases adding_step carries with ⟨next, moved, _, adding', same⟩ | ⟨moved, grown⟩
  · simp only [Machine.Step, Machine.step, proc, moved] at step
    cases Option.some.inj step
    simp only [Machine.Tracks, batch]
    exact ⟨rows, same ▸ spool, adding'⟩
  · simp only [Machine.Step, Machine.step, proc, moved] at step
    cases Option.some.inj step
    simp only [Machine.Tracks, batch]
    refine ⟨rows, ?_, trivial⟩
    intro other
    rw [grown, List.mem_append, List.mem_append, spool other]

end Aside

theorem tracks_step_aside (batch : before.batch = .aside)
    (tracks : before.Tracks start table punch) (step : before.Step outcome after) :
    after.Tracks start table punch := by
  simp only [Machine.Tracks, batch] at tracks
  obtain ⟨rows, spool, carries⟩ := tracks
  cases proc : before.proc with
  | none => simp [Machine.Step, Machine.step, proc] at step
  | some running =>
      cases running with
      | flushSpool op =>
          exact tracks_step_taking batch rows spool carries step proc (Or.inl rfl)
      | ingestSpool punches op =>
          exact tracks_step_taking batch rows spool carries step proc (Or.inr ⟨punches, rfl⟩)
      | flushSave waiting =>
          exact tracks_step_saving batch rows spool carries step proc (Or.inl rfl)
      | ingestSaveWaiting punches waiting =>
          exact tracks_step_saving batch rows spool carries step proc (Or.inr ⟨punches, rfl⟩)
      | flushRestore op =>
          exact tracks_step_restoring batch rows spool carries step proc (Or.inl rfl)
      | ingestRestore punches op =>
          exact tracks_step_restoring batch rows spool carries step proc (Or.inr ⟨punches, rfl⟩)
      | ingestSave punches => simp [Machine.Carries, proc] at carries
      | ingestAdd op => exact tracks_step_readding batch rows spool carries step proc

theorem tracks_step_stored (batch : before.batch = .stored)
    (tracks : before.Tracks start table punch) (step : before.Step outcome after) :
    after.Tracks start table punch := by
  simp only [Machine.Tracks, batch] at tracks
  obtain ⟨held, settled⟩ := tracks
  cases proc : before.proc with
  | none => simp [Machine.Step, Machine.step, proc] at step
  | some running =>
      cases running with
      | ingestSave punches =>
          cases outcome with
          | commit =>
              simp only [Machine.Step, Machine.step, proc] at step
              cases Option.some.inj step
              simp only [Machine.Tracks, batch]
              exact ⟨(mem_keys_savePunches _ _ _).mpr (Or.inl held), trivial⟩
          | unavailable | otherError =>
              simp only [Machine.Step, Machine.step, proc] at step
              cases Option.some.inj step
              simp only [Machine.Tracks, batch]
              exact ⟨held, trivial⟩
      | ingestAdd op =>
          simp only [Machine.Step, Machine.step, proc] at step
          split at step
          · cases Option.some.inj step
            simp only [Machine.Tracks, batch]
            exact ⟨held, trivial⟩
          · cases Option.some.inj step
            simp only [Machine.Tracks, batch]
            exact ⟨held, trivial⟩
          · contradiction
      | flushSpool | flushSave | flushRestore | ingestSpool | ingestSaveWaiting
      | ingestRestore => simp [Machine.Settled, proc] at settled

theorem tracks_step_restored (batch : before.batch = .restored)
    (tracks : before.Tracks start table punch) (step : before.Step outcome after) :
    after.Tracks start table punch := by
  simp only [Machine.Tracks, batch] at tracks
  obtain ⟨held, rewriting⟩ := tracks
  cases proc : before.proc with
  | none => simp [Machine.Step, Machine.step, proc] at step
  | some running =>
      cases running with
      | ingestAdd op =>
          simp only [Machine.Rewriting, proc] at rewriting
          rcases adding_step rewriting with ⟨next, moved, _, adding', same⟩ | ⟨moved, grown⟩
          · simp only [Machine.Step, Machine.step, proc, moved] at step
            cases Option.some.inj step
            simp only [Machine.Tracks, batch]
            exact ⟨same ▸ held, adding'⟩
          · simp only [Machine.Step, Machine.step, proc, moved] at step
            cases Option.some.inj step
            simp only [Machine.Tracks, batch]
            exact ⟨grown ▸ List.mem_append_left _ held, trivial⟩
      | flushSpool | flushSave | flushRestore | ingestSpool | ingestSaveWaiting
      | ingestRestore | ingestSave => simp [Machine.Rewriting, proc] at rewriting

theorem tracks_step (spooled : punch ∈ start.spooled)
    (tracks : before.Tracks start table punch) (step : before.Step outcome after) :
    after.Tracks start table punch := by
  cases batch : before.batch with
  | spooled => exact tracks_step_spooled spooled batch tracks step
  | aside => exact tracks_step_aside batch tracks step
  | stored => exact tracks_step_stored batch tracks step
  | restored => exact tracks_step_restored batch tracks step

end Tracks

theorem tracks_initial (files : Files) (table : List Punch) (call : Call) (punch : Punch) :
    (Machine.initial files table call).Tracks files table punch := by
  refine ⟨rfl, rfl, rfl, ?_⟩
  cases call with
  | flush => exact Or.inl rfl
  | ingest records =>
      by_cases nothing : usable records = []
      · simp [Machine.BeforeRename, Machine.initial, Call.start, nothing]
      · simp [Machine.BeforeRename, Machine.initial, Call.start, nothing]

theorem survives_iff_of_tracks {files : Files} {table : List Punch} {punch : Punch}
    {machine : Machine} (spooled : punch ∈ files.spooled)
    (tracks : machine.Tracks files table punch) :
    machine.Survives punch ↔
      machine.batch ≠ .aside ∨ punch.key ∈ keys table ∨ punch ∈ machine.added := by
  unfold Machine.Survives
  rw [drainAll_eq_spooled]
  cases batch : machine.batch with
  | spooled =>
      simp only [Machine.Tracks, batch] at tracks
      have held : punch ∈ machine.files.spooled := tracks.1 ▸ spooled
      simp [held]
  | aside =>
      simp only [Machine.Tracks, batch] at tracks
      obtain ⟨rows, spool, _⟩ := tracks
      rw [rows, spool punch]
      simp
  | stored =>
      simp only [Machine.Tracks, batch] at tracks
      simp [tracks.1]
  | restored =>
      simp only [Machine.Tracks, batch] at tracks
      simp [tracks.1]

/-- Everything spooled before survives a kill exactly when the batch is not between
its rename and its commit or restore, unless the table had the keys from the start or
the very same punches were pushed again and written back. -/
theorem crash_survives_iff (files : Files) (table : List Punch) (call : Call)
    (outcomes : List SaveOutcome) (machine : Machine)
    (run : Run Machine.Step (.initial files table call) outcomes machine) :
    (∀ punch ∈ files.spooled, machine.Survives punch) ↔
      machine.batch ≠ .aside ∨
        ∀ punch ∈ files.spooled, punch.key ∈ keys table ∨ punch ∈ machine.added := by
  have tracks : ∀ punch ∈ files.spooled, machine.Tracks files table punch :=
    fun punch spooled => run.preserves
      (fun _ _ _ before step => tracks_step spooled before step)
      (tracks_initial files table call punch)
  constructor
  · intro survive
    by_cases batch : machine.batch = .aside
    · right
      intro punch spooled
      have alternatives := (survives_iff_of_tracks spooled (tracks punch spooled)).mp
        (survive punch spooled)
      exact alternatives.resolve_left (fun notAside => notAside batch)
    · exact Or.inl batch
  · rintro (batch | covered) punch spooled
    · exact (survives_iff_of_tracks spooled (tracks punch spooled)).mpr (Or.inl batch)
    · exact (survives_iff_of_tracks spooled (tracks punch spooled)).mpr
        (Or.inr (covered punch spooled))

theorem crash_survives_iff_committed :
    ∃ machine, Run Machine.Step (.initial oneSpooled [] .flush)
        (List.replicate 6 .commit) machine ∧ machine.batch = .stored ∧
      ((∀ punch ∈ oneSpooled.spooled, machine.Survives punch) ↔
        machine.batch ≠ .aside ∨
          ∀ punch ∈ oneSpooled.spooled, punch.key ∈ keys [] ∨ punch ∈ machine.added) := by
  let final : Machine :=
    { files := { oneSpooled with path := none }, table := [punchOf "101"], proc := none,
      batch := .stored, added := [] }
  have executed : (List.replicate 6 SaveOutcome.commit).foldlM Machine.step
      (.initial oneSpooled [] .flush) = some final := rfl
  exact ⟨final, .of_foldlM executed, rfl,
    crash_survives_iff oneSpooled [] .flush _ final (.of_foldlM executed)⟩

/-- A flush killed after its rename: the restarted process finds no spool file and
never looks at the staging file. -/
theorem crash_after_rename_loses :
    ¬ ∀ (files : Files) (table : List Punch) (call : Call) (outcomes : List SaveOutcome)
        (machine : Machine), Run Machine.Step (.initial files table call) outcomes machine →
          ∀ punch ∈ files.spooled, machine.Survives punch := by
  intro survive
  let killed : Machine :=
    { files := { oneSpooled with path := none, staging := some 0 }, table := [],
      proc := some (.flushSpool .drainOpen), batch := .aside, added := [] }
  have executed : [SaveOutcome.commit, .commit].foldlM Machine.step
      (.initial oneSpooled [] .flush) = some killed := rfl
  have kept := survive oneSpooled [] .flush _ killed (.of_foldlM executed) (punchOf "101")
    (by decide)
  revert kept
  unfold Machine.Survives
  decide

end PumoBioMetric.Sync
