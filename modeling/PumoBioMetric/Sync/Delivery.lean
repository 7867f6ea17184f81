import PumoBioMetric.Library.TransitionRun
import PumoBioMetric.Sync.Punch

/-!
# Delivery through the spool

`ingest` calls and flush attempts as tasks that take one atomic step at a time:
a spool drain, a spool add or restore, or one `save_punches`.  Any number of
tasks share the spool and the table and run in any interleaving.  What a single
step conserves is stated once (`Task.step_conserves`); everything about runs
follows from it.
-/

set_option autoImplicit false

namespace PumoBioMetric.Sync

open PumoBioMetric.Router TransitionRun

/-- How one `save_punches` call ends.  Only `commit` changes the table. -/
inductive SaveOutcome where
  | commit
  | unavailable
  | otherError
  deriving DecidableEq

structure Store where
  spool : List Punch
  table : List Punch
  deriving DecidableEq

/-- A call in progress, named by the step it takes next, with its local batches. -/
inductive Task where
  | ingestDrain (punches : List Punch)
  | ingestSaveWaiting (punches waiting : List Punch)
  | ingestRestore (punches waiting : List Punch)
  | ingestSave (punches : List Punch)
  | ingestAdd (punches : List Punch)
  | flushDrain
  | flushSave (waiting : List Punch)
  | flushRestore (waiting : List Punch)
  deriving DecidableEq

def Task.held : Task → List Punch
  | .ingestDrain punches => punches
  | .ingestSaveWaiting punches waiting => waiting ++ punches
  | .ingestRestore punches waiting => waiting ++ punches
  | .ingestSave punches => punches
  | .ingestAdd punches => punches
  | .flushDrain => []
  | .flushSave waiting => waiting
  | .flushRestore waiting => waiting

/-- One atomic step; `none` is a call that returned or raised to its caller. -/
def Task.step (outcome : SaveOutcome) : Task → Store → Store × Option Task
  | .ingestDrain punches, store =>
      ({ store with spool := [] },
        some (if store.spool = [] then .ingestSave punches
          else .ingestSaveWaiting punches store.spool))
  | .ingestSaveWaiting punches waiting, store =>
      match outcome with
      | .commit =>
          ({ store with table := savePunches store.table waiting }, some (.ingestSave punches))
      | .unavailable => (store, some (.ingestRestore punches waiting))
      -- Only `LmsUnavailableError` restores the waiting batch here.
      | .otherError => (store, some (.ingestAdd punches))
  | .ingestRestore punches waiting, store =>
      ({ store with spool := store.spool ++ waiting }, some (.ingestAdd punches))
  | .ingestSave punches, store =>
      match outcome with
      | .commit => ({ store with table := savePunches store.table punches }, none)
      | .unavailable | .otherError => (store, some (.ingestAdd punches))
  | .ingestAdd punches, store => ({ store with spool := store.spool ++ punches }, none)
  | .flushDrain, store =>
      ({ store with spool := [] },
        if store.spool = [] then none else some (.flushSave store.spool))
  | .flushSave waiting, store =>
      match outcome with
      | .commit => ({ store with table := savePunches store.table waiting }, none)
      | .unavailable | .otherError => (store, some (.flushRestore waiting))
  | .flushRestore waiting, store => ({ store with spool := store.spool ++ waiting }, none)

def Task.isIngest : Task → Bool
  | .ingestDrain _ | .ingestSaveWaiting _ _ | .ingestRestore _ _ | .ingestSave _
  | .ingestAdd _ => true
  | .flushDrain | .flushSave _ | .flushRestore _ => false

/-! ## What one step conserves -/

/-- The punch is stored, spooled, or in the task's own batch. -/
def Kept (store : Store) (task : Option Task) (punch : Punch) : Prop :=
  punch.key ∈ keys store.table ∨ punch ∈ store.spool ∨
    ∃ running ∈ task, punch ∈ running.held

structure Conserves (store : Store) (task : Task) (store' : Store)
    (task' : Option Task) : Prop where
  stored : ∀ key ∈ keys store.table, key ∈ keys store'.table
  kept : ∀ punch, punch ∈ store.spool ∨ punch ∈ task.held → Kept store' task' punch
  fromBatch : ∀ punch, punch ∈ store'.spool ∨ (∃ running ∈ task', punch ∈ running.held) →
    punch ∈ store.spool ∨ punch ∈ task.held
  fromRow : ∀ key ∈ keys store'.table,
    key ∈ keys store.table ∨ ∃ punch ∈ task.held, punch.key = key
  distinct : (keys store.table).Nodup → (keys store'.table).Nodup

theorem conserves_of_moves {store : Store} {task : Task} (spool : List Punch)
    {task' : Option Task}
    (same : ∀ punch, punch ∈ spool ∨ (∃ running ∈ task', punch ∈ running.held) ↔
      punch ∈ store.spool ∨ punch ∈ task.held) :
    Conserves store task { store with spool := spool } task' where
  stored := fun _ held => held
  kept := fun punch held => Or.inr ((same punch).mpr held)
  fromBatch := fun punch held => (same punch).mp held
  fromRow := fun _ held => Or.inl held
  distinct := fun distinct => distinct

theorem conserves_of_commit {store : Store} {task : Task} {batch : List Punch}
    {task' : Option Task}
    (splits : ∀ punch, punch ∈ task.held ↔
      punch ∈ batch ∨ ∃ running ∈ task', punch ∈ running.held) :
    Conserves store task { store with table := savePunches store.table batch } task' where
  stored := fun key held => (mem_keys_savePunches _ _ key).mpr (Or.inl held)
  kept := by
    intro punch held
    rcases held with spooled | held
    · exact Or.inr (Or.inl spooled)
    · rcases (splits punch).mp held with saved | running
      · exact Or.inl ((mem_keys_savePunches _ _ _).mpr (Or.inr ⟨punch, saved, rfl⟩))
      · exact Or.inr (Or.inr running)
  fromBatch := by
    intro punch held
    rcases held with spooled | running
    · exact Or.inl spooled
    · exact Or.inr ((splits punch).mpr (Or.inr running))
  fromRow := by
    intro key held
    rcases (mem_keys_savePunches _ _ key).mp held with old | ⟨punch, saved, same⟩
    · exact Or.inl old
    · exact Or.inr ⟨punch, (splits punch).mpr (Or.inl saved), same⟩
  distinct := nodup_keys_savePunches _ _

/-- Every step conserves every punch, unless an `ingest` meets an exception other
than `LmsUnavailableError`. -/
theorem Task.step_conserves (task : Task) (store : Store) (outcome : SaveOutcome)
    (expected : task.isIngest = true → outcome ≠ .otherError) :
    Conserves store task (task.step outcome store).1 (task.step outcome store).2 := by
  cases task with
  | ingestDrain punches =>
      refine conserves_of_moves _ ?_
      intro punch
      by_cases empty : store.spool = []
      · simp [Task.step, empty, Task.held]
      · simp [Task.step, empty, Task.held]
  | ingestSaveWaiting punches waiting =>
      cases outcome with
      | commit =>
          apply conserves_of_commit
          intro punch
          simp [Task.step, Task.held]
      | unavailable =>
          apply conserves_of_moves store.spool
          intro punch
          simp [Task.step, Task.held]
      | otherError => exact absurd rfl (expected rfl)
  | ingestRestore punches waiting =>
      refine conserves_of_moves _ ?_
      intro punch
      simp [Task.step, Task.held, or_assoc]
  | ingestSave punches =>
      cases outcome with
      | commit =>
          apply conserves_of_commit
          intro punch
          simp [Task.step, Task.held]
      | unavailable =>
          apply conserves_of_moves store.spool
          intro punch
          simp [Task.step, Task.held]
      | otherError => exact absurd rfl (expected rfl)
  | ingestAdd punches =>
      refine conserves_of_moves _ ?_
      intro punch
      simp [Task.step, Task.held]
  | flushDrain =>
      refine conserves_of_moves _ ?_
      intro punch
      by_cases empty : store.spool = []
      · simp [Task.step, empty, Task.held]
      · simp [Task.step, empty, Task.held]
  | flushSave waiting =>
      cases outcome with
      | commit =>
          apply conserves_of_commit
          intro punch
          simp [Task.step, Task.held]
      | unavailable | otherError =>
          apply conserves_of_moves store.spool
          intro punch
          simp [Task.step, Task.held]
  | flushRestore waiting =>
      refine conserves_of_moves _ ?_
      intro punch
      simp [Task.step, Task.held]

/-! ## The bridge: any number of tasks over one spool and one table -/

structure Bridge where
  store : Store
  tasks : List Task
  /-- What `to_punch` accepted in the `ingest` calls made so far: see `pushed_run`. -/
  pushed : List Punch
  deriving DecidableEq

inductive Event where
  /-- A call of `ingest(records)`. -/
  | ingest (records : List PunchRecord)
  /-- An attempt of `_flush`. -/
  | flush
  /-- The next step of the task at `index`; `outcome` matters to a save only. -/
  | task (index : Nat) (outcome : SaveOutcome)
  deriving DecidableEq

/-- `ingest` returns at once when no record is usable. -/
def ingestTask (records : List PunchRecord) : List Task :=
  if usable records = [] then [] else [.ingestDrain (usable records)]

def Bridge.step (bridge : Bridge) : Event → Option Bridge
  | .ingest records =>
      some { bridge with
        tasks := bridge.tasks ++ ingestTask records
        pushed := bridge.pushed ++ usable records }
  | .flush => some { bridge with tasks := bridge.tasks ++ [.flushDrain] }
  | .task index outcome =>
      match bridge.tasks[index]? with
      | none => none
      | some task =>
          let after := task.step outcome bridge.store
          some { bridge with
            store := after.1
            tasks := bridge.tasks.take index ++ after.2.toList ++
              bridge.tasks.drop (index + 1) }

def Bridge.Step (before : Bridge) (event : Event) (after : Bridge) : Prop :=
  before.step event = some after

def Event.records : Event → List PunchRecord
  | .ingest records => records
  | _ => []

/-- What `to_punch` accepts of the records of all `ingest` calls of a history. -/
def pushedBy (events : List Event) : List Punch := usable (events.flatMap Event.records)

theorem pushedBy_cons (event : Event) (rest : List Event) :
    pushedBy (event :: rest) = usable event.records ++ pushedBy rest := by
  rw [pushedBy, List.flatMap_cons, usable, List.filterMap_append]
  rfl

theorem pushed_step {before after : Bridge} {event : Event}
    (taken : Bridge.Step before event after) :
    after.pushed = before.pushed ++ usable event.records := by
  cases event with
  | ingest records => cases Option.some.inj taken; rfl
  | flush => cases Option.some.inj taken; exact (List.append_nil _).symm
  | task index outcome =>
      rw [Bridge.Step, Bridge.step] at taken
      split at taken
      · cases taken
      · cases Option.some.inj taken
        exact (List.append_nil _).symm

/-- The calls of a run are what was pushed in it. -/
theorem pushed_run {before after : Bridge} {events : List Event}
    (run : Run Bridge.Step before events after) :
    after.pushed = before.pushed ++ pushedBy events := by
  induction run with
  | nil state => exact (List.append_nil _).symm
  | cons head _ ih => rw [ih, pushed_step head, pushedBy_cons, List.append_assoc]

theorem Task.table_step (task : Task) (store : Store) (outcome : SaveOutcome) :
    store.table <+: (task.step outcome store).1.table := by
  have saved : ∀ batch, store.table <+: savePunches store.table batch :=
    prefix_savePunches store.table
  cases task with
  | ingestSaveWaiting | ingestSave | flushSave =>
      cases outcome with
      | commit => exact saved _
      | unavailable | otherError => exact List.prefix_rfl
  | ingestDrain | ingestRestore | ingestAdd | flushDrain | flushRestore => exact List.prefix_rfl

theorem table_run {before after : Bridge} {events : List Event}
    (run : Run Bridge.Step before events after) : before.store.table <+: after.store.table := by
  induction run with
  | nil state => exact List.prefix_rfl
  | @cons first middle final event rest head _ ih =>
      refine List.IsPrefix.trans ?_ ih
      cases event with
      | ingest records | flush => cases Option.some.inj head; exact List.prefix_rfl
      | task index outcome =>
          rw [Bridge.Step, Bridge.step] at head
          split at head
          · cases head
          · cases Option.some.inj head
            exact Task.table_step _ _ _

/-- Inside `ingest` a save raises only `LmsUnavailableError`. -/
def ExpectedErrors (bridge : Bridge) : Event → Prop
  | .task index outcome =>
      ∀ task ∈ bridge.tasks[index]?, task.isIngest = true → outcome ≠ .otherError
  | _ => True

def Bridge.initial (spool table : List Punch) : Bridge :=
  { store := { spool := spool, table := table }, tasks := [], pushed := [] }

def Bridge.Holds (bridge : Bridge) (punch : Punch) : Prop :=
  punch.key ∈ keys bridge.store.table ∨ punch ∈ bridge.store.spool ∨
    ∃ task ∈ bridge.tasks, punch ∈ task.held

structure Accounted (spool table : List Punch) (bridge : Bridge) : Prop where
  kept : ∀ punch ∈ spool ++ bridge.pushed, bridge.Holds punch
  known : ∀ punch, punch ∈ bridge.store.spool ∨
    (∃ task ∈ bridge.tasks, punch ∈ task.held) → punch ∈ spool ++ bridge.pushed
  stored : ∀ key ∈ keys table, key ∈ keys bridge.store.table
  fromRow : ∀ key ∈ keys bridge.store.table,
    key ∈ keys table ∨ key ∈ keys (spool ++ bridge.pushed)
  distinct : (keys bridge.store.table).Nodup

theorem accounted_initial (spool table : List Punch) (distinct : (keys table).Nodup) :
    Accounted spool table (.initial spool table) where
  kept := by
    intro punch member
    have spooled : punch ∈ spool := by simpa [Bridge.initial] using member
    exact Or.inr (Or.inl spooled)
  known := by
    intro punch member
    simpa [Bridge.initial] using member
  stored := fun _ held => held
  fromRow := fun _ held => Or.inl held
  distinct := distinct

theorem mem_replaced_iff (tasks : List Task) (index : Nat) (new : Option Task)
    (task : Task) :
    task ∈ tasks.take index ++ new.toList ++ tasks.drop (index + 1) ↔
      task ∈ new ∨ task ∈ tasks.take index ++ tasks.drop (index + 1) := by
  simp only [List.mem_append, Option.mem_toList]
  tauto

theorem mem_around_iff {tasks : List Task} {index : Nat} {old : Task}
    (found : tasks[index]? = some old) (task : Task) :
    task ∈ tasks ↔ task = old ∨ task ∈ tasks.take index ++ tasks.drop (index + 1) := by
  obtain ⟨inside, isOld⟩ := List.getElem?_eq_some_iff.mp found
  have parts : tasks = tasks.take index ++ old :: tasks.drop (index + 1) := by
    rw [← isOld, List.getElem_cons_drop, List.take_append_drop]
  constructor
  · intro member
    rw [parts, List.mem_append, List.mem_cons] at member
    rw [List.mem_append]
    tauto
  · intro member
    rw [parts, List.mem_append, List.mem_cons]
    rw [List.mem_append] at member
    tauto

theorem accounted_task {spool table : List Punch} {bridge : Bridge} {index : Nat}
    {task : Task} (accounted : Accounted spool table bridge)
    (found : bridge.tasks[index]? = some task) {store : Store} {next : Option Task}
    (conserves : Conserves bridge.store task store next) :
    Accounted spool table { bridge with
      store := store
      tasks := bridge.tasks.take index ++ next.toList ++ bridge.tasks.drop (index + 1) } where
  kept := by
    intro punch member
    rcases accounted.kept punch member with stored | spooled | ⟨other, otherMem, held⟩
    · exact Or.inl (conserves.stored _ stored)
    · rcases conserves.kept punch (Or.inl spooled) with stored | spooled | ⟨running, isNext, held⟩
      · exact Or.inl stored
      · exact Or.inr (Or.inl spooled)
      · exact Or.inr (Or.inr ⟨running, (mem_replaced_iff _ _ next _).mpr (Or.inl isNext), held⟩)
    · rcases (mem_around_iff found other).mp otherMem with rfl | elsewhere
      · rcases conserves.kept punch (Or.inr held) with stored | spooled | ⟨running, isNext, held⟩
        · exact Or.inl stored
        · exact Or.inr (Or.inl spooled)
        · exact Or.inr (Or.inr
            ⟨running, (mem_replaced_iff _ _ next _).mpr (Or.inl isNext), held⟩)
      · exact Or.inr (Or.inr
          ⟨other, (mem_replaced_iff _ _ next _).mpr (Or.inr elsewhere), held⟩)
  known := by
    intro punch member
    have sources : (punch ∈ store.spool ∨ ∃ running ∈ next, punch ∈ running.held) ∨
        ∃ other ∈ bridge.tasks, punch ∈ other.held := by
      rcases member with spooled | ⟨other, otherMem, held⟩
      · exact Or.inl (Or.inl spooled)
      · rcases (mem_replaced_iff _ _ next other).mp otherMem with isNext | elsewhere
        · exact Or.inl (Or.inr ⟨other, isNext, held⟩)
        · exact Or.inr ⟨other, (mem_around_iff found other).mpr (Or.inr elsewhere), held⟩
    rcases sources with moved | ⟨other, otherMem, held⟩
    · rcases conserves.fromBatch punch moved with spooled | held
      · exact accounted.known punch (Or.inl spooled)
      · exact accounted.known punch
          (Or.inr ⟨task, (mem_around_iff found task).mpr (Or.inl rfl), held⟩)
    · exact accounted.known punch (Or.inr ⟨other, otherMem, held⟩)
  stored := fun key held => conserves.stored key (accounted.stored key held)
  fromRow := by
    intro key member
    rcases conserves.fromRow key member with old | ⟨punch, held, same⟩
    · exact accounted.fromRow key old
    · right
      have known := accounted.known punch
        (Or.inr ⟨task, (mem_around_iff found task).mpr (Or.inl rfl), held⟩)
      exact same ▸ List.mem_map_of_mem known
  distinct := conserves.distinct accounted.distinct

theorem accounted_ingest {spool table : List Punch} {bridge : Bridge}
    (accounted : Accounted spool table bridge) (records : List PunchRecord) :
    Accounted spool table { bridge with
      tasks := bridge.tasks ++ ingestTask records
      pushed := bridge.pushed ++ usable records } where
  kept := by
    intro punch member
    rw [← List.append_assoc, List.mem_append] at member
    rcases member with old | new
    · rcases accounted.kept punch old with stored | spooled | ⟨task, taskMem, held⟩
      · exact Or.inl stored
      · exact Or.inr (Or.inl spooled)
      · exact Or.inr (Or.inr ⟨task, List.mem_append_left _ taskMem, held⟩)
    · have some_usable : usable records ≠ [] := List.ne_nil_of_mem new
      refine Or.inr (Or.inr ⟨.ingestDrain (usable records), ?_, new⟩)
      simp [ingestTask, some_usable]
  known := by
    intro punch member
    rw [← List.append_assoc]
    rcases member with spooled | ⟨task, taskMem, held⟩
    · exact List.mem_append_left _ (accounted.known punch (Or.inl spooled))
    · rcases List.mem_append.mp taskMem with old | new
      · exact List.mem_append_left _ (accounted.known punch (Or.inr ⟨task, old, held⟩))
      · unfold ingestTask at new
        split at new
        · simp at new
        · rw [List.mem_singleton] at new
          subst new
          exact List.mem_append_right _ held
  stored := accounted.stored
  fromRow := by
    intro key member
    rcases accounted.fromRow key member with old | known
    · exact Or.inl old
    · right
      rw [← List.append_assoc, keys, List.map_append]
      exact List.mem_append_left _ known
  distinct := accounted.distinct

theorem accounted_flush {spool table : List Punch} {bridge : Bridge}
    (accounted : Accounted spool table bridge) :
    Accounted spool table { bridge with tasks := bridge.tasks ++ [.flushDrain] } where
  kept := by
    intro punch member
    rcases accounted.kept punch member with stored | spooled | ⟨task, taskMem, held⟩
    · exact Or.inl stored
    · exact Or.inr (Or.inl spooled)
    · exact Or.inr (Or.inr ⟨task, List.mem_append_left _ taskMem, held⟩)
  known := by
    intro punch member
    rcases member with spooled | ⟨task, taskMem, held⟩
    · exact accounted.known punch (Or.inl spooled)
    · rcases List.mem_append.mp taskMem with old | new
      · exact accounted.known punch (Or.inr ⟨task, old, held⟩)
      · rw [List.mem_singleton] at new
        subst new
        simp [Task.held] at held
  stored := accounted.stored
  fromRow := accounted.fromRow
  distinct := accounted.distinct

theorem accounted_step {spool table : List Punch} (before : Bridge) (event : Event)
    (after : Bridge) (accounted : Accounted spool table before)
    (step : Guarded ExpectedErrors Bridge.Step before event after) :
    Accounted spool table after := by
  obtain ⟨expected, taken⟩ := step
  cases event with
  | ingest records =>
      cases Option.some.inj taken
      exact accounted_ingest accounted records
  | flush =>
      cases Option.some.inj taken
      exact accounted_flush accounted
  | task index outcome =>
      cases found : before.tasks[index]? with
      | none => simp [Bridge.Step, Bridge.step, found] at taken
      | some task =>
          simp only [Bridge.Step, Bridge.step, found] at taken
          cases Option.some.inj taken
          exact accounted_task accounted found
            (task.step_conserves before.store outcome (expected task found))

/-- Exactly-once delivery: over every interleaving of `ingest` calls and flush
attempts no punch is lost, no key appears from nowhere or twice, and a quiet
bridge has stored exactly what it was given. -/
theorem delivery_exactly_once (spool table : List Punch) (distinct : (keys table).Nodup)
    (events : List Event) (bridge : Bridge)
    (run : Run (Guarded ExpectedErrors Bridge.Step) (.initial spool table) events bridge) :
    (∀ punch ∈ spool ++ bridge.pushed, bridge.Holds punch) ∧
    (∀ key ∈ keys bridge.store.table,
      key ∈ keys table ∨ key ∈ keys (spool ++ bridge.pushed)) ∧
    (keys bridge.store.table).Nodup ∧
    (bridge.store.spool = [] → bridge.tasks = [] → ∀ key,
      key ∈ keys bridge.store.table ↔ key ∈ keys table ∨ key ∈ keys (spool ++ bridge.pushed)) := by
  have accounted : Accounted spool table bridge :=
    run.preserves accounted_step (accounted_initial spool table distinct)
  refine ⟨accounted.kept, accounted.fromRow, accounted.distinct, ?_⟩
  intro drained quiet key
  constructor
  · exact accounted.fromRow key
  · rintro (old | known)
    · exact accounted.stored key old
    · obtain ⟨punch, member, rfl⟩ := List.mem_map.mp known
      rcases accounted.kept punch member with stored | spooled | ⟨task, taskMem, _⟩
      · exact stored
      · simp [drained] at spooled
      · simp [quiet] at taskMem

theorem delivery_exactly_once_outage :
    ∃ bridge, Run (Guarded ExpectedErrors Bridge.Step) (.initial [] [])
        [.ingest [sampleRecord], .task 0 .commit, .task 0 .unavailable, .task 0 .commit]
        bridge ∧
      bridge.tasks = [] ∧ ∀ punch ∈ [] ++ bridge.pushed, bridge.Holds punch := by
  let quiet : Bridge :=
    { store := { spool := usable [sampleRecord], table := [] }, tasks := [],
      pushed := usable [sampleRecord] }
  have pushed : usable [sampleRecord] ≠ [] := by decide
  have run : Run (Guarded ExpectedErrors Bridge.Step) (.initial [] [])
      [.ingest [sampleRecord], .task 0 .commit, .task 0 .unavailable, .task 0 .commit]
      quiet := by
    have begun : Bridge.Step (.initial [] []) (.ingest [sampleRecord])
        { Bridge.initial [] [] with
          tasks := [.ingestDrain (usable [sampleRecord])]
          pushed := usable [sampleRecord] } := by
      simp [Bridge.Step, Bridge.step, Bridge.initial, ingestTask, pushed]
    refine .cons ⟨trivial, begun⟩ ?_
    refine .cons ⟨fun _ _ _ => by decide, rfl⟩ ?_
    refine .cons ⟨fun _ _ _ => by decide, rfl⟩ ?_
    refine .cons ⟨fun _ _ _ => by decide, rfl⟩ ?_
    exact .nil quiet
  exact ⟨quiet, run, rfl, (delivery_exactly_once [] [] List.nodup_nil _ quiet run).1⟩

end PumoBioMetric.Sync
