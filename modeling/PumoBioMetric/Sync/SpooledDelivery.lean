import PumoBioMetric.Sync.IngestExits
import PumoBioMetric.Sync.SpoolText

/-!
# Delivery over the text of the spool file

The bridge as the service runs it: the spool is the text of a file, a drain parses its lines,
and a save gives the database the values that the parser made.  Every run of it is a run of
the bridge over lists of punches.
-/

set_option autoImplicit false

namespace PumoBioMetric.Sync

open PumoBioMetric.Py PumoBioMetric.Router TransitionRun

/-! ## The bridge over the file -/

/-- The row that the database stores for a punch, `none` where it refuses the values.  A punch
whose fields have the types of the columns is stored as it is. -/
structure ColumnReading where
  row : SpooledPunch → Option Punch
  typed : ∀ punch : Punch, row punch.held = some punch

structure FileStore where
  file : SpoolText
  table : List Punch

/-- A call in progress, named as the tasks over lists are. -/
inductive FileTask where
  | ingestDrain (punches : List SpooledPunch)
  | ingestSaveWaiting (punches waiting : List SpooledPunch)
  | ingestRestore (punches waiting : List SpooledPunch)
  | ingestSave (punches : List SpooledPunch)
  | ingestAdd (punches : List SpooledPunch)
  | flushDrain
  | flushSave (waiting : List SpooledPunch)
  | flushRestore (waiting : List SpooledPunch)

def FileTask.held : FileTask → List SpooledPunch
  | .ingestDrain punches => punches
  | .ingestSaveWaiting punches waiting => waiting ++ punches
  | .ingestRestore punches waiting => waiting ++ punches
  | .ingestSave punches => punches
  | .ingestAdd punches => punches
  | .flushDrain => []
  | .flushSave waiting => waiting
  | .flushRestore waiting => waiting

def FileTask.isIngest : FileTask → Bool
  | .ingestDrain _ | .ingestSaveWaiting _ _ | .ingestRestore _ _ | .ingestSave _
  | .ingestAdd _ => true
  | .flushDrain | .flushSave _ | .flushRestore _ => false

section

variable [ValueTables] (columns : ColumnReading)

/-- `save_punches` of a batch that is not empty; a value that a column refuses is a psycopg2
error. -/
def saveBatch (outcome : SaveOutcome) (table : List Punch) (batch : List SpooledPunch) :
    SaveOutcome × List Punch :=
  match outcome with
  | .commit =>
      match batch.mapM columns.row with
      | some rows => (.commit, savePunches table rows)
      | none => (.unavailable, table)
  | .unavailable => (.unavailable, table)
  | .otherError => (.otherError, table)

/-- One atomic step; `none` is a call that returned or raised to its caller. -/
def FileTask.step (outcome : SaveOutcome) : FileTask → FileStore → FileStore × Option FileTask
  | .ingestDrain punches, store =>
      let (result, file) := store.file.drain
      ({ store with file := file },
        match result with
        | .ok [] => some (.ingestSave punches)
        | .ok (first :: others) => some (.ingestSaveWaiting punches (first :: others))
        -- The outer handler holds the pushed punches; what the file had is gone.
        | .error _ => some (.ingestAdd punches))
  | .ingestSaveWaiting punches waiting, store =>
      match saveBatch columns outcome store.table waiting with
      | (.commit, table) => ({ store with table := table }, some (.ingestSave punches))
      | (.unavailable, _) => (store, some (.ingestRestore punches waiting))
      | (.otherError, _) => (store, some (.ingestAdd punches))
  | .ingestRestore punches waiting, store =>
      ({ store with file := store.file.add waiting }, some (.ingestAdd punches))
  | .ingestSave punches, store =>
      match saveBatch columns outcome store.table punches with
      | (.commit, table) => ({ store with table := table }, none)
      | (.unavailable, _) | (.otherError, _) => (store, some (.ingestAdd punches))
  | .ingestAdd punches, store => ({ store with file := store.file.add punches }, none)
  | .flushDrain, store =>
      let (result, file) := store.file.drain
      ({ store with file := file },
        match result with
        | .ok [] => none
        | .ok (first :: others) => some (.flushSave (first :: others))
        | .error _ => none)
  | .flushSave waiting, store =>
      match saveBatch columns outcome store.table waiting with
      | (.commit, table) => ({ store with table := table }, none)
      | (.unavailable, _) | (.otherError, _) => (store, some (.flushRestore waiting))
  | .flushRestore waiting, store => ({ store with file := store.file.add waiting }, none)

structure FileBridge where
  store : FileStore
  tasks : List FileTask

/-- The events are those of the bridge over lists. -/
def FileBridge.step (bridge : FileBridge) : Event → Option FileBridge
  | .ingest records =>
      some { bridge with
        tasks := bridge.tasks ++
          if usable records = [] then []
          else [.ingestDrain ((usable records).map Punch.held)] }
  | .flush => some { bridge with tasks := bridge.tasks ++ [.flushDrain] }
  | .task index outcome =>
      match bridge.tasks[index]? with
      | none => none
      | some task =>
          let after := task.step columns outcome bridge.store
          some { bridge with
            store := after.1
            tasks := bridge.tasks.take index ++ after.2.toList ++
              bridge.tasks.drop (index + 1) }

def FileBridge.Step (before : FileBridge) (event : Event) (after : FileBridge) : Prop :=
  before.step columns event = some after

end

/-- Inside `ingest` a save raises only `LmsUnavailableError`. -/
def ExpectedFileErrors (bridge : FileBridge) : Event → Prop
  | .task index outcome =>
      ∀ task ∈ bridge.tasks[index]?, task.isIngest = true → outcome ≠ .otherError
  | _ => True

def FileBridge.initial (file : SpoolText) (table : List Punch) : FileBridge :=
  { store := { file := file, table := table }, tasks := [] }

/-! ## The bridge over lists is its specification -/

def Task.onFile : Task → FileTask
  | .ingestDrain punches => .ingestDrain (punches.map Punch.held)
  | .ingestSaveWaiting punches waiting =>
      .ingestSaveWaiting (punches.map Punch.held) (waiting.map Punch.held)
  | .ingestRestore punches waiting =>
      .ingestRestore (punches.map Punch.held) (waiting.map Punch.held)
  | .ingestSave punches => .ingestSave (punches.map Punch.held)
  | .ingestAdd punches => .ingestAdd (punches.map Punch.held)
  | .flushDrain => .flushDrain
  | .flushSave waiting => .flushSave (waiting.map Punch.held)
  | .flushRestore waiting => .flushRestore (waiting.map Punch.held)

theorem Task.held_onFile (task : Task) : task.onFile.held = task.held.map Punch.held := by
  cases task <;> simp [Task.onFile, FileTask.held, Task.held]

theorem Task.isIngest_onFile (task : Task) : task.onFile.isIngest = task.isIngest := by
  cases task <;> rfl

/-- Every punch that is spooled, or will be, is of a whole second. -/
def WholeSeconds (punches : List Punch) : Prop :=
  ∀ punch ∈ punches, punch.deviceTime.microsecond = 0

theorem wholeSeconds_append {front back : List Punch} :
    WholeSeconds (front ++ back) ↔ WholeSeconds front ∧ WholeSeconds back := by
  simp [WholeSeconds, or_imp, forall_and]

structure StoreRefines (store : FileStore) (spec : Store) : Prop where
  file : store.file.Holds spec.spool
  table : store.table = spec.table

structure Refines (bridge : FileBridge) (spec : Bridge) : Prop where
  store : StoreRefines bridge.store spec.store
  tasks : bridge.tasks = spec.tasks.map Task.onFile
  whole : ∀ task ∈ spec.tasks, WholeSeconds task.held

section

variable [ValueTables] {columns : ColumnReading}

omit [ValueTables] in
theorem saveBatch_held (outcome : SaveOutcome) (table batch : List Punch) :
    saveBatch columns outcome table (batch.map Punch.held) =
      (outcome, if outcome = .commit then savePunches table batch else table) := by
  have read : (batch.map Punch.held).mapM columns.row = some batch := by
    induction batch with
    | nil => rfl
    | cons punch rest ih => simp [List.mapM_cons, columns.typed, ih]
  cases outcome with
  | commit => simp [saveBatch, read]
  | unavailable => rfl
  | otherError => rfl

variable (columns) in
/-- A step over the file is the step over lists. -/
theorem step_onFile (task : Task) (outcome : SaveOutcome) {store : FileStore} {spec : Store}
    (refines : StoreRefines store spec) (whole : WholeSeconds task.held) :
    StoreRefines (task.onFile.step columns outcome store).1 (task.step outcome spec).1 ∧
      (task.onFile.step columns outcome store).2 =
        (task.step outcome spec).2.map Task.onFile ∧
      ∀ next ∈ (task.step outcome spec).2, WholeSeconds next.held := by
  obtain ⟨file, table⟩ := store
  obtain ⟨holds, rfl⟩ := refines
  have emptied : SpoolText.Holds none [] := ⟨rfl, by simp⟩
  cases task with
  | ingestDrain punches =>
      simp only [Task.onFile, FileTask.step, Task.step, holds.drain]
      cases spooled : spec.spool with
      | nil => exact ⟨⟨emptied, rfl⟩, rfl, by simpa [Task.held] using whole⟩
      | cons first others =>
          refine ⟨⟨emptied, rfl⟩, by simp [Task.onFile], ?_⟩
          have stored : WholeSeconds (first :: others) := spooled ▸ holds.whole
          rintro next ⟨⟩
          exact wholeSeconds_append.mpr ⟨stored, whole⟩
  | ingestSaveWaiting punches waiting =>
      obtain ⟨waitingWhole, punchesWhole⟩ := wholeSeconds_append.mp whole
      simp only [Task.onFile, FileTask.step, Task.step, saveBatch_held]
      cases outcome with
      | commit => exact ⟨⟨holds, rfl⟩, rfl, by simpa [Task.held] using punchesWhole⟩
      | unavailable =>
          exact ⟨⟨holds, rfl⟩, rfl,
            by simpa [Task.held, wholeSeconds_append] using ⟨waitingWhole, punchesWhole⟩⟩
      | otherError => exact ⟨⟨holds, rfl⟩, rfl, by simpa [Task.held] using punchesWhole⟩
  | ingestRestore punches waiting =>
      obtain ⟨waitingWhole, punchesWhole⟩ := wholeSeconds_append.mp whole
      exact ⟨⟨holds.add waitingWhole, rfl⟩, rfl, by simpa [Task.step, Task.held] using punchesWhole⟩
  | ingestSave punches =>
      simp only [Task.onFile, FileTask.step, Task.step, saveBatch_held]
      cases outcome with
      | commit => exact ⟨⟨holds, rfl⟩, rfl, by simp⟩
      | unavailable | otherError =>
          exact ⟨⟨holds, rfl⟩, rfl, by simpa [Task.held] using whole⟩
  | ingestAdd punches => exact ⟨⟨holds.add whole, rfl⟩, rfl, by simp [Task.step]⟩
  | flushDrain =>
      simp only [Task.onFile, FileTask.step, Task.step, holds.drain]
      cases spooled : spec.spool with
      | nil => exact ⟨⟨emptied, rfl⟩, rfl, by simp⟩
      | cons first others =>
          refine ⟨⟨emptied, rfl⟩, by simp [Task.onFile], ?_⟩
          have stored : WholeSeconds (first :: others) := spooled ▸ holds.whole
          simpa [Task.held] using stored
  | flushSave waiting =>
      simp only [Task.onFile, FileTask.step, Task.step, saveBatch_held]
      cases outcome with
      | commit => exact ⟨⟨holds, rfl⟩, rfl, by simp⟩
      | unavailable | otherError =>
          exact ⟨⟨holds, rfl⟩, rfl, by simpa [Task.held] using whole⟩
  | flushRestore waiting => exact ⟨⟨holds.add whole, rfl⟩, rfl, by simp [Task.step]⟩

/-- A step of the file bridge is the same step of the bridge over lists. -/
theorem fileBridge_step (before : FileBridge) (event : Event) (after : FileBridge) (spec : Bridge)
    (refines : Refines before spec)
    (taken : Guarded ExpectedFileErrors (FileBridge.Step columns) before event after) :
    ∃ spec', Guarded ExpectedErrors Bridge.Step spec event spec' ∧ Refines after spec' := by
  obtain ⟨expected, step⟩ := taken
  cases event with
  | ingest records =>
      cases Option.some.inj step
      refine ⟨_, ⟨trivial, rfl⟩, refines.store, ?_, ?_⟩
      · dsimp only
        rw [refines.tasks, List.map_append, ingestTask]
        split <;> rfl
      · intro task member
        rcases List.mem_append.mp member with old | new
        · exact refines.whole task old
        · unfold ingestTask at new
          split at new
          · cases new
          · rw [List.mem_singleton] at new
            subst new
            intro punch accepted
            obtain ⟨record, _, read⟩ := List.mem_filterMap.mp accepted
            exact toPunch_whole read
  | flush =>
      cases Option.some.inj step
      refine ⟨_, ⟨trivial, rfl⟩, refines.store, ?_, ?_⟩
      · dsimp only
        rw [refines.tasks, List.map_append]
        rfl
      · intro task member
        rcases List.mem_append.mp member with old | new
        · exact refines.whole task old
        · rw [List.mem_singleton] at new
          subst new
          intro punch held
          cases held
  | task index outcome =>
      have same : before.tasks[index]? = spec.tasks[index]?.map Task.onFile := by
        rw [refines.tasks, List.getElem?_map]
      cases found : spec.tasks[index]? with
      | none =>
          rw [found] at same
          simp [FileBridge.Step, FileBridge.step, same] at step
      | some task =>
          rw [found] at same
          have whole := refines.whole task (List.mem_of_getElem? found)
          obtain ⟨store, next, nextWhole⟩ :=
            step_onFile columns task outcome refines.store whole
          simp only [FileBridge.Step, FileBridge.step, same, Option.map_some] at step
          cases Option.some.inj step
          refine ⟨{ spec with
            store := (task.step outcome spec.store).1
            tasks := spec.tasks.take index ++ (task.step outcome spec.store).2.toList ++
              spec.tasks.drop (index + 1) }, ⟨?_, ?_⟩, store, ?_, ?_⟩
          · intro other listed ingests
            rw [found] at listed
            cases listed
            exact expected task.onFile (by rw [same]; rfl) (task.isIngest_onFile.trans ingests)
          · simp [Bridge.Step, Bridge.step, found]
          · dsimp only
            rw [refines.tasks, next]
            simp [List.map_take, List.map_drop, Option.toList_map]
          · intro other member
            rcases (mem_replaced_iff spec.tasks index _ other).mp member with isNext | elsewhere
            · exact nextWhole other isNext
            · exact refines.whole other ((mem_around_iff found other).mpr (Or.inr elsewhere))

/-! ## Runs -/

theorem fileBridge_simulated {spool table : List Punch} {file : SpoolText}
    (holds : file.Holds spool) {events : List Event} {bridge : FileBridge}
    (run : Run (Guarded ExpectedFileErrors (FileBridge.Step columns)) (.initial file table)
      events bridge) :
    ∃ spec, Run (Guarded ExpectedErrors Bridge.Step) (.initial spool table) events spec ∧
      Refines bridge spec := by
  refine run.simulated fileBridge_step ⟨⟨holds, rfl⟩, rfl, ?_⟩
  intro task member
  cases member

theorem fileBridge_accounted {spool table : List Punch} {file : SpoolText}
    (holds : file.Holds spool) (distinct : (keys table).Nodup) {events : List Event}
    {bridge : FileBridge}
    (run : Run (Guarded ExpectedFileErrors (FileBridge.Step columns)) (.initial file table)
      events bridge) :
    ∃ spec, Refines bridge spec ∧ Accounted spool table spec ∧ spec.pushed = pushedBy events ∧
      table <+: spec.store.table := by
  obtain ⟨spec, specRun, refines⟩ := fileBridge_simulated holds run
  have start := accounted_initial spool table distinct
  have taken := specRun.mono fun _ _ _ => And.right
  exact ⟨spec, refines, specRun.preserves accounted_step start, pushed_run taken, table_run taken⟩

def SpoolText.spooled (file : SpoolText) : List SpooledPunch := (file.drain.1.toOption).getD []

/-- Stored under its key, a line of the file, or in the batch of an unfinished call. -/
def FileBridge.Keeps (bridge : FileBridge) (punch : Punch) : Prop :=
  punch.key ∈ keys bridge.store.table ∨ punch.held ∈ bridge.store.file.spooled ∨
    ∃ task ∈ bridge.tasks, punch.held ∈ task.held

/-- `status()["spooled"]` -/
def FileBridge.statusSpooled (bridge : FileBridge) : Nat := bridge.store.file.pending

theorem keeps_of_refines {bridge : FileBridge} {spec : Bridge} (refines : Refines bridge spec)
    {punch : Punch} (kept : spec.Holds punch) : bridge.Keeps punch := by
  rcases kept with stored | spooled | ⟨task, member, held⟩
  · left
    rw [refines.store.table]
    exact stored
  · right; left
    rw [SpoolText.spooled, refines.store.file.drain]
    exact List.mem_map_of_mem spooled
  · right; right
    refine ⟨task.onFile, ?_, ?_⟩
    · rw [refines.tasks]
      exact List.mem_map_of_mem member
    · rw [task.held_onFile]
      exact List.mem_map_of_mem held

omit [ValueTables] in
theorem Accounted.saved_iff {spool table : List Punch} {spec : Bridge}
    (accounted : Accounted spool table spec) (idle : spec.tasks = []) (key : PunchKey) :
    key ∈ keys (savePunches spec.store.table spec.store.spool) ↔
      key ∈ keys table ∨ key ∈ keys (spool ++ spec.pushed) := by
  rw [mem_keys_savePunches]
  constructor
  · rintro (stored | ⟨punch, spooled, rfl⟩)
    · exact accounted.fromRow key stored
    · exact Or.inr (List.mem_map_of_mem (accounted.known punch (Or.inl spooled)))
  · rintro (old | known)
    · exact Or.inl (accounted.stored key old)
    · obtain ⟨punch, member, rfl⟩ := List.mem_map.mp known
      rcases accounted.kept punch member with stored | spooled | ⟨task, taskMem, _⟩
      · exact Or.inl stored
      · exact Or.inr ⟨punch, spooled, rfl⟩
      · rw [idle] at taskMem
        cases taskMem

/-- Delivery over the text of the spool file: in every interleaving no pushed punch is lost, no
line is dropped, no key appears from nowhere or twice, and a quiet service with nothing pending
has stored exactly what it was given. -/
theorem file_delivery_exactly_once {spool table : List Punch} {file : SpoolText}
    (holds : file.Holds spool) (distinct : (keys table).Nodup) {events : List Event}
    {bridge : FileBridge}
    (run : Run (Guarded ExpectedFileErrors (FileBridge.Step columns)) (.initial file table)
      events bridge) :
    (∀ punch ∈ spool ++ pushedBy events, bridge.Keeps punch) ∧
    (∀ key ∈ keys bridge.store.table,
      key ∈ keys table ∨ key ∈ keys (spool ++ pushedBy events)) ∧
    table <+: bridge.store.table ∧ (keys bridge.store.table).Nodup ∧
    (∃ lines, bridge.store.file.drain = (.ok lines, none) ∧
      lines.length = bridge.statusSpooled) ∧
    (bridge.tasks = [] → bridge.statusSpooled = 0 → ∀ key, key ∈ keys bridge.store.table ↔
      key ∈ keys table ∨ key ∈ keys (spool ++ pushedBy events)) := by
  obtain ⟨spec, refines, accounted, pushed, grown⟩ := fileBridge_accounted holds distinct run
  have counted : bridge.statusSpooled = spec.store.spool.length := refines.store.file.pending
  rw [← pushed, refines.store.table]
  refine ⟨fun punch given => keeps_of_refines refines (accounted.kept punch given),
    accounted.fromRow, grown, accounted.distinct, ⟨_, refines.store.file.drain, ?_⟩, ?_⟩
  · rw [List.length_map, counted]
  · intro quiet none key
    have drained : spec.store.spool = [] := List.eq_nil_of_length_eq_zero (counted ▸ none)
    have idle : spec.tasks = [] := List.map_eq_nil_iff.mp (refines.tasks ▸ quiet)
    have saved := accounted.saved_iff idle key
    rw [drained] at saved
    exact saved

/-! ## After an outage -/

/-- A task alone on the spool, for at most the given number of steps. -/
def FileTask.finish (columns : ColumnReading) (outcome : SaveOutcome) :
    Nat → FileTask → FileStore → FileStore × Option FileTask
  | 0, task, store => (store, some task)
  | steps + 1, task, store =>
      match task.step columns outcome store with
      | (after, none) => (after, none)
      | (after, some next) => FileTask.finish columns outcome steps next after

/-- An attempt of `_flush` with nobody else at the spool: it ends within three steps. -/
def flushAttempt (columns : ColumnReading) (outcome : SaveOutcome) (store : FileStore) :
    FileStore :=
  (FileTask.finish columns outcome 3 .flushDrain store).1

variable (columns) in
theorem finish_onFile (outcome : SaveOutcome) (steps : Nat) (task : Task) {store : FileStore}
    {spec : Store} (refines : StoreRefines store spec) (whole : WholeSeconds task.held) :
    StoreRefines (FileTask.finish columns outcome steps task.onFile store).1
      (Task.finish (fun _ => outcome) steps task spec).1 := by
  induction steps generalizing task store spec with
  | zero => exact refines
  | succ steps ih =>
      obtain ⟨after, next, nextWhole⟩ := step_onFile columns task outcome refines whole
      rw [FileTask.finish, Task.finish]
      generalize task.onFile.step columns outcome store = ran at after next ⊢
      generalize task.step outcome spec = taken at after next nextWhole ⊢
      obtain ⟨stored, going⟩ := ran
      obtain ⟨specStored, specGoing⟩ := taken
      cases next
      cases specGoing with
      | none => exact after
      | some running => exact ih running after (nextWhole running rfl)

variable (columns) in
/-- An attempt that commits stores what is pending; any other leaves the lines and the table
as they were. -/
theorem flushAttempt_refines (outcome : SaveOutcome) {store : FileStore} {spec : Store}
    (refines : StoreRefines store spec) :
    StoreRefines (flushAttempt columns outcome store)
      (if outcome = .commit then ⟨[], savePunches spec.table spec.spool⟩ else spec) := by
  have attempt := finish_onFile columns outcome 3 .flushDrain refines (by
    intro punch held
    cases held)
  have ended : (Task.finish (fun _ => outcome) 3 .flushDrain spec).1 =
      if outcome = .commit then ⟨[], savePunches spec.table spec.spool⟩ else spec := by
    obtain ⟨spool, table⟩ := spec
    cases spool with
    | nil => cases outcome <;> rfl
    | cons first others => cases outcome <;> rfl
  rw [← ended]
  exact attempt

variable (columns) in
theorem failedAttempts_refine {failures : List SaveOutcome} (failed : .commit ∉ failures)
    {store : FileStore} {spec : Store} (refines : StoreRefines store spec) :
    StoreRefines (failures.foldl (fun store outcome => flushAttempt columns outcome store) store)
      spec := by
  induction failures generalizing store with
  | nil => exact refines
  | cons outcome rest ih =>
      obtain ⟨other, later⟩ := not_or.mp (mt List.mem_cons.mpr failed)
      have attempt := flushAttempt_refines columns outcome refines
      rw [if_neg (Ne.symm other)] at attempt
      exact ih later attempt

/-- An outage ends with the first attempt that commits: however often the flush failed before,
nothing is pending afterwards and the table holds what the service was given and no more. -/
theorem outage_heals {spool table : List Punch} {file : SpoolText} (holds : file.Holds spool)
    (distinct : (keys table).Nodup) {events : List Event} {bridge : FileBridge}
    (run : Run (Guarded ExpectedFileErrors (FileBridge.Step columns)) (.initial file table)
      events bridge) (quiet : bridge.tasks = []) {failures : List SaveOutcome}
    (failed : .commit ∉ failures) :
    let waiting := failures.foldl (fun store outcome => flushAttempt columns outcome store)
      bridge.store
    let healed := flushAttempt columns .commit waiting
    waiting.file.pending = bridge.statusSpooled ∧ waiting.table = bridge.store.table ∧
      healed.file.pending = 0 ∧ (keys healed.table).Nodup ∧ ∀ key, key ∈ keys healed.table ↔
        key ∈ keys table ∨ key ∈ keys (spool ++ pushedBy events) := by
  obtain ⟨spec, refines, accounted, pushed, _⟩ := fileBridge_accounted holds distinct run
  have still := failedAttempts_refine columns failed refines.store
  have after := flushAttempt_refines columns .commit still
  rw [if_pos rfl] at after
  refine ⟨?_, ?_, after.file.pending, ?_, ?_⟩
  · rw [still.file.pending, FileBridge.statusSpooled, refines.store.file.pending]
  · rw [still.table, refines.store.table]
  · rw [after.table]
    exact nodup_keys_savePunches _ _ accounted.distinct
  · intro key
    rw [after.table, ← pushed]
    exact accounted.saved_iff (List.map_eq_nil_iff.mp (refines.tasks ▸ quiet)) key

end

/-! ## One push that meets an outage -/

def textColumn : Json → Option (Option String)
  | .null => some none
  | .str text => some (some text)
  | _ => none

def numberColumn : Json → Option (Option Int)
  | .null => some none
  | .int value => some (some value)
  | _ => none

def plainColumns : ColumnReading where
  row punch := do
    let .str serial := punch.deviceSerial | none
    let verifyMode ← numberColumn punch.verifyMode
    let workCode ← textColumn punch.workCode
    let name ← textColumn punch.deviceUserName
    let deviceId ← numberColumn punch.deviceId
    let raw ← textColumn punch.rawPayload
    pure {
      deviceSerial := serial
      deviceUserId := punch.deviceUserId
      deviceTime := punch.deviceTime
      punchState := punch.punchState
      verifyMode := verifyMode
      workCode := workCode
      deviceUserName := name
      deviceId := deviceId
      rawPayload := raw }
  typed := by
    rintro ⟨serial, userId, time, state, _ | mode, _ | code, _ | name, _ | id, _ | raw⟩ <;> rfl

def afterOutage : FileBridge :=
  { store := { file := SpoolText.add none ((usable [sampleRecord]).map Punch.held), table := [] }
    tasks := [] }

theorem afterOutage_run :
    Run (Guarded ExpectedFileErrors (@FileBridge.Step .scalars plainColumns)) (.initial none [])
      [.ingest [sampleRecord], .task 0 .commit, .task 0 .unavailable, .task 0 .commit]
      afterOutage := by
  let := ValueTables.scalars
  have pushed : usable [sampleRecord] ≠ [] := by decide
  have begun : FileBridge.Step plainColumns (.initial none []) (.ingest [sampleRecord])
      { FileBridge.initial none [] with
        tasks := [.ingestDrain ((usable [sampleRecord]).map Punch.held)] } := by
    simp [FileBridge.Step, FileBridge.step, FileBridge.initial, pushed]
  refine .cons ⟨trivial, begun⟩ ?_
  refine .cons ⟨fun _ _ _ => by decide, rfl⟩ ?_
  refine .cons ⟨fun _ _ _ => by decide, rfl⟩ ?_
  refine .cons ⟨fun _ _ _ => by decide, rfl⟩ ?_
  exact .nil afterOutage

theorem file_delivery_exactly_once_outage :
    (keys afterOutage.store.table).Nodup ∧
      ∃ lines, @SpoolText.drain .scalars afterOutage.store.file = (.ok lines, none) ∧
        lines.length = afterOutage.statusSpooled := by
  let := ValueTables.scalars
  have emptied : SpoolText.Holds none [] := ⟨rfl, by simp⟩
  have distinct : (keys []).Nodup := List.nodup_nil
  have delivered := file_delivery_exactly_once emptied distinct afterOutage_run
  exact ⟨delivered.2.2.2.1, delivered.2.2.2.2.1⟩

theorem outage_heals_after_one_failure :
    (@flushAttempt .scalars plainColumns .commit
      (@flushAttempt .scalars plainColumns .unavailable afterOutage.store)).file.pending = 0 := by
  let := ValueTables.scalars
  have emptied : SpoolText.Holds none [] := ⟨rfl, by simp⟩
  have distinct : (keys []).Nodup := List.nodup_nil
  have failed : SaveOutcome.commit ∉ [SaveOutcome.unavailable] := by decide
  exact (outage_heals emptied distinct afterOutage_run rfl failed).2.2.1

end PumoBioMetric.Sync
