import PumoBioMetric.Sync.Delivery

/-!
# A row that the database rejects

The database is reachable and refuses every batch that holds a row of a fixed set.  The
refusal is a `psycopg2` error, so it reaches the caller as `LmsUnavailableError` and the
whole batch goes back to the spool.
-/

set_option autoImplicit false

namespace PumoBioMetric.Sync

open PumoBioMetric.Router

section

variable (bad : Punch → Bool)

def verdict (batch : List Punch) : SaveOutcome := if batch.any bad then .unavailable else .commit

def Task.batch : Task → List Punch
  | .ingestSaveWaiting _ waiting => waiting
  | .ingestSave punches => punches
  | .flushSave waiting => waiting
  | .ingestDrain _ | .ingestRestore _ _ | .ingestAdd _ | .flushDrain | .flushRestore _ => []

/-- A call alone on the spool, for at most the given number of steps. -/
def Task.complete : Nat → Task → Store → Store × Option Task
  | 0, task, store => (store, some task)
  | steps + 1, task, store =>
      match task.step (verdict bad task.batch) store with
      | (after, none) => (after, none)
      | (after, some next) => Task.complete steps next after

def ingestAlone (store : Store) (punches : List Punch) : Store × Option Task :=
  (Task.ingestDrain punches).complete bad 4 store

def flushAlone (store : Store) : Store × Option Task := Task.flushDrain.complete bad 3 store

theorem savePunches_nil (table : List Punch) : savePunches table [] = table := rfl

/-- `ingest` ends, in one of three ways. -/
theorem ingestAlone_eq (store : Store) (punches : List Punch) :
    ingestAlone bad store punches =
      (if store.spool.any bad then { store with spool := store.spool ++ punches }
        else if punches.any bad then
          { spool := punches, table := savePunches store.table store.spool }
        else { spool := [], table := savePunches (savePunches store.table store.spool) punches },
        none) := by
  unfold ingestAlone
  by_cases empty : store.spool = []
  · by_cases rejected : punches.any bad = true
    · simp [Task.complete, Task.step, Task.batch, verdict, empty, rejected, savePunches_nil]
    · simp [Task.complete, Task.step, Task.batch, verdict, empty, rejected, savePunches_nil]
  · by_cases waitingRejected : store.spool.any bad = true
    · simp [Task.complete, Task.step, Task.batch, verdict, empty, waitingRejected]
    · by_cases rejected : punches.any bad = true
      · simp [Task.complete, Task.step, Task.batch, verdict, empty, waitingRejected, rejected]
      · simp [Task.complete, Task.step, Task.batch, verdict, empty, waitingRejected, rejected]

/-- `_flush` ends with everything saved or everything back. -/
theorem flushAlone_eq (store : Store) :
    flushAlone bad store =
      (if store.spool.any bad then store
        else { spool := [], table := savePunches store.table store.spool }, none) := by
  unfold flushAlone
  by_cases empty : store.spool = []
  · simp [Task.complete, Task.step, empty, savePunches_nil]
  · by_cases rejected : store.spool.any bad = true
    · simp [Task.complete, Task.step, Task.batch, verdict, empty, rejected]
    · simp [Task.complete, Task.step, Task.batch, verdict, empty, rejected]

/-- Every acceptable punch of the list has its row. -/
def GoodStored (table punches : List Punch) : Prop :=
  ∀ punch ∈ punches, bad punch = false → punch.key ∈ keys table

theorem goodStored_of_saved (table punches : List Punch) :
    GoodStored bad (savePunches table punches) punches :=
  fun punch member _ => (mem_keys_savePunches _ _ _).mpr (Or.inr ⟨punch, member, rfl⟩)

theorem GoodStored.mono {table after punches : List Punch} (stored : GoodStored bad table punches)
    (kept : ∀ key ∈ keys table, key ∈ keys after) : GoodStored bad after punches :=
  fun punch member good => kept _ (stored punch member good)

theorem goodStored_append (table left right : List Punch) :
    GoodStored bad table (left ++ right) ↔ GoodStored bad table left ∧ GoodStored bad table right := by
  simp only [GoodStored, List.mem_append]
  constructor
  · intro stored
    exact ⟨fun punch member => stored punch (Or.inl member),
      fun punch member => stored punch (Or.inr member)⟩
  · rintro ⟨first, second⟩ punch (member | member)
    · exact first punch member
    · exact second punch member

theorem goodStored_savePunches_iff (table batch punches : List Punch) :
    GoodStored bad (savePunches table batch) punches ↔ GoodStored bad (table ++ batch) punches := by
  have sameKeys : ∀ key, key ∈ keys (savePunches table batch) ↔ key ∈ keys (table ++ batch) := by
    intro key
    rw [mem_keys_savePunches]
    simp [keys]
  simp only [GoodStored, sameKeys]

/-- Nobody is stranded: the acceptable punches of a rejected batch, and of a batch that is
not tried after it, have rows already, or get them from the batch before. -/
def StrandsNobody (store : Store) (punches : List Punch) : Prop :=
  if store.spool.any bad then GoodStored bad store.table (store.spool ++ punches)
  else punches.any bad = true → GoodStored bad (store.table ++ store.spool) punches

theorem ingest_stores_iff (store : Store) (punches : List Punch) :
    GoodStored bad (ingestAlone bad store punches).1.table (store.spool ++ punches) ↔
      StrandsNobody bad store punches := by
  rw [ingestAlone_eq]
  unfold StrandsNobody
  by_cases waitingRejected : store.spool.any bad = true
  · simp [waitingRejected]
  · have saved := goodStored_of_saved bad store.table store.spool
    by_cases rejected : punches.any bad = true
    · simp only [waitingRejected, rejected, if_false, if_true, Bool.false_eq_true, true_implies]
      rw [goodStored_append, ← goodStored_savePunches_iff]
      exact and_iff_right saved
    · have both : GoodStored bad
          (savePunches (savePunches store.table store.spool) punches)
          (store.spool ++ punches) := by
        refine (goodStored_append _ _ _ _).mpr ⟨saved.mono bad ?_, goodStored_of_saved _ _ _⟩
        intro key held
        exact (mem_keys_savePunches _ _ _).mpr (Or.inl held)
      simp [waitingRejected, rejected, both]

theorem flush_stores_iff (store : Store) :
    GoodStored bad (flushAlone bad store).1.table store.spool ↔
      (store.spool.any bad = true → GoodStored bad store.table store.spool) := by
  rw [flushAlone_eq]
  by_cases rejected : store.spool.any bad = true
  · simp [rejected]
  · simp [rejected, goodStored_of_saved bad store.table store.spool]

/-- After an `ingest` with usable punches or a `_flush`, each run to its end, every
acceptable punch has its row exactly where nobody is stranded by a rejected batch. -/
theorem rejected_rows_strand_iff (store : Store) (records : List PunchRecord)
    (_usable : usable records ≠ []) :
    ((ingestAlone bad store (usable records)).2 = none ∧
      (GoodStored bad (ingestAlone bad store (usable records)).1.table
          (store.spool ++ usable records) ↔
        StrandsNobody bad store (usable records))) ∧
    ((flushAlone bad store).2 = none ∧
      (GoodStored bad (flushAlone bad store).1.table store.spool ↔
        (store.spool.any bad = true → GoodStored bad store.table store.spool))) := by
  refine ⟨⟨?_, ingest_stores_iff bad store _⟩, ?_, flush_stores_iff bad store⟩
  · rw [ingestAlone_eq]
  · rw [flushAlone_eq]

end

/-- A `punch_state` that does not fit the `integer` column. -/
def beyondInteger (punch : Punch) : Bool := 2147483647 < punch.punchState

def mixedRecords : List PunchRecord :=
  [sampleRecord, { sampleRecord with userId := "103", status := "2147483648" }]

theorem rejected_rows_strand_iff_mixed :
    usable mixedRecords ≠ [] ∧
      (GoodStored beyondInteger (ingestAlone beyondInteger ⟨[], []⟩ (usable mixedRecords)).1.table
          ([] ++ usable mixedRecords) ↔
        StrandsNobody beyondInteger ⟨[], []⟩ (usable mixedRecords)) := by
  have some_usable : usable mixedRecords ≠ [] := by decide
  exact ⟨some_usable, (rejected_rows_strand_iff beyondInteger ⟨[], []⟩ _ some_usable).1.2⟩

/-- The good row of a mixed push is not stored. -/
theorem mixed_push_strands_good_row :
    ¬ GoodStored beyondInteger (ingestAlone beyondInteger ⟨[], []⟩ (usable mixedRecords)).1.table
      ([] ++ usable mixedRecords) := by
  intro stored
  obtain ⟨punch, member, good⟩ : ∃ punch ∈ usable mixedRecords, beyondInteger punch = false := by
    decide
  have rejected : (usable mixedRecords).any beyondInteger = true := by decide
  have row := stored punch member good
  rw [ingestAlone_eq] at row
  simp [rejected, savePunches_nil, keys] at row

end PumoBioMetric.Sync
