import PumoBioMetric.Library.FaultyCalls
import PumoBioMetric.Sync.Delivery

/-!
# The exits of `ingest`

One call of `ingest` over a database layer whose saves end in every way they can.  The
drained backlog is in a local variable while it is saved; the inner handler puts it back
for `LmsUnavailableError` only.
-/

set_option autoImplicit false

namespace PumoBioMetric.Sync

open PumoBioMetric.Py PumoBioMetric.Router FaultyCalls FaultyCalls.Program

/-- What a statement, the pool or the driver's own conversion of a value raises. -/
inductive SaveError where
  | psycopg2Error (text : String)
  | lmsUnavailable (text : String)
  | other (exception text : String)
deriving DecidableEq

structure SaveEvent where
  batch : List Punch
  returned : Bool
deriving DecidableEq

abbrev SyncProgram (Result : Type) := Program Store SaveEvent SaveError Result

/-! ## The database layer -/

/-- What leaves `_connection` for an exception of its body. -/
def SaveError.wrapped : SaveError → SaveError
  | psycopg2Error text => lmsUnavailable (strip text)
  | lmsUnavailable text => lmsUnavailable text
  | other exception text => other exception text

/-- `LmsDatabase._connection` around its body. -/
def connection {Result : Type} (body : SyncProgram Result) : SyncProgram Result :=
  attempt body fun error => raise error.wrapped

/-- The insert: the rows that were new, and the table after the commit. -/
def insertRows (batch : List Punch) (store : Store) : Nat × Store :=
  ((savePunches store.table batch).length - store.table.length,
    { store with table := savePunches store.table batch })

def savePunchesCall (batch : List Punch) : SyncProgram (Nat × Nat) :=
  if batch = [] then pure (0, 0)
  else do
    let inserted ← connection (issue (insertRows batch) fun reply => ⟨batch, reply.isSome⟩)
    pure (batch.length, inserted)

/-! ## The spool -/

def drainSpool : SyncProgram (List Punch) := do
  let waiting ← look Store.spool
  update fun store => { store with spool := [] }
  pure waiting

/-- `PunchSpool.add` and `PunchSpool.restore`. -/
def addToSpool (punches : List Punch) : SyncProgram Unit :=
  update fun store => { store with spool := store.spool ++ punches }

/-! ## `ingest` -/

/-- `except LmsUnavailableError` around the save of the backlog. -/
def restoreUnavailable (waiting : List Punch) : SaveError → SyncProgram (Nat × Nat)
  | .lmsUnavailable text => do
      addToSpool waiting
      raise (.lmsUnavailable text)
  | error => raise error

/-- `if waiting`: the save of the backlog and its handler. -/
def saveBacklog (waiting : List Punch) : SyncProgram Unit :=
  if waiting = [] then pure ()
  else do
    let _ ← attempt (savePunchesCall waiting) (restoreUnavailable waiting)
    pure ()

def savePushed (punches : List Punch) : SyncProgram (Nat × Nat) := do
  let (_, inserted) ← savePunchesCall punches
  pure (punches.length, inserted)

/-- The body of the outer `try`. -/
def storePunches (punches : List Punch) : SyncProgram (Nat × Nat) := do
  let waiting ← drainSpool
  saveBacklog waiting
  savePushed punches

/-- What both outer handlers do. -/
def spoolPushed (punches : List Punch) : SyncProgram (Nat × Nat) := do
  addToSpool punches
  pure (punches.length, 0)

/-- `ingest`: how many rows were usable and how many are new. -/
def ingest (enabled configured : Bool) (records : List PunchRecord) : SyncProgram (Nat × Nat) :=
  if !enabled || !configured then pure (0, 0)
  else
    let punches := usable records
    if punches = [] then pure (0, 0)
    else attempt (storePunches punches) fun _ => spoolPushed punches

/-! ## One save -/

def saveOutcome : Option SaveError → SaveOutcome
  | none => .commit
  | some (.other _ _) => .otherError
  | some _ => .unavailable

section

variable {faults : Faults SaveError} {session : Session Store SaveEvent} {batch : List Punch}

theorem savePunchesCall_returned (some_rows : batch ≠ [])
    (quiet : faults session.trace.length = none) :
    savePunchesCall batch faults session =
      (.ok (batch.length, (insertRows batch session.world).1),
        ⟨(insertRows batch session.world).2, session.trace ++ [⟨batch, true⟩]⟩) := by
  simp [savePunchesCall, some_rows, bind, pure, andThen, done, connection, attempt, issue, quiet]

theorem savePunchesCall_raised (some_rows : batch ≠ []) {error : SaveError}
    (fault : faults session.trace.length = some error) :
    savePunchesCall batch faults session =
      (.error error.wrapped, ⟨session.world, session.trace ++ [⟨batch, false⟩]⟩) := by
  simp [savePunchesCall, some_rows, bind, andThen, connection, attempt, issue, fault, raise]

theorem drainSpool_eq :
    drainSpool faults session =
      (.ok session.world.spool, ⟨{ session.world with spool := [] }, session.trace⟩) := rfl

theorem addToSpool_eq (punches : List Punch) :
    addToSpool punches faults session = (.ok (),
      ⟨{ session.world with spool := session.world.spool ++ punches }, session.trace⟩) := rfl

/-! ## The backlog -/

theorem saveBacklog_returned {waiting : List Punch}
    (quiet : waiting = [] ∨ faults session.trace.length = none) :
    ∃ trace, saveBacklog waiting faults session =
        (.ok (), ⟨{ session.world with
          table := savePunches session.world.table waiting }, trace⟩) ∧
      trace.length = session.trace.length + (if waiting = [] then 0 else 1) := by
  unfold saveBacklog
  by_cases empty : waiting = []
  · subst empty
    exact ⟨session.trace, rfl, rfl⟩
  · simp only [empty, if_false]
    rw [bind_of_returns (attempt_of_returns
      (savePunchesCall_returned empty (quiet.resolve_left empty)))]
    exact ⟨_, rfl, by simp⟩

theorem saveBacklog_raised {waiting : List Punch} (some_waiting : waiting ≠ [])
    {error : SaveError} (fault : faults session.trace.length = some error) :
    ∃ left trace, saveBacklog waiting faults session =
      (.error left, ⟨{ session.world with
        spool := session.world.spool ++
          if saveOutcome (some error) = .otherError then [] else waiting }, trace⟩) := by
  unfold saveBacklog
  simp only [some_waiting, if_false]
  have raised := savePunchesCall_raised some_waiting fault
  cases error with
  | other exception text =>
      rw [bind_of_raises (attempt_of_raises raised)]
      simp only [saveOutcome, if_true, List.append_nil]
      exact ⟨_, _, rfl⟩
  | psycopg2Error text | lmsUnavailable text =>
      rw [bind_of_raises ((attempt_of_raises raised).trans (bind_of_returns (addToSpool_eq _)))]
      simp only [saveOutcome, reduceCtorEq, if_false]
      exact ⟨_, _, rfl⟩

end

/-! ## The steps of the call -/

/-- A task alone on the spool, for at most the given number of steps. -/
def Task.finish (ends : Task → SaveOutcome) : Nat → Task → Store → Store × Option Task
  | 0, task, store => (store, some task)
  | steps + 1, task, store =>
      match task.step (ends task) store with
      | (after, none) => (after, none)
      | (after, some next) => Task.finish ends steps next after

def ingestEnds (faults : Faults SaveError) (waiting : List Punch) : Task → SaveOutcome
  | .ingestSaveWaiting _ _ => saveOutcome (faults 0)
  | _ => saveOutcome (faults (if waiting = [] then 0 else 1))

section

variable {faults : Faults SaveError} {records : List PunchRecord} {store : Store}

theorem ingest_body (usableSome : usable records ≠ []) :
    ingest true true records =
      attempt (storePunches (usable records)) fun _ => spoolPushed (usable records) := by
  simp [ingest, usableSome]

theorem storePunches_drained (punches : List Punch) :
    storePunches punches faults ⟨store, []⟩ =
      (saveBacklog store.spool >>= fun _ => savePushed punches) faults
        ⟨{ store with spool := [] }, []⟩ :=
  bind_of_returns drainSpool_eq

theorem finish_of_quiet {ends : Task → SaveOutcome} {punches : List Punch}
    (quiet : store.spool = [] ∨ ends (.ingestSaveWaiting punches store.spool) = .commit) :
    (Task.ingestDrain punches).finish ends 4 store =
      (if ends (.ingestSave punches) = .commit then
          ⟨[], savePunches (savePunches store.table store.spool) punches⟩
        else ⟨punches, savePunches store.table store.spool⟩, none) := by
  by_cases empty : store.spool = []
  · have unchanged : savePunches store.table [] = store.table := rfl
    cases last : ends (.ingestSave punches) <;>
      simp [Task.finish, Task.step, empty, last, unchanged]
  · have saved := quiet.resolve_left empty
    cases last : ends (.ingestSave punches) <;>
      simp [Task.finish, Task.step, empty, saved, last]

theorem finish_of_raised {ends : Task → SaveOutcome} {punches : List Punch}
    (waiting : store.spool ≠ [])
    (raised : ends (.ingestSaveWaiting punches store.spool) ≠ .commit) :
    (Task.ingestDrain punches).finish ends 4 store =
      (⟨(if ends (.ingestSaveWaiting punches store.spool) = .otherError then []
        else store.spool) ++ punches, store.table⟩, none) := by
  cases first : ends (.ingestSaveWaiting punches store.spool) with
  | commit => exact absurd first raised
  | unavailable => simp [Task.finish, Task.step, waiting, first]
  | otherError => simp [Task.finish, Task.step, waiting, first]

/-- `ingest` returns, and does to the store what its task does step by step. -/
theorem ingest_follows_task (usableSome : usable records ≠ []) :
    ∃ reply session, ingest true true records faults ⟨store, []⟩ = (.ok reply, session) ∧
      (Task.ingestDrain (usable records)).finish (ingestEnds faults store.spool) 4 store =
        (session.world, none) := by
  rw [ingest_body usableSome]
  by_cases quiet : store.spool = [] ∨ faults 0 = none
  · -- The push is saved next, whether or not a backlog was.
    obtain ⟨trace, saved, length⟩ : ∃ trace : List SaveEvent,
        saveBacklog store.spool faults ⟨{ store with spool := [] }, []⟩ =
          (.ok (), ⟨⟨[], savePunches store.table store.spool⟩, trace⟩) ∧
        trace.length = 0 + (if store.spool = [] then 0 else 1) :=
      saveBacklog_returned quiet
    rw [Nat.zero_add] at length
    have pushed : storePunches (usable records) faults ⟨store, []⟩ =
        savePushed (usable records) faults ⟨⟨[], savePunches store.table store.spool⟩, trace⟩ :=
      (storePunches_drained _).trans (bind_of_returns saved)
    have ends : ingestEnds faults store.spool (.ingestSave (usable records)) =
        saveOutcome (faults trace.length) := by rw [length]; rfl
    have quietEnds : store.spool = [] ∨ ingestEnds faults store.spool
        (.ingestSaveWaiting (usable records) store.spool) = .commit := by
      rcases quiet with empty | quiet
      · exact .inl empty
      · exact .inr (by simp [ingestEnds, quiet, saveOutcome])
    rw [finish_of_quiet quietEnds, ends]
    cases fault : faults trace.length with
    | none =>
        have returned := pushed.trans (bind_of_returns (savePunchesCall_returned usableSome fault))
        exact ⟨_, _, attempt_of_returns returned, rfl⟩
    | some error =>
        have raised := pushed.trans (bind_of_raises (savePunchesCall_raised usableSome fault))
        refine ⟨_, _, (attempt_of_raises raised).trans (bind_of_returns (addToSpool_eq _)), ?_⟩
        cases error <;> rfl
  · obtain ⟨waiting, fault⟩ := not_or.mp quiet
    obtain ⟨error, fault⟩ := Option.ne_none_iff_exists'.mp fault
    obtain ⟨left, trace, saved⟩ : ∃ left trace,
        saveBacklog store.spool faults ⟨{ store with spool := [] }, []⟩ =
          (.error left, ⟨⟨[] ++ if saveOutcome (some error) = .otherError then []
            else store.spool, store.table⟩, trace⟩) :=
      saveBacklog_raised waiting fault
    have raised := (storePunches_drained (usable records)).trans (bind_of_raises saved)
    refine ⟨_, _, (attempt_of_raises raised).trans (bind_of_returns (addToSpool_eq _)), ?_⟩
    have ends : ingestEnds faults store.spool
        (.ingestSaveWaiting (usable records) store.spool) = saveOutcome (some error) := by
      simp [ingestEnds, fault]
    rw [finish_of_raised waiting (by rw [ends]; cases error <;> simp [saveOutcome]), ends,
      List.nil_append]

/-! ## What is kept -/

def AllKept (store : Store) (punches : List Punch) : Prop :=
  ∀ punch ∈ punches, punch.key ∈ keys store.table ∨ punch ∈ store.spool

/-- The save of a backlog that is there ends with an exception that is not foreseen. -/
def BacklogSaveUnforeseen (faults : Faults SaveError) (waiting : List Punch) : Prop :=
  waiting ≠ [] ∧ ∃ exception text, faults 0 = some (.other exception text)

theorem saveOutcome_otherError_iff {fault : Option SaveError} :
    saveOutcome fault = .otherError ↔ ∃ exception text, fault = some (.other exception text) := by
  cases fault with
  | none => simp [saveOutcome]
  | some error => cases error <;> simp [saveOutcome]

theorem allKept_of_saved (table : List Punch) (batch : List Punch) {store : Store}
    (rows : ∀ key ∈ keys (savePunches table batch), key ∈ keys store.table) :
    AllKept store batch :=
  fun punch member => .inl (rows _ ((mem_keys_savePunches _ _ _).mpr (.inr ⟨punch, member, rfl⟩)))

theorem allKept_append {store : Store} {left right : List Punch} :
    AllKept store (left ++ right) ↔ AllKept store left ∧ AllKept store right := by
  simp only [AllKept, List.forall_mem_append]

theorem finish_keeps_iff (punches : List Punch) :
    AllKept ((Task.ingestDrain punches).finish (ingestEnds faults store.spool) 4 store).1
        (store.spool ++ punches) ↔
      (BacklogSaveUnforeseen faults store.spool →
        ∀ punch ∈ store.spool, punch.key ∈ keys store.table ∨ punch ∈ punches) := by
  have first : ingestEnds faults store.spool (.ingestSaveWaiting punches store.spool) =
      saveOutcome (faults 0) := rfl
  by_cases quiet : store.spool = [] ∨ saveOutcome (faults 0) = .commit
  · have foreseen : ¬ BacklogSaveUnforeseen faults store.spool := by
      rintro ⟨waiting, unforeseen⟩
      have other := saveOutcome_otherError_iff.mpr unforeseen
      rw [quiet.resolve_left waiting] at other
      cases other
    refine iff_of_true ?_ fun unforeseen => absurd unforeseen foreseen
    rw [finish_of_quiet quiet, allKept_append]
    split
    · refine ⟨allKept_of_saved store.table store.spool ?_, allKept_of_saved _ punches fun _ row => row⟩
      exact fun key row => (mem_keys_savePunches _ _ _).mpr (.inl row)
    · exact ⟨allKept_of_saved store.table store.spool fun _ row => row,
        fun punch member => .inr member⟩
  · obtain ⟨waiting, raised⟩ := not_or.mp quiet
    rw [finish_of_raised waiting raised, first, allKept_append]
    have pushedKept : ∀ left : List Punch, AllKept ⟨left ++ punches, store.table⟩ punches :=
      fun left punch member => .inr (List.mem_append_right _ member)
    by_cases unforeseen : saveOutcome (faults 0) = .otherError
    · have met : BacklogSaveUnforeseen faults store.spool :=
        ⟨waiting, saveOutcome_otherError_iff.mp unforeseen⟩
      simp only [unforeseen, if_true, List.nil_append, met, true_implies]
      exact and_iff_left (pushedKept [])
    · have foreseen : ¬ BacklogSaveUnforeseen faults store.spool :=
        fun met => unforeseen (saveOutcome_otherError_iff.mpr met.2)
      simp only [unforeseen, if_false, foreseen, false_implies, iff_true]
      exact ⟨fun punch member => .inr (List.mem_append_left _ member), pushedKept _⟩

end

/-- `ingest` returns, and keeps every punch if and only if no exception but
`LmsUnavailableError` meets a backlog that has neither rows nor a place in the push. -/
theorem ingest_conserves_iff (records : List PunchRecord) (faults : Faults SaveError)
    (store : Store) :
    ∃ reply session, ingest true true records faults ⟨store, []⟩ = (.ok reply, session) ∧
      (AllKept session.world (store.spool ++ usable records) ↔
        (usable records ≠ [] → BacklogSaveUnforeseen faults store.spool →
          ∀ punch ∈ store.spool, punch.key ∈ keys store.table ∨ punch ∈ usable records)) := by
  by_cases none : usable records = []
  · refine ⟨(0, 0), ⟨store, []⟩, by simp [ingest, none, pure, done], ?_⟩
    simp only [none, List.append_nil, ne_eq, not_true_eq_false, false_implies, iff_true]
    exact fun punch member => .inr member
  · obtain ⟨reply, session, returned, followed⟩ := ingest_follows_task none
    refine ⟨reply, session, returned, ?_⟩
    have kept := @finish_keeps_iff faults store (usable records)
    rw [followed] at kept
    simpa only [ne_eq, none, not_false_eq_true, true_implies] using kept

/-! ## A NUL character in the backlog -/

def nulPunch : Punch where
  deviceSerial := "ZK1"
  deviceUserId := "103"
  deviceTime := sampleTime
  deviceUserName := some "A\x00"

def nulFaults : Faults SaveError := fun save =>
  if save = 0 then
    some (.other "ValueError" "A string literal cannot contain NUL (0x00) characters.")
  else none

theorem nul_backlog_lost :
    ∃ reply session,
      ingest true true [sampleRecord] nulFaults ⟨⟨[nulPunch], []⟩, []⟩ = (.ok reply, session) ∧
        ¬ AllKept session.world ([nulPunch] ++ usable [sampleRecord]) := by
  obtain ⟨reply, session, returned, followed⟩ :=
    @ingest_follows_task nulFaults [sampleRecord] ⟨[nulPunch], []⟩ (by decide)
  refine ⟨reply, session, returned, ?_⟩
  have kept := @finish_keeps_iff nulFaults ⟨[nulPunch], []⟩ (usable [sampleRecord])
  rw [followed] at kept
  intro all
  have rowOrPushed := kept.mp all ⟨by simp, _, _, rfl⟩ nulPunch List.mem_cons_self
  exact absurd rowOrPushed (by decide)

end PumoBioMetric.Sync
