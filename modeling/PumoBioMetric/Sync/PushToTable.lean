import PumoBioMetric.Router.PushAcknowledged
import PumoBioMetric.Sync.SpooledDelivery

/-!
# From a reader's push to the punch table

The router parses a body and answers; the bridge carries what it hands over to the database.
A row of a push that was answered OK is in the table, in the spool file or with an unfinished
call, whatever happens in between.
-/

set_option autoImplicit false

namespace PumoBioMetric.Sync

open PumoBioMetric.Py PumoBioMetric.Router TransitionRun

/-- The key under which a row of a push is stored, `none` where `to_punch` refuses the row. -/
def pushedKey (sn : String) (row : AttRow) : Option PunchKey :=
  match parseTime row.timestamp with
  | none => none
  | some time =>
      if strip row.userId = "" then none
      else some (if strip sn = "" then "UNKNOWN" else strip sn, strip row.userId, time)

section

variable [UnicodeTables]

structure Service where
  router : RouterState
  bridge : FileBridge

inductive ServiceCall where
  | push (post : AttendancePost)
  | synced (record : PunchRecord)
  /-- Anything else that changes the dashboard, the names or the commands. -/
  | elsewhere (router : RouterState)
  | flush
  | task (index : Nat) (outcome : SaveOutcome)

section

variable [IsoFormat] [ValueTables] (columns : ColumnReading)

def FileBridge.handed (bridge : FileBridge) (ingested : List (List PunchRecord)) :
    Option FileBridge :=
  ingested.foldlM (fun bridge records => bridge.step columns (.ingest records)) bridge

def ServiceCall.router (before : RouterState) : ServiceCall → RouterState
  | .push post => (handleAttendance before post).state
  | .elsewhere after => after
  | .synced _ | .flush | .task _ _ => before

/-- One call, or the next step of one that is under way. -/
def Service.step (service : Service) (call : ServiceCall) : Option Service :=
  let bridge : Option FileBridge :=
    match call with
    | .push post => service.bridge.handed columns (handleAttendance service.router post).ingested
    | .synced record => service.bridge.step columns (.ingest [record])
    | .elsewhere _ => some service.bridge
    | .flush => service.bridge.step columns .flush
    | .task index outcome => service.bridge.step columns (.task index outcome)
  bridge.map fun bridge => { router := call.router service.router, bridge := bridge }

def Service.Step (before : Service) (call : ServiceCall) (after : Service) : Prop :=
  before.step columns call = some after

end

/-- Inside `ingest` a save raises only `LmsUnavailableError`. -/
def ExpectedServiceErrors (service : Service) : ServiceCall → Prop
  | .task index outcome => ExpectedFileErrors service.bridge (.task index outcome)
  | _ => True

def Service.initial (router : RouterState) (file : SpoolText) (table : List Punch) : Service :=
  { router := router, bridge := .initial file table }

section

variable [IsoFormat]

/-- The keys that a call gives to the bridge: the rows of a push that is answered OK, and the
record of a sync. -/
def ServiceCall.given (router : RouterState) : ServiceCall → List PunchKey
  | .push post =>
      if (handleAttendance router post).answer = some "OK" then
        post.rows.filterMap (pushedKey post.sn)
      else []
  | .synced record => keys (usable [record])
  | .elsewhere _ | .flush | .task _ _ => []

/-- The keys that the calls of a history give, the router going on from each to the next. -/
def givenKeys : RouterState → List ServiceCall → List PunchKey
  | _, [] => []
  | router, call :: rest => call.given router ++ givenKeys (call.router router) rest

end

/-! ## One push -/

omit [UnicodeTables] in
theorem toPunch_key (sn : String) (found known : UserInfo) (arrival : Arrival) (row : AttRow) :
    (toPunch (labelled known (recordOf sn found arrival row))).map Punch.key =
      pushedKey sn row := by
  have serial : (if strip (if sn = "" then "UNKNOWN" else sn) = "" then "UNKNOWN"
      else strip (if sn = "" then "UNKNOWN" else sn)) =
        if strip sn = "" then "UNKNOWN" else strip sn := by
    by_cases empty : sn = ""
    · subst empty
      decide
    · rw [if_neg empty]
  rw [toPunch, pushedKey]
  have stamp : (labelled known (recordOf sn found arrival row)).timestamp = row.timestamp := rfl
  have pin : (labelled known (recordOf sn found arrival row)).userId = row.userId := rfl
  have origin : (labelled known (recordOf sn found arrival row)).sn =
    if sn = "" then "UNKNOWN" else sn := rfl
  rw [stamp, pin, origin]
  cases parseTime row.timestamp with
  | none => rfl
  | some time =>
      by_cases noPin : strip row.userId = ""
      · simp [noPin]
      · simp [noPin, Punch.key, serial]

omit [UnicodeTables] in
theorem recordRows_from (lms : LmsNames) (sn : String) (arrivals : Nat → Arrival) (index : Nat)
    (cache : UserCache) (rows : List AttRow) :
    List.Forall₂ (fun row record => ∃ info arrival, record = recordOf sn info arrival row) rows
      (recordRows lms sn arrivals index cache rows).1 := by
  induction rows generalizing index cache with
  | nil => exact .nil
  | cons row rest ih => exact .cons ⟨_, _, rfl⟩ (ih _ _)

theorem newPunches_from (post : AttendancePost) (cache : UserCache) :
    List.Forall₂ (fun row record => ∃ info arrival, record = recordOf post.sn info arrival row)
      post.rows (post.newPunches cache).1 := by
  rw [AttendancePost.newPunches, parseAttlog]
  exact recordRows_from post.lms post.sn post.arrivals 0 (post.synced cache) post.rows

omit [UnicodeTables] in
theorem keys_usable_announced {sn : String} {rows : List AttRow}
    {parsed handed : List PunchRecord}
    (from_rows : List.Forall₂ (fun row record => ∃ info arrival,
      record = recordOf sn info arrival row) rows parsed)
    (announced : List.Forall₂ Announced parsed handed) :
    keys (usable handed) = rows.filterMap (pushedKey sn) := by
  induction from_rows generalizing handed with
  | nil =>
      cases announced
      rfl
  | @cons row record rows parsed first _ ih =>
      cases announced with
      | @cons _ punch _ others told rest =>
          obtain ⟨found, arrival, rfl⟩ := first
          obtain ⟨known, rfl⟩ := told
          have here := toPunch_key sn found known arrival row
          rw [List.filterMap_cons, ← here, ← ih rest]
          cases read : toPunch (labelled known (recordOf sn found arrival row)) with
          | none => simp [usable, read]
          | some punch => simp [usable, keys, read]

section

variable [IsoFormat]

/-- What a push hands to `ingest` are the rows of its body, where it is answered OK, and nothing
otherwise. -/
theorem keys_ingested (state : RouterState) (post : AttendancePost) :
    ((handleAttendance state post).ingested.flatMap usable).map Punch.key =
      if (handleAttendance state post).answer = some "OK" then
        post.rows.filterMap (pushedKey post.sn) else [] := by
  by_cases empty : post.rows = []
  · obtain ⟨answer, ingested, _⟩ := handle_without_records state empty
    rw [answer, ingested, empty]
    rfl
  · obtain ⟨answer, ingested, _⟩ := handle_with_records state empty
    rw [answer, ingested]
    cases went : (post.loop state.dashboard).1 with
    | none => simp
    | some handed =>
        have same := keys_usable_announced (newPunches_from post state.dashboard.cache)
          (announced_loop went)
        simpa [keys] using same

variable [ValueTables] {columns : ColumnReading}

omit [UnicodeTables] [IsoFormat] in
theorem handed_run {before after : FileBridge} {ingested : List (List PunchRecord)}
    (handed : before.handed columns ingested = some after) :
    Run (Guarded ExpectedFileErrors (FileBridge.Step columns)) before (ingested.map Event.ingest)
      after := by
  induction ingested generalizing before with
  | nil =>
      cases Option.some.inj handed
      exact .nil _
  | cons records rest ih =>
      rw [FileBridge.handed, List.foldlM_cons] at handed
      obtain ⟨middle, first, others⟩ := Option.bind_eq_some_iff.mp handed
      exact .cons ⟨trivial, first⟩ (ih others)

omit [UnicodeTables] [IsoFormat] [ValueTables] in
theorem pushedBy_ingests (ingested : List (List PunchRecord)) :
    pushedBy (ingested.map Event.ingest) = ingested.flatMap usable := by
  induction ingested with
  | nil => rfl
  | cons records rest ih => rw [List.map_cons, pushedBy_cons, ih, List.flatMap_cons]; rfl

/-! ## Runs -/

omit [UnicodeTables] [IsoFormat] in
theorem bridge_step_run {before after : FileBridge} (event : Event)
    (expected : ExpectedFileErrors before event) (step : before.step columns event = some after) :
    Run (Guarded ExpectedFileErrors (FileBridge.Step columns)) before [event] after :=
  .cons ⟨expected, step⟩ (.nil after)

/-- A call is a run of the bridge, which is pushed what the call gives. -/
theorem call_run {before after : Service} {call : ServiceCall}
    (taken : Guarded ExpectedServiceErrors (Service.Step columns) before call after) :
    after.router = call.router before.router ∧
      ∃ events, Run (Guarded ExpectedFileErrors (FileBridge.Step columns)) before.bridge events
          after.bridge ∧
        keys (pushedBy events) = call.given before.router := by
  obtain ⟨expected, step⟩ := taken
  obtain ⟨bridge, moved, rfl⟩ := Option.map_eq_some_iff.mp step
  refine ⟨rfl, ?_⟩
  cases call with
  | push post =>
      refine ⟨_, handed_run moved, ?_⟩
      rw [pushedBy_ingests]
      exact keys_ingested before.router post
  | synced record =>
      refine ⟨_, bridge_step_run (.ingest [record]) trivial moved, ?_⟩
      rw [pushedBy_cons]
      exact congrArg keys (List.append_nil _)
  | elsewhere router =>
      cases Option.some.inj moved
      exact ⟨[], .nil _, rfl⟩
  | flush => exact ⟨_, bridge_step_run .flush trivial moved, rfl⟩
  | task index outcome => exact ⟨_, bridge_step_run (.task index outcome) expected moved, rfl⟩

/-- A run of the service is a run of the bridge, which is pushed what the calls give. -/
theorem service_run {before after : Service} {calls : List ServiceCall}
    (run : Run (Guarded ExpectedServiceErrors (Service.Step columns)) before calls after) :
    ∃ events, Run (Guarded ExpectedFileErrors (FileBridge.Step columns)) before.bridge events
        after.bridge ∧
      keys (pushedBy events) = givenKeys before.router calls := by
  induction run with
  | nil state => exact ⟨[], .nil _, rfl⟩
  | cons head _ ih =>
      obtain ⟨router, events, first, given⟩ := call_run head
      obtain ⟨more, onward, later⟩ := ih
      refine ⟨events ++ more, first.append onward, ?_⟩
      rw [router] at later
      rw [givenKeys, ← given, ← later]
      simp [pushedBy, usable, keys]

def FileBridge.KeepsKey (bridge : FileBridge) (key : PunchKey) : Prop :=
  ∃ punch : Punch, punch.key = key ∧ bridge.Keeps punch

/-- From the body of a push to the table, over any run of the service whose saves end as
expected: a row that was answered OK is never lost, a row that was not is never stored, no key
is there twice, and a quiet service has stored all of them after one flush that commits. -/
theorem answered_rows_stored {router : RouterState} {file : SpoolText}
    {spool table : List Punch} (holds : file.Holds spool) (distinct : (keys table).Nodup)
    {calls : List ServiceCall} {service : Service}
    (run : Run (Guarded ExpectedServiceErrors (Service.Step columns))
      (.initial router file table) calls service) :
    (∀ key ∈ givenKeys router calls, service.bridge.KeepsKey key) ∧
    (∀ key ∈ keys service.bridge.store.table,
      key ∈ keys table ∨ key ∈ keys spool ∨ key ∈ givenKeys router calls) ∧
    table <+: service.bridge.store.table ∧ (keys service.bridge.store.table).Nodup ∧
    (service.bridge.tasks = [] →
      ∀ key, key ∈ keys (flushAttempt columns .commit service.bridge.store).table ↔
        key ∈ keys table ∨ key ∈ keys spool ∨ key ∈ givenKeys router calls) := by
  obtain ⟨events, onFile, given⟩ := service_run run
  obtain ⟨spec, refines, accounted, pushed, grown⟩ := fileBridge_accounted holds distinct onFile
  have sources (key : PunchKey) : key ∈ keys table ∨ key ∈ keys (spool ++ spec.pushed) ↔
      key ∈ keys table ∨ key ∈ keys spool ∨ key ∈ givenKeys router calls := by
    have parts : keys (spool ++ pushedBy events) = keys spool ++ keys (pushedBy events) :=
      List.map_append
    rw [pushed, parts, List.mem_append, given]
    rfl
  refine ⟨fun key known => ?_, fun key stored => ?_, ?_, ?_, fun quiet key => ?_⟩
  · rw [show givenKeys router calls = keys (pushedBy events) from given.symm] at known
    obtain ⟨punch, listed, rfl⟩ := List.mem_map.mp known
    refine ⟨punch, rfl, keeps_of_refines refines (accounted.kept punch ?_)⟩
    exact List.mem_append_right _ (pushed ▸ listed)
  · rw [refines.store.table] at stored
    exact (sources key).mp (accounted.fromRow key stored)
  · rw [refines.store.table]
    exact grown
  · rw [refines.store.table]
    exact accounted.distinct
  · have after := flushAttempt_refines columns .commit refines.store
    rw [if_pos rfl] at after
    rw [after.table, ← sources]
    exact accounted.saved_iff (List.map_eq_nil_iff.mp (refines.tasks ▸ quiet)) key

variable (columns) in
omit [UnicodeTables] [IsoFormat] in
theorem handed_some (bridge : FileBridge) (ingested : List (List PunchRecord)) :
    ∃ after, bridge.handed columns ingested = some after := by
  induction ingested generalizing bridge with
  | nil => exact ⟨bridge, rfl⟩
  | cons records rest ih =>
      rw [FileBridge.handed, List.foldlM_cons]
      exact ih _

variable (columns) in
theorem push_answered (service : Service) {post : AttendancePost}
    (clean : ¬ Poisoned service.router.dashboard.logs) (plain : ¬ post.SendsAware) :
    (∃ after, Service.Step columns service (.push post) after) ∧
      (ServiceCall.push post).given service.router = post.rows.filterMap (pushedKey post.sn) := by
  have passed := (acknowledged_iff service.router post).mpr (.inr ⟨clean, plain⟩)
  obtain ⟨bridge, handed⟩ :=
    handed_some columns service.bridge (handleAttendance service.router post).ingested
  refine ⟨⟨⟨(handleAttendance service.router post).state, bridge⟩, ?_⟩, ?_⟩
  · rw [Service.Step, Service.step, handed]
    rfl
  · rw [ServiceCall.given, if_pos passed.1]

end

end

theorem answered_rows_stored_ordinary :
    ∃ service : Service, @FileBridge.KeepsKey .scalars service.bridge
      ("NFZ8254900401", "102", sampleTime) := by
  let := UnicodeTables.ascii
  let := IsoFormat.extended
  let := ValueTables.scalars
  have emptied : SpoolText.Holds none [] := ⟨rfl, by simp⟩
  have distinct : (keys []).Nodup := List.nodup_nil
  have clean : ¬ Poisoned (RouterState.withEmptyLog none [] .initial).dashboard.logs := by
    rintro ⟨_, member, _⟩
    cases member
  have plain : ¬ ordinaryPush.SendsAware := by
    rintro ⟨row, listed, aware⟩
    rw [rows_ordinaryPush, List.mem_singleton] at listed
    subst listed
    exact not_readsAware_of_all (by decide +kernel) aware
  obtain ⟨⟨service, step⟩, given⟩ :=
    push_answered plainColumns (.initial (.withEmptyLog none [] .initial) none [])
      clean plain
  have run : Run (Guarded ExpectedServiceErrors (Service.Step plainColumns))
      (.initial (.withEmptyLog none [] .initial) none []) [.push ordinaryPush] service :=
    .cons ⟨trivial, step⟩ (.nil service)
  refine ⟨service, (answered_rows_stored emptied distinct run).1 _ ?_⟩
  rw [givenKeys, List.mem_append]
  left
  change _ ∈ (ServiceCall.push ordinaryPush).given (.withEmptyLog none [] .initial)
  rw [show (ServiceCall.push ordinaryPush).given (.withEmptyLog none [] .initial) = _ from given,
    rows_ordinaryPush]
  decide +kernel

end PumoBioMetric.Sync
