import PumoBioMetric.Sync.ConnectionPool

/-!
# Where the connections end up

Each connection that was handed out is followed to the end of its call: none is left in use but
one that the driver would not take back, and none on which a call has failed is handed out
again.
-/

set_option autoImplicit false

namespace PumoBioMetric.Sync

open Interleaving TransitionRun

section

variable {Network Driver Pool Connection : Type}
  (driver : PoolDriver Network Driver Pool Connection)

/-! ## Connections in use -/

def InUse (lms : LmsPool Driver Pool) (connection : Connection) : Prop :=
  driver.place lms.driver connection = .used

/-- The thread puts the connection back into its own pool, and that raises. -/
def PutRaises (event : CallEvent Network) (lms : LmsPool Driver Pool)
    (place : CallPlace Pool Connection) (connection : Connection) : Prop :=
  ∃ network outcome, event = .driver network ∧ place = .putconn connection outcome ∧
    lms.current = some (driver.home connection) ∧
    (driver.putconn network (driver.home connection) connection lms.driver).1 = false

/-- A connection in use after a step is the thread's own, or was in use before it and is not the
thread's, or was not taken back. -/
def Traced (event : CallEvent Network) (before after : LmsPool Driver Pool)
    (place next : CallPlace Pool Connection) : Prop :=
  ∀ connection, InUse driver after connection →
    next.connection? = some connection ∨
      InUse driver before connection ∧ place.connection? ≠ some connection ∨
      PutRaises driver event before place connection

variable {driver} {event : CallEvent Network} {lms after : LmsPool Driver Pool}
  {place next : CallPlace Pool Connection}

theorem traced_same (same : next.connection? = place.connection?)
    (before : ∀ connection, InUse driver after connection → InUse driver lms connection) :
    Traced driver event lms after place next := by
  intro connection used
  by_cases own : place.connection? = some connection
  · exact .inl (same.trans own)
  · exact .inr (.inl ⟨before connection used, own⟩)

theorem traced_read (same : next.connection? = place.connection?)
    (driverSame : after.driver = lms.driver) : Traced driver event lms after place next :=
  traced_same same fun connection used => by rwa [InUse, driverSame] at used

theorem inUse_of_unchanged {book : Driver} {except : Connection → Prop}
    (unchanged : driver.Unchanged lms.driver book except) (connection : Connection)
    (used : InUse driver { lms with driver := book } connection) :
    InUse driver lms connection := by
  rcases unchanged.place connection with same | ⟨_, closed⟩
  · exact same.symm.trans used
  · exact absurd (closed.symm.trans used) (by simp)

theorem Sane.inUse_current (sane : Sane driver lms) {connection : Connection}
    (used : InUse driver lms connection) : lms.current = some (driver.home connection) :=
  sane.current _ (sane.live connection (.inr used))

theorem traced_vacant (sane : Sane driver lms) (vacant : lms.current = none) :
    Traced driver event lms lms place next := by
  intro connection used
  have current := sane.inUse_current used
  rw [vacant] at current
  cases current

theorem traced_openPool {network : Network} (documented : driver.Documented)
    (ran : lms.openPool driver network = (after, next)) :
    Traced driver event lms after .openPool next := by
  unfold LmsPool.openPool at ran
  rcases created : driver.create network lms.driver with ⟨_ | pool, left⟩ <;>
    rw [created] at ran <;> cases ran
  · exact traced_same rfl (inUse_of_unchanged (documented.create_raises created))
  · refine traced_same rfl fun connection used => ?_
    rcases (documented.create created).2.2.2 connection with same | ⟨_, _, idle⟩
    · exact same.symm.trans used
    · exact absurd (idle.symm.trans used) (by simp)

theorem traced_getconn {network : Network} {pool : Pool} (documented : driver.Documented)
    (ran : lms.getconn driver network pool = (after, next)) :
    Traced driver event lms after (.getconn (some pool)) next := by
  unfold LmsPool.getconn at ran
  rcases given : driver.getconn network pool lms.driver with ⟨_ | connection, left⟩ <;>
    rw [given] at ran <;> cases ran
  · exact traced_same rfl (inUse_of_unchanged (documented.getconn_raises given))
  · intro other used
    by_cases same : other = connection
    · exact .inl (congrArg some same.symm)
    · have others := (documented.getconn given).2.2.2.2.1 other same
      exact .inr (.inl ⟨others.symm.trans used, by simp⟩)

theorem traced_closeall {network : Network} {pool : Pool} {connection : Option Connection}
    {outcome : CallOutcome} (documented : driver.Documented)
    (relies : Relies driver lms (.closeall connection outcome)) (here : lms.current = some pool)
    (ran : lms.closeall driver network pool connection outcome = (after, next)) :
    Traced driver event lms after (.closeall connection outcome) next := by
  have opened : driver.status lms.driver pool = .opened := (relies.lock rfl).2 pool here
  have returns : (driver.closeall network pool lms.driver).1 = true :=
    documented.closeall_opened opened
  unfold LmsPool.closeall at ran
  rcases closed : driver.closeall network pool lms.driver with ⟨_ | _, left⟩
  · rw [closed] at returns
    cases returns
  · rw [closed] at ran
    cases ran
    refine traced_same rfl fun other used => ?_
    rcases (documented.closeall closed).2.2 other with ⟨same, _⟩ | ⟨_, isClosed⟩
    · exact same.symm.trans used
    · exact absurd (isClosed.symm.trans used) (by simp)

theorem traced_putconn {pool : Pool} {connection : Connection} {outcome : CallOutcome}
    (documented : driver.Documented) (sane : Sane driver lms) (here : lms.current = some pool)
    (network : Network) :
    Traced driver (.driver network) lms (lms.putconn driver network pool connection)
      (.putconn connection outcome) (.outside (some outcome)) := by
  intro other used
  unfold LmsPool.putconn at used
  rcases ran : driver.putconn network pool connection lms.driver with ⟨_ | _, book⟩ <;>
    rw [ran] at used
  · have before := inUse_of_unchanged (documented.putconn_raises ran) other used
    by_cases same : other = connection
    · subst same
      have current := sane.inUse_current before
      cases here.symm.trans current
      exact .inr (.inr ⟨network, outcome, rfl, rfl, current, by rw [ran]⟩)
    · exact .inr (.inl ⟨before, fun own => same (Option.some.inj own).symm⟩)
  · obtain ⟨_, _, back, others, _⟩ := documented.putconn ran
    have apart : other ≠ connection := by
      rintro rfl
      rcases back with back | back <;> exact absurd (back.symm.trans used) (by simp)
    exact .inr (.inl ⟨(others other apart).symm.trans used,
      fun own => apart (Option.some.inj own).symm⟩)

theorem traced_of_move (documented : driver.Documented) (sane : Sane driver lms)
    (relies : Relies driver lms place)
    (moved : poolMove driver event lms place = some (after, next)) :
    Traced driver event lms after place next := by
  cases place with
  | outside last => cases event <;> cases moved <;> exact traced_read rfl rfl
  | checkPool => cases event <;> cases moved; exact traced_read (by split <;> rfl) rfl
  | returnPool => cases event <;> cases moved; exact traced_read rfl rfl
  | acquireToOpen | acquireToClose =>
      cases event <;> simp only [poolMove, reduceCtorEq] at moved
      split at moved <;> cases moved
      exact traced_read rfl rfl
  | recheckPool => cases event <;> cases moved; exact traced_read (by split <;> rfl) rfl
  | openPool =>
      cases event <;> simp only [poolMove, reduceCtorEq] at moved
      exact traced_openPool documented (Option.some.inj moved)
  | releaseOpened raised =>
      cases event <;> cases moved
      exact traced_read (by cases raised <;> rfl) rfl
  | getconn pool =>
      cases pool with
      | none => cases event <;> cases moved; exact traced_read rfl rfl
      | some pool =>
          cases event <;> simp only [poolMove, reduceCtorEq] at moved
          exact traced_getconn documented (Option.some.inj moved)
  | body connection => cases event <;> cases moved <;> exact traced_read rfl rfl
  | closeall connection outcome =>
      cases event <;> simp only [poolMove, reduceCtorEq] at moved
      · split at moved <;> cases moved
        exact traced_read rfl rfl
      · obtain ⟨pool, here, ran⟩ := Option.map_eq_some_iff.mp moved
        exact traced_closeall documented relies here ran
  | clearPool connection outcome => cases event <;> cases moved; exact traced_read rfl rfl
  | releaseClosed connection outcome =>
      cases connection <;> cases event <;> cases moved <;> exact traced_read rfl rfl
  | checkPut connection outcome =>
      cases event <;> cases moved
      split
      · exact traced_read rfl rfl
      · exact traced_vacant sane (Option.not_isSome_iff_eq_none.mp ‹_›)
  | putconn connection outcome =>
      cases event <;> simp only [poolMove, reduceCtorEq] at moved
      · split at moved <;> cases moved
        exact traced_vacant sane (Option.not_isSome_iff_eq_none.mp ‹_›)
      · obtain ⟨pool, here, same⟩ := Option.map_eq_some_iff.mp moved
        cases same
        exact traced_putconn documented sane here _

end

section

variable {Thread Network Driver Pool Connection : Type} [DecidableEq Thread]
  {driver : PoolDriver Network Driver Pool Connection} {first : Driver}
  {state : State Thread (LmsPool Driver Pool) (CallPlace Pool Connection)}
  {events : List (Thread × CallEvent Network)}

/-- The connection is not in use, or in the hands of a thread. -/
def InHands (driver : PoolDriver Network Driver Pool Connection) (connection : Connection)
    (state : State Thread (LmsPool Driver Pool) (CallPlace Pool Connection)) : Prop :=
  InUse driver state.shared connection →
    ∃ thread, (state.place thread).connection? = some connection

theorem inHands_step (documented : driver.Documented) (connection : Connection)
    (before : State Thread (LmsPool Driver Pool) (CallPlace Pool Connection))
    (event : Thread × CallEvent Network)
    (after : State Thread (LmsPool Driver Pool) (CallPlace Pool Connection))
    (holds : Holds (Sane driver) (Relies driver) Apart before)
    (taken : Step (poolMove driver) before event after)
    (inHands : InHands driver connection before) :
    InHands driver connection after ∨
      PutRaises driver event.2 before.shared (before.place event.1) connection := by
  obtain ⟨next, moved, places⟩ := step_iff.mp taken
  by_cases raises : PutRaises driver event.2 before.shared (before.place event.1) connection
  · exact .inr raises
  refine .inl fun used => ?_
  rcases traced_of_move documented holds.sane (holds.relies event.1) moved connection used with
    own | ⟨was, other⟩ | here
  · refine ⟨event.1, ?_⟩
    rw [places, Function.update_self]
    exact own
  · obtain ⟨thread, has⟩ := inHands was
    have apart : thread ≠ event.1 := by
      rintro rfl
      exact other has
    refine ⟨thread, ?_⟩
    rw [places, Function.update_of_ne apart]
    exact has
  · exact absurd here raises

def PutAway (driver : PoolDriver Network Driver Pool Connection) (lms : LmsPool Driver Pool)
    (connection : Connection) : Prop :=
  driver.place lms.driver connection = .absent ∨ driver.place lms.driver connection = .closed ∨
    driver.place lms.driver connection = .idle ∧ lms.current = some (driver.home connection)

/-- At a step of the run the driver did not take the connection back. -/
def PutRaised (driver : PoolDriver Network Driver Pool Connection) (first : Driver)
    (events : List (Thread × CallEvent Network)) (connection : Connection) : Prop :=
  ∃ earlier event later, ∃ before : State Thread (LmsPool Driver Pool) (CallPlace Pool Connection),
    events = earlier ++ event :: later ∧
    Run (Step (poolMove driver)) (unused first) earlier before ∧
    PutRaises driver event.2 before.shared (before.place event.1) connection

/-- Whatever the calls of all threads meet, no connection is leaked but by the driver: when no
call is going on each is closed, or idle in the pool in use, or `putconn` raised with it. -/
theorem no_connection_leaked (documented : driver.Documented) (fresh : driver.Fresh first)
    (run : Run (Step (poolMove driver)) (unused first) events state)
    (ended : ∀ thread, ∃ last, state.place thread = .outside last) (connection : Connection) :
    PutAway driver state.shared connection ∨ PutRaised driver first events connection := by
  have sound := poolMove_sound documented
  have start : InHands driver connection
      (unused first : State Thread (LmsPool Driver Pool) (CallPlace Pool Connection)) :=
    fun used => absurd ((fresh.place connection).symm.trans used) (by simp)
  refine (run.preserves_or sound.step (inHands_step documented connection) (unused_holds fresh)
    start).imp_left fun inHands => ?_
  have sane := (sound.run run (unused_holds fresh)).sane
  cases place : driver.place state.shared.driver connection with
  | absent => exact .inl place
  | closed => exact .inr (.inl place)
  | idle => exact .inr (.inr ⟨place, sane.current _ (sane.live connection (.inl place))⟩)
  | used =>
      obtain ⟨thread, has⟩ := inHands place
      obtain ⟨last, outside⟩ := ended thread
      rw [outside] at has
      cases has

def firstFailure : List (Nat × CallEvent Bool) :=
  [(0, .databaseError), (0, .go), (0, .driver true), (0, .go), (0, .go), (0, .go)]

def nextCall : List (Nat × CallEvent Bool) :=
  [(1, .call), (1, .go), (1, .go), (1, .go), (1, .driver true), (1, .go), (1, .go),
    (1, .driver true)]

def twoCalls : List (Nat × CallEvent Bool) :=
  firstCall ++ firstFailure ++ nextCall ++ [(1, .go), (1, .go), (1, .driver true)]

theorem no_connection_leaked_two_calls :
    ∃ state, reached twoCalls = some state ∧ state.shared.driver.connections.length = 2 ∧
      ∀ connection, PutAway bookDriver state.shared connection ∨
        PutRaised bookDriver ⟨[], []⟩ twoCalls connection := by
  refine ⟨_, rfl, rfl, ?_⟩
  apply no_connection_leaked bookDriver_documented bookDriver_fresh
    (Run.of_foldlM (show reached twoCalls = some _ from rfl))
  intro thread
  match thread with
  | 0 => exact ⟨some .lmsUnavailable, rfl⟩
  | 1 => exact ⟨some .returned, rfl⟩
  | other + 2 => exact ⟨none, rfl⟩

/-- A body fails, and so does the roll-back of `putconn`: the connection stays in use. -/
example :
    (reached (firstCall ++ [(0, .otherError), (0, .go), (0, .driver false)])).map
      (fun state => (state.place 0, state.shared.driver.place (0, 0))) =
        some (.outside (some .bodyError), .used) := rfl

/-! ## Connections that have failed -/

/-- No thread is using the connection, and none will: its pool is closed, or the thread that it
failed for is about to close it. -/
structure Condemned (driver : PoolDriver Network Driver Pool Connection) (connection : Connection)
    (state : State Thread (LmsPool Driver Pool) (CallPlace Pool Connection)) : Prop where
  unused : ∀ thread, state.place thread ≠ .body connection
  closing : driver.status state.shared.driver (driver.home connection) = .closed ∨
    ∃ thread outcome, state.place thread = .acquireToClose (some connection) outcome ∨
      state.place thread = .closeall (some connection) outcome

omit [DecidableEq Thread] in
theorem getconn_of_body {lms after : LmsPool Driver Pool} {place : CallPlace Pool Connection}
    {event : CallEvent Network} {connection : Connection}
    (moved : poolMove driver event lms place = some (after, .body connection)) :
    ∃ network pool, driver.getconn network pool lms.driver = (some connection, after.driver) := by
  cases place with
  | getconn pool =>
      cases pool with
      | none => cases event <;> cases moved
      | some pool =>
          cases event <;> simp only [poolMove, reduceCtorEq] at moved
          rename_i network
          have ran := Option.some.inj moved
          unfold LmsPool.getconn at ran
          rcases given : driver.getconn network pool lms.driver with ⟨_ | other, left⟩ <;>
            rw [given] at ran <;> cases ran
          exact ⟨network, pool, given⟩
  | openPool =>
      cases event <;> simp only [poolMove, LmsPool.openPool, reduceCtorEq] at moved
      split at moved <;> cases moved
  | closeall connection outcome =>
      cases event <;> simp [poolMove, LmsPool.closeall] at moved
      obtain ⟨pool, _, ran⟩ := moved
      split at ran <;> cases ran
  | releaseClosed connection outcome => cases connection <;> cases event <;> cases moved
  | _ => cases event <;> simp [poolMove, ite_eq_iff] at moved

omit [DecidableEq Thread] in
theorem closeall_of_acquire {lms after : LmsPool Driver Pool} {next : CallPlace Pool Connection}
    {event : CallEvent Network} {connection : Option Connection} {outcome : CallOutcome}
    (moved : poolMove driver event lms (.acquireToClose connection outcome) =
      some (after, next)) : next = .closeall connection outcome := by
  cases event <;> simp only [poolMove, reduceCtorEq] at moved
  split at moved <;> cases moved
  rfl

omit [DecidableEq Thread] in
theorem shut_of_closeall {lms after : LmsPool Driver Pool} {next : CallPlace Pool Connection}
    {event : CallEvent Network} {connection : Option Connection} {outcome : CallOutcome}
    (moved : poolMove driver event lms (.closeall connection outcome) = some (after, next)) :
    next.connection? = connection ∧ next.shut = true := by
  cases event <;> simp only [poolMove, LmsPool.closeall, reduceCtorEq] at moved
  · split at moved <;> cases moved
    exact ⟨rfl, rfl⟩
  · obtain ⟨pool, _, ran⟩ := Option.map_eq_some_iff.mp moved
    split at ran <;> cases ran <;> exact ⟨rfl, rfl⟩

theorem condemned_step (documented : driver.Documented) {connection : Connection}
    (before : State Thread (LmsPool Driver Pool) (CallPlace Pool Connection))
    (event : Thread × CallEvent Network)
    (after : State Thread (LmsPool Driver Pool) (CallPlace Pool Connection))
    (holds : Holds (Sane driver) (Relies driver) Apart before ∧
      Condemned driver connection before)
    (taken : Step (poolMove driver) before event after) :
    Holds (Sane driver) (Relies driver) Apart after ∧ Condemned driver connection after := by
  obtain ⟨held, condemned⟩ := holds
  obtain ⟨next, moved, places⟩ := step_iff.mp taken
  have guarantees := guarantees_of_move documented held.sane (held.relies event.1) moved
  have moves : after.place event.1 = next := by rw [places, Function.update_self]
  have stays : ∀ other, other ≠ event.1 → after.place other = before.place other :=
    fun other apart => by rw [places, Function.update_of_ne apart]
  refine ⟨(poolMove_sound documented).step _ _ _ held taken, ?_, ?_⟩
  · intro thread inBody
    by_cases apart : thread = event.1
    · subst apart
      rw [← moves, inBody] at moved
      obtain ⟨network, pool, given⟩ := getconn_of_body moved
      obtain ⟨opened, free⟩ := free_of_getconn documented given
      rcases condemned.closing with closed | ⟨thread, outcome, there⟩
      · rw [opened] at closed
        cases closed
      · have has : (before.place thread).connection? = some connection := by
          rcases there with there | there <;> rw [there] <;> rfl
        exact free ((held.relies thread).connection connection has).1
    · exact condemned.unused thread ((stays thread apart).symm.trans inBody)
  · rcases condemned.closing with closed | ⟨thread, outcome, there⟩
    · exact .inl (guarantees.leavesOthers.closed _ closed)
    · by_cases apart : thread = event.1
      · subst apart
        rcases there with acquires | closes
        · rw [acquires] at moved
          exact .inr ⟨event.1, outcome, .inr (moves.trans (closeall_of_acquire moved))⟩
        · rw [closes] at moved
          obtain ⟨has, shut⟩ := shut_of_closeall moved
          exact .inl ((guarantees.relies.connection connection has).2.2 shut)
      · exact .inr ⟨thread, outcome, there.imp ((stays thread apart).trans ·)
          ((stays thread apart).trans ·)⟩

/-- A connection on which a database call failed is never handed out again, to any thread. -/
theorem failed_never_handed_out {thread : Thread} {connection : Connection}
    {rest : List (Thread × CallEvent Network)}
    {middle after final : State Thread (LmsPool Driver Pool) (CallPlace Pool Connection)}
    (documented : driver.Documented) (fresh : driver.Fresh first)
    (run : Run (Step (poolMove driver)) (unused first) events middle)
    (inBody : middle.place thread = .body connection)
    (fails : Step (poolMove driver) middle (thread, .databaseError) after)
    (onward : Run (Step (poolMove driver)) after rest final) (other : Thread) :
    final.place other ≠ .body connection := by
  have holds := (poolMove_sound documented).run run (unused_holds fresh)
  obtain ⟨next, moved, places⟩ := step_iff.mp fails
  rw [inBody] at moved
  have closes : CallPlace.acquireToClose (some connection) .lmsUnavailable = next :=
    congrArg Prod.snd (Option.some.inj moved)
  have condemned : Condemned driver connection after := by
    refine ⟨fun other => ?_, .inr ⟨thread, .lmsUnavailable, .inl ?_⟩⟩
    · by_cases apart : other = thread
      · rw [places, apart, Function.update_self, ← closes]
        simp
      · rw [places, Function.update_of_ne apart]
        intro also
        have own : (middle.place thread).connection? = some connection := by rw [inBody]; rfl
        exact (holds.apart thread other (Ne.symm apart)).connection connection own
          (by rw [also]; rfl)
    · rw [places, Function.update_self, closes]
  have start := (poolMove_sound documented).step _ _ _ holds fails
  exact (onward.preserves (condemned_step documented) ⟨start, condemned⟩).2.unused other

theorem failed_never_handed_out_two_calls :
    ∃ middle after final, reached firstCall = some middle ∧
      middle.step (poolMove bookDriver) (0, .databaseError) = some after ∧
      (firstFailure.tail ++ nextCall).foldlM (State.step (poolMove bookDriver)) after =
        some final ∧
      final.place 1 = .body (1, 1) ∧ ∀ other, final.place other ≠ .body (0, 0) := by
  refine ⟨_, _, _, rfl, rfl, rfl, rfl, ?_⟩
  exact @failed_never_handed_out _ _ _ _ _ _ bookDriver ⟨[], []⟩ firstCall 0 (0, 0)
    (firstFailure.tail ++ nextCall) _ _ _ bookDriver_documented bookDriver_fresh
    (Run.of_foldlM rfl) rfl rfl (Run.of_foldlM rfl)

end

/-! ## Calls that are left alone -/

section

variable {Network Driver Pool Connection : Type}
  {driver : PoolDriver Network Driver Pool Connection}
  {lms after : LmsPool Driver Pool} {next : CallPlace Pool Connection}

/-- Where nobody closed the pool since the thread looked at it. -/
def Steady (lms : LmsPool Driver Pool) : CallPlace Pool Connection → Prop
  | .returnPool | .releaseOpened false => lms.current ≠ none
  | .getconn pool => pool ≠ none
  | .putconn _ outcome => lms.current ≠ none ∧ outcome ≠ .attributeError
  | .acquireToClose _ outcome | .closeall _ outcome | .clearPool _ outcome
  | .releaseClosed _ outcome | .checkPut _ outcome => outcome ≠ .attributeError
  | .outside last => last ≠ some .attributeError
  | .checkPool | .acquireToOpen | .recheckPool | .openPool | .releaseOpened true | .body _ => True

theorem steady_openPool {network : Network} (ran : lms.openPool driver network = (after, next)) :
    Steady after next := by
  unfold LmsPool.openPool at ran
  split at ran <;> cases ran
  · exact Option.some_ne_none _
  · trivial

theorem steady_getconn {network : Network} {pool : Pool}
    (ran : lms.getconn driver network pool = (after, next)) : Steady after next := by
  unfold LmsPool.getconn at ran
  split at ran <;> cases ran
  · trivial
  · simp [Steady]

theorem steady_closeall {network : Network} {pool : Pool} {connection : Option Connection}
    {outcome : CallOutcome} (steady : outcome ≠ .attributeError)
    (ran : lms.closeall driver network pool connection outcome = (after, next)) :
    Steady after next := by
  unfold LmsPool.closeall at ran
  split at ran <;> cases ran
  · exact steady
  · simp [Steady]

theorem steady_checkPool :
    Steady lms (if lms.current.isSome then .returnPool else .acquireToOpen :
      CallPlace Pool Connection) := by
  split
  · rename_i current
    exact Option.isSome_iff_ne_none.mp current
  · trivial

theorem steady_recheckPool :
    Steady lms (if lms.current.isSome then .releaseOpened false else .openPool :
      CallPlace Pool Connection) := by
  split
  · rename_i current
    exact Option.isSome_iff_ne_none.mp current
  · trivial

theorem steady_checkPut {connection : Connection} {outcome : CallOutcome}
    (steady : outcome ≠ .attributeError) :
    Steady lms (if lms.current.isSome then .putconn connection outcome
      else .outside (some outcome)) := by
  split
  · rename_i current
    exact ⟨Option.isSome_iff_ne_none.mp current, steady⟩
  · simpa [Steady] using steady

theorem steady_of_move {place : CallPlace Pool Connection} {event : CallEvent Network}
    (steady : Steady lms place)
    (moved : poolMove driver event lms place = some (after, next)) : Steady after next := by
  cases place with
  | outside last => cases event <;> cases moved <;> simp [Steady]
  | checkPool => cases event <;> cases moved; exact steady_checkPool
  | returnPool => cases event <;> cases moved; exact steady
  | acquireToOpen =>
      cases event <;> simp only [poolMove, reduceCtorEq] at moved
      split at moved <;> cases moved
      trivial
  | recheckPool => cases event <;> cases moved; exact steady_recheckPool
  | openPool =>
      cases event <;> simp only [poolMove, reduceCtorEq] at moved
      exact steady_openPool (Option.some.inj moved)
  | releaseOpened raised =>
      cases event <;> cases moved
      cases raised with
      | false => exact steady
      | true => simp [Steady]
  | getconn pool =>
      cases pool with
      | none => exact absurd rfl steady
      | some pool =>
          cases event <;> simp only [poolMove, reduceCtorEq] at moved
          exact steady_getconn (Option.some.inj moved)
  | body connection => cases event <;> cases moved <;> simp [Steady]
  | acquireToClose connection outcome =>
      cases event <;> simp only [poolMove, reduceCtorEq] at moved
      split at moved <;> cases moved
      exact steady
  | closeall connection outcome =>
      cases event <;> simp only [poolMove, reduceCtorEq] at moved
      · split at moved <;> cases moved
        exact steady
      · obtain ⟨pool, _, ran⟩ := Option.map_eq_some_iff.mp moved
        exact steady_closeall steady ran
  | clearPool connection outcome => cases event <;> cases moved; exact steady
  | releaseClosed connection outcome =>
      cases connection <;> cases event <;> cases moved
      · simpa [Steady] using steady
      · exact steady
  | checkPut connection outcome => cases event <;> cases moved; exact steady_checkPut steady
  | putconn connection outcome =>
      obtain ⟨current, other⟩ := steady
      cases event <;> simp only [poolMove, reduceCtorEq] at moved
      · split at moved <;> cases moved
        exact absurd (Option.not_isSome_iff_eq_none.mp ‹_›) current
      · obtain ⟨pool, _, same⟩ := Option.map_eq_some_iff.mp moved
        cases same
        simpa [Steady] using other

theorem checkPool_of_call {place : CallPlace Pool Connection}
    (moved : poolMove driver .call lms place = some (after, next)) : next = .checkPool := by
  cases place with
  | outside last => cases moved; rfl
  | getconn connection | releaseClosed connection => cases connection <;> cases moved
  | _ => cases moved

end

section

variable {Thread Network Driver Pool Connection : Type} [DecidableEq Thread]
  {driver : PoolDriver Network Driver Pool Connection}

/-- `_pool` is read without the lock, but only another thread can make that matter: a call that
is left alone never meets `AttributeError`, whatever the threads did before it. -/
theorem lone_call_no_attributeError {thread : Thread} {rest : List (Thread × CallEvent Network)}
    {before called after : State Thread (LmsPool Driver Pool) (CallPlace Pool Connection)}
    (calls : Step (poolMove driver) before (thread, .call) called)
    (onward : Run (Step (poolMove driver)) called rest after)
    (alone : ∀ event ∈ rest, event.1 = thread) :
    after.place thread ≠ .outside (some .attributeError) := by
  have begun : Steady called.shared (called.place thread) := by
    obtain ⟨place, moved, places⟩ := step_iff.mp calls
    rw [places, Function.update_self, checkPool_of_call moved]
    trivial
  let Kept := fun state : State Thread (LmsPool Driver Pool) (CallPlace Pool Connection) =>
    Steady state.shared (state.place thread)
  have kept : ∀ before event after, event.1 = thread → Step (poolMove driver) before event after →
      Kept before → Kept after := by
    intro before event after own taken steady
    obtain ⟨place, moved, places⟩ := step_iff.mp taken
    change Steady after.shared (after.place thread)
    rw [places, own, Function.update_self]
    exact steady_of_move (own ▸ steady) moved
  have steady : Kept after := onward.preserves_while kept alone begun
  intro ended
  change Steady after.shared (after.place thread) at steady
  rw [ended] at steady
  exact steady rfl

theorem lone_call_no_attributeError_first_call :
    ∃ after, reached firstCall = some after ∧ after.place 0 ≠ .outside (some .attributeError) := by
  refine ⟨_, rfl, ?_⟩
  exact @lone_call_no_attributeError _ _ _ _ _ _ bookDriver 0 firstCall.tail (unused ⟨[], []⟩) _ _
    rfl (Run.of_foldlM rfl) (by decide)

/-- Thread 1 closes the pool after thread 0 has seen it. -/
example :
    (reached (firstCall ++ [(0, .go), (0, .go), (0, .driver true), (0, .call), (0, .go),
      (1, .close), (1, .go), (1, .driver true), (1, .go), (0, .go), (0, .go)])).map (·.place 0) =
        some (.outside (some .attributeError)) := rfl

end

end PumoBioMetric.Sync
