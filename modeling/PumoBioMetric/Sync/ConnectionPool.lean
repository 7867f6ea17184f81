import PumoBioMetric.Library.Interleaving
import PumoBioMetric.Sync.PoolDriver

/-!
# The connections of `LmsDatabase`

`_ensure_pool`, `_connection` and `close` of `lms_db.py`, called by any number of threads.  The
pool is opened under the lock but read without it, so every read may see what another thread
left.
-/

set_option autoImplicit false

namespace PumoBioMetric.Sync

open Interleaving TransitionRun

/-! ## The calls -/

/-- `_pool` and `_lock`, and what the driver keeps. -/
structure LmsPool (Driver Pool : Type) where
  driver : Driver
  current : Option Pool
  lock : Bool

inductive CallOutcome where
  | returned
  | lmsUnavailable
  | bodyError
  | attributeError
  | poolError
deriving DecidableEq, Repr

inductive CallPlace (Pool Connection : Type) where
  | outside (last : Option CallOutcome)
  | checkPool
  | returnPool
  | acquireToOpen
  | recheckPool
  | openPool
  | releaseOpened (raised : Bool)
  | getconn (pool : Option Pool)
  | body (connection : Connection)
  | acquireToClose (connection : Option Connection) (outcome : CallOutcome)
  | closeall (connection : Option Connection) (outcome : CallOutcome)
  | clearPool (connection : Option Connection) (outcome : CallOutcome)
  | releaseClosed (connection : Option Connection) (outcome : CallOutcome)
  | checkPut (connection : Connection) (outcome : CallOutcome)
  | putconn (connection : Connection) (outcome : CallOutcome)
deriving DecidableEq, Repr

/-- What happens at a step, where that is not settled by the memory. -/
inductive CallEvent (Network : Type) where
  | call
  | close
  | go
  | driver (network : Network)
  | databaseError
  | otherError
deriving DecidableEq, Repr

section

variable {Network Driver Pool Connection : Type}
  (driver : PoolDriver Network Driver Pool Connection) (lms : LmsPool Driver Pool)

def LmsPool.openPool (network : Network) : LmsPool Driver Pool × CallPlace Pool Connection :=
  match driver.create network lms.driver with
  | (some pool, after) =>
      ({ lms with driver := after, current := some pool }, .releaseOpened false)
  | (none, after) => ({ lms with driver := after }, .releaseOpened true)

def LmsPool.getconn (network : Network) (pool : Pool) :
    LmsPool Driver Pool × CallPlace Pool Connection :=
  match driver.getconn network pool lms.driver with
  | (some connection, after) => ({ lms with driver := after }, .body connection)
  | (none, after) => ({ lms with driver := after }, .acquireToClose none .lmsUnavailable)

def LmsPool.closeall (network : Network) (pool : Pool) (connection : Option Connection)
    (outcome : CallOutcome) : LmsPool Driver Pool × CallPlace Pool Connection :=
  match driver.closeall network pool lms.driver with
  | (true, after) => ({ lms with driver := after }, .clearPool connection outcome)
  | (false, after) => ({ lms with driver := after }, .clearPool connection .poolError)

def LmsPool.putconn (network : Network) (pool : Pool) (connection : Connection) :
    LmsPool Driver Pool :=
  { lms with driver := (driver.putconn network pool connection lms.driver).2 }

/-- One step of a thread that uses a database that is configured. -/
def poolMove : Move (LmsPool Driver Pool) (CallPlace Pool Connection) (CallEvent Network) :=
  fun event lms place =>
  match place, event with
  | .outside _, .call => some (lms, .checkPool)
  | .outside _, .close => some (lms, .acquireToClose none .returned)
  -- `_ensure_pool`
  | .checkPool, .go => some (lms, if lms.current.isSome then .returnPool else .acquireToOpen)
  | .acquireToOpen, .go =>
      if lms.lock then none else some ({ lms with lock := true }, .recheckPool)
  | .recheckPool, .go =>
      some (lms, if lms.current.isSome then .releaseOpened false else .openPool)
  | .openPool, .driver network => some (lms.openPool driver network)
  | .releaseOpened raised, .go =>
      some ({ lms with lock := false },
        if raised then .outside (some .lmsUnavailable) else .returnPool)
  | .returnPool, .go => some (lms, .getconn lms.current)
  -- `_connection`
  | .getconn none, .go => some (lms, .outside (some .attributeError))
  | .getconn (some pool), .driver network => some (lms.getconn driver network pool)
  | .body connection, .go => some (lms, .checkPut connection .returned)
  | .body connection, .databaseError =>
      some (lms, .acquireToClose (some connection) .lmsUnavailable)
  | .body connection, .otherError => some (lms, .checkPut connection .bodyError)
  -- `close`
  | .acquireToClose connection outcome, .go =>
      if lms.lock then none else some ({ lms with lock := true }, .closeall connection outcome)
  | .closeall connection outcome, .go =>
      if lms.current.isSome then none else some (lms, .releaseClosed connection outcome)
  | .closeall connection outcome, .driver network =>
      lms.current.map fun pool => lms.closeall driver network pool connection outcome
  | .clearPool connection outcome, .go =>
      some ({ lms with current := none }, .releaseClosed connection outcome)
  | .releaseClosed none outcome, .go => some ({ lms with lock := false }, .outside (some outcome))
  | .releaseClosed (some connection) outcome, .go =>
      some ({ lms with lock := false }, .checkPut connection outcome)
  -- `finally`
  | .checkPut connection outcome, .go =>
      some (lms,
        if lms.current.isSome then .putconn connection outcome else .outside (some outcome))
  | .putconn _ _, .go =>
      if lms.current.isSome then none else some (lms, .outside (some .attributeError))
  | .putconn connection outcome, .driver network =>
      lms.current.map fun pool =>
        (lms.putconn driver network pool connection, .outside (some outcome))
  | _, _ => none

def unused {Thread : Type} (first : Driver) :
    State Thread (LmsPool Driver Pool) (CallPlace Pool Connection) :=
  ⟨⟨first, none, false⟩, fun _ => .outside none⟩

end

namespace CallPlace

variable {Pool Connection : Type}

/-- Inside `with self._lock`. -/
@[simp]
def locked : CallPlace Pool Connection → Bool
  | .recheckPool | .openPool | .releaseOpened _ | .closeall _ _ | .clearPool _ _
  | .releaseClosed _ _ => true
  | _ => false

/-- The connection that the thread was handed and has not put back. -/
@[simp]
def connection? : CallPlace Pool Connection → Option Connection
  | .body connection | .checkPut connection _ | .putconn connection _ => some connection
  | .acquireToClose connection _ | .closeall connection _ | .clearPool connection _
  | .releaseClosed connection _ => connection
  | _ => none

/-- The call has failed and closed the pool. -/
@[simp]
def shut : CallPlace Pool Connection → Bool
  | .clearPool _ _ | .releaseClosed _ _ => true
  | .checkPut _ outcome | .putconn _ outcome => outcome == .lmsUnavailable
  | _ => false

@[simp]
def outcome? : CallPlace Pool Connection → Option CallOutcome
  | .outside last => last
  | .acquireToClose _ outcome | .closeall _ outcome | .clearPool _ outcome
  | .releaseClosed _ outcome | .checkPut _ outcome | .putconn _ outcome => some outcome
  | _ => none

end CallPlace

/-! ## What the memory keeps -/

section

variable {Network Driver Pool Connection : Type}
  (driver : PoolDriver Network Driver Pool Connection)

/-- The connection is with the thread that it was handed to, or has been closed under it. -/
def Held (lms : LmsPool Driver Pool) (connection : Connection) : Prop :=
  driver.place lms.driver connection = .used ∨ driver.place lms.driver connection = .closed

def Settled (lms : LmsPool Driver Pool) : Prop :=
  ∀ pool, lms.current = some pool → driver.status lms.driver pool = .opened

/-- No pool is open but that of `_pool`, which may be closed only while the lock is held; the
connections that are not closed are of open pools. -/
structure Sane (lms : LmsPool Driver Pool) : Prop where
  current : ∀ pool, driver.status lms.driver pool = .opened → lms.current = some pool
  settled : lms.lock = false → Settled driver lms
  live : ∀ connection, driver.place lms.driver connection = .idle ∨
    driver.place lms.driver connection = .used →
      driver.status lms.driver (driver.home connection) = .opened

/-- What the lock protects, at the places inside it. -/
def Protects (lms : LmsPool Driver Pool) : CallPlace Pool Connection → Prop
  | .openPool => lms.current = none
  | .clearPool _ _ => ∀ pool, driver.status lms.driver pool ≠ .opened
  | _ => Settled driver lms

structure Relies (lms : LmsPool Driver Pool) (place : CallPlace Pool Connection) : Prop where
  lock : place.locked = true → lms.lock = true ∧ Protects driver lms place
  connection : ∀ connection, place.connection? = some connection →
    Held driver lms connection ∧ driver.status lms.driver (driver.home connection) ≠ .absent ∧
      (place.shut = true → driver.status lms.driver (driver.home connection) = .closed)
  outcome : place.outcome? ≠ some .poolError

/-- Two threads are not both inside the lock, and no connection is in the hands of both. -/
structure Apart (here there : CallPlace Pool Connection) : Prop where
  locked : here.locked = true → there.locked = false
  connection : ∀ connection, here.connection? = some connection →
    there.connection? ≠ some connection

theorem Apart.symm {here there : CallPlace Pool Connection} (apart : Apart here there) :
    Apart there here where
  locked := by
    intro inside
    by_contra also
    have outside := apart.locked (by simpa using also)
    rw [inside] at outside
    cases outside
  connection := fun connection own also => apart.connection connection also own

structure LeavesOthers (before after : LmsPool Driver Pool)
    (place next : CallPlace Pool Connection) : Prop where
  known : ∀ pool, driver.status before.driver pool ≠ .absent →
    driver.status after.driver pool ≠ .absent
  closed : ∀ pool, driver.status before.driver pool = .closed →
    driver.status after.driver pool = .closed
  held : ∀ connection, place.connection? ≠ some connection → Held driver before connection →
    Held driver after connection
  handed : ∀ connection, next.connection? = some connection →
    place.connection? = some connection ∨ ¬ Held driver before connection
  locked : before.lock = true → place.locked = false →
    next.locked = false ∧ after.lock = true ∧ after.current = before.current ∧
      ∀ pool, driver.status after.driver pool = driver.status before.driver pool

structure Guarantees (before after : LmsPool Driver Pool)
    (place next : CallPlace Pool Connection) : Prop where
  sane : Sane driver after
  relies : Relies driver after next
  leavesOthers : LeavesOthers driver before after place next

end

section

variable {Network Driver Pool Connection : Type}
  {driver : PoolDriver Network Driver Pool Connection}

theorem Protects.same {before after : LmsPool Driver Pool} {place : CallPlace Pool Connection}
    (protects : Protects driver before place) (current : after.current = before.current)
    (status : ∀ pool, driver.status after.driver pool = driver.status before.driver pool) :
    Protects driver after place := by
  have settled : Settled driver before → Settled driver after := by
    intro held pool here
    rw [status]
    exact held pool (current ▸ here)
  cases place with
  | openPool => exact current.trans protects
  | clearPool connection outcome =>
      intro pool
      rw [status]
      exact protects pool
  | _ => exact settled protects

/-- A step of another thread leaves a thread what it relies on, and apart. -/
theorem Relies.stable {before after : LmsPool Driver Pool}
    {place next there : CallPlace Pool Connection} (relies : Relies driver before there)
    (leaves : LeavesOthers driver before after place next) (apart : Apart place there) :
    Relies driver after there ∧ Apart next there := by
  have frozen : there.locked = true → next.locked = false ∧ after.lock = true ∧
      after.current = before.current ∧
      ∀ pool, driver.status after.driver pool = driver.status before.driver pool :=
    fun inside => leaves.locked (relies.lock inside).1 (apart.symm.locked inside)
  refine ⟨⟨fun inside => ?_, fun connection own => ?_, relies.outcome⟩,
    fun inside => ?_, fun connection own also => ?_⟩
  · obtain ⟨_, lock, current, status⟩ := frozen inside
    exact ⟨lock, (relies.lock inside).2.same current status⟩
  · obtain ⟨held, known, shut⟩ := relies.connection connection own
    exact ⟨leaves.held connection (apart.symm.connection connection own) held,
      leaves.known _ known, fun isShut => leaves.closed _ (shut isShut)⟩
  · by_contra both
    have outside := (frozen (by simpa using both)).1
    rw [inside] at outside
    cases outside
  · rcases leaves.handed connection own with before | free
    · exact apart.connection connection before also
    · exact free (relies.connection connection also).1

/-! ## The places -/

variable {lms after : LmsPool Driver Pool} {place next : CallPlace Pool Connection}

theorem LeavesOthers.of_driver (same : after.driver = lms.driver)
    (handed : ∀ connection, next.connection? = some connection →
      place.connection? = some connection)
    (locked : lms.lock = true → place.locked = false →
      next.locked = false ∧ after.lock = true ∧ after.current = lms.current) :
    LeavesOthers driver lms after place next where
  known := by rw [same]; exact fun _ => id
  closed := by rw [same]; exact fun _ => id
  held := by simp only [Held, same]; exact fun _ _ => id
  handed := fun connection own => .inl (handed connection own)
  locked := by
    intro lock outside
    obtain ⟨next, lock, current⟩ := locked lock outside
    exact ⟨next, lock, current, fun _ => by rw [same]⟩

theorem guarantees_read (sane : Sane driver lms) (relies : Relies driver lms place)
    (inside : next.locked = place.locked)
    (protects : next.locked = true → Protects driver lms next)
    (connection : ∀ connection, next.connection? = some connection →
      place.connection? = some connection ∧ (next.shut = true → place.shut = true))
    (outcome : next.outcome? ≠ some .poolError) :
    Guarantees driver lms lms place next where
  sane := sane
  relies := by
    refine ⟨fun isLocked => ⟨(relies.lock (inside ▸ isLocked)).1, protects isLocked⟩,
      fun here own => ?_, outcome⟩
    obtain ⟨before, shut⟩ := connection here own
    obtain ⟨held, known, closed⟩ := relies.connection here before
    exact ⟨held, known, fun isShut => closed (shut isShut)⟩
  leavesOthers := .of_driver rfl (fun here own => (connection here own).1)
    fun lock outside => ⟨inside.trans outside, lock, rfl⟩

theorem guarantees_acquire (sane : Sane driver lms) (relies : Relies driver lms place)
    (free : lms.lock = false) (protects : Protects driver lms next)
    (connection : next.connection? = place.connection?) (going : next.shut = false)
    (outcome : next.outcome? ≠ some .poolError) :
    Guarantees driver lms { lms with lock := true } place next where
  sane := ⟨sane.current, fun held => (by cases held), sane.live⟩
  relies := by
    refine ⟨fun _ => ⟨rfl, protects.same rfl fun _ => rfl⟩, fun here own => ?_, outcome⟩
    obtain ⟨held, known, _⟩ := relies.connection here (connection ▸ own)
    exact ⟨held, known, fun shut => by rw [going] at shut; cases shut⟩
  leavesOthers := .of_driver rfl (fun here own => connection ▸ own) fun lock _ => by
    rw [free] at lock
    cases lock

theorem guarantees_release (sane : Sane driver lms) (relies : Relies driver lms place)
    (locked : place.locked = true) (settled : Settled driver lms) (outside : next.locked = false)
    (connection : ∀ connection, next.connection? = some connection →
      place.connection? = some connection ∧ (next.shut = true → place.shut = true))
    (outcome : next.outcome? ≠ some .poolError) :
    Guarantees driver lms { lms with lock := false } place next where
  sane := ⟨sane.current, fun _ => settled, sane.live⟩
  relies := by
    refine ⟨fun inside => (by rw [outside] at inside; cases inside), fun here own => ?_, outcome⟩
    obtain ⟨before, shut⟩ := connection here own
    obtain ⟨held, known, closed⟩ := relies.connection here before
    exact ⟨held, known, fun isShut => closed (shut isShut)⟩
  leavesOthers := .of_driver rfl (fun here own => (connection here own).1) fun _ isOutside => by
    rw [locked] at isOutside
    cases isOutside

/-! ### The driver's calls -/

theorem LeavesOthers.of_status {after : Driver}
    (status : ∀ pool, driver.status after pool = driver.status lms.driver pool)
    (held : ∀ connection, place.connection? ≠ some connection → Held driver lms connection →
      Held driver { lms with driver := after } connection)
    (handed : ∀ connection, next.connection? = some connection →
      place.connection? = some connection ∨ ¬ Held driver lms connection)
    (outside : next.locked = place.locked) :
    LeavesOthers driver lms { lms with driver := after } place next where
  known := fun pool known => by rw [status]; exact known
  closed := fun pool closed => by rw [status]; exact closed
  held := held
  handed := handed
  locked := fun lock isOutside => ⟨outside.trans isOutside, lock, rfl, status⟩

theorem Sane.of_status (sane : Sane driver lms) {after : Driver}
    (status : ∀ pool, driver.status after pool = driver.status lms.driver pool)
    (live : ∀ connection, driver.place after connection = driver.place lms.driver connection ∨
      driver.place after connection = .closed ∨
        driver.status lms.driver (driver.home connection) = .opened) :
    Sane driver { lms with driver := after } where
  current := fun pool opened => sane.current pool (status pool ▸ opened)
  settled := fun free pool here => (status pool).trans (sane.settled free pool here)
  live := by
    intro connection going
    change driver.place after connection = _ ∨ driver.place after connection = _ at going
    rw [show driver.status _ _ = _ from status _]
    rcases live connection with same | closed | opened
    · rw [same] at going
      exact sane.live connection going
    · rw [closed] at going
      rcases going with going | going <;> cases going
    · exact opened

theorem guarantees_raises (sane : Sane driver lms) (relies : Relies driver lms place)
    {after : Driver} {except : Connection → Prop}
    (unchanged : driver.Unchanged lms.driver after except) (inside : next.locked = place.locked)
    (protects : next.locked = true → Protects driver lms next)
    (none : next.connection? = none) (outcome : next.outcome? ≠ some .poolError) :
    Guarantees driver lms { lms with driver := after } place next where
  sane := sane.of_status unchanged.status fun connection => by
    rcases unchanged.place connection with same | ⟨_, closed⟩
    · exact .inl same
    · exact .inr (.inl closed)
  relies := by
    refine ⟨fun isLocked => ?_, fun here own => ?_, outcome⟩
    · exact ⟨(relies.lock (inside ▸ isLocked)).1,
        (protects isLocked).same rfl unchanged.status⟩
    · rw [none] at own
      cases own
  leavesOthers := by
    refine .of_status unchanged.status (fun connection _ held => ?_) (fun here own => ?_) inside
    · rcases unchanged.place connection with same | ⟨_, closed⟩
      · rw [Held, show driver.place _ _ = _ from same]
        exact held
      · exact .inr closed
    · rw [none] at own
      cases own

theorem Sane.noneOpen (sane : Sane driver lms) (vacant : lms.current = none) (pool : Pool) :
    driver.status lms.driver pool ≠ .opened := by
  intro opened
  have here := sane.current pool opened
  rw [vacant] at here
  cases here

theorem guarantees_created {network : Network} {pool : Pool} {after : Driver}
    (documented : driver.Documented) (sane : Sane driver lms) (lock : lms.lock = true)
    (vacant : lms.current = none)
    (created : driver.create network lms.driver = (some pool, after)) :
    Guarantees driver lms { lms with driver := after, current := some pool } .openPool
      (.releaseOpened false) := by
  obtain ⟨absent, opened, others, places⟩ := documented.create created
  have settled : Settled driver { lms with driver := after, current := some pool } := by
    intro other here
    cases here
    exact opened
  constructor
  case sane =>
    refine ⟨fun other isOpen => ?_, fun _ => settled, fun connection going => ?_⟩
    · by_cases same : other = pool
      · rw [same]
      · exact absurd ((others other same).symm.trans isOpen) (sane.noneOpen vacant other)
    · rcases places connection with same | ⟨home, _, _⟩
      · simp only [same] at going
        exact absurd (sane.live connection going) (sane.noneOpen vacant _)
      · rw [home]
        exact opened
  case relies => exact ⟨fun _ => ⟨lock, settled⟩, fun _ own => (by cases own), by simp⟩
  case leavesOthers =>
    refine ⟨fun other known => ?_, fun other closed => ?_, fun connection _ held => ?_,
      fun _ own => (by cases own), fun _ outside => (by cases outside)⟩
    · by_cases same : other = pool
      · simp [same, opened]
      · exact others other same ▸ known
    · by_cases same : other = pool
      · rw [same, absent] at closed
        cases closed
      · exact (others other same).trans closed
    · rcases places connection with same | ⟨_, wasAbsent, _⟩
      · rw [Held, show driver.place _ _ = _ from same]
        exact held
      · rw [Held, wasAbsent] at held
        rcases held with held | held <;> cases held

theorem guarantees_openPool {network : Network} (documented : driver.Documented)
    (sane : Sane driver lms) (relies : Relies driver lms .openPool)
    (ran : lms.openPool driver network = (after, next)) :
    Guarantees driver lms after .openPool next := by
  obtain ⟨lock, vacant⟩ := relies.lock rfl
  unfold LmsPool.openPool at ran
  rcases created : driver.create network lms.driver with ⟨_ | pool, left⟩ <;>
    rw [created] at ran <;> cases ran
  · refine guarantees_raises sane relies (documented.create_raises created) rfl ?_ rfl (by simp)
    intro _ pool here
    rw [show lms.current = none from vacant] at here
    cases here
  · exact guarantees_created documented sane lock vacant created

theorem free_of_getconn {network : Network} {pool : Pool} {connection : Connection}
    {left : Driver} (documented : driver.Documented)
    (given : driver.getconn network pool lms.driver = (some connection, left)) :
    driver.status lms.driver (driver.home connection) = .opened ∧
      ¬ Held driver lms connection := by
  obtain ⟨opened, home, free, _⟩ := documented.getconn given
  refine ⟨home ▸ opened, ?_⟩
  rintro (held | held) <;> rw [held] at free <;> rcases free with free | free <;> cases free

theorem guarantees_handed {network : Network} {pool : Pool} {connection : Connection}
    {after : Driver} (documented : driver.Documented) (sane : Sane driver lms)
    (given : driver.getconn network pool lms.driver = (some connection, after)) :
    Guarantees driver lms { lms with driver := after } (.getconn (some pool))
      (.body connection) := by
  obtain ⟨opened, home, _, used, others, status⟩ := documented.getconn given
  have notHeld := (free_of_getconn documented given).2
  constructor
  case sane =>
    refine sane.of_status status fun other => ?_
    by_cases same : other = connection
    · rw [same, home]
      exact .inr (.inr opened)
    · exact .inl (others other same)
  case relies =>
    refine ⟨fun inside => (by cases inside), fun other own => ?_, by simp⟩
    cases own
    refine ⟨.inl used, ?_, fun shut => (by cases shut)⟩
    rw [home, show driver.status _ _ = _ from status pool, opened]
    exact fun absent => by cases absent
  case leavesOthers =>
    refine .of_status status (fun other _ held => ?_) (fun other own => ?_) rfl
    · have apart : other ≠ connection := fun same => notHeld (same ▸ held)
      rw [Held, show driver.place _ _ = _ from others other apart]
      exact held
    · cases own
      exact .inr notHeld

theorem guarantees_getconn {network : Network} {pool : Pool} (documented : driver.Documented)
    (sane : Sane driver lms) (relies : Relies driver lms (.getconn (some pool)))
    (ran : lms.getconn driver network pool = (after, next)) :
    Guarantees driver lms after (.getconn (some pool)) next := by
  unfold LmsPool.getconn at ran
  rcases given : driver.getconn network pool lms.driver with ⟨_ | connection, left⟩ <;>
    rw [given] at ran <;> cases ran
  · exact guarantees_raises sane relies (documented.getconn_raises given) rfl
      (fun inside => (by cases inside)) rfl (by simp)
  · exact guarantees_handed documented sane given

section

variable {network : Network} {pool : Pool} {left : Driver}

theorem noneOpen_of_closeall (documented : driver.Documented) (sane : Sane driver lms)
    (here : lms.current = some pool)
    (ran : driver.closeall network pool lms.driver = (true, left)) (other : Pool) :
    driver.status left other ≠ .opened := by
  intro opened
  obtain ⟨closed, others, _⟩ := documented.closeall ran
  by_cases same : other = pool
  · rw [same, closed] at opened
    cases opened
  · have before := sane.current other ((others other same).symm.trans opened)
    rw [here] at before
    exact same (Option.some.inj before).symm

theorem known_of_closeall (documented : driver.Documented)
    (ran : driver.closeall network pool lms.driver = (true, left)) {other : Pool}
    (known : driver.status lms.driver other ≠ .absent) : driver.status left other ≠ .absent := by
  obtain ⟨closed, others, _⟩ := documented.closeall ran
  by_cases same : other = pool
  · simp [same, closed]
  · rw [others other same]
    exact known

theorem held_of_closeall (documented : driver.Documented)
    (ran : driver.closeall network pool lms.driver = (true, left)) {connection : Connection}
    (held : Held driver lms connection) : Held driver { lms with driver := left } connection := by
  rcases (documented.closeall ran).2.2 connection with ⟨same, _⟩ | ⟨_, closed⟩
  · rw [Held, show driver.place _ _ = _ from same]
    exact held
  · exact .inr closed

/-- No connection of an open pool is left. -/
theorem sane_of_closeall (documented : driver.Documented) (sane : Sane driver lms)
    (lock : lms.lock = true) (here : lms.current = some pool)
    (ran : driver.closeall network pool lms.driver = (true, left)) :
    Sane driver { lms with driver := left } where
  current := fun other opened => absurd opened (noneOpen_of_closeall documented sane here ran other)
  settled := by
    intro free
    rw [show lms.lock = false from free] at lock
    cases lock
  live := by
    intro connection going
    rcases (documented.closeall ran).2.2 connection with ⟨same, absent⟩ | ⟨_, closed⟩
    · simp only [same] at going
      have current := sane.current _ (sane.live connection going)
      rw [here] at current
      rw [absent (Option.some.inj current).symm] at going
      rcases going with going | going <;> cases going
    · simp only [closed] at going
      rcases going with going | going <;> cases going

theorem guarantees_closed {connection : Option Connection} {outcome : CallOutcome}
    (documented : driver.Documented) (sane : Sane driver lms)
    (relies : Relies driver lms (.closeall connection outcome)) (here : lms.current = some pool)
    (ran : driver.closeall network pool lms.driver = (true, left)) :
    Guarantees driver lms { lms with driver := left } (.closeall connection outcome)
      (.clearPool connection outcome) := by
  have lock : lms.lock = true := (relies.lock rfl).1
  have noneOpen := noneOpen_of_closeall documented sane here ran
  constructor
  case sane => exact sane_of_closeall documented sane lock here ran
  case relies =>
    refine ⟨fun _ => ⟨lock, noneOpen⟩, fun other own => ?_, relies.outcome⟩
    obtain ⟨held, known, _⟩ := relies.connection other own
    have stillKnown := known_of_closeall documented ran known
    exact ⟨held_of_closeall documented ran held, stillKnown,
      fun _ => PoolStatus.closed_of stillKnown (noneOpen _)⟩
  case leavesOthers =>
    refine ⟨fun _ => known_of_closeall documented ran, fun other was => ?_,
      fun _ _ => held_of_closeall documented ran, fun other own => .inl own,
      fun _ outside => (by cases outside)⟩
    obtain ⟨closed, others, _⟩ := documented.closeall ran
    by_cases same : other = pool
    · exact same ▸ closed
    · exact (others other same).trans was

end

theorem guarantees_notOpen {connection : Option Connection} {outcome : CallOutcome}
    (sane : Sane driver lms) (relies : Relies driver lms (.closeall connection outcome))
    (vacant : lms.current = none) :
    Guarantees driver lms lms (.closeall connection outcome)
      (.releaseClosed connection outcome) := by
  refine ⟨sane, ⟨relies.lock, fun other own => ?_, relies.outcome⟩,
    .of_driver rfl (fun _ own => own) (fun _ outside => (by cases outside))⟩
  obtain ⟨held, known, _⟩ := relies.connection other own
  exact ⟨held, known, fun _ => PoolStatus.closed_of known (sane.noneOpen vacant _)⟩

theorem guarantees_closeall {network : Network} {pool : Pool} {connection : Option Connection}
    {outcome : CallOutcome} (documented : driver.Documented) (sane : Sane driver lms)
    (relies : Relies driver lms (.closeall connection outcome)) (here : lms.current = some pool)
    (ran : lms.closeall driver network pool connection outcome = (after, next)) :
    Guarantees driver lms after (.closeall connection outcome) next := by
  have opened : driver.status lms.driver pool = .opened := (relies.lock rfl).2 pool here
  have returns : (driver.closeall network pool lms.driver).1 = true :=
    documented.closeall_opened opened
  unfold LmsPool.closeall at ran
  rcases closed : driver.closeall network pool lms.driver with ⟨_ | _, left⟩
  · rw [closed] at returns
    cases returns
  · rw [closed] at ran
    cases ran
    exact guarantees_closed documented sane relies here closed

theorem guarantees_putconn {pool : Pool} {connection : Connection} {outcome : CallOutcome}
    (documented : driver.Documented) (sane : Sane driver lms)
    (relies : Relies driver lms (.putconn connection outcome)) (network : Network) :
    Guarantees driver lms (lms.putconn driver network pool connection)
      (.putconn connection outcome) (.outside (some outcome)) := by
  have fine : (CallPlace.outside (some outcome) : CallPlace Pool Connection).outcome? ≠
      some .poolError := relies.outcome
  unfold LmsPool.putconn
  rcases ran : driver.putconn network pool connection lms.driver with ⟨_ | _, after⟩
  · exact guarantees_raises sane relies (documented.putconn_raises ran) rfl
      (fun inside => by cases inside) rfl fine
  · obtain ⟨opened, home, back, others, status⟩ := documented.putconn ran
    refine ⟨sane.of_status status fun other => ?_,
      ⟨fun inside => (by cases inside), fun _ own => (by cases own), fine⟩,
      .of_status status (fun other own held => ?_) (fun _ own => by cases own) rfl⟩
    · by_cases same : other = connection
      · rw [same, home]
        exact .inr (.inr opened)
      · exact .inl (others other same)
    · have apart : other ≠ connection := fun same => own (same ▸ rfl)
      rw [Held, show driver.place _ _ = _ from others other apart]
      exact held

/-! ### Reads and the lock -/

variable {event : CallEvent Network}

theorem guarantees_checkPool (sane : Sane driver lms) (relies : Relies driver lms .checkPool) :
    Guarantees driver lms lms .checkPool
      (if lms.current.isSome then .returnPool else .acquireToOpen) := by
  split <;> exact guarantees_read sane relies rfl (fun inside => (by cases inside))
    (fun _ own => (by cases own)) (by simp)

theorem guarantees_recheckPool (sane : Sane driver lms)
    (relies : Relies driver lms .recheckPool) :
    Guarantees driver lms lms .recheckPool
      (if lms.current.isSome then .releaseOpened false else .openPool) := by
  split
  · exact guarantees_read sane relies rfl (fun _ => (relies.lock rfl).2)
      (fun _ own => (by cases own)) (by simp)
  · rename_i vacant
    exact guarantees_read sane relies rfl (fun _ => Option.not_isSome_iff_eq_none.mp vacant)
      (fun _ own => (by cases own)) (by simp)

theorem guarantees_releaseOpened {raised : Bool} (sane : Sane driver lms)
    (relies : Relies driver lms (.releaseOpened raised)) :
    Guarantees driver lms { lms with lock := false } (.releaseOpened raised)
      (if raised then .outside (some .lmsUnavailable) else .returnPool) := by
  cases raised <;> exact guarantees_release sane relies rfl (relies.lock rfl).2 rfl
    (fun _ own => (by cases own)) (by simp)

theorem guarantees_clearPool {connection : Option Connection} {outcome : CallOutcome}
    (sane : Sane driver lms) (relies : Relies driver lms (.clearPool connection outcome)) :
    Guarantees driver lms { lms with current := none } (.clearPool connection outcome)
      (.releaseClosed connection outcome) := by
  obtain ⟨lock, noneOpen⟩ := relies.lock rfl
  have settled : Settled driver { lms with current := none } :=
    fun pool here => (by cases here)
  exact ⟨⟨fun pool opened => absurd opened (noneOpen pool), fun _ => settled, sane.live⟩,
    ⟨fun _ => ⟨lock, settled⟩, relies.connection, relies.outcome⟩,
    .of_driver rfl (fun _ own => own) (fun _ outside => (by cases outside))⟩

theorem guarantees_releaseClosed {connection : Option Connection} {outcome : CallOutcome}
    (sane : Sane driver lms) (relies : Relies driver lms (.releaseClosed connection outcome))
    (next : CallPlace Pool Connection) (outside : next.locked = false)
    (same : next.connection? = connection) (ends : next.outcome? = some outcome) :
    Guarantees driver lms { lms with lock := false } (.releaseClosed connection outcome) next :=
  guarantees_release sane relies rfl (relies.lock rfl).2 outside
    (fun _ own => ⟨same.symm.trans own, fun _ => rfl⟩) (ends ▸ relies.outcome)

theorem guarantees_checkPut {connection : Connection} {outcome : CallOutcome}
    (sane : Sane driver lms) (relies : Relies driver lms (.checkPut connection outcome)) :
    Guarantees driver lms lms (.checkPut connection outcome)
      (if lms.current.isSome then .putconn connection outcome else .outside (some outcome)) := by
  split
  · exact guarantees_read sane relies rfl (fun inside => (by cases inside))
      (fun _ own => ⟨own, id⟩) relies.outcome
  · exact guarantees_read sane relies rfl (fun inside => (by cases inside))
      (fun _ own => (by cases own)) relies.outcome

/-- Every step keeps the memory sane, gives the thread what it relies on next and leaves the
others alone. -/
theorem guarantees_of_move (documented : driver.Documented) (sane : Sane driver lms)
    (relies : Relies driver lms place)
    (moved : poolMove driver event lms place = some (after, next)) :
    Guarantees driver lms after place next := by
  have inside : ∀ {other : CallPlace Pool Connection}, other.locked = false →
      other.locked = true → Protects driver lms other := by
    intro other outside isInside
    rw [outside] at isInside
    cases isInside
  cases place with
  | outside last =>
      cases event <;> cases moved <;>
        exact guarantees_read sane relies rfl (inside rfl) (fun _ own => (by cases own)) (by simp)
  | checkPool =>
      cases event <;> cases moved
      exact guarantees_checkPool sane relies
  | returnPool =>
      cases event <;> cases moved
      exact guarantees_read sane relies rfl (inside rfl) (fun _ own => (by cases own)) (by simp)
  | acquireToOpen =>
      cases event <;> simp only [poolMove, reduceCtorEq] at moved
      split at moved <;> cases moved
      have free : lms.lock = false := by simpa using ‹¬lms.lock = true›
      exact guarantees_acquire sane relies free (sane.settled free) rfl rfl (by simp)
  | recheckPool =>
      cases event <;> cases moved
      exact guarantees_recheckPool sane relies
  | openPool =>
      cases event <;> simp only [poolMove, reduceCtorEq] at moved
      exact guarantees_openPool documented sane relies (Option.some.inj moved)
  | releaseOpened raised =>
      cases event <;> cases moved
      exact guarantees_releaseOpened sane relies
  | getconn pool =>
      cases pool with
      | none =>
          cases event <;> cases moved
          exact guarantees_read sane relies rfl (inside rfl) (fun _ own => (by cases own)) (by simp)
      | some pool =>
          cases event <;> simp only [poolMove, reduceCtorEq] at moved
          exact guarantees_getconn documented sane relies (Option.some.inj moved)
  | body connection =>
      cases event <;> cases moved <;>
        exact guarantees_read sane relies rfl (inside rfl) (fun _ own => ⟨own, by simp⟩) (by simp)
  | acquireToClose connection outcome =>
      cases event <;> simp only [poolMove, reduceCtorEq] at moved
      split at moved <;> cases moved
      have free : lms.lock = false := by simpa using ‹¬lms.lock = true›
      exact guarantees_acquire sane relies free (sane.settled free) rfl rfl relies.outcome
  | closeall connection outcome =>
      cases event <;> simp only [poolMove, reduceCtorEq] at moved
      · split at moved <;> cases moved
        exact guarantees_notOpen sane relies (Option.not_isSome_iff_eq_none.mp ‹_›)
      · obtain ⟨pool, here, ran⟩ := Option.map_eq_some_iff.mp moved
        exact guarantees_closeall documented sane relies here ran
  | clearPool connection outcome =>
      cases event <;> cases moved
      exact guarantees_clearPool sane relies
  | releaseClosed connection outcome =>
      cases connection <;> cases event <;> cases moved <;>
        exact guarantees_releaseClosed sane relies _ rfl rfl rfl
  | checkPut connection outcome =>
      cases event <;> cases moved
      exact guarantees_checkPut sane relies
  | putconn connection outcome =>
      cases event <;> simp only [poolMove, reduceCtorEq] at moved
      · split at moved <;> cases moved
        exact guarantees_read sane relies rfl (inside rfl) (fun _ own => (by cases own)) (by simp)
      · obtain ⟨pool, here, same⟩ := Option.map_eq_some_iff.mp moved
        cases same
        exact guarantees_putconn documented sane relies _

theorem poolMove_sound (documented : driver.Documented) :
    Sound (poolMove driver) (Sane driver) (Relies driver) Apart where
  symm := Apart.symm
  kept := fun sane relies moved =>
    have holds := guarantees_of_move documented sane relies moved
    ⟨holds.sane, holds.relies⟩
  stable := fun sane relies moved there apart =>
    there.stable (guarantees_of_move documented sane relies moved).leavesOthers apart

theorem unused_holds {Thread : Type} {first : Driver} (fresh : driver.Fresh first) :
    Holds (Sane driver) (Relies driver) Apart
      (unused first : State Thread (LmsPool Driver Pool) (CallPlace Pool Connection)) where
  sane := by
    refine ⟨fun pool opened => ?_, fun _ pool here => (by cases here), fun connection going => ?_⟩
    · exact absurd ((fresh.status pool).symm.trans opened) (by simp)
    · rcases going with going | going <;>
        exact absurd ((fresh.place connection).symm.trans going) (by simp)
  relies := fun _ =>
    ⟨fun inside => (by cases inside), fun _ own => (by cases own), by simp [unused]⟩
  apart := fun _ _ _ => ⟨fun inside => (by cases inside), fun _ own => (by cases own)⟩

end

/-! ## Runs -/

def reached (events : List (Nat × CallEvent Bool)) :
    Option (State Nat (LmsPool Book Nat) (CallPlace Nat (Nat × Nat))) :=
  events.foldlM (State.step (poolMove bookDriver)) (unused ⟨[], []⟩)

def firstCall : List (Nat × CallEvent Bool) :=
  [(0, .call), (0, .go), (0, .go), (0, .go), (0, .driver true), (0, .go), (0, .go),
    (0, .driver true)]

section

variable {Thread Network Driver Pool Connection : Type} [DecidableEq Thread]
  {driver : PoolDriver Network Driver Pool Connection} {first : Driver}
  {state : State Thread (LmsPool Driver Pool) (CallPlace Pool Connection)}
  {events : List (Thread × CallEvent Network)}

/-- In every interleaving of calls and closes no pool is open but that in `_pool`, which is
open unless a thread is just closing it; one thread at a time is inside the lock, no connection
is in two hands, and no call fails because it closes a pool that is closed. -/
theorem one_open_pool (documented : driver.Documented) (fresh : driver.Fresh first)
    (run : Run (Step (poolMove driver)) (unused first) events state) :
    (∀ pool, driver.status state.shared.driver pool = .opened →
      state.shared.current = some pool) ∧
    (state.shared.lock = false → ∀ pool, state.shared.current = some pool →
      driver.status state.shared.driver pool = .opened) ∧
    (∀ thread other, (state.place thread).locked = true → (state.place other).locked = true →
      thread = other) ∧
    (∀ thread other connection, (state.place thread).connection? = some connection →
      (state.place other).connection? = some connection → thread = other) ∧
    ∀ thread, (state.place thread).outcome? ≠ some .poolError := by
  have holds := (poolMove_sound documented).run run (unused_holds fresh)
  refine ⟨holds.sane.current, holds.sane.settled, fun thread other inside also => ?_,
    fun thread other connection own also => ?_, fun thread => (holds.relies thread).outcome⟩
  · by_contra different
    have outside := (holds.apart thread other different).locked inside
    rw [also] at outside
    cases outside
  · by_contra different
    exact (holds.apart thread other different).connection connection own also

theorem one_open_pool_first_call :
    ∃ state, reached firstCall = some state ∧ state.shared.current = some 0 ∧
      state.shared.driver.status 0 = .opened := by
  refine ⟨_, rfl, rfl, ?_⟩
  have run := Run.of_foldlM (show reached firstCall = some _ from rfl)
  exact (one_open_pool bookDriver_documented bookDriver_fresh run).2.1 rfl 0 rfl

end

end PumoBioMetric.Sync
