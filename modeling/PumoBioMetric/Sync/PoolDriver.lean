import Mathlib.Data.List.Basic

/-!
# The connection pools of the driver

What `lms_db.py` uses of `psycopg2.pool`: the calls of a `ThreadedConnectionPool`, each of which
takes effect at once, and what their documentation says.  A driver that keeps a book of its
pools does what it says.
-/

set_option autoImplicit false

namespace PumoBioMetric.Sync

inductive PoolStatus where
  | absent
  | opened
  | closed
deriving DecidableEq, Repr

theorem PoolStatus.closed_of {status : PoolStatus} (known : status ≠ .absent)
    (shut : status ≠ .opened) : status = .closed := by
  cases status <;> trivial

inductive ConnectionPlace where
  | absent
  | idle
  | used
  | closed
deriving DecidableEq, Repr

/-- `psycopg2.pool.ThreadedConnectionPool`: its calls, and what it keeps of its pools and their
connections.  A `Network` is what the server and the network do at a call. -/
structure PoolDriver (Network Driver Pool Connection : Type) where
  /-- `none` where `psycopg2.Error` is raised. -/
  create : Network → Driver → Option Pool × Driver
  /-- `none` where `psycopg2.Error` is raised. -/
  getconn : Network → Pool → Driver → Option Connection × Driver
  /-- `false` where an error is raised, which the callers suppress. -/
  putconn : Network → Pool → Connection → Driver → Bool × Driver
  /-- `false` where `PoolError` is raised. -/
  closeall : Network → Pool → Driver → Bool × Driver
  status : Driver → Pool → PoolStatus
  place : Driver → Connection → ConnectionPlace
  /-- The pool that opened the connection. -/
  home : Connection → Pool

namespace PoolDriver

variable {Network Driver Pool Connection : Type}
  (driver : PoolDriver Network Driver Pool Connection)

/-- Nothing has changed, but for connections of `except` that may have been lost. -/
structure Unchanged (before after : Driver) (except : Connection → Prop) : Prop where
  status : ∀ pool, driver.status after pool = driver.status before pool
  place : ∀ connection, driver.place after connection = driver.place before connection ∨
    except connection ∧ driver.place after connection = .closed

/-- What the driver's documentation says of the calls. -/
structure Documented : Prop where
  /-- A new pool is open; it has opened its first connections, which are idle. -/
  create : ∀ {network before after pool},
    driver.create network before = (some pool, after) →
      driver.status before pool = .absent ∧ driver.status after pool = .opened ∧
      (∀ other, other ≠ pool → driver.status after other = driver.status before other) ∧
      ∀ connection, driver.place after connection = driver.place before connection ∨
        driver.home connection = pool ∧ driver.place before connection = .absent ∧
          driver.place after connection = .idle
  create_raises : ∀ {network before after},
    driver.create network before = (none, after) → driver.Unchanged before after fun _ => False
  /-- An open pool hands out an idle connection or a new one. -/
  getconn : ∀ {network pool before after connection},
    driver.getconn network pool before = (some connection, after) →
      driver.status before pool = .opened ∧ driver.home connection = pool ∧
      (driver.place before connection = .absent ∨ driver.place before connection = .idle) ∧
      driver.place after connection = .used ∧
      (∀ other, other ≠ connection → driver.place after other = driver.place before other) ∧
      ∀ other, driver.status after other = driver.status before other
  getconn_raises : ∀ {network pool before after},
    driver.getconn network pool before = (none, after) →
      driver.Unchanged before after fun _ => False
  /-- An open pool takes a connection of its own back, and keeps or closes it. -/
  putconn : ∀ {network pool connection before after},
    driver.putconn network pool connection before = (true, after) →
      driver.status before pool = .opened ∧ driver.home connection = pool ∧
      (driver.place after connection = .idle ∨ driver.place after connection = .closed) ∧
      (∀ other, other ≠ connection → driver.place after other = driver.place before other) ∧
      ∀ other, driver.status after other = driver.status before other
  putconn_raises : ∀ {network pool connection before after},
    driver.putconn network pool connection before = (false, after) →
      driver.Unchanged before after (· = connection)
  /-- A pool that is closed closes all its connections, also those in use. -/
  closeall : ∀ {network pool before after},
    driver.closeall network pool before = (true, after) →
      driver.status after pool = .closed ∧
      (∀ other, other ≠ pool → driver.status after other = driver.status before other) ∧
      ∀ connection, driver.place after connection = driver.place before connection ∧
          (driver.home connection = pool → driver.place before connection = .absent) ∨
        driver.home connection = pool ∧ driver.place after connection = .closed
  closeall_opened : ∀ {network pool before}, driver.status before pool = .opened →
    (driver.closeall network pool before).1 = true

/-- A driver of which nothing has been asked. -/
structure Fresh (first : Driver) : Prop where
  status : ∀ pool, driver.status first pool = .absent
  place : ∀ connection, driver.place first connection = .absent

end PoolDriver

/-! ## A driver with a book -/

/-- The pools by number, whether they are open, and the connections by number, with their
pools. -/
structure Book where
  pools : List Bool
  connections : List (Nat × ConnectionPlace)
deriving DecidableEq, Repr

namespace Book

variable (book : Book)

def status (pool : Nat) : PoolStatus :=
  match book.pools[pool]? with
  | none => .absent
  | some true => .opened
  | some false => .closed

def place (connection : Nat × Nat) : ConnectionPlace :=
  match book.connections[connection.2]? with
  | some (home, place) => if home = connection.1 then place else .absent
  | none => .absent

def connect (pool : Nat) (place : ConnectionPlace) : Book :=
  { book with connections := book.connections ++ [(pool, place)] }

def put (pool number : Nat) (place : ConnectionPlace) : Book :=
  { book with connections := book.connections.set number (pool, place) }

def create (reachable : Bool) : Option Nat × Book :=
  if reachable then
    (some book.pools.length,
      { book.connect book.pools.length .idle with pools := book.pools ++ [true] })
  else (none, book)

def getconn (reachable : Bool) (pool : Nat) : Option (Nat × Nat) × Book :=
  if book.status pool = .opened then
    match book.connections.findIdx? (· == (pool, .idle)) with
    | some number => (some (pool, number), book.put pool number .used)
    | none =>
        if reachable = true ∧ book.connections.count (pool, .used) < 8 then
          (some (pool, book.connections.length), book.connect pool .used)
        else (none, book)
  else (none, book)

/-- One connection is kept.  Where the server is not reachable, the roll-back raises. -/
def putconn (reachable : Bool) (pool : Nat) (connection : Nat × Nat) : Bool × Book :=
  if book.status pool = .opened ∧ connection.1 = pool ∧ book.place connection = .used ∧
      reachable = true then
    (true, book.put pool connection.2
      (if book.connections.count (pool, .idle) < 1 then .idle else .closed))
  else (false, book)

def closeall (pool : Nat) : Bool × Book :=
  if book.status pool = .opened then
    (true, ⟨book.pools.set pool false, book.connections.map fun connection =>
      if connection.1 = pool then (pool, .closed) else connection⟩)
  else (false, book)

variable {book}

theorem place_connect (pool : Nat) (here : ConnectionPlace) (connection : Nat × Nat) :
    (book.connect pool here).place connection =
      if connection = (pool, book.connections.length) then here else book.place connection := by
  obtain ⟨home, number⟩ := connection
  simp only [place, connect, List.getElem?_append, Prod.mk.injEq]
  by_cases last : number = book.connections.length
  · subst last
    simp [eq_comm]
  · by_cases within : number < book.connections.length
    · simp [within, last]
    · obtain ⟨more, beyond⟩ : ∃ more, number - book.connections.length = more + 1 :=
        ⟨number - book.connections.length - 1, by omega⟩
      simp [within, last, beyond]

theorem place_put {pool number : Nat} {was here : ConnectionPlace}
    (found : book.connections[number]? = some (pool, was)) (connection : Nat × Nat) :
    (book.put pool number here).place connection =
      if connection = (pool, number) then here else book.place connection := by
  obtain ⟨home, other⟩ := connection
  simp only [place, put, Prod.mk.injEq]
  by_cases same : other = number
  · subst same
    have within := (List.getElem?_eq_some_iff.mp found).1
    simp only [List.getElem?_set_self within, found, and_true]
    split <;> rename_i own <;> simp [own, eq_comm]
  · simp [List.getElem?_set_ne (Ne.symm same), same]

theorem status_of_append (pool : Nat) (connections : List (Nat × ConnectionPlace)) :
    (Book.mk (book.pools ++ [true]) connections).status pool =
      if pool = book.pools.length then .opened else book.status pool := by
  simp only [status, List.getElem?_append]
  by_cases last : pool = book.pools.length
  · subst last
    simp
  · by_cases within : pool < book.pools.length
    · simp [within, last]
    · obtain ⟨more, beyond⟩ : ∃ more, pool - book.pools.length = more + 1 :=
        ⟨pool - book.pools.length - 1, by omega⟩
      simp [within, last, beyond]

theorem found_of_place {connection : Nat × Nat} {here : ConnectionPlace}
    (at_ : book.place connection = here) (known : here ≠ .absent) :
    book.connections[connection.2]? = some (connection.1, here) := by
  unfold place at at_
  split at at_
  · rename_i home was found
    split at at_
    · rename_i own
      rw [found, own, at_]
    · exact absurd at_.symm known
  · exact absurd at_.symm known

end Book

/-- One pool keeps one connection idle and opens at most eight. -/
def bookDriver : PoolDriver Bool Book Nat (Nat × Nat) where
  create reachable book := book.create reachable
  getconn reachable pool book := book.getconn reachable pool
  putconn reachable pool connection book := book.putconn reachable pool connection
  closeall _ pool book := book.closeall pool
  status := Book.status
  place := Book.place
  home := Prod.fst

theorem bookDriver_unchanged (book : Book) (except : Nat × Nat → Prop) :
    bookDriver.Unchanged book book except := ⟨fun _ => rfl, fun _ => .inl rfl⟩

theorem bookDriver_create {reachable : Bool} {before after : Book} {pool : Nat}
    (made : before.create reachable = (some pool, after)) :
    before.status pool = .absent ∧ after.status pool = .opened ∧
      (∀ other, other ≠ pool → after.status other = before.status other) ∧
      ∀ connection, after.place connection = before.place connection ∨
        connection.1 = pool ∧ before.place connection = .absent ∧
          after.place connection = .idle := by
  unfold Book.create at made
  split at made
  · cases made
    refine ⟨by simp [Book.status], by rw [Book.status_of_append, if_pos rfl],
      fun other apart => by rw [Book.status_of_append, if_neg apart], fun connection => ?_⟩
    change (before.connect before.pools.length .idle).place connection = _ ∨
      _ ∧ _ ∧ (before.connect before.pools.length .idle).place connection = _
    rw [Book.place_connect]
    split
    · rename_i own
      subst own
      exact .inr ⟨rfl, by simp [Book.place], rfl⟩
    · exact .inl rfl
  · cases made

theorem bookDriver_getconn {reachable : Bool} {pool : Nat} {before after : Book}
    {connection : Nat × Nat}
    (given : before.getconn reachable pool = (some connection, after)) :
    before.status pool = .opened ∧ connection.1 = pool ∧
      (before.place connection = .absent ∨ before.place connection = .idle) ∧
      after.place connection = .used ∧
      (∀ other, other ≠ connection → after.place other = before.place other) ∧
      ∀ other, after.status other = before.status other := by
  unfold Book.getconn at given
  split at given
  · rename_i opened
    split at given
    · rename_i number index
      cases given
      have found : before.connections[number]? = some (pool, .idle) := by
        obtain ⟨within, here, _⟩ := List.findIdx?_eq_some_iff_getElem.mp index
        rw [List.getElem?_eq_getElem within]
        exact congrArg some (by simpa using here)
      refine ⟨opened, rfl, .inr (by simp [Book.place, found]), ?_, fun other apart => ?_,
        fun _ => rfl⟩
      · rw [Book.place_put found, if_pos rfl]
      · rw [Book.place_put found, if_neg apart]
    · split at given
      · cases given
        refine ⟨opened, rfl, .inl (by simp [Book.place]), ?_, fun other apart => ?_, fun _ => rfl⟩
        · rw [Book.place_connect, if_pos rfl]
        · rw [Book.place_connect, if_neg apart]
      · cases given
  · cases given

theorem bookDriver_putconn {reachable : Bool} {pool : Nat} {connection : Nat × Nat}
    {before after : Book} (back : before.putconn reachable pool connection = (true, after)) :
    before.status pool = .opened ∧ connection.1 = pool ∧
      (after.place connection = .idle ∨ after.place connection = .closed) ∧
      (∀ other, other ≠ connection → after.place other = before.place other) ∧
      ∀ other, after.status other = before.status other := by
  unfold Book.putconn at back
  split at back
  · rename_i own
    obtain ⟨opened, rfl, used, _⟩ := own
    cases back
    have found := Book.found_of_place used (by simp)
    refine ⟨opened, rfl, ?_, fun other apart => ?_, fun _ => rfl⟩
    · rw [Book.place_put found, if_pos rfl]
      split
      · exact .inl rfl
      · exact .inr rfl
    · rw [Book.place_put found, if_neg apart]
  · cases back

theorem bookDriver_closeall {pool : Nat} {before after : Book}
    (closed : before.closeall pool = (true, after)) :
    after.status pool = .closed ∧
      (∀ other, other ≠ pool → after.status other = before.status other) ∧
      ∀ connection, after.place connection = before.place connection ∧
          (connection.1 = pool → before.place connection = .absent) ∨
        connection.1 = pool ∧ after.place connection = .closed := by
  unfold Book.closeall at closed
  split at closed
  · rename_i opened
    cases closed
    have within : pool < before.pools.length := by
      by_contra beyond
      simp [Book.status, List.getElem?_eq_none (Nat.le_of_not_lt beyond)] at opened
    refine ⟨by simp [Book.status, List.getElem?_set_self within], fun other apart => ?_,
      fun connection => ?_⟩
    · simp [Book.status, List.getElem?_set_ne (Ne.symm apart)]
    · simp only [Book.place, List.getElem?_map]
      cases found : before.connections[connection.2]? with
      | none => exact .inl ⟨rfl, fun _ => rfl⟩
      | some entry =>
          obtain ⟨home, place⟩ := entry
          simp only [Option.map_some]
          by_cases same : home = pool
          · subst same
            by_cases own : connection.1 = home
            · exact .inr ⟨own, by simp [own]⟩
            · exact .inl ⟨by simp [Ne.symm own], fun here => absurd here own⟩
          · refine .inl ⟨by simp [same], fun here => ?_⟩
            rw [if_neg (here ▸ same)]
  · cases closed

theorem bookDriver_documented : bookDriver.Documented where
  create := bookDriver_create
  create_raises := by
    intro reachable before after made
    change before.create reachable = _ at made
    unfold Book.create at made
    split at made <;> cases made
    exact bookDriver_unchanged before _
  getconn := bookDriver_getconn
  getconn_raises := by
    intro reachable pool before after given
    change before.getconn reachable pool = _ at given
    unfold Book.getconn at given
    split at given
    · split at given
      · cases given
      · split at given <;> cases given
        exact bookDriver_unchanged before _
    · cases given
      exact bookDriver_unchanged before _
  putconn := bookDriver_putconn
  putconn_raises := by
    intro reachable pool connection before after back
    change before.putconn reachable pool connection = _ at back
    unfold Book.putconn at back
    split at back <;> cases back
    exact bookDriver_unchanged before _
  closeall := bookDriver_closeall
  closeall_opened := by
    intro reachable pool before opened
    change (before.closeall pool).1 = true
    rw [Book.closeall, if_pos (show before.status pool = .opened from opened)]

theorem bookDriver_fresh : bookDriver.Fresh ⟨[], []⟩ := ⟨fun _ => rfl, fun _ => rfl⟩

end PumoBioMetric.Sync
