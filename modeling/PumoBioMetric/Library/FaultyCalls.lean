import Mathlib.Logic.Basic

/-!
# Programs of calls that may fail

A program issues calls to the outside.  Each call does its job or raises, as a
schedule of faults says for its place in the run, and each leaves one event in the
trace.  A triple has a postcondition for a return and one for an exception.
-/

set_option autoImplicit false

namespace FaultyCalls

universe u

/-- The world and the events of the calls issued so far. -/
structure Session (World Event : Type u) where
  world : World
  trace : List Event

/-- The errors that calls raise, by their place in the run. -/
abbrev Faults (Error : Type u) := Nat → Option Error

def Program (World Event Error Result : Type u) : Type u :=
  Faults Error → Session World Event → Except Error Result × Session World Event

variable {World Event Error Result Next : Type u}

namespace Program

def done (result : Result) : Program World Event Error Result :=
  fun _ session => (.ok result, session)

def andThen (first : Program World Event Error Result)
    (next : Result → Program World Event Error Next) : Program World Event Error Next :=
  fun faults before =>
    match first faults before with
    | (.ok result, middle) => next result faults middle
    | (.error error, middle) => (.error error, middle)

instance : Monad (Program World Event Error) where
  pure := done
  bind := andThen

def raise (error : Error) : Program World Event Error Result :=
  fun _ session => (.error error, session)

/-- `try: body except: handler`. -/
def attempt (body : Program World Event Error Result)
    (handler : Error → Program World Event Error Result) : Program World Event Error Result :=
  fun faults before =>
    match body faults before with
    | (.ok result, after) => (.ok result, after)
    | (.error error, after) => handler error faults after

def look (view : World → Result) : Program World Event Error Result :=
  fun _ session => (.ok (view session.world), session)

def update (change : World → World) : Program World Event Error PUnit :=
  fun _ session => (.ok ⟨⟩, { session with world := change session.world })

/-- One call: its job, and the event it leaves with or without a result. -/
def issue (job : World → Result × World) (event : Option Result → Event) :
    Program World Event Error Result :=
  fun faults before =>
    match faults before.trace.length with
    | some error =>
        (.error error, { before with trace := before.trace ++ [event none] })
    | none =>
        (.ok (job before.world).1,
          { world := (job before.world).2
            trace := before.trace ++ [event (some (job before.world).1)] })

end Program

open Program

/-! ## Runs of the parts -/

section Runs

variable {faults : Faults Error} {before middle : Session World Event} {error : Error}
  {result : Result}

theorem bind_of_returns {first : Program World Event Error Result}
    {next : Result → Program World Event Error Next}
    (ran : first faults before = (.ok result, middle)) :
    (first >>= next) faults before = next result faults middle := by
  change first.andThen next faults before = _
  simp only [andThen, ran]

theorem bind_of_raises {first : Program World Event Error Result}
    {next : Result → Program World Event Error Next}
    (ran : first faults before = (.error error, middle)) :
    (first >>= next) faults before = (.error error, middle) := by
  change first.andThen next faults before = _
  simp only [andThen, ran]

/-- A sequence that returns: what its first part returned, and where. -/
theorem returns_of_bind {first : Program World Event Error Result}
    {next : Result → Program World Event Error Next} {final : Next}
    {after : Session World Event}
    (ran : (first >>= next) faults before = (.ok final, after)) :
    ∃ given between, first faults before = (.ok given, between) ∧
      next given faults between = (.ok final, after) := by
  rcases head : first faults before with ⟨error | given, between⟩
  · rw [bind_of_raises head] at ran
    cases ran
  · rw [bind_of_returns head] at ran
    exact ⟨given, between, rfl, ran⟩

theorem attempt_of_returns {body : Program World Event Error Result}
    {handler : Error → Program World Event Error Result}
    (ran : body faults before = (.ok result, middle)) :
    attempt body handler faults before = (.ok result, middle) := by
  simp only [attempt, ran]

theorem attempt_of_raises {body : Program World Event Error Result}
    {handler : Error → Program World Event Error Result}
    (ran : body faults before = (.error error, middle)) :
    attempt body handler faults before = handler error faults middle := by
  simp only [attempt, ran]

end Runs

/-! ## Triples -/

/-- From `pre`, a return ends in `post` and an exception in `raised`. -/
def Meets (faults : Faults Error) (pre : Session World Event → Prop)
    (program : Program World Event Error Result)
    (post : Result → Session World Event → Prop) (raised : Session World Event → Prop) : Prop :=
  ∀ before, pre before →
    match program faults before with
    | (.ok result, after) => post result after
    | (.error _, after) => raised after

variable {faults : Faults Error} {pre : Session World Event → Prop}
  {post : Result → Session World Event → Prop} {raised : Session World Event → Prop}

theorem Meets.weaken {pre' : Session World Event → Prop}
    {post' : Result → Session World Event → Prop} {raised' : Session World Event → Prop}
    {program : Program World Event Error Result} (meets : Meets faults pre program post raised)
    (before : ∀ session, pre' session → pre session)
    (returns : ∀ result session, post result session → post' result session)
    (raises : ∀ session, raised session → raised' session) :
    Meets faults pre' program post' raised' := by
  intro session holds
  have outcome := meets session (before session holds)
  split at outcome
  · exact returns _ _ outcome
  · exact raises _ outcome

theorem Meets.final {program : Program World Event Error Result}
    {assertion : Session World Event → Prop}
    (meets : Meets faults pre program (fun _ => assertion) assertion)
    {before : Session World Event} (start : pre before) : assertion (program faults before).2 := by
  have outcome := meets before start
  rcases ran : program faults before with ⟨error | result, after⟩
  · rw [ran] at outcome
    exact outcome
  · rw [ran] at outcome
    exact outcome

theorem Meets.of_ok {program : Program World Event Error Result}
    (meets : Meets faults pre program post raised) {before : Session World Event}
    (start : pre before) {result : Result} (ran : (program faults before).1 = .ok result) :
    post result (program faults before).2 := by
  have outcome := meets before start
  rcases whole : program faults before with ⟨error | returned, after⟩
  · rw [whole] at ran
    cases ran
  · rw [whole] at ran outcome
    cases ran
    exact outcome

theorem meets_true {program : Program World Event Error Result} :
    Meets faults pre program (fun _ _ => True) fun _ => True := by
  intro before _
  split <;> trivial

theorem Meets.returns {program : Program World Event Error Result}
    (meets : Meets faults pre program post fun _ => False) {before : Session World Event}
    (start : pre before) :
    ∃ result after, program faults before = (.ok result, after) ∧ post result after := by
  have outcome := meets before start
  rcases ran : program faults before with ⟨error | result, after⟩
  · rw [ran] at outcome
    exact outcome.elim
  · rw [ran] at outcome
    exact ⟨result, after, rfl, outcome⟩

theorem ran_iff {program : Program World Event Error Result} {before after : Session World Event}
    {result : Result} (ran : program faults before = (.ok result, after))
    (outcome : Result → Session World Event → Prop) :
    (∃ other final, program faults before = (.ok other, final) ∧ outcome other final) ↔
      outcome result after := by
  constructor
  · rintro ⟨other, final, again, holds⟩
    cases ran.symm.trans again
    exact holds
  · intro holds
    exact ⟨result, after, ran, holds⟩

theorem meets_exists {Choice : Type u} {pre : Choice → Session World Event → Prop}
    {program : Program World Event Error Result}
    (meets : ∀ choice, Meets faults (pre choice) program post raised) :
    Meets faults (fun session => ∃ choice, pre choice session) program post raised :=
  fun session ⟨choice, start⟩ => meets choice session start

theorem meets_and_fact {fact : Prop} {program : Program World Event Error Result}
    (meets : fact → Meets faults pre program post raised) :
    Meets faults (fun session => pre session ∧ fact) program post raised :=
  fun session start => meets start.2 session start.1

theorem Meets.unraised {program : Program World Event Error Result}
    (meets : Meets faults pre program post fun _ => False) :
    Meets faults pre program post raised :=
  meets.weaken (fun _ holds => holds) (fun _ _ holds => holds) fun _ impossible => impossible.elim

theorem meets_pure (result : Result) (holds : ∀ session, pre session → post result session) :
    Meets faults pre (pure result) post raised :=
  fun session start => holds session start

theorem meets_raise (error : Error) (holds : ∀ session, pre session → raised session) :
    Meets faults pre (raise error) post raised :=
  fun session start => holds session start

theorem meets_look (view : World → Result)
    (holds : ∀ session, pre session → post (view session.world) session) :
    Meets faults pre (look view) post raised :=
  fun session start => holds session start

theorem meets_update {post : PUnit → Session World Event → Prop} (change : World → World)
    (holds : ∀ session, pre session →
      post ⟨⟩ { session with world := change session.world }) :
    Meets faults pre (update change) post raised :=
  fun session start => holds session start

/-- The exceptions of both parts end in one assertion. -/
theorem Meets.bind {first : Program World Event Error Result}
    {next : Result → Program World Event Error Next}
    {final : Next → Session World Event → Prop}
    (head : Meets faults pre first post raised)
    (tail : ∀ result, Meets faults (post result) (next result) final raised) :
    Meets faults pre (first >>= next) final raised := by
  intro session start
  have outcome := head session start
  change match first.andThen next faults session with
    | (.ok result, after) => final result after
    | (.error _, after) => raised after
  unfold andThen
  rcases ran : first faults session with ⟨error | result, middle⟩
  · rw [ran] at outcome
    exact outcome
  · rw [ran] at outcome
    exact tail result middle outcome

theorem Meets.attempt {body : Program World Event Error Result}
    {handler : Error → Program World Event Error Result} {middle : Session World Event → Prop}
    (inner : Meets faults pre body post middle)
    (handled : ∀ error, Meets faults middle (handler error) post raised) :
    Meets faults pre (attempt body handler) post raised := by
  intro session start
  have outcome := inner session start
  unfold Program.attempt
  rcases ran : body faults session with ⟨error | result, after⟩
  · rw [ran] at outcome
    exact handled error after outcome
  · rw [ran] at outcome
    exact outcome

theorem Meets.attempt_unraised {body : Program World Event Error Result}
    {handler : Error → Program World Event Error Result}
    (inner : Meets faults pre body post fun _ => False) :
    Meets faults pre (Program.attempt body handler) post raised :=
  Meets.attempt inner fun _ _ impossible => impossible.elim

theorem meets_issue {job : World → Result × World} {event : Option Result → Event}
    (returns : ∀ session, pre session → faults session.trace.length = none →
      post (job session.world).1
        ⟨(job session.world).2, session.trace ++ [event (some (job session.world).1)]⟩)
    (raises : ∀ session, pre session → faults session.trace.length ≠ none →
      raised ⟨session.world, session.trace ++ [event none]⟩) :
    Meets faults pre (issue job event) post raised := by
  intro session start
  unfold issue
  cases fault : faults session.trace.length with
  | none => exact returns session start fault
  | some error => exact raises session start (by simp [fault])

/-! ## Assertions that a program keeps -/

/-- Whether it returns or raises, the program keeps the assertion. -/
def Preserves (faults : Faults Error) (assertion : Session World Event → Prop)
    (program : Program World Event Error Result) : Prop :=
  Meets faults assertion program (fun _ => assertion) assertion

variable {assertion : Session World Event → Prop}

theorem preserves_pure (result : Result) :
    Preserves faults assertion (pure result : Program World Event Error Result) :=
  meets_pure result fun _ holds => holds

theorem preserves_raise (error : Error) :
    Preserves faults assertion (raise error : Program World Event Error Result) :=
  meets_raise error fun _ holds => holds

theorem Preserves.bind {first : Program World Event Error Result}
    {next : Result → Program World Event Error Next} (head : Preserves faults assertion first)
    (tail : ∀ result, Preserves faults assertion (next result)) :
    Preserves faults assertion (first >>= next) :=
  Meets.bind head tail

theorem Preserves.attempt {body : Program World Event Error Result}
    {handler : Error → Program World Event Error Result}
    (inner : Preserves faults assertion body)
    (handled : ∀ error, Preserves faults assertion (handler error)) :
    Preserves faults assertion (attempt body handler) :=
  Meets.attempt inner handled

theorem Preserves.attempt_pure {body : Program World Event Error Result}
    {recover : Error → Result} (inner : Preserves faults assertion body) :
    Meets faults assertion (Program.attempt body fun error => pure (recover error))
      (fun _ => assertion) fun _ => False :=
  Meets.attempt inner fun _ => meets_pure _ fun _ holds => holds

/-! ## Properties of the trace that a program keeps -/

/-- Events of one kind cannot break the property. -/
def Steady (kind : Event → Prop) (property : List Event → Prop) : Prop :=
  ∀ trace event, kind event → property trace → property (trace ++ [event])

/-- Whether it returns or raises, the program keeps the property. -/
def Keeps (faults : Faults Error) (property : List Event → Prop)
    (program : Program World Event Error Result) : Prop :=
  Meets faults (fun session => property session.trace) program
    (fun _ session => property session.trace) fun session => property session.trace

variable {property : List Event → Prop}

theorem keeps_pure (result : Result) :
    Keeps faults property (pure result : Program World Event Error Result) :=
  meets_pure result fun _ holds => holds

theorem keeps_look (view : World → Result) :
    Keeps faults property (look view : Program World Event Error Result) :=
  meets_look view fun _ holds => holds

theorem keeps_issue {kind : Event → Prop} (steady : Steady kind property)
    {job : World → Result × World} {event : Option Result → Event}
    (ofKind : ∀ reply, kind (event reply)) :
    Keeps faults property (issue job event : Program World Event Error Result) :=
  meets_issue (fun _ holds _ => steady _ _ (ofKind _) holds)
    fun _ holds _ => steady _ _ (ofKind _) holds

theorem Keeps.bind {first : Program World Event Error Result}
    {next : Result → Program World Event Error Next} (head : Keeps faults property first)
    (tail : ∀ result, Keeps faults property (next result)) :
    Keeps faults property (first >>= next) :=
  Meets.bind head tail

theorem Keeps.attempt {body : Program World Event Error Result}
    {handler : Error → Program World Event Error Result} (inner : Keeps faults property body)
    (handled : ∀ error, Keeps faults property (handler error)) :
    Keeps faults property (attempt body handler) :=
  Meets.attempt inner handled

/-! ## Properties of what a program returns -/

/-- Whatever the calls do, a result that is returned has the property. -/
def Gives (faults : Faults Error) (property : Result → Prop)
    (program : Program World Event Error Result) : Prop :=
  Meets faults (fun _ => True) program (fun result _ => property result) fun _ => True

variable {result : Result → Prop} {next : Next → Prop}

theorem gives_pure {given : Result} (holds : result given) :
    Gives faults result (pure given : Program World Event Error Result) :=
  meets_pure given fun _ _ => holds

theorem gives_raise (error : Error) :
    Gives faults result (raise error : Program World Event Error Result) :=
  meets_raise error fun _ _ => trivial

theorem Gives.bind {first : Program World Event Error Result}
    {rest : Result → Program World Event Error Next} (head : Gives faults result first)
    (tail : ∀ given, result given → Gives faults next (rest given)) :
    Gives faults next (first >>= rest) :=
  Meets.bind head fun given session holds => tail given holds session trivial

theorem Gives.after {first : Program World Event Error Result}
    {rest : Result → Program World Event Error Next}
    (tail : ∀ given, Gives faults next (rest given)) : Gives faults next (first >>= rest) :=
  Meets.bind meets_true fun given session _ => tail given session trivial

theorem Gives.attempt {body : Program World Event Error Result}
    {handler : Error → Program World Event Error Result} (inner : Gives faults result body)
    (handled : ∀ error, Gives faults result (handler error)) :
    Gives faults result (attempt body handler) :=
  Meets.attempt inner handled

end FaultyCalls
