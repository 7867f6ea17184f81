import PumoBioMetric.Core.FingerprintsMoved
import PumoBioMetric.Core.ReaderCalls

/-!
# What a session still owes its readers

A reader that was disabled is owed an `enable_device`.  The invariant of a body: whatever
is still disabled is the reader of an open connection; a `finally` that enables every open
connection then leaves nothing owed.
-/

set_option autoImplicit false

namespace PumoBioMetric.Core

open Py FirstMatch FaultyCalls Router

/-- After each `disable_device` that succeeded there is an `enable_device` on the same
connection, whether or not that raised. -/
def Reenables (trace : List CallEvent) : Prop :=
  ∀ before role after, trace = before ++ ⟨role, .disableDevice, some .done⟩ :: after →
    ∃ answer, ⟨role, .enableDevice, answer⟩ ∈ after

/-- The same with readers of these connections excepted. -/
def Owed (pending : List Connection) (trace : List CallEvent) : Prop :=
  ∀ before role after, trace = before ++ ⟨role, .disableDevice, some .done⟩ :: after →
    (∃ answer, ⟨role, .enableDevice, answer⟩ ∈ after) ∨
      ∃ connection ∈ pending, connection.role = role

theorem reenables_of_owed {trace : List CallEvent} (owed : Owed [] trace) : Reenables trace := by
  intro before role after split
  exact (owed before role after split).resolve_right (by simp)

theorem owed_nil (pending : List Connection) : Owed pending [] := by
  intro before role after split
  simp at split

theorem Owed.mono {pending more : List Connection} {trace : List CallEvent}
    (owed : Owed pending trace) (included : ∀ connection ∈ pending, connection ∈ more) :
    Owed more trace := by
  intro before role after split
  rcases owed before role after split with enabled | ⟨connection, member, same⟩
  · exact Or.inl enabled
  · exact Or.inr ⟨connection, included connection member, same⟩

theorem split_append {trace before after : List CallEvent} {event last : CallEvent}
    (split : trace ++ [last] = before ++ event :: after) :
    (last = event ∧ after = []) ∨
      ∃ rest, after = rest ++ [last] ∧ trace = before ++ event :: rest := by
  rcases List.eq_nil_or_concat after with rfl | ⟨rest, final, rfl⟩
  · exact Or.inl ⟨(List.append_inj' split rfl).2 |> List.singleton_inj.mp, rfl⟩
  · have regrouped : trace ++ [last] = (before ++ event :: rest) ++ [final] := by simpa using split
    obtain ⟨same, ends⟩ := List.append_inj' regrouped rfl
    cases List.singleton_inj.mp ends
    exact Or.inr ⟨rest, List.concat_eq_append, same⟩

theorem Owed.append {pending : List Connection} {trace : List CallEvent} {event : CallEvent}
    (owed : Owed pending trace)
    (other : event.call = .disableDevice → event.answer = some .done →
      ∃ connection ∈ pending, connection.role = event.role) :
    Owed pending (trace ++ [event]) := by
  intro before role after split
  rcases split_append split with ⟨rfl, _⟩ | ⟨rest, rfl, earlier⟩
  · exact Or.inr (other rfl rfl)
  · rcases owed before role rest earlier with ⟨answer, member⟩ | excepted
    · exact Or.inl ⟨answer, List.mem_append_left _ member⟩
    · exact Or.inr excepted

theorem Owed.enable {connection : Connection} {pending : List Connection}
    {trace : List CallEvent} (owed : Owed (connection :: pending) trace)
    (answer : Option Answer) :
    Owed pending (trace ++ [⟨connection.role, .enableDevice, answer⟩]) := by
  intro before role after split
  rcases split_append split with ⟨same, _⟩ | ⟨rest, rfl, earlier⟩
  · cases same
  · rcases owed before role rest earlier with ⟨answer, member⟩ | ⟨excepted, member, rfl⟩
    · exact Or.inl ⟨answer, List.mem_append_left _ member⟩
    · rcases List.mem_cons.mp member with rfl | others
      · exact Or.inl ⟨answer, List.mem_append_right _ (List.mem_singleton.mpr rfl)⟩
      · exact Or.inr ⟨excepted, others, rfl⟩

section

variable {Net : Type} {faults : Faults String}

/-! ## Calls -/

/-- Only the readers of open connections are owed. -/
def Tracked (session : ReaderSession Net) : Prop :=
  Owed session.world.opened session.trace

theorem tracked_issue {Result : Type} {job : Site Net → Result × Site Net}
    {event : Option Result → CallEvent} (opened : ∀ site, (job site).2.opened = site.opened)
    (other : ∀ reply, (event reply).call ≠ .disableDevice) :
    Preserves faults Tracked (Program.issue job event : ReaderProgram Net Result) := by
  apply meets_issue
  · intro session holds _
    unfold Tracked
    rw [opened]
    exact Owed.append holds fun disables => absurd disables (other _)
  · intro session holds _
    exact Owed.append holds fun disables => absurd disables (other _)

theorem Preserves.orElse {Result : Type} {assertion : ReaderSession Net → Prop}
    {call : ReaderProgram Net Result} {default : Result}
    (inner : Preserves faults assertion call) :
    Preserves faults assertion (orElse call default) :=
  Preserves.attempt inner fun _ => preserves_pure default

theorem owed_issue {pending : List Connection} {Result : Type}
    {job : Site Net → Result × Site Net} {event : Option Result → CallEvent}
    (other : ∀ reply, (event reply).call ≠ .disableDevice) :
    Preserves faults (fun session => Owed pending session.trace)
      (Program.issue job event : ReaderProgram Net Result) :=
  meets_issue (fun _ holds _ => Owed.append holds fun disables => absurd disables (other _))
    fun _ holds _ => Owed.append holds fun disables => absurd disables (other _)

theorem reenables_run {Result : Type} {program : ReaderProgram Net Result}
    (meets : Meets faults Tracked program (fun _ session => Reenables session.trace)
      fun session => Reenables session.trace) (net : Net) :
    Reenables (program faults (ReaderSession.fresh net)).2.trace :=
  Meets.final meets (owed_nil [])

theorem reenables_pure {Result : Type} (result : Result) (net : Net) :
    Reenables ((pure result : ReaderProgram Net Result) faults (ReaderSession.fresh net)).2.trace :=
  reenables_of_owed (owed_nil [])

variable [Network Net]

theorem tracked_ask {connection : Connection} {call : Call} {Result : Type}
    {view : Reader → Result} {answer : Result → Answer} (other : call ≠ .disableDevice) :
    Preserves faults Tracked (connection.ask call view answer : ReaderProgram Net Result) :=
  tracked_issue (fun _ => rfl) fun _ => other

theorem tracked_tell {connection : Connection} {call : Call} {change : Reader → Reader}
    (other : call ≠ .disableDevice) :
    Preserves faults Tracked (connection.tell call change : ReaderProgram Net Unit) :=
  tracked_issue (fun _ => rfl) fun _ => other

theorem tracked_attemptTell {connection : Connection} {call : Call} {applies : Reader → Bool}
    {change : Reader → Reader} (other : call ≠ .disableDevice) :
    Preserves faults Tracked
      (connection.attemptTell call applies change : ReaderProgram Net Bool) :=
  tracked_issue (fun _ => rfl) fun _ => other

theorem tracked_open {Result : Type} {connection : Connection}
    {next : Connection → ReaderProgram Net Result}
    (tail : ∀ conn, Preserves faults Tracked (next conn)) :
    Preserves faults Tracked (do
      let conn ← connectZkDevice connection
      conn.disableDevice
      next conn) := by
  have connected : Meets faults Tracked (connectZkDevice connection : ReaderProgram Net Connection)
      (fun conn session => Tracked session ∧ conn ∈ session.world.opened) Tracked := by
    apply meets_issue
    · intro session holds _
      have more : Owed (session.world.opened ++ [connection]) session.trace :=
        Owed.mono holds fun _ member => List.mem_append_left _ member
      exact ⟨more.append (by simp), by simp⟩
    · intro session holds _
      exact Owed.append holds (by simp)
  apply Meets.bind connected
  intro conn
  have disabled : Meets faults (fun session => Tracked session ∧ conn ∈ session.world.opened)
      (conn.disableDevice : ReaderProgram Net Unit) (fun _ => Tracked) Tracked := by
    unfold Connection.disableDevice Connection.ask
    apply meets_issue
    · rintro session ⟨holds, member⟩ _
      exact Owed.append holds fun _ _ => ⟨conn, member, rfl⟩
    · rintro session ⟨holds, member⟩ _
      exact Owed.append holds fun _ _ => ⟨conn, member, rfl⟩
  apply Meets.bind disabled
  intro _
  exact tail conn

/-! ## The `finally` that enables -/

theorem owed_closeConnections (connections : List Connection) :
    Meets faults (fun session => Owed connections session.trace)
      (closeConnections connections : ReaderProgram Net Unit)
      (fun _ session => Owed [] session.trace) fun _ => False := by
  induction connections with
  | nil => exact meets_pure _ fun _ holds => holds
  | cons connection rest ih =>
      have enabled : Meets faults
          (fun session : ReaderSession Net => Owed (connection :: rest) session.trace)
          (Program.attempt connection.enableDevice fun _ => pure ())
          (fun _ session => Owed rest session.trace) fun _ => False := by
        have issued : Meets faults
            (fun session : ReaderSession Net => Owed (connection :: rest) session.trace)
            connection.enableDevice (fun _ session => Owed rest session.trace)
            fun session => Owed rest session.trace := by
          unfold Connection.enableDevice Connection.ask
          exact meets_issue (fun _ holds _ => Owed.enable holds _)
            fun _ holds _ => Owed.enable holds _
        exact Meets.attempt issued fun _ => meets_pure _ fun _ holds => holds
      have closed : Meets faults (fun session : ReaderSession Net => Owed rest session.trace)
          (Program.attempt connection.disconnect fun _ => pure ())
          (fun _ session => Owed rest session.trace) fun _ => False := by
        have issued : Preserves faults
            (fun session : ReaderSession Net => Owed rest session.trace)
            connection.disconnect := by
          unfold Connection.disconnect Connection.ask
          exact meets_issue (fun _ holds _ => Owed.append holds (by simp))
            fun _ holds _ => Owed.append holds (by simp)
        exact issued.attempt_pure
      apply Meets.bind enabled
      intro _
      apply Meets.bind closed
      intro _
      exact ih

theorem reenables_finally {Result : Type} {body : ReaderProgram Net Result}
    (tracked : Meets faults Tracked body (fun _ => Tracked) fun _ => False) :
    Meets faults Tracked (do
        let result ← body
        let opened ← Program.look Site.opened
        closeConnections opened
        pure result)
      (fun _ session => Reenables session.trace) fun session => Reenables session.trace := by
  have owed : ∀ result : Result, Meets faults Tracked
      (do
        let opened ← Program.look Site.opened
        closeConnections opened
        pure result : ReaderProgram Net Result)
      (fun _ session => Reenables session.trace) fun _ => False := by
    intro result
    have seen : Meets faults Tracked (Program.look Site.opened : ReaderProgram Net _)
        (fun opened session => Owed opened session.trace) fun _ => False :=
      meets_look _ fun _ holds => holds
    apply Meets.bind seen
    intro opened
    apply Meets.bind (owed_closeConnections opened)
    intro _
    exact meets_pure _ fun _ holds => reenables_of_owed holds
  exact (Meets.bind tracked owed).unraised

end

end PumoBioMetric.Core
