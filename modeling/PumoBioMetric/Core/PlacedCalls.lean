import PumoBioMetric.Core.ReaderCalls

/-!
# Calls by their place in the run

Each call is issued after so many others, and a schedule of faults says for that place
whether it raises.  On devices that a read does not change, only the writes move the state.
-/

set_option autoImplicit false

namespace PumoBioMetric.Core

open Py FaultyCalls

/-- The reader that a function with one connection connects to. -/
def calledAddress [UnicodeTables] (registry : Registry) (deviceId : String) (port : Int)
    (ipOverride : Option String) : Address :=
  let resolved := resolveDevice registry deviceId port
  ⟨chosenIp ipOverride resolved, resolved.port⟩

/-- So many calls were issued, and the devices are in this state. -/
def At {Net : Type} (net : Net) (place : Nat) (session : ReaderSession Net) : Prop :=
  session.world.readers = net ∧ session.trace.length = place

class SilentReads (Net : Type) [Network Net] : Prop where
  ask_same : ∀ (net : Net) (address : Address) (call : Call),
    (Network.ask net address call).2 = net

instance : SilentReads (Address → Reader) := ⟨fun _ _ _ => rfl⟩

section

variable {Net : Type} [Network Net] {faults : Faults String} {net : Net} {place : Nat}
  {connection : Connection}

omit [Network Net] in
theorem at_fresh (net : Net) : At net 0 (ReaderSession.fresh net) := ⟨rfl, rfl⟩

omit [Network Net] in
theorem meets_connect_at :
    Meets faults (At net place) (connectZkDevice connection : ReaderProgram Net Connection)
      (fun conn session => At net (place + 1) session ∧ faults place = none ∧ conn = connection)
      fun session => At net (place + 1) session ∧ faults place ≠ none := by
  apply meets_issue
  · rintro session ⟨rfl, rfl⟩ fault
    exact ⟨⟨rfl, by simp⟩, fault, rfl⟩
  · rintro session ⟨rfl, rfl⟩ fault
    exact ⟨⟨rfl, by simp⟩, fault⟩

theorem meets_ask_at [SilentReads Net] {Result : Type} {call : Call} {view : Reader → Result}
    {answer : Result → Answer} :
    Meets faults (At net place) (connection.ask call view answer : ReaderProgram Net Result)
      (fun result session => At net (place + 1) session ∧ faults place = none ∧
        result = view (Network.ask net connection.address call).1)
      fun session => At net (place + 1) session ∧ faults place ≠ none := by
  apply meets_issue
  · rintro session ⟨rfl, rfl⟩ fault
    exact ⟨⟨SilentReads.ask_same _ _ _, by simp⟩, fault, rfl⟩
  · rintro session ⟨rfl, rfl⟩ fault
    exact ⟨⟨rfl, by simp⟩, fault⟩

theorem meets_tell_at {call : Call} {change : Reader → Reader} :
    Meets faults (At net place) (connection.tell call change : ReaderProgram Net Unit)
      (fun _ session => At (Network.tell net connection.address call change) (place + 1) session ∧
        faults place = none)
      fun session => At net (place + 1) session ∧ faults place ≠ none := by
  apply meets_issue
  · rintro session ⟨rfl, rfl⟩ fault
    exact ⟨⟨rfl, by simp⟩, fault⟩
  · rintro session ⟨rfl, rfl⟩ fault
    exact ⟨⟨rfl, by simp⟩, fault⟩

theorem meets_attemptTell_at [SilentReads Net] {call : Call} {applies : Reader → Bool}
    {change : Reader → Reader} :
    Meets faults (At net place)
      (connection.attemptTell call applies change : ReaderProgram Net Bool)
      (fun done session => At (Network.tell net connection.address call change) (place + 1) session ∧
        faults place = none ∧ done = applies (Network.ask net connection.address call).1)
      fun session => At net (place + 1) session ∧ faults place ≠ none := by
  apply meets_issue
  · rintro session ⟨rfl, rfl⟩ fault
    refine ⟨⟨?_, by simp⟩, fault, rfl⟩
    exact congrArg (fun shown => Network.tell shown connection.address call change)
      (SilentReads.ask_same _ _ _)
  · rintro session ⟨rfl, rfl⟩ fault
    exact ⟨⟨rfl, by simp⟩, fault⟩

/-! ## Calls of which a fact about the devices is kept -/

def Placed {Net : Type} (states : Net → Prop) (place : Nat) (session : ReaderSession Net) : Prop :=
  states session.world.readers ∧ session.trace.length = place

omit [Network Net] in
theorem At.placed {states : Net → Prop} {session : ReaderSession Net} (here : At net place session)
    (holds : states net) : Placed states place session := by
  obtain ⟨rfl, calls⟩ := here
  exact ⟨holds, calls⟩

variable {states : Net → Prop}

theorem meets_ask_placed [SilentReads Net] {Result : Type} {call : Call} {view : Reader → Result}
    {answer : Result → Answer} :
    Meets faults (Placed states place) (connection.ask call view answer : ReaderProgram Net Result)
      (fun result session => Placed states (place + 1) session ∧ faults place = none ∧
        ∃ net, states net ∧ result = view (Network.ask net connection.address call).1)
      fun session => Placed states (place + 1) session ∧ faults place ≠ none := by
  apply meets_issue
  · rintro session ⟨holds, rfl⟩ fault
    refine ⟨⟨?_, by simp⟩, fault, session.world.readers, holds, rfl⟩
    rw [SilentReads.ask_same]
    exact holds
  · rintro session ⟨holds, rfl⟩ fault
    exact ⟨⟨holds, by simp⟩, fault⟩

theorem meets_tell_placed {call : Call} {change : Reader → Reader} {after : Net → Prop}
    (moves : ∀ net, states net → after (Network.tell net connection.address call change)) :
    Meets faults (Placed states place) (connection.tell call change : ReaderProgram Net Unit)
      (fun _ session => Placed after (place + 1) session ∧ faults place = none)
      fun session => Placed states (place + 1) session ∧ faults place ≠ none := by
  apply meets_issue
  · rintro session ⟨holds, rfl⟩ fault
    exact ⟨⟨moves _ holds, by simp⟩, fault⟩
  · rintro session ⟨holds, rfl⟩ fault
    exact ⟨⟨holds, by simp⟩, fault⟩

/-! ## Reads and the `finally` -/

def Left {Net : Type} (net : Net) (session : ReaderSession Net) : Prop :=
  session.world.readers = net

omit [Network Net] in
theorem At.left {session : ReaderSession Net} (here : At net place session) : Left net session :=
  here.1

theorem left_ask [SilentReads Net] {Result : Type} {call : Call} {view : Reader → Result}
    {answer : Result → Answer} :
    Preserves faults (Left net) (connection.ask call view answer : ReaderProgram Net Result) := by
  apply meets_issue
  · rintro session rfl _
    exact SilentReads.ask_same _ _ _
  · rintro session rfl _
    rfl

/-- The reader is connected, disabled and asked for its users, and none of it raises. -/
def UsersListed (faults : Faults String) : Prop :=
  faults 0 = none ∧ faults 1 = none ∧ faults 2 = none

/-- How each function with one connection begins. -/
theorem meets_listed [SilentReads Net] {Result : Type}
    {next : Connection → List ZkUser → ReaderProgram Net Result}
    {post : Result → ReaderSession Net → Prop} {raised : ReaderSession Net → Prop}
    (early : ∀ session, ¬ UsersListed faults → Left net session → raised session)
    (rest : UsersListed faults → Meets faults (At net 3)
      (next connection (Network.ask net connection.address .getUsers).1.users) post raised) :
    Meets faults (At net 0)
      (do
        let conn ← connectZkDevice connection
        conn.disableDevice
        let users ← conn.getUsers
        next conn users)
      post raised := by
  have connected : Meets faults (At net 0)
      (connectZkDevice connection : ReaderProgram Net Connection)
      (fun conn session => (At net 1 session ∧ faults 0 = none) ∧ conn = connection) raised :=
    meets_connect_at.weaken (fun _ start => start) (fun _ _ holds => ⟨⟨holds.1, holds.2.1⟩, holds.2.2⟩)
      fun _ holds => early _ (fun reached => holds.2 reached.1) holds.1.left
  apply Meets.bind connected
  intro conn
  apply meets_and_fact
  rintro rfl
  apply meets_and_fact
  intro first
  have disabled : Meets faults (At net 1) (conn.disableDevice : ReaderProgram Net Unit)
      (fun _ session => At net 2 session ∧ faults 1 = none) raised :=
    meets_ask_at.weaken (fun _ start => start) (fun _ _ holds => ⟨holds.1, holds.2.1⟩)
      fun _ holds => early _ (fun reached => holds.2 reached.2.1) holds.1.left
  apply Meets.bind disabled
  intro _
  apply meets_and_fact
  intro second
  have listed : Meets faults (At net 2) (conn.getUsers : ReaderProgram Net (List ZkUser))
      (fun users session => At net 3 session ∧ faults 2 = none ∧
        users = (Network.ask net conn.address .getUsers).1.users) raised :=
    meets_ask_at.weaken (fun _ start => start) (fun _ _ holds => holds)
      fun _ holds => early _ (fun reached => holds.2 reached.2.2) holds.1.left
  apply Meets.bind listed
  intro users
  apply meets_and_fact
  rintro ⟨third, rfl⟩
  exact rest ⟨first, second, third⟩

theorem left_closeConnections [SilentReads Net] (connections : List Connection) :
    Meets faults (Left net) (closeConnections connections : ReaderProgram Net Unit)
      (fun _ => Left net) fun _ => False := by
  induction connections with
  | nil => exact meets_pure _ fun _ holds => holds
  | cons connection rest ih =>
      unfold closeConnections
      apply Meets.bind (Preserves.attempt_pure left_ask)
      intro _
      apply Meets.bind (Preserves.attempt_pure left_ask)
      intro _
      exact ih

theorem meets_finally [SilentReads Net] {Result : Type} {body : ReaderProgram Net Result}
    {pre : ReaderSession Net → Prop} {post : Result → Net → Prop}
    {raised : ReaderSession Net → Prop}
    (inner : Meets faults pre body (fun result session => post result session.world.readers)
      raised) :
    Meets faults pre
      (do
        let result ← body
        let opened ← Program.look Site.opened
        closeConnections opened
        pure result)
      (fun result session => post result session.world.readers) raised := by
  apply Meets.bind inner
  intro result session start
  have closed : Meets faults (Left session.world.readers)
      (do
        let opened ← Program.look Site.opened
        closeConnections opened
        pure result : ReaderProgram Net Result)
      (fun result after => post result after.world.readers) raised := by
    have looked : Meets faults (Left session.world.readers)
        (Program.look Site.opened : ReaderProgram Net (List Connection))
        (fun _ => Left session.world.readers) raised :=
      meets_look _ fun _ holds => holds
    apply Meets.bind looked
    intro opened
    apply Meets.bind (left_closeConnections opened).unraised
    intro _
    apply meets_pure
    rintro after same
    rw [same]
    exact start
  exact closed session rfl

end

end PumoBioMetric.Core
