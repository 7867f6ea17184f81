import PumoBioMetric.Core.ReaderCalls
import PumoBioMetric.Core.UsablePin

/-!
# `resolve_target_pin` on a real reader

The decision over the users that `fetch_device_users` returns.  A fetch that fails leaves
the decision without users, and the names it decides over are those of `user_names.json`.
-/

set_option autoImplicit false

namespace PumoBioMetric.Core

open Py FirstMatch FaultyCalls

/-- `existing_users` of a real target: those fetched, and none where the fetch failed. -/
def FetchReply.existingUsers : FetchReply → List ListedUser
  | .fetched _ _ users => users.map fun user => ⟨user.userId, user.name⟩
  | .failed _ => []

/-- `resolve_target_pin` with `simulate=False`; it raises the `ValueError` of `int`. -/
def resolveTargetPinReal {Net : Type} [Network Net] [Sync.ValueTables] [UnicodeTables]
    (hasPyzk : Bool) (userNames : Option Json) (registry : Registry)
    (targetId preferredPin : String) (userName : Option String) (port : Int) :
    ReaderProgram Net PinCheck := do
  let fetchRes ← fetchDeviceUsers hasPyzk userNames registry targetId port
  match choosePin (resolveDevice registry targetId port).sn preferredPin userName
      fetchRes.existingUsers with
  | some check => pure check
  | none => Program.raise (intError (strip preferredPin))

/-! ## The user lists read -/

def CallEvent.listing (event : CallEvent) : Option (List ZkUser) :=
  match event.answer with
  | some (.users users) => some users
  | _ => none

def usersRead (trace : List CallEvent) : List (List ZkUser) := trace.filterMap CallEvent.listing

theorem usersRead_append (trace : List CallEvent) (event : CallEvent) :
    usersRead (trace ++ [event]) = usersRead trace ++ event.listing.toList := by
  cases found : event.listing <;> simp [usersRead, found]

/-- The readers as they are, the lists read so far, and the number of calls. -/
structure Heard (readers : Address → Reader) (reads : List (List ZkUser)) (calls : Nat)
    (session : ZkSession) : Prop where
  readers : session.world.readers = readers
  reads : usersRead session.trace = reads
  calls : session.trace.length = calls

section

variable {faults : Faults String} {readers : Address → Reader} {reads : List (List ZkUser)}
  {calls : Nat}

theorem Heard.bind_connect {Result : Type} {connection : Connection}
    {next : Connection → ZkProgram Result} {post : Result → ZkSession → Prop}
    {raised : ZkSession → Prop}
    (stops : faults calls ≠ none → ∀ session, Heard readers reads (calls + 1) session →
      raised session)
    (goes : faults calls = none →
      Meets faults (Heard readers reads (calls + 1)) (next connection) post raised) :
    Meets faults (Heard readers reads calls) (connectZkDevice connection >>= next) post raised := by
  have connected : Meets faults (Heard readers reads calls) (connectZkDevice connection)
      (fun result session => Heard readers reads (calls + 1) session ∧
        result = connection ∧ faults calls = none) raised := by
    apply meets_issue
    · rintro session ⟨rfl, rfl, rfl⟩ calm
      exact ⟨⟨rfl, by simp [usersRead_append, CallEvent.listing], by simp⟩, rfl, calm⟩
    · rintro session ⟨rfl, rfl, rfl⟩ fault
      exact stops fault _ ⟨rfl, by simp [usersRead_append, CallEvent.listing], by simp⟩
  apply Meets.bind connected
  intro result
  apply meets_and_fact
  rintro ⟨rfl, calm⟩
  exact goes calm

theorem heard_ask {connection : Connection} {call : Call} {Answered : Type}
    {view : Reader → Answered} {answer : Answered → Answer} (found : List (List ZkUser))
    (listed : (CallEvent.listing ⟨connection.role, call,
      some (answer (view (readers connection.address)))⟩).toList = found) :
    Meets faults (Heard readers reads calls) (connection.ask call view answer)
      (fun result session => Heard readers (reads ++ found) (calls + 1) session ∧
        result = view (readers connection.address) ∧ faults calls = none)
      fun session => Heard readers reads (calls + 1) session ∧ faults calls ≠ none := by
  apply meets_issue
  · rintro session ⟨rfl, rfl, rfl⟩ calm
    refine ⟨⟨rfl, ?_, by simp⟩, rfl, calm⟩
    rw [← listed]
    exact usersRead_append _ _
  · rintro session ⟨rfl, rfl, rfl⟩ fault
    exact ⟨⟨rfl, by simp [usersRead_append, CallEvent.listing], by simp⟩, fault⟩

theorem Heard.bind_ask {connection : Connection} {call : Call} {Answered Result : Type}
    {view : Reader → Answered} {answer : Answered → Answer} {next : Answered → ZkProgram Result}
    {post : Result → ZkSession → Prop} {raised : ZkSession → Prop} (found : List (List ZkUser))
    (listed : (CallEvent.listing ⟨connection.role, call,
      some (answer (view (readers connection.address)))⟩).toList = found)
    (stops : faults calls ≠ none → ∀ session, Heard readers reads (calls + 1) session →
      raised session)
    (goes : faults calls = none → Meets faults (Heard readers (reads ++ found) (calls + 1))
      (next (view (readers connection.address))) post raised) :
    Meets faults (Heard readers reads calls) (connection.ask call view answer >>= next)
      post raised := by
  apply Meets.bind ((heard_ask found listed).weaken (fun _ holds => holds)
    (fun _ _ holds => holds) fun session holds => stops holds.2 session holds.1)
  intro result
  apply meets_and_fact
  rintro ⟨rfl, calm⟩
  exact goes calm

theorem heard_templates (connection : Connection) :
    Meets faults (Heard readers reads calls) (orElse connection.getTemplates [])
      (fun _ => Heard readers reads (calls + 1)) fun _ => False := by
  apply Meets.attempt
  · exact (heard_ask [] rfl).weaken (fun _ holds => holds)
      (fun _ _ holds => by simpa using holds.1) fun _ holds => holds.1
  · intro _
    exact meets_pure _ fun _ holds => holds

theorem heard_disconnectAll (assertion : List (List ZkUser) → Prop)
    (connections : List Connection) :
    Meets faults (fun session : ZkSession => assertion (usersRead session.trace))
      (disconnectAll connections)
      (fun _ session => assertion (usersRead session.trace)) fun _ => False := by
  induction connections with
  | nil => exact meets_pure _ fun _ holds => holds
  | cons connection rest ih =>
      have steady : Steady (fun event => event.listing = none)
          fun trace => assertion (usersRead trace) := by
        intro trace event silent holds
        rw [usersRead_append, silent]
        simpa using holds
      have silent : ∀ reply : Option Unit,
          CallEvent.listing ⟨connection.role, .disconnect, reply.map fun _ => .done⟩ = none := by
        rintro (_ | _) <;> rfl
      have disconnected : Keeps faults (fun trace => assertion (usersRead trace))
          (connection.disconnect : ZkProgram Unit) := keeps_issue steady silent
      exact Meets.bind (Preserves.attempt_pure disconnected) fun _ => ih

theorem heard_finally {Reply : Type} (reply : Reply) (assertion : List (List ZkUser) → Prop) :
    Meets faults (fun session : ZkSession => assertion (usersRead session.trace))
      (do
        let opened ← Program.look Site.opened
        disconnectAll opened
        pure reply)
      (fun result session => result = reply ∧ assertion (usersRead session.trace))
      fun _ => False := by
  intro session holds
  exact Meets.bind (heard_disconnectAll assertion session.world.opened)
    (fun _ => meets_pure reply fun _ kept => ⟨rfl, kept⟩) session holds

end

/-! ## What is fetched -/

section

variable [Sync.ValueTables]

def NamesReadable (userNames : Option Json) (users : List ZkUser) : Prop :=
  ∀ user ∈ users, ∃ known, employeeName userNames user.userId = .ok known

def shownName (userNames : Option Json) (user : ZkUser) : String :=
  ((fetchedUser userNames [] user).toOption.map FetchedUser.name).getD ""

def ZkUser.shown (userNames : Option Json) (user : ZkUser) : ListedUser :=
  ⟨user.userId, shownName userNames user⟩

variable {userNames : Option Json} {templates : List ZkFinger}

theorem fetchedUser_eq_ok {user : ZkUser} {fetched : FetchedUser}
    (read : fetchedUser userNames templates user = .ok fetched) :
    (∃ known, employeeName userNames user.userId = .ok known) ∧
      (⟨fetched.userId, fetched.name⟩ : ListedUser) = user.shown userNames := by
  unfold ZkUser.shown shownName
  unfold fetchedUser at read ⊢
  cases known : employeeName userNames user.userId with
  | error error =>
      rw [known] at read
      cases read
  | ok name =>
      rw [known] at read
      cases read
      exact ⟨⟨name, rfl⟩, rfl⟩

theorem fetchedUsers_cons {user : ZkUser} {rest : List ZkUser} {fetched : List FetchedUser}
    (read : fetchedUsers userNames templates (user :: rest) = .ok fetched) :
    ∃ first others, fetchedUser userNames templates user = .ok first ∧
      fetchedUsers userNames templates rest = .ok others ∧ fetched = first :: others := by
  unfold fetchedUsers at read
  split at read
  · cases read
  · rename_i first one
    cases listed : fetchedUsers userNames templates rest with
    | error error =>
        rw [listed] at read
        cases read
    | ok others =>
        rw [listed] at read
        cases read
        exact ⟨first, others, one, rfl, rfl⟩

theorem existingUsers_fetched {users : List ZkUser} {fetched : List FetchedUser}
    (serialNumber ip : String) (read : fetchedUsers userNames templates users = .ok fetched) :
    NamesReadable userNames users ∧ (FetchReply.fetched serialNumber ip fetched).existingUsers =
      users.map (ZkUser.shown userNames) := by
  induction users generalizing fetched with
  | nil =>
      cases read
      exact ⟨by simp [NamesReadable], rfl⟩
  | cons user rest ih =>
      obtain ⟨first, others, one, more, rfl⟩ := fetchedUsers_cons read
      obtain ⟨named, shown⟩ := fetchedUser_eq_ok one
      obtain ⟨readable, listed⟩ := ih more
      exact ⟨List.forall_mem_cons.mpr ⟨named, readable⟩, List.cons_eq_cons.mpr ⟨shown, listed⟩⟩

theorem not_namesReadable_of_fetchedUsers {users : List ZkUser} {error : String}
    (raised : fetchedUsers userNames templates users = .error error) :
    ¬ NamesReadable userNames users := by
  induction users generalizing error with
  | nil => cases raised
  | cons user rest ih =>
      intro readable
      obtain ⟨⟨known, named⟩, others⟩ := List.forall_mem_cons.mp readable
      unfold fetchedUsers at raised
      rw [fetchedUser, named] at raised
      cases listed : fetchedUsers userNames templates rest with
      | error failure => exact ih listed others
      | ok fetched =>
          change (fetchedUsers userNames templates rest).map _ = _ at raised
          rw [listed] at raised
          cases raised

theorem find?_shown (users : List ZkUser) (pin : String) :
    (users.map (ZkUser.shown userNames)).find? (ListedUser.hasId pin) =
      (users.find? (ZkUser.hasId pin)).map (ZkUser.shown userNames) := by
  rw [List.find?_map]
  rfl

/-! ## How a fetch ends -/

/-- `pyzk` is installed, and the calls up to `get_users` return. -/
def ListRead (hasPyzk : Bool) (faults : Faults String) : Prop :=
  hasPyzk = true ∧ faults 0 = none ∧ faults 1 = none ∧ faults 2 = none

/-- After the list has been read, the names can be looked up and `enable_device` returns. -/
def ListKept (userNames : Option Json) (faults : Faults String) (users : List ZkUser) : Prop :=
  NamesReadable userNames users ∧ faults 4 = none

def FetchLost (hasPyzk : Bool) (userNames : Option Json) (faults : Faults String)
    (users : List ZkUser) (reads : List (List ZkUser)) : Prop :=
  (¬ ListRead hasPyzk faults ∧ reads = []) ∨
    (ListRead hasPyzk faults ∧ ¬ ListKept userNames faults users ∧ reads = [users])

inductive FetchEnd (hasPyzk : Bool) (userNames : Option Json) (faults : Faults String)
    (users : List ZkUser) : FetchReply → List (List ZkUser) → Prop where
  | failed {error : String} {reads : List (List ZkUser)} :
      FetchLost hasPyzk userNames faults users reads →
        FetchEnd hasPyzk userNames faults users (.failed error) reads
  | fetched {serialNumber ip : String} {listed : List FetchedUser} :
      ListRead hasPyzk faults → ListKept userNames faults users →
      (FetchReply.fetched serialNumber ip listed).existingUsers =
        users.map (ZkUser.shown userNames) →
        FetchEnd hasPyzk userNames faults users (.fetched serialNumber ip listed) [users]

variable {faults : Faults String} {readers : Address → Reader}

theorem heard_tryFetch (resolved : ResolvedDevice) :
    Meets faults (Heard readers [] 0) (tryFetch userNames resolved)
      (fun reply session => FetchEnd true userNames faults
        (readers ⟨resolved.ip, resolved.port⟩).users reply (usersRead session.trace))
      fun _ => False := by
  refine Meets.attempt ?_ fun _ => meets_pure _ fun session
    (lost : FetchLost true userNames faults (readers ⟨resolved.ip, resolved.port⟩).users
      (usersRead session.trace)) => .failed lost
  apply Heard.bind_connect
  · exact fun fault _ heard => Or.inl ⟨fun read => fault read.2.1, heard.reads⟩
  intro first
  apply Heard.bind_ask [] rfl
  · exact fun fault _ heard => Or.inl ⟨fun read => fault read.2.2.1, heard.reads⟩
  intro second
  apply Heard.bind_ask [(readers ⟨resolved.ip, resolved.port⟩).users] rfl
  · exact fun fault _ heard => Or.inl ⟨fun read => fault read.2.2.2, heard.reads⟩
  intro third
  have read : ListRead true faults := ⟨rfl, first, second, third⟩
  apply Meets.bind (heard_templates _).unraised
  intro templates
  cases listed : fetchedUsers userNames templates
      (readers (readerAt resolved.ip resolved.port).address).users with
  | error error =>
      refine meets_raise _ fun _ heard => Or.inr ⟨read, ?_, heard.reads⟩
      exact fun kept => not_namesReadable_of_fetchedUsers listed kept.1
  | ok usersList =>
      obtain ⟨readable, shown⟩ := existingUsers_fetched resolved.sn resolved.ip listed
      apply Heard.bind_ask [] rfl
      · exact fun fault _ heard => Or.inr ⟨read, fun kept => fault kept.2, heard.reads⟩
      intro fourth
      refine meets_pure _ fun _ heard => ?_
      rw [heard.reads]
      exact .fetched read ⟨readable, fourth⟩ shown

/-! ## What is reported -/

variable [UnicodeTables]

theorem fetchEnd_fetchDeviceUsers (hasPyzk : Bool) (registry : Registry) (targetId : String)
    (port : Int) :
    Meets faults (Heard readers [] 0)
      (fetchDeviceUsers hasPyzk userNames registry targetId port)
      (fun reply session => FetchEnd hasPyzk userNames faults
        (readers ⟨(resolveDevice registry targetId port).ip,
          (resolveDevice registry targetId port).port⟩).users reply (usersRead session.trace))
      fun _ => False := by
  cases hasPyzk with
  | false =>
      refine meets_pure _ fun _ heard => .failed (Or.inl ⟨?_, heard.reads⟩)
      rintro ⟨missing, _⟩
      cases missing
  | true =>
      apply Meets.bind (heard_tryFetch _)
      intro reply
      apply (heard_finally reply (FetchEnd true userNames faults (readers
        ⟨(resolveDevice registry targetId port).ip,
          (resolveDevice registry targetId port).port⟩).users reply)).weaken
      · exact fun _ holds => holds
      · rintro _ _ ⟨rfl, holds⟩
        exact holds
      · exact fun _ impossible => impossible

def PinCheck.saysFree (check : PinCheck) : Prop :=
  check.ok = true ∧ check.isMapped = false ∧ check.reason = "PIN is free on target device"

def PinCheck.saysOwn (check : PinCheck) : Prop :=
  check.ok = true ∧ check.isMapped = false ∧
    ∃ name, check.reason = "PIN matches existing employee '" ++ name ++ "' on target device"

/-- A free PIN is on no user list that was read; an own PIN is held on one by a namesake. -/
structure FailsClosed (pin : String) (userName : Option String) (check : PinCheck)
    (reads : List (List ZkUser)) : Prop where
  free : check.saysFree → ∃ users ∈ reads, users.find? (ZkUser.hasId pin) = none
  own : check.saysOwn → ∃ users ∈ reads, ∃ holder,
    users.find? (ZkUser.hasId pin) = some holder ∧ isSameUser userName holder.name = true

/-- The list is read, and where the PIN is on it, it is also kept, and shows the holder as
the employee only where the reader does. -/
def ListTold (hasPyzk : Bool) (userNames : Option Json) (faults : Faults String)
    (users : List ZkUser) (pin : String) (userName : Option String) : Prop :=
  ListRead hasPyzk faults ∧ ∀ holder, users.find? (ZkUser.hasId pin) = some holder →
    ListKept userNames faults users ∧
      (isSameUser userName (shownName userNames holder) = true →
        isSameUser userName holder.name = true)

omit [Sync.ValueTables] [UnicodeTables] in
theorem free_ne_own (name : String) : "PIN is free on target device" ≠
    "PIN matches existing employee '" ++ name ++ "' on target device" := by
  intro same
  have letters := congrArg (fun text => text.toList.head?.map fun _ => text.toList.drop 4) same
  simp [String.toList_append] at letters

section

variable {sn pin : String} {userName : Option String} {reads : List (List ZkUser)}

omit [Sync.ValueTables] in
theorem failsClosed_free_iff :
    FailsClosed pin userName ⟨true, sn, pin, pin, false, "PIN is free on target device"⟩ reads ↔
      ∃ users ∈ reads, users.find? (ZkUser.hasId pin) = none := by
  constructor
  · exact fun closed => closed.free ⟨rfl, rfl, rfl⟩
  · refine fun read => ⟨fun _ => read, ?_⟩
    rintro ⟨_, _, name, same⟩
    exact absurd same (free_ne_own name)

omit [Sync.ValueTables] in
theorem failsClosed_own_iff (name : String) :
    FailsClosed pin userName ⟨true, sn, pin, pin, false,
        "PIN matches existing employee '" ++ name ++ "' on target device"⟩ reads ↔
      ∃ users ∈ reads, ∃ holder,
        users.find? (ZkUser.hasId pin) = some holder ∧ isSameUser userName holder.name = true := by
  constructor
  · exact fun closed => closed.own ⟨rfl, rfl, name, rfl⟩
  · refine fun read => ⟨?_, fun _ => read⟩
    rintro ⟨_, _, same⟩
    exact absurd same.symm (free_ne_own name)

omit [Sync.ValueTables] in
theorem failsClosed_of_mapped {check : PinCheck} (mapped : check.isMapped = true) :
    FailsClosed pin userName check reads := by
  constructor
  · rintro ⟨_, unmapped, _⟩
    exact absurd (mapped.symm.trans unmapped) (by simp)
  · rintro ⟨_, unmapped, _⟩
    exact absurd (mapped.symm.trans unmapped) (by simp)

end

theorem failsClosed_iff_of_fetchEnd {hasPyzk : Bool} {users : List ZkUser} {reply : FetchReply}
    {reads : List (List ZkUser)} (ended : FetchEnd hasPyzk userNames faults users reply reads)
    (sn preferredPin : String) (userName : Option String) :
    (∀ check, choosePin sn preferredPin userName reply.existingUsers = some check →
        FailsClosed (strip preferredPin) userName check reads) ↔
      ListTold hasPyzk userNames faults users (strip preferredPin) userName := by
  cases ended with
  | failed lost =>
      have answered : choosePin sn preferredPin userName [] =
          some ⟨true, sn, strip preferredPin, strip preferredPin, false,
            "PIN is free on target device"⟩ := rfl
      simp only [FetchReply.existingUsers, answered, Option.some.injEq, forall_eq']
      rw [failsClosed_free_iff]
      rcases lost with ⟨unread, rfl⟩ | ⟨read, unkept, rfl⟩
      · simp [ListTold, unread]
      · cases first : users.find? (ZkUser.hasId (strip preferredPin)) with
        | none =>
            have told : ListTold hasPyzk userNames faults users (strip preferredPin) userName :=
              ⟨read, fun holder found => absurd (first.symm.trans found) (by simp)⟩
            exact iff_of_true ⟨users, List.mem_singleton_self users, first⟩ told
        | some holder =>
            apply iff_of_false
            · rintro ⟨_, member, missing⟩
              cases List.mem_singleton.mp member
              exact absurd (first.symm.trans missing) (by simp)
            · exact fun told => unkept (told.2 holder first).1
  | fetched read kept shown =>
      cases first : users.find? (ZkUser.hasId (strip preferredPin)) with
      | none =>
          have answered : choosePin sn preferredPin userName (users.map (ZkUser.shown userNames)) =
              some ⟨true, sn, strip preferredPin, strip preferredPin, false,
                "PIN is free on target device"⟩ := by
            simp only [choosePin, find?_shown, first, Option.map_none]
          simp only [shown, answered, Option.some.injEq, forall_eq']
          rw [failsClosed_free_iff]
          exact iff_of_true ⟨users, List.mem_singleton_self users, first⟩
            ⟨read, fun holder found => absurd (first.symm.trans found) (by simp)⟩
      | some holder =>
          have told : ListTold hasPyzk userNames faults users (strip preferredPin) userName ↔
              (isSameUser userName (shownName userNames holder) = true →
                isSameUser userName holder.name = true) := by
            simp [ListTold, read, kept, first]
          simp only [told, shown, choosePin, find?_shown, first, Option.map_some, ZkUser.shown]
          by_cases same : isSameUser userName (shownName userNames holder) = true
          · simp only [same, if_true, Option.some.injEq, forall_eq', forall_const]
            rw [failsClosed_own_iff]
            simp [first]
          · simp only [same, Bool.false_eq_true, if_false, false_implies, iff_true]
            intro check mapped
            obtain ⟨_, _, rfl⟩ := Option.map_eq_some_iff.mp mapped
            exact failsClosed_of_mapped rfl

/-- `resolve_target_pin` on a real reader fails closed if and only if the list is told:
read, kept after it is read, and with no name of the site in the place of the reader's. -/
theorem target_pin_fails_closed_iff (hasPyzk : Bool) (userNames : Option Json)
    (registry : Registry) (targetId preferredPin : String) (userName : Option String)
    (port : Int) (faults : Faults String) (readers : Address → Reader) :
    (∀ check session,
        resolveTargetPinReal hasPyzk userNames registry targetId preferredPin userName port faults
          (ZkSession.fresh readers) = (.ok check, session) →
        FailsClosed (strip preferredPin) userName check (usersRead session.trace)) ↔
      ListTold hasPyzk userNames faults
        (readers ⟨(resolveDevice registry targetId port).ip,
          (resolveDevice registry targetId port).port⟩).users (strip preferredPin) userName := by
  have fetch : ∃ reply session, fetchDeviceUsers hasPyzk userNames registry targetId port faults
      (ZkSession.fresh readers) = (.ok reply, session) ∧
      FetchEnd hasPyzk userNames faults (readers ⟨(resolveDevice registry targetId port).ip,
        (resolveDevice registry targetId port).port⟩).users reply (usersRead session.trace) :=
    (fetchEnd_fetchDeviceUsers hasPyzk registry targetId port).returns ⟨rfl, rfl, rfl⟩
  obtain ⟨reply, session, fetched, ended⟩ := fetch
  rw [← failsClosed_iff_of_fetchEnd ended (resolveDevice registry targetId port).sn preferredPin
    userName]
  unfold resolveTargetPinReal
  simp only [bind, Program.andThen, fetched]
  cases answer : choosePin (resolveDevice registry targetId port).sn preferredPin userName
      reply.existingUsers with
  | none => simp [Program.raise]
  | some chosen =>
      constructor
      · rintro closed _ ⟨⟩
        exact closed chosen session rfl
      · rintro closed _ _ ⟨⟩
        exact closed chosen rfl

end

/-! ## A reader that cannot be reached -/

/-- PIN 9999 is the administrator's, and the first call raises. -/
theorem target_pin_free_unreachable :
    ∃ check session,
      @resolveTargetPinReal _ _ .scalars .ascii true none defaultRegistry "UFZ9876543210" "9999"
        (some "John Doe") 4370 (fun call => if call = 0 then some "timed out" else none)
        (ZkSession.fresh fun _ => ⟨[⟨1, "Master Super Admin", 14, "", "1", "9999", 0⟩], [], 10⟩) =
          (.ok check, session) ∧
      ¬ @FailsClosed .ascii "9999" (some "John Doe") check (usersRead session.trace) := by
  let := UnicodeTables.ascii
  refine ⟨_, _, rfl, ?_⟩
  intro closed
  obtain ⟨users, member, _⟩ := closed.free ⟨rfl, rfl, rfl⟩
  cases member

end PumoBioMetric.Core
