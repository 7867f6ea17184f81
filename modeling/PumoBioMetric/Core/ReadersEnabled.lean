import PumoBioMetric.Core.MigrationCalls
import PumoBioMetric.Core.OwedReaders

/-!
# A reader that was disabled is enabled again

Every connection that was opened is enabled in the `finally` of the functions that have
one there.  `fetch_device_users` has none.
-/

set_option autoImplicit false

namespace PumoBioMetric.Core

open Py FirstMatch FaultyCalls Router

section

variable {Net : Type} {faults : Faults String} [Network Net]

/-! ## `create_device_user` -/

theorem tracked_createOnReader (user : NewUser) (sn ip : String) (port : Int) :
    Preserves faults Tracked
      (createOnReader user sn ip port : ReaderProgram Net CreateReply) := by
  unfold createOnReader
  apply tracked_open
  intro conn
  apply Preserves.bind (tracked_ask (by decide))
  intro users
  by_cases taken : users.any (ZkUser.hasId user.pin) = true
  · rw [if_pos taken]
    exact preserves_pure _
  · rw [if_neg taken]
    apply Preserves.bind (tracked_tell (by simp))
    intro _
    apply Preserves.bind (tracked_ask (by decide))
    intro _
    apply Preserves.bind (tracked_ask (by decide))
    intro listed
    cases listed.find? (ZkUser.hasId user.pin) with
    | none => exact preserves_raise _
    | some created => exact preserves_pure _

theorem createDeviceUser_reenables [UnicodeTables] (hasPyzk : Bool) (registry : Registry)
    (queue : CommandQueue) (deviceId : String) (user : NewUser) (port : Int)
    (ipOverride : Option String) (net : Net) :
    Reenables (createDeviceUser hasPyzk registry queue deviceId user port ipOverride faults
      (ReaderSession.fresh net)).2.trace := by
  unfold createDeviceUser
  split
  · exact reenables_pure _ _
  · split
    · exact reenables_pure _ _
    · cases hasPyzk with
      | false => exact reenables_pure _ _
      | true =>
          refine reenables_run (reenables_finally (Preserves.attempt_pure ?_)) net
          exact Preserves.bind (tracked_createOnReader _ _ _ _) fun _ => preserves_pure _

/-! ## `delete_device_user_real` -/

theorem tracked_deleteFingers (conn : Connection) (user : ZkUser) (userId : String)
    (fids : List Nat) :
    Preserves faults Tracked (deleteFingers conn user userId fids : ReaderProgram Net Nat) := by
  induction fids with
  | nil => exact preserves_pure _
  | cons fid rest ih =>
      unfold deleteFingers
      have one : Preserves faults Tracked
          (deleteFinger conn user userId fid : ReaderProgram Net Bool) := by
        unfold deleteFinger
        apply Preserves.bind (Preserves.orElse (tracked_attemptTell (by simp)))
        intro success
        cases success with
        | true => exact preserves_pure _
        | false => exact Preserves.orElse (tracked_attemptTell (by simp))
      apply Preserves.bind one
      intro _
      apply Preserves.bind ih
      intro _
      exact preserves_pure _

theorem tracked_deleteOnReader (sn ip : String) (port : Int) (userId : String)
    (deleteBiometricsOnly : Bool) :
    Preserves faults Tracked (deleteOnReader sn ip port userId deleteBiometricsOnly :
      ReaderProgram Net DeletionReply) := by
  unfold deleteOnReader
  apply tracked_open
  intro conn
  apply Preserves.bind (tracked_ask (by decide))
  intro users
  cases users.find? (ZkUser.hasId userId) with
  | none => exact Preserves.bind (tracked_ask (by decide)) fun _ => preserves_pure _
  | some user =>
      cases deleteBiometricsOnly with
      | true =>
          apply Preserves.bind (tracked_deleteFingers conn user userId _)
          intro _
          apply Preserves.bind (tracked_ask (by decide))
          intro _
          exact Preserves.bind (tracked_ask (by decide)) fun _ => preserves_pure _
      | false =>
          apply Preserves.bind (tracked_tell (by simp))
          intro _
          apply Preserves.bind (tracked_ask (by decide))
          intro _
          apply Preserves.bind (tracked_ask (by decide))
          intro remaining
          by_cases reported : remaining.any (ZkUser.hasId userId) = true
          · rw [if_pos reported]
            exact preserves_raise _
          · rw [if_neg reported]
            exact Preserves.bind (tracked_ask (by decide)) fun _ => preserves_pure _

theorem deleteDeviceUserReal_reenables [UnicodeTables] (hasPyzk : Bool) (registry : Registry)
    (queue : CommandQueue) (deviceId userId : String) (port : Int) (deleteBiometricsOnly : Bool)
    (ipOverride : Option String) (net : Net) :
    Reenables (deleteDeviceUserReal hasPyzk registry queue deviceId userId port
      deleteBiometricsOnly ipOverride faults (ReaderSession.fresh net)).2.trace := by
  unfold deleteDeviceUserReal
  cases hasPyzk with
  | false => exact reenables_pure _ _
  | true =>
      refine reenables_run (reenables_finally (Preserves.attempt_pure ?_)) net
      exact Preserves.bind (tracked_deleteOnReader _ _ _ _ _) fun _ => preserves_pure _

/-! ## `delete_batch_device_users` -/

theorem tracked_clearFingers (conn : Connection) (user : ZkUser) (userId : String)
    (fids : List Nat) :
    Preserves faults Tracked (clearFingers conn user userId fids : ReaderProgram Net Unit) := by
  induction fids with
  | nil => exact preserves_pure _
  | cons fid rest ih =>
      unfold clearFingers
      exact Preserves.bind (Preserves.orElse (tracked_attemptTell (by simp))) fun _ => ih

theorem tracked_deleteItems (conn : Connection) (users : List ZkUser)
    (deleteBiometricsOnly : Bool) (userIds : List String) :
    Preserves faults Tracked (deleteItems conn users deleteBiometricsOnly userIds :
      ReaderProgram Net (List BatchItem)) := by
  induction userIds with
  | nil => exact preserves_pure _
  | cons userId userIds ih =>
      unfold deleteItems
      have one : Preserves faults Tracked (deleteItem conn users deleteBiometricsOnly
          (strip userId) : ReaderProgram Net BatchItem) := by
        unfold deleteItem
        cases lastWithId users (strip userId) with
        | none => exact preserves_pure _
        | some user =>
            refine Preserves.attempt ?_ fun _ => preserves_pure _
            cases deleteBiometricsOnly with
            | true => exact Preserves.bind (tracked_clearFingers _ _ _ _) fun _ => preserves_pure _
            | false => exact Preserves.bind (tracked_tell (by simp)) fun _ => preserves_pure _
      apply Preserves.bind one
      intro _
      apply Preserves.bind ih
      intro _
      exact preserves_pure _

theorem tracked_finishBatch (conn : Connection) (sn : String) (deleteBiometricsOnly : Bool)
    (results : List BatchItem) :
    Preserves faults Tracked (finishBatch conn sn deleteBiometricsOnly results :
      ReaderProgram Net BatchReply) := by
  unfold finishBatch
  refine Preserves.attempt ?_ fun _ => preserves_pure _
  apply Preserves.bind (tracked_ask (by decide))
  intro _
  apply Preserves.bind (tracked_ask (by decide))
  intro remaining
  refine Preserves.attempt ?_ fun _ => preserves_pure _
  exact Preserves.bind (tracked_ask (by decide)) fun _ => preserves_pure _

theorem deleteBatchDeviceUsers_reenables [UnicodeTables] (hasPyzk : Bool) (registry : Registry)
    (deviceId : String) (userIds : List String) (port : Int) (deleteBiometricsOnly : Bool)
    (ipOverride : Option String) (net : Net) :
    Reenables (deleteBatchDeviceUsers hasPyzk registry deviceId userIds port
      deleteBiometricsOnly ipOverride faults (ReaderSession.fresh net)).2.trace := by
  unfold deleteBatchDeviceUsers
  split
  · exact reenables_pure _ _
  · cases hasPyzk with
    | false => exact reenables_pure _ _
    | true =>
        refine reenables_run (reenables_finally (Preserves.attempt_pure ?_)) net
        apply tracked_open
        intro conn
        apply Preserves.bind (tracked_ask (by decide))
        intro users
        apply Preserves.bind (tracked_deleteItems conn users deleteBiometricsOnly userIds)
        intro results
        exact tracked_finishBatch conn _ deleteBiometricsOnly results

/-! ## `migrate_single_user_real` -/

theorem keptByCalls_tracked (ends : List Connection) :
    KeptByCalls faults ends (@Tracked Net) where
  call _ _ opened other := tracked_issue opened other
  opening _ _ _ _ tail := tracked_open tail

theorem migrateSingleUserReal_reenables [UnicodeTables] (hasPyzk : Bool) (registry : Registry)
    (request : MigrationRequest) (sourcePort targetPort : Int) (net : Net) :
    Reenables (Network.migrateSingleUserReal hasPyzk registry request sourcePort targetPort
      faults (ReaderSession.fresh net)).2.trace := by
  unfold Network.migrateSingleUserReal
  cases hasPyzk with
  | false => exact reenables_pure _ _
  | true =>
      refine reenables_run (reenables_finally (Preserves.attempt_pure ?_)) net
      have kept := @keptByCalls_tracked Net faults _
        [(endpoints registry request sourcePort targetPort).srcConnection,
          (endpoints registry request sourcePort targetPort).tgtConnection]
      apply Preserves.bind (kept.findSourceUser (by simp) _)
      rintro ⟨srcConn, found⟩
      cases found with
      | none => exact preserves_pure _
      | some user =>
          exact Preserves.attempt (kept.migrateFound (by simp) _ srcConn user _)
            fun _ => preserves_pure _

/-! ## `probe_device_connection` -/

theorem owed_ask {pending : List Connection} {connection : Connection} {call : Call}
    {Result : Type} {view : Reader → Result} {answer : Result → Answer}
    (other : call ≠ .disableDevice) :
    Preserves faults (fun session => Owed pending session.trace)
      (connection.ask call view answer : ReaderProgram Net Result) :=
  owed_issue fun _ => other

theorem owed_askText {pending : List Connection} {connection : Connection} {call : Call}
    (other : call ≠ .disableDevice) :
    Preserves faults (fun session => Owed pending session.trace)
      (connection.askText call : ReaderProgram Net String) :=
  owed_issue fun _ => other

theorem owed_disconnectAll (pending connections : List Connection) :
    Preserves faults (fun session => Owed pending session.trace)
      (disconnectAll connections : ReaderProgram Net Unit) := by
  induction connections with
  | nil => exact preserves_pure _
  | cons connection rest ih =>
      apply Preserves.bind
      · exact Preserves.attempt (owed_ask (by decide)) fun _ => preserves_pure _
      · intro _
        exact ih

theorem owed_probeAnswers (pending : List Connection) (conn : Connection)
    (resolved : ResolvedDevice) :
    Meets faults (fun session => Owed pending session.trace)
      (probeAnswers conn resolved : ReaderProgram Net ProbeReply)
      (fun _ session => Owed pending session.trace) fun _ => False := by
  have named : ∀ {Read Result : Type} {call : ReaderProgram Net Read} {view : Read → Result}
      {default : Result}, Preserves faults (fun session => Owed pending session.trace) call →
      Meets faults (fun session => Owed pending session.trace)
        (orElse (do
          let read ← call
          pure (view read)) default)
        (fun _ session => Owed pending session.trace) fun _ => False :=
    fun kept => Preserves.attempt_pure (Preserves.bind kept fun _ => preserves_pure _)
  unfold probeAnswers
  apply Meets.bind (named (owed_askText (by decide)))
  intro deviceName
  apply Meets.bind (named (owed_askText (by decide)))
  intro sn
  apply Meets.bind (Preserves.attempt_pure (owed_ask (by decide)))
  intro fpVersion
  apply Meets.bind (named (owed_askText (by decide)))
  intro platform
  apply Meets.bind (named (owed_ask (by decide)))
  intro userCount
  apply Meets.bind (named (owed_ask (by decide)))
  intro fingerCount
  exact meets_pure _ fun _ holds => holds

theorem owed_tryProbe (resolved : ResolvedDevice) :
    Preserves faults (fun session => Owed [] session.trace)
      (tryProbe resolved : ReaderProgram Net ProbeReply) := by
  refine Meets.attempt ?_ fun _ => preserves_pure _
  apply Preserves.bind (owed_issue fun _ => by simp)
  intro conn
  have disabled : Meets faults (fun session : ReaderSession Net => Owed [] session.trace)
      conn.disableDevice (fun _ session => Owed [conn] session.trace)
      fun session => Owed [] session.trace := by
    unfold Connection.disableDevice Connection.ask
    apply meets_issue
    · intro session holds _
      have more : Owed [conn] session.trace := Owed.mono holds (by simp)
      exact more.append fun _ _ => ⟨conn, List.mem_singleton.mpr rfl, rfl⟩
    · intro session holds _
      exact Owed.append holds (by simp)
  apply Meets.bind disabled
  intro _
  have answered : Meets faults (fun session : ReaderSession Net => Owed [conn] session.trace)
      (probeAnswers conn resolved) (fun _ session => Owed [conn] session.trace)
      fun session => Owed [] session.trace :=
    (owed_probeAnswers [conn] conn resolved).unraised
  apply Meets.bind answered
  intro reply
  have enabled : Meets faults (fun session : ReaderSession Net => Owed [conn] session.trace)
      conn.enableDevice (fun _ session => Owed [] session.trace)
      fun session => Owed [] session.trace := by
    unfold Connection.enableDevice Connection.ask
    exact meets_issue (fun _ holds _ => Owed.enable holds _) fun _ holds _ => Owed.enable holds _
  exact Meets.bind enabled fun _ => preserves_pure _

theorem probeDeviceConnection_reenables [UnicodeTables] (hasPyzk : Bool) (registry : Registry)
    (deviceId : String) (port : Int) (net : Net) :
    Reenables (probeDeviceConnection hasPyzk registry deviceId port faults
      (ReaderSession.fresh net)).2.trace := by
  unfold probeDeviceConnection
  cases hasPyzk with
  | false => exact reenables_pure _ _
  | true =>
      have kept : Preserves faults (fun session : ReaderSession Net => Owed [] session.trace) (do
          let reply ← tryProbe (resolveDevice registry deviceId port)
          let opened ← Program.look Site.opened
          disconnectAll opened
          pure reply) := by
        apply Preserves.bind (owed_tryProbe _)
        intro reply
        apply Preserves.bind (meets_look _ fun _ holds => holds)
        intro opened
        exact Preserves.bind (owed_disconnectAll [] opened) fun _ => preserves_pure _
      exact reenables_of_owed (Meets.final kept (owed_nil []))

/-! ## `fetch_device_users` -/

/-- A reader was disabled and nothing was enabled since. -/
def Locked (trace : List CallEvent) : Prop :=
  ∃ before role after, trace = before ++ ⟨role, .disableDevice, some .done⟩ :: after ∧
    ∀ event ∈ after, event.call ≠ .enableDevice

theorem Locked.append {trace : List CallEvent} {event : CallEvent} (locked : Locked trace)
    (other : event.call ≠ .enableDevice) : Locked (trace ++ [event]) := by
  obtain ⟨before, role, after, rfl, none⟩ := locked
  refine ⟨before, role, after ++ [event], by simp, ?_⟩
  intro later member
  rcases List.mem_append.mp member with old | new
  · exact none later old
  · rw [List.mem_singleton.mp new]
    exact other

theorem Locked.not_reenables {trace : List CallEvent} (locked : Locked trace) :
    ¬ Reenables trace := by
  obtain ⟨before, role, after, split, none⟩ := locked
  intro enabled
  obtain ⟨answer, member⟩ := enabled before role after split
  exact none _ member rfl

def HasName (userNames : Option Json) (userId : String) : Prop :=
  ∀ info, userNames.bind (Json.get? (strip userId)) = some (.obj info) →
    ∃ name, info.lookup "name" = some (.str name)

section

variable [Sync.ValueTables]

theorem employeeName_ok_iff (userNames : Option Json) (userId : String) :
    (∃ name, employeeName userNames userId = .ok name) ↔ HasName userNames userId := by
  unfold employeeName HasName
  dsimp only
  cases found : userNames.bind (Json.get? (strip userId)) with
  | none => simp
  | some value =>
      cases value with
      | obj info =>
          cases named : info.lookup "name" with
          | none => simp [named]
          | some name => cases name <;> simp [named]
      | null | bool | int | real | str | arr => simp

theorem fetchedUsers_ok_iff (userNames : Option Json) (templates : List ZkFinger)
    (users : List ZkUser) :
    (∃ fetched, fetchedUsers userNames templates users = .ok fetched) ↔
      ∀ user ∈ users, HasName userNames user.userId := by
  induction users with
  | nil => simp [fetchedUsers]
  | cons user users ih =>
      rw [List.forall_mem_cons, ← ih, ← employeeName_ok_iff, fetchedUsers, fetchedUser]
      cases employeeName userNames user.userId with
      | error error => simp [Except.map]
      | ok name => cases fetchedUsers userNames templates users <;> simp [Except.map]

end

def shownUsers (net : Net) (connection : Connection) : List ZkUser :=
  (Network.ask (Network.ask net connection.address .disableDevice).2 connection.address
    .getUsers).1.users

/-- Nothing gets in the way of the enabling: the reader is not disabled, or it lists its
users and they have names. -/
def FetchEnables (faults : Faults String) (userNames : Option Json) (users : List ZkUser) : Prop :=
  faults 0 ≠ none ∨ faults 1 ≠ none ∨
    (faults 2 = none ∧ ∀ user ∈ users, HasName userNames user.userId)

/-- The trace is judged: enabled under the condition, locked without it. -/
def FetchJudged (faults : Faults String) (userNames : Option Json) (users : List ZkUser)
    (trace : List CallEvent) : Prop :=
  (Owed [] trace ∧ FetchEnables faults userNames users) ∨
    (Locked trace ∧ ¬ FetchEnables faults userNames users)

theorem FetchJudged.append {userNames : Option Json} {users : List ZkUser}
    {trace : List CallEvent} {event : CallEvent}
    (judged : FetchJudged faults userNames users trace)
    (notDisable : event.call ≠ .disableDevice) (notEnable : event.call ≠ .enableDevice) :
    FetchJudged faults userNames users (trace ++ [event]) := by
  rcases judged with ⟨owed, enables⟩ | ⟨locked, blocked⟩
  · exact Or.inl ⟨owed.append fun disables => absurd disables notDisable, enables⟩
  · exact Or.inr ⟨locked.append notEnable, blocked⟩

theorem FetchJudged.reenables_iff {userNames : Option Json} {users : List ZkUser}
    {trace : List CallEvent} (judged : FetchJudged faults userNames users trace) :
    Reenables trace ↔ FetchEnables faults userNames users := by
  rcases judged with ⟨owed, enables⟩ | ⟨locked, blocked⟩
  · exact iff_of_true (reenables_of_owed owed) enables
  · exact iff_of_false locked.not_reenables blocked

structure Disabled (connection : Connection) (trace : List CallEvent) : Prop where
  owed : Owed [connection] trace
  locked : Locked trace

theorem Disabled.append {connection : Connection} {trace : List CallEvent} {event : CallEvent}
    (disabled : Disabled connection trace) (notDisable : event.call ≠ .disableDevice)
    (notEnable : event.call ≠ .enableDevice) : Disabled connection (trace ++ [event]) :=
  ⟨disabled.owed.append fun disables => absurd disables notDisable,
    disabled.locked.append notEnable⟩

theorem meets_openFetch (net : Net) (connection : Connection) (userNames : Option Json)
    (users : List ZkUser) {Result : Type} {next : Connection → ReaderProgram Net Result}
    {post : Result → ReaderSession Net → Prop}
    (tail : faults 0 = none → faults 1 = none → Meets faults
      (fun session => Disabled connection session.trace ∧ session.trace.length = 2 ∧
        session.world.readers = (Network.ask net connection.address .disableDevice).2)
      (next connection) post fun session => FetchJudged faults userNames users session.trace) :
    Meets faults (fun session => session.world.readers = net ∧ session.trace = [])
      (do
        let conn ← connectZkDevice connection
        conn.disableDevice
        next conn)
      post fun session => FetchJudged faults userNames users session.trace := by
  have connected : Meets faults
      (fun session => session.world.readers = net ∧ session.trace = [])
      (connectZkDevice connection)
      (fun conn session => (session.world.readers = net ∧ Owed [] session.trace ∧
        session.trace.length = 1) ∧ conn = connection ∧ faults 0 = none)
      fun session => FetchJudged faults userNames users session.trace := by
    apply meets_issue
    · rintro session ⟨rfl, start⟩ fault
      rw [start] at fault ⊢
      exact ⟨⟨rfl, (owed_nil []).append (by simp), rfl⟩, rfl, fault⟩
    · rintro session ⟨_, start⟩ fault
      rw [start] at fault ⊢
      exact Or.inl ⟨(owed_nil []).append (by simp), Or.inl fault⟩
  apply Meets.bind connected
  intro conn
  apply meets_and_fact
  rintro ⟨rfl, first⟩
  have disabled : Meets faults
      (fun session : ReaderSession Net => session.world.readers = net ∧ Owed [] session.trace ∧
        session.trace.length = 1)
      conn.disableDevice
      (fun _ session => (Disabled conn session.trace ∧ session.trace.length = 2 ∧
        session.world.readers = (Network.ask net conn.address .disableDevice).2) ∧
        faults 1 = none)
      fun session => FetchJudged faults userNames users session.trace := by
    unfold Connection.disableDevice Connection.ask
    apply meets_issue
    · rintro session ⟨rfl, owed, length⟩ fault
      rw [length] at fault
      have more : Owed [conn] session.trace := owed.mono (by simp)
      refine ⟨⟨⟨more.append fun _ _ => ⟨conn, List.mem_singleton.mpr rfl, rfl⟩, ?_⟩, ?_, rfl⟩, fault⟩
      · exact ⟨session.trace, conn.role, [], rfl, by simp⟩
      · simp [length]
    · rintro session ⟨_, owed, length⟩ fault
      rw [length] at fault
      exact Or.inl ⟨owed.append (by simp), Or.inr (Or.inl fault)⟩
  apply Meets.bind disabled
  intro _
  apply meets_and_fact
  exact tail first

section

variable [Sync.ValueTables]

theorem judged_tryFetch (userNames : Option Json) (resolved : ResolvedDevice) (net : Net) :
    Meets faults (fun session => session.world.readers = net ∧ session.trace = [])
      (tryFetch userNames resolved : ReaderProgram Net FetchReply)
      (fun _ session => FetchJudged faults userNames
        (shownUsers net (readerAt resolved.ip resolved.port)) session.trace)
      fun session => FetchJudged faults userNames
        (shownUsers net (readerAt resolved.ip resolved.port)) session.trace := by
  refine Meets.attempt ?_ fun _ => meets_pure _ fun _ holds => holds
  apply meets_openFetch
  intro first second
  generalize readerAt resolved.ip resolved.port = connection
  have listed : Meets faults
      (fun session => Disabled connection session.trace ∧ session.trace.length = 2 ∧
        session.world.readers = (Network.ask net connection.address .disableDevice).2)
      connection.getUsers
      (fun users session => Disabled connection session.trace ∧
        users = shownUsers net connection ∧ faults 2 = none)
      fun session => FetchJudged faults userNames (shownUsers net connection) session.trace := by
    unfold Connection.getUsers Connection.ask
    apply meets_issue
    · rintro session ⟨disabled, length, same⟩ fault
      rw [length] at fault
      exact ⟨disabled.append (by simp) (by simp), by rw [same]; rfl, fault⟩
    · rintro session ⟨disabled, length, _⟩ fault
      rw [length] at fault
      refine Or.inr ⟨disabled.locked.append (by simp), ?_⟩
      rintro (one | two | ⟨three, _⟩)
      · exact one first
      · exact two second
      · exact fault three
  apply Meets.bind listed
  intro users
  apply meets_and_fact
  rintro ⟨rfl, third⟩
  have templated : Preserves faults
      (fun session : ReaderSession Net => Disabled connection session.trace)
      connection.getTemplates := by
    unfold Connection.getTemplates Connection.ask
    exact meets_issue (fun _ disabled _ => disabled.append (by simp) (by simp))
      fun _ disabled _ => disabled.append (by simp) (by simp)
  apply Meets.bind templated.attempt_pure.unraised
  intro templates
  cases fetched : fetchedUsers userNames templates (shownUsers net connection) with
  | error error =>
      refine meets_raise _ fun session disabled => ?_
      refine Or.inr ⟨disabled.locked, ?_⟩
      rintro (one | two | ⟨_, named⟩)
      · exact one first
      · exact two second
      · obtain ⟨_, works⟩ := (fetchedUsers_ok_iff userNames templates _).mpr named
        rw [fetched] at works
        cases works
  | ok usersList =>
      have enabled : Meets faults
          (fun session : ReaderSession Net => Disabled connection session.trace)
          connection.enableDevice
          (fun _ session => FetchJudged faults userNames (shownUsers net connection) session.trace)
          fun session => FetchJudged faults userNames (shownUsers net connection)
            session.trace := by
        have named := (fetchedUsers_ok_iff userNames templates _).mp ⟨usersList, fetched⟩
        unfold Connection.enableDevice Connection.ask
        apply meets_issue
        · intro session disabled _
          exact Or.inl ⟨disabled.owed.enable _, Or.inr (Or.inr ⟨third, named⟩)⟩
        · intro session disabled _
          exact Or.inl ⟨disabled.owed.enable _, Or.inr (Or.inr ⟨third, named⟩)⟩
      apply Meets.bind enabled
      intro _
      exact meets_pure _ fun _ holds => holds

theorem fetchDeviceUsers_judged [UnicodeTables] (userNames : Option Json) (registry : Registry)
    (deviceId : String) (port : Int) (net : Net) :
    FetchJudged faults userNames
      (shownUsers net (readerAt (resolveDevice registry deviceId port).ip
        (resolveDevice registry deviceId port).port))
      (fetchDeviceUsers true userNames registry deviceId port faults
        (ReaderSession.fresh net)).2.trace := by
  unfold fetchDeviceUsers
  rw [if_pos rfl]
  generalize resolveDevice registry deviceId port = resolved
  have closed : ∀ opened : List Connection, Preserves faults
      (fun session => FetchJudged faults userNames
        (shownUsers net (readerAt resolved.ip resolved.port)) session.trace)
      (disconnectAll opened : ReaderProgram Net Unit) := by
    intro opened
    induction opened with
    | nil => exact preserves_pure _
    | cons connection rest ih =>
        apply Preserves.bind
        · refine Preserves.attempt ?_ fun _ => preserves_pure _
          unfold Connection.disconnect Connection.ask
          exact meets_issue (fun _ holds _ => FetchJudged.append holds (by simp) (by simp))
            fun _ holds _ => FetchJudged.append holds (by simp) (by simp)
        · intro _
          exact ih
  have whole := Meets.bind (judged_tryFetch userNames resolved net) fun reply =>
    Meets.bind (meets_look Site.opened fun _ holds => holds) fun opened =>
      Preserves.bind (closed opened) fun _ => preserves_pure reply
  exact Meets.final whole ⟨rfl, rfl⟩

end

end

/-! ## The six functions -/

/-- A call of a function that disables readers, with its arguments. -/
inductive ReaderOperation where
  | fetch (userNames : Option Json) (deviceId : String) (port : Int)
  | probe (deviceId : String) (port : Int)
  | create (queue : CommandQueue) (deviceId : String) (user : NewUser) (port : Int)
      (ipOverride : Option String)
  | delete (queue : CommandQueue) (deviceId userId : String) (port : Int)
      (deleteBiometricsOnly : Bool) (ipOverride : Option String)
  | deleteBatch (deviceId : String) (userIds : List String) (port : Int)
      (deleteBiometricsOnly : Bool) (ipOverride : Option String)
  | migrate (request : MigrationRequest) (sourcePort targetPort : Int)

section

variable {Net : Type} [Network Net] [UnicodeTables] [Sync.ValueTables]
  (hasPyzk : Bool) (registry : Registry) (faults : Faults String) (net : Net)

def ReaderOperation.calls : ReaderOperation → List CallEvent
  | .fetch userNames deviceId port =>
      (fetchDeviceUsers hasPyzk userNames registry deviceId port faults
        (ReaderSession.fresh net)).2.trace
  | .probe deviceId port =>
      (probeDeviceConnection hasPyzk registry deviceId port faults
        (ReaderSession.fresh net)).2.trace
  | .create queue deviceId user port ipOverride =>
      (createDeviceUser hasPyzk registry queue deviceId user port ipOverride faults
        (ReaderSession.fresh net)).2.trace
  | .delete queue deviceId userId port deleteBiometricsOnly ipOverride =>
      (deleteDeviceUserReal hasPyzk registry queue deviceId userId port deleteBiometricsOnly
        ipOverride faults (ReaderSession.fresh net)).2.trace
  | .deleteBatch deviceId userIds port deleteBiometricsOnly ipOverride =>
      (deleteBatchDeviceUsers hasPyzk registry deviceId userIds port deleteBiometricsOnly
        ipOverride faults (ReaderSession.fresh net)).2.trace
  | .migrate request sourcePort targetPort =>
      (Network.migrateSingleUserReal hasPyzk registry request sourcePort targetPort faults
        (ReaderSession.fresh net)).2.trace

/-- Only `fetch_device_users` can leave a reader disabled. -/
def ReaderOperation.EnablesAgain : ReaderOperation → Prop
  | .fetch userNames deviceId port =>
      hasPyzk = true → FetchEnables faults userNames
        (shownUsers net (readerAt (resolveDevice registry deviceId port).ip
          (resolveDevice registry deviceId port).port))
  | .probe _ _ | .create _ _ _ _ _ | .delete _ _ _ _ _ _ | .deleteBatch _ _ _ _ _
  | .migrate _ _ _ => True

/-- Every reader that a function disables is enabled again, except by `fetch_device_users`
where listing the users or naming one of them raises. -/
theorem readers_enabled_iff (operation : ReaderOperation) :
    Reenables (operation.calls hasPyzk registry faults net) ↔
      operation.EnablesAgain hasPyzk registry faults net := by
  cases operation with
  | fetch userNames deviceId port =>
      cases hasPyzk with
      | false => exact iff_of_true (reenables_pure _ _) fun installed => by cases installed
      | true =>
          have judged : FetchJudged faults userNames _ _ :=
            fetchDeviceUsers_judged userNames registry deviceId port net
          exact judged.reenables_iff.trans
            ⟨fun enables _ => enables, fun enables => enables rfl⟩
  | probe deviceId port =>
      exact iff_of_true (probeDeviceConnection_reenables _ _ _ _ _) trivial
  | create queue deviceId user port ipOverride =>
      exact iff_of_true (createDeviceUser_reenables _ _ _ _ _ _ _ _) trivial
  | delete queue deviceId userId port deleteBiometricsOnly ipOverride =>
      exact iff_of_true (deleteDeviceUserReal_reenables _ _ _ _ _ _ _ _ _) trivial
  | deleteBatch deviceId userIds port deleteBiometricsOnly ipOverride =>
      exact iff_of_true (deleteBatchDeviceUsers_reenables _ _ _ _ _ _ _ _) trivial
  | migrate request sourcePort targetPort =>
      exact iff_of_true (migrateSingleUserReal_reenables _ _ _ _ _ _) trivial

end

def listingFails : Faults String := fun place => if place = 2 then some "timed out" else none

/-- Where `get_users` raises, the reader is closed while it is disabled. -/
theorem fetch_leaves_reader_disabled :
    ¬ Reenables (@ReaderOperation.calls _ _ .ascii .scalars true defaultRegistry listingFails
      memberOnSource (.fetch none "NFZ8254900401" 4370)) := by
  have calls : @ReaderOperation.calls _ _ .ascii .scalars true defaultRegistry listingFails
      memberOnSource (.fetch none "NFZ8254900401" 4370) =
      [⟨.reader, .connect, some .done⟩, ⟨.reader, .disableDevice, some .done⟩,
        ⟨.reader, .getUsers, none⟩, ⟨.reader, .disconnect, some .done⟩] := by
    decide +kernel
  rw [calls]
  intro enabled
  obtain ⟨answer, member⟩ := enabled [⟨.reader, .connect, some .done⟩] .reader
    [⟨.reader, .getUsers, none⟩, ⟨.reader, .disconnect, some .done⟩] rfl
  simp at member

end PumoBioMetric.Core
