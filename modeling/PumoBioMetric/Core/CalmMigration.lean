import PumoBioMetric.Core.HardwareMigration

/-!
# `migrate_single_user_real` where no call raises

With `pyzk` working normally a migration ends in one of three ways: the user is not on
the source, the target PIN cannot be read, or the profile and its fingers are written
into one slot of the target.
-/

set_option autoImplicit false

namespace PumoBioMetric.Core

open Py FirstMatch FaultyCalls

def noFaults : Faults String := fun _ => none

/-! ## What is written -/

def CallEvent.written (event : CallEvent) : Option (Role × ZkUser) :=
  match event.call with
  | .setUser profile => some (event.role, profile)
  | .saveUserTemplate profile _ => some (event.role, profile)
  | _ => none

def writtenProfiles (trace : List CallEvent) : List (Role × ZkUser) :=
  trace.filterMap CallEvent.written

def putReader (readers : Address → Reader) (address : Address) (reader : Reader) :
    Address → Reader :=
  fun other => if other = address then reader else readers other

@[simp] theorem putReader_same (readers : Address → Reader) (address : Address)
    (reader : Reader) : putReader readers address reader address = reader := by
  simp [putReader]

@[simp] theorem putReader_other (readers : Address → Reader) {address other : Address}
    (reader : Reader) (apart : other ≠ address) :
    putReader readers address reader other = readers other := by
  simp [putReader, apart]

namespace Reader

def write (reader : Reader) (profile : ZkUser) (fingers : List ZkFinger) : Reader :=
  fingers.foldl putTemplate (reader.putUser profile)

theorem find?_putUser (reader : Reader) (user : ZkUser) :
    (reader.putUser user).users.find? (ZkUser.hasUid user.uid) = some user := by
  unfold putUser
  cases first : reader.users.find? (ZkUser.hasUid user.uid) with
  | none => simp [List.find?_append, first, ZkUser.hasUid]
  | some found => exact find?_updateFirst _ (fun _ => user) first (by simp [ZkUser.hasUid])

theorem mem_putUser (reader : Reader) (user : ZkUser) : user ∈ (reader.putUser user).users :=
  List.mem_of_find?_eq_some (find?_putUser reader user)

theorem putUser_self {reader : Reader} {user : ZkUser}
    (found : reader.users.find? (ZkUser.hasUid user.uid) = some user) :
    reader.putUser user = reader := by
  have same : updateFirst (ZkUser.hasUid user.uid) (fun _ => user) reader.users = reader.users :=
    updateFirst_self _ _ found rfl
  unfold putUser
  rw [found, same]

theorem putUser_putUser (reader : Reader) (user : ZkUser) :
    (reader.putUser user).putUser user = reader.putUser user :=
  putUser_self (find?_putUser reader user)

@[simp] theorem users_foldl_putTemplate (reader : Reader) (fingers : List ZkFinger) :
    (fingers.foldl putTemplate reader).users = reader.users := by
  induction fingers generalizing reader with
  | nil => rfl
  | cons finger rest ih => exact ih (reader.putTemplate finger)

@[simp] theorem users_write (reader : Reader) (profile : ZkUser) (fingers : List ZkFinger) :
    (reader.write profile fingers).users = (reader.putUser profile).users := by
  simp [write]

end Reader

/-! ## Calls that do not raise -/

/-- The readers, and what has been written so far. -/
structure Calm (readers : Address → Reader) (written : List (Role × ZkUser))
    (session : ZkSession) : Prop where
  readers : session.world.readers = readers
  written : writtenProfiles session.trace = written

section

variable {readers : Address → Reader} {written : List (Role × ZkUser)}

theorem calm_ask {connection : Connection} {call : Call} {Result : Type}
    (view : Reader → Result) (answer : Result → Answer)
    (reads : ∀ reply, CallEvent.written ⟨connection.role, call, reply⟩ = none) :
    Meets noFaults (Calm readers written) (connection.ask call view answer)
      (fun result session => Calm readers written session ∧
        result = view (readers connection.address))
      fun _ => False := by
  apply meets_issue
  · rintro session ⟨rfl, rfl⟩ _
    exact ⟨⟨rfl, by simp [writtenProfiles, reads]⟩, rfl⟩
  · intro session _ fault
    exact absurd rfl fault

theorem calm_tell {connection : Connection} {call : Call} {change : Reader → Reader}
    (profile : Option (Role × ZkUser))
    (writes : ∀ reply, CallEvent.written ⟨connection.role, call, reply⟩ = profile) :
    Meets noFaults (Calm readers written) (connection.tell call change)
      (fun _ => Calm (putReader readers connection.address (change (readers connection.address)))
        (written ++ profile.toList))
      fun _ => False := by
  apply meets_issue
  · rintro session ⟨rfl, rfl⟩ _
    refine ⟨rfl, ?_⟩
    cases profile <;> simp [writtenProfiles, writes]
  · intro session _ fault
    exact absurd rfl fault

theorem calm_connect (connection : Connection) :
    Meets noFaults (Calm readers written) (connectZkDevice connection)
      (fun result session => Calm readers written session ∧ result = connection)
      fun _ => False := by
  apply meets_issue
  · rintro session ⟨rfl, rfl⟩ _
    exact ⟨⟨rfl, by simp [writtenProfiles, CallEvent.written]⟩, rfl⟩
  · intro session _ fault
    exact absurd rfl fault

theorem calm_note {connection : Connection} {call : Call} {Result : Type}
    (view : Reader → Result) (answer : Result → Answer)
    (reads : ∀ reply, CallEvent.written ⟨connection.role, call, reply⟩ = none) :
    Meets noFaults (Calm readers written) (connection.ask call view answer)
      (fun _ => Calm readers written) fun _ => False :=
  (calm_ask view answer reads).weaken (fun _ start => start) (fun _ _ holds => holds.1)
    fun _ holds => holds

/-! ## Reading the source -/

theorem calm_findSourceUser (source : Connection) (userId : String) :
    Meets noFaults (Calm readers written) (findSourceUser source userId)
      (fun result session => Calm readers written session ∧
        result = (source, (readers source.address).users.find? (ZkUser.hasId userId)))
      fun _ => False := by
  unfold findSourceUser
  apply Meets.bind (calm_connect source)
  intro srcConn
  apply meets_and_fact
  rintro rfl
  apply Meets.bind (calm_note (fun _ => ()) _ fun _ => rfl)
  intro _
  apply Meets.bind (calm_ask Reader.users .users fun _ => rfl)
  intro srcUsers
  exact meets_pure _ fun _ holds => ⟨holds.1, by rw [holds.2]⟩

/-- `user_fingers` where no read raises. -/
def Reader.fingersOf (reader : Reader) (uid : Int) : List ZkFinger :=
  reader.templates.filter fun finger => finger.uid == uid

/-- The scan finds nothing that the bulk read did not. -/
theorem calm_scanFingers {srcConn : Connection} {uid : Int} (userId : String)
    (nothing : (readers srcConn.address).fingersOf uid = []) (fids : List Nat) :
    Meets noFaults (Calm readers written) (scanFingers srcConn uid userId fids)
      (fun result session => Calm readers written session ∧ result = []) fun _ => False := by
  have missing : ∀ fid, (readers srcConn.address).templates.find? (ZkFinger.isAt uid fid) =
      none := by
    intro fid
    rw [List.find?_eq_none]
    intro finger member
    have other := List.filter_eq_nil_iff.mp nothing finger member
    simp only [ZkFinger.isAt, Bool.and_eq_true, not_and]
    exact fun owner => absurd owner other
  induction fids with
  | nil => exact meets_pure _ fun _ holds => ⟨holds, rfl⟩
  | cons fid rest ih =>
      have read : Meets noFaults (Calm readers written)
          (Program.attempt (srcConn.getUserTemplate uid fid userId) fun _ => pure none)
          (fun found session => Calm readers written session ∧ found = none)
          fun _ => False := by
        apply Meets.attempt_unraised
        exact (calm_ask _ _ fun _ => rfl).weaken (fun _ holds => holds)
          (fun _ _ holds => ⟨holds.1, holds.2.trans (missing fid)⟩) fun _ holds => holds
      rw [scanFingers]
      apply Meets.bind read
      intro found
      apply meets_and_fact
      rintro rfl
      apply Meets.bind ih
      intro others
      exact meets_pure _ fun _ holds => ⟨holds.1, by simp [holds.2]⟩

theorem calm_bulkFingers (srcConn : Connection) (uid : Int) :
    Meets noFaults (Calm readers written) (bulkFingers srcConn uid)
      (fun result session => Calm readers written session ∧
        result = (readers srcConn.address).fingersOf uid)
      fun _ => False := by
  unfold bulkFingers
  apply Meets.attempt_unraised
  apply Meets.bind (calm_ask Reader.templates .templates fun _ => rfl)
  intro allTemplates
  exact meets_pure _ fun _ holds => ⟨holds.1, by rw [holds.2]; rfl⟩

theorem calm_readFingers (srcConn : Connection) (uid : Int) (userId : String) :
    Meets noFaults (Calm readers written) (readFingers srcConn uid userId)
      (fun result session => Calm readers written session ∧
        result = (readers srcConn.address).fingersOf uid)
      fun _ => False := by
  unfold readFingers
  apply Meets.bind (calm_bulkFingers srcConn uid)
  intro userFingers
  apply meets_and_fact
  rintro rfl
  by_cases nothing : ((readers srcConn.address).fingersOf uid).isEmpty = true
  · rw [if_pos nothing, List.isEmpty_iff.mp nothing]
    exact calm_scanFingers userId (List.isEmpty_iff.mp nothing) _
  · rw [if_neg nothing]
    exact meets_pure _ fun _ holds => ⟨holds, rfl⟩

/-! ## Writing the target -/

theorem calm_openTarget (srcConn target : Connection) :
    Meets noFaults (Calm readers written) (openTarget srcConn target)
      (fun result session => Calm readers written session ∧
        result = (target, (readers target.address).users))
      fun _ => False := by
  have checked : ∀ tgtConn, Meets noFaults (Calm readers written)
      (checkFpVersions srcConn tgtConn) (fun _ => Calm readers written) fun _ => False := by
    intro tgtConn
    apply Meets.attempt_unraised
    apply Meets.bind (calm_note Reader.fpVersion .version fun _ => rfl)
    intro _
    apply Meets.bind (calm_note Reader.fpVersion .version fun _ => rfl)
    intro _
    exact meets_pure _ fun _ holds => holds
  unfold openTarget
  apply Meets.bind (calm_connect target)
  intro tgtConn
  apply meets_and_fact
  rintro rfl
  apply Meets.bind (calm_note (fun _ => ()) _ fun _ => rfl)
  intro _
  apply Meets.bind (checked tgtConn)
  intro _
  apply Meets.bind (calm_ask Reader.users .users fun _ => rfl)
  intro tgtUsers
  exact meets_pure _ fun _ holds => ⟨holds.1, by rw [holds.2]⟩

/-- What one migration writes to the target: the profile, and again with its fingers. -/
def targetWrites (tgtConn : Connection) (profile : ZkUser) (fingers : List ZkFinger) :
    List (Role × ZkUser) :=
  (tgtConn.role, profile) :: if fingers.isEmpty then [] else [(tgtConn.role, profile)]

theorem mem_targetWrites {tgtConn : Connection} {profile : ZkUser} {fingers : List ZkFinger}
    {write : Role × ZkUser} (member : write ∈ targetWrites tgtConn profile fingers) :
    write = (tgtConn.role, profile) := by
  unfold targetWrites at member
  split at member <;> simpa using member

theorem calm_writeTarget (tgtConn : Connection) (profile : ZkUser) (fingers : List ZkFinger) :
    Meets noFaults (Calm readers []) (writeTarget tgtConn profile fingers)
      (fun verified session =>
        Calm (putReader readers tgtConn.address
          ((readers tgtConn.address).write profile fingers))
          (targetWrites tgtConn profile fingers) session ∧ verified = true)
      fun _ => False := by
  have profileWritten : Meets noFaults (Calm readers []) (tgtConn.setUser profile)
      (fun _ => Calm (putReader readers tgtConn.address
        ((readers tgtConn.address).putUser profile)) [(tgtConn.role, profile)])
      fun _ => False :=
    calm_tell (some (tgtConn.role, profile)) fun _ => rfl
  have fingersWritten : Meets noFaults
      (Calm (putReader readers tgtConn.address ((readers tgtConn.address).putUser profile))
        [(tgtConn.role, profile)])
      (writeFingers tgtConn profile fingers)
      (fun _ => Calm (putReader readers tgtConn.address
        ((readers tgtConn.address).write profile fingers)) (targetWrites tgtConn profile fingers))
      fun _ => False := by
    unfold writeFingers
    by_cases nothing : fingers.isEmpty = true
    · rw [if_pos nothing, List.isEmpty_iff.mp nothing]
      exact meets_pure _ fun _ holds => holds
    · rw [if_neg nothing]
      have saved : Meets noFaults
          (Calm (putReader readers tgtConn.address ((readers tgtConn.address).putUser profile))
            [(tgtConn.role, profile)])
          (tgtConn.saveUserTemplate profile fingers) _ _ :=
        calm_tell (some (tgtConn.role, profile)) fun _ => rfl
      apply saved.weaken (fun _ holds => holds) _ fun _ holds => holds
      intro _ session holds
      refine ⟨holds.readers.trans ?_, holds.written.trans ?_⟩
      · funext address
        by_cases same : address = tgtConn.address
        · simp [putReader, same, Reader.putUser_putUser, Reader.write]
        · simp [putReader, same]
      · simp [targetWrites, nothing]
  unfold writeTarget
  apply Meets.bind profileWritten
  intro _
  apply Meets.bind fingersWritten
  intro _
  apply Meets.bind (calm_note (fun _ => ()) _ fun _ => rfl)
  intro _
  apply Meets.bind (calm_ask Reader.users .users fun _ => rfl)
  intro verifiedTgtUsers
  refine meets_pure _ fun _ holds => ⟨holds.1, ?_⟩
  rw [holds.2, putReader_same, Reader.users_write, List.any_eq_true]
  exact ⟨profile, Reader.mem_putUser _ _, by simp [ZkUser.hasId]⟩

/-! ## The whole migration -/

theorem calm_closeConnections (connections : List Connection) :
    Meets noFaults (Calm readers written) (closeConnections connections)
      (fun _ => Calm readers written) fun _ => False := by
  induction connections with
  | nil => exact meets_pure _ fun _ holds => holds
  | cons connection rest ih =>
      have enabled : Meets noFaults (Calm readers written)
          (Program.attempt connection.enableDevice fun _ => pure ())
          (fun _ => Calm readers written) fun _ => False :=
        Meets.attempt_unraised (calm_note (fun _ => ()) _ fun _ => rfl)
      have disconnected : Meets noFaults (Calm readers written)
          (Program.attempt connection.disconnect fun _ => pure ())
          (fun _ => Calm readers written) fun _ => False :=
        Meets.attempt_unraised (calm_note (fun _ => ()) _ fun _ => rfl)
      unfold closeConnections
      apply Meets.bind enabled
      intro _
      apply Meets.bind disconnected
      intro _
      exact ih

variable [UnicodeTables]

def deletedReaders (readers : Address → Reader) (source : Address) (mode : String)
    (user : ZkUser) : Address → Reader :=
  if lower mode = "move" then putReader readers source ((readers source).dropUser user.uid)
  else readers

theorem calm_deleteFromSource (srcConn : Connection) (mode userId : String) (user : ZkUser) :
    Meets noFaults (Calm readers written) (deleteFromSource srcConn mode userId user)
      (fun _ => Calm (deletedReaders readers srcConn.address mode user) written)
      fun _ => False := by
  unfold deleteFromSource deletedReaders
  by_cases move : lower mode = "move"
  · rw [if_pos move, if_pos move]
    have deleted : Meets noFaults (Calm readers written) (srcConn.deleteUser user.uid userId)
        (fun _ => Calm (putReader readers srcConn.address
          ((readers srcConn.address).dropUser user.uid)) written)
        fun _ => False :=
      (calm_tell none fun _ => rfl).weaken (fun _ holds => holds)
        (fun _ _ holds => ⟨holds.readers, holds.written.trans (List.append_nil _)⟩)
        fun _ holds => holds
    apply Meets.bind deleted
    intro _
    exact calm_note (fun _ => ()) _ fun _ => rfl
  · rw [if_neg move, if_neg move]
    exact meets_pure _ fun _ holds => holds

end

section

variable [UnicodeTables] (ends : Endpoints) (request : MigrationRequest)
  (readers : Address → Reader)

def sourceReader : Reader := readers ends.srcConnection.address

def targetReader : Reader := readers ends.tgtConnection.address

def slotProfile (user : ZkUser) (slot : Slot) : ZkUser :=
  profileAt slot (migratedName user request.userId) user

def slotFingers (user : ZkUser) (slot : Slot) : List ZkFinger :=
  fingersAt slot ((sourceReader ends readers).fingersOf user.uid)

/-- The readers after the write and before a deletion. -/
def writtenReaders (user : ZkUser) (slot : Slot) : Address → Reader :=
  putReader readers ends.tgtConnection.address
    ((targetReader ends readers).write (slotProfile request user slot)
      (slotFingers ends readers user slot))

/-- How a migration ends in which no call raises. -/
inductive CalmOutcome :
    MigrationResult → (Address → Reader) → List (Role × ZkUser) → Prop where
  | absent :
      (sourceReader ends readers).users.find? (ZkUser.hasId request.userId) = none →
        CalmOutcome (failedMigration ends request "N/A" request.userId
          ("User ID " ++ request.userId ++ " not found on source device.")) readers []
  | raised {user : ZkUser} {error : String} :
      (sourceReader ends readers).users.find? (ZkUser.hasId request.userId) = some user →
      chooseSlot (targetReader ends readers).users (migratedName user request.userId)
        request.destUserId = none →
        CalmOutcome (failedMigration ends request (migratedName user request.userId)
          request.userId error) readers []
  | written {user : ZkUser} {slot : Slot} :
      (sourceReader ends readers).users.find? (ZkUser.hasId request.userId) = some user →
      chooseSlot (targetReader ends readers).users (migratedName user request.userId)
        request.destUserId = some slot →
        CalmOutcome
          ⟨true, request.mode, request.userId, migratedName user request.userId,
            ends.source.ip, ends.target.ip, slot.userId,
            ((sourceReader ends readers).fingersOf user.uid).length, none⟩
          (deletedReaders (writtenReaders ends request readers user slot)
            ends.srcConnection.address request.mode user)
          (targetWrites ends.tgtConnection (slotProfile request user slot)
            (slotFingers ends readers user slot))

variable {ends request readers}

theorem CalmOutcome.of_absent {result : MigrationResult} {after : Address → Reader}
    {written : List (Role × ZkUser)} (outcome : CalmOutcome ends request readers result after written)
    (missing : (sourceReader ends readers).users.find? (ZkUser.hasId request.userId) = none) :
    result.ok = false ∧ after = readers ∧ written = [] := by
  cases outcome with
  | absent => exact ⟨rfl, rfl, rfl⟩
  | raised first _ => exact absurd (missing.symm.trans first) (by simp)
  | written first _ => exact absurd (missing.symm.trans first) (by simp)

theorem CalmOutcome.of_found {result : MigrationResult} {after : Address → Reader}
    {written : List (Role × ZkUser)} (outcome : CalmOutcome ends request readers result after written)
    {user : ZkUser}
    (first : (sourceReader ends readers).users.find? (ZkUser.hasId request.userId) = some user) :
    (chooseSlot (targetReader ends readers).users (migratedName user request.userId)
        request.destUserId = none ∧
      result.ok = false ∧ after = readers ∧ written = []) ∨
    ∃ slot, chooseSlot (targetReader ends readers).users (migratedName user request.userId)
        request.destUserId = some slot ∧
      result.ok = true ∧ result.targetUserId = slot.userId ∧
      result.fingersTransferred = ((sourceReader ends readers).fingersOf user.uid).length ∧
      after = deletedReaders (writtenReaders ends request readers user slot)
        ends.srcConnection.address request.mode user ∧
      written = targetWrites ends.tgtConnection (slotProfile request user slot)
        (slotFingers ends readers user slot) := by
  cases outcome with
  | absent missing => exact absurd (missing.symm.trans first) (by simp)
  | raised again raised =>
      cases first.symm.trans again
      exact Or.inl ⟨raised, rfl, rfl, rfl⟩
  | @written _ slot again chosen =>
      cases first.symm.trans again
      exact Or.inr ⟨slot, chosen, rfl, rfl, rfl, rfl, rfl⟩

theorem calm_migrateFound {user : ZkUser}
    (first : (sourceReader ends readers).users.find? (ZkUser.hasId request.userId) = some user) :
    Meets noFaults (Calm readers [])
      (migrateFound ends request ends.srcConnection user (migratedName user request.userId))
      (fun result session => ∃ after written, Calm after written session ∧
        CalmOutcome ends request readers result after written)
      fun session => Calm readers [] session ∧
        chooseSlot (targetReader ends readers).users (migratedName user request.userId)
          request.destUserId = none := by
  unfold migrateFound
  apply Meets.bind (calm_readFingers ends.srcConnection user.uid request.userId).unraised
  intro userFingers
  apply meets_and_fact
  rintro rfl
  apply Meets.bind (calm_openTarget ends.srcConnection ends.tgtConnection).unraised
  rintro ⟨tgtConn, tgtUsers⟩
  apply meets_and_fact
  intro opened
  cases opened
  dsimp only
  cases chosen : chooseSlot (readers ends.tgtConnection.address).users
      (migratedName user request.userId) request.destUserId with
  | none => exact meets_raise _ fun _ holds => ⟨holds, chosen⟩
  | some slot =>
      unfold finishMigration
      apply Meets.bind (calm_writeTarget ends.tgtConnection (slotProfile request user slot)
        (slotFingers ends readers user slot)).unraised
      intro verified
      apply meets_and_fact
      rintro rfl
      apply Meets.bind (calm_deleteFromSource ends.srcConnection request.mode request.userId
        user).unraised
      intro _
      exact meets_pure _ fun _ holds => ⟨_, _, holds, .written first chosen⟩

theorem calm_tryMigration :
    Meets noFaults (Calm readers []) (tryMigration ends request)
      (fun result session => ∃ after written, Calm after written session ∧
        CalmOutcome ends request readers result after written)
      fun _ => False := by
  apply Meets.attempt_unraised
  apply Meets.bind (calm_findSourceUser ends.srcConnection request.userId)
  rintro ⟨srcConn, found⟩
  apply meets_and_fact
  intro listed
  obtain ⟨rfl, searched⟩ := Prod.mk.inj listed
  cases found with
  | none => exact meets_pure _ fun _ holds => ⟨_, _, holds, .absent searched.symm⟩
  | some user =>
      apply Meets.attempt (calm_migrateFound searched.symm)
      intro error
      exact meets_pure _ fun _ holds => ⟨_, _, holds.1, .raised searched.symm holds.2⟩

theorem calm_migration (registry : Registry) (request : MigrationRequest)
    (sourcePort targetPort : Int) (readers : Address → Reader) :
    Meets noFaults (Calm readers [])
      (migrateSingleUserReal true registry request sourcePort targetPort)
      (fun result session => CalmOutcome (endpoints registry request sourcePort targetPort)
        request readers result session.world.readers (writtenProfiles session.trace))
      fun _ => False := by
  apply Meets.bind calm_tryMigration
  intro result
  apply meets_exists
  intro after
  apply meets_exists
  intro written
  apply meets_and_fact
  intro outcome
  have looked : Meets noFaults (Calm after written) (Program.look Site.opened)
      (fun _ => Calm after written) fun _ => False :=
    meets_look Site.opened fun _ holds => holds
  apply Meets.bind looked
  intro opened
  apply Meets.bind (calm_closeConnections opened)
  intro _
  refine meets_pure _ fun session holds => ?_
  rw [holds.readers, holds.written]
  exact outcome

/-- A migration in which no call raises returns, and ends in one of the three ways. -/
theorem calmOutcome_of_run (registry : Registry) (request : MigrationRequest)
    (sourcePort targetPort : Int) (readers : Address → Reader) :
    ∃ result session,
      migrateSingleUserReal true registry request sourcePort targetPort noFaults
        (ZkSession.fresh readers) = (.ok result, session) ∧
      CalmOutcome (endpoints registry request sourcePort targetPort) request readers result
        session.world.readers (writtenProfiles session.trace) :=
  (calm_migration registry request sourcePort targetPort readers).returns ⟨rfl, rfl⟩

end

end PumoBioMetric.Core
