import PumoBioMetric.Core.CalmMigration
import PumoBioMetric.Core.MoveSafety
import PumoBioMetric.Core.PlacedCalls

/-!
# What a move between readers says of the source

The place of every call of a migration follows from the schedule of faults and from what
the readers hold.  The deletion from the source has one call behind it that may raise.
-/

set_option autoImplicit false

namespace PumoBioMetric.Core

open Py FirstMatch FaultyCalls

/-! ## Where the calls stand -/

section

variable (faults : Faults String) (source : Reader) (uid : Int)

def scannedFingers : Nat → List Nat → List ZkFinger
  | _, [] => []
  | place, fid :: rest =>
      ((if faults place = none then source.templates.find? (ZkFinger.isAt uid fid)
        else none).filter fun finger => !finger.template.isEmpty).toList ++
        scannedFingers (place + 1) rest

/-- The templates of the bulk read, which is the fourth call. -/
def bulkRead : List ZkFinger := if faults 3 = none then source.fingersOf uid else []

def fingersRead : List ZkFinger :=
  if (bulkRead faults source uid).isEmpty then scannedFingers faults source uid 4 (List.range 10)
  else bulkRead faults source uid

def targetPlace : Nat := if (bulkRead faults source uid).isEmpty then 14 else 4

end

section

variable (faults : Faults String)

/-- Where the users of the target are listed: a version read that raises is the last. -/
def listPlace (place : Nat) : Nat := if faults (place + 2) = none then place + 4 else place + 3

def TargetListed (place : Nat) : Prop :=
  faults place = none ∧ faults (place + 1) = none ∧ faults (listPlace faults place) = none

def refreshPlace (fingers : List ZkFinger) (place : Nat) : Nat :=
  if fingers.isEmpty then place + 1 else place + 2

def TargetWritten (fingers : List ZkFinger) (place : Nat) : Prop :=
  faults place = none ∧ (fingers.isEmpty = false → faults (place + 1) = none) ∧
    faults (refreshPlace fingers place) = none ∧ faults (refreshPlace fingers place + 1) = none

end

section

variable {faults : Faults String} {readers : Address → Reader}
  {place : Nat}

theorem meets_findSourceUser_at {source : Connection} {userId : String} :
    Meets faults (At readers 0) (findSourceUser source userId)
      (fun result session => (At readers 3 session ∧ UsersListed faults) ∧
        result = (source, (readers source.address).users.find? (ZkUser.hasId userId)))
      fun session => ¬ UsersListed faults ∧ Left readers session := by
  unfold findSourceUser
  apply meets_listed fun _ unreached here => ⟨unreached, here⟩
  intro listed
  exact meets_pure _ fun _ here => ⟨⟨here, listed⟩, rfl⟩

theorem meets_scanFingers_at {srcConn : Connection} {uid : Int} {userId : String} (fids : List Nat) :
    Meets faults (At readers place) (scanFingers srcConn uid userId fids)
      (fun result session => At readers (place + fids.length) session ∧
        result = scannedFingers faults (readers srcConn.address) uid place fids)
      fun _ => False := by
  induction fids generalizing place with
  | nil => exact meets_pure _ fun _ here => ⟨here, rfl⟩
  | cons fid rest ih =>
      have read : Meets faults (At readers place)
          (Program.attempt (srcConn.getUserTemplate uid fid userId) fun _ => pure none)
          (fun found session => At readers (place + 1) session ∧
            found = if faults place = none then
              (readers srcConn.address).templates.find? (ZkFinger.isAt uid fid) else none)
          fun _ => False := by
        apply Meets.attempt
        · apply meets_ask_at.weaken (fun _ start => start) _ fun _ holds => holds
          rintro found session ⟨here, fault, rfl⟩
          exact ⟨here, by rw [if_pos fault]; rfl⟩
        · intro _
          apply meets_pure
          rintro session ⟨here, fault⟩
          exact ⟨here, by rw [if_neg fault]⟩
      rw [scanFingers]
      apply Meets.bind read
      intro found
      apply meets_and_fact
      rintro rfl
      apply Meets.bind ih
      intro others
      apply meets_pure
      rintro session ⟨here, rfl⟩
      refine ⟨?_, rfl⟩
      have calls : place + (fid :: rest).length = place + 1 + rest.length := by
        simp only [List.length_cons]
        omega
      rw [calls]
      exact here

theorem meets_bulkFingers_at {srcConn : Connection} {uid : Int} :
    Meets faults (At readers 3) (bulkFingers srcConn uid)
      (fun result session => At readers 4 session ∧
        result = bulkRead faults (readers srcConn.address) uid)
      fun _ => False := by
  unfold bulkFingers bulkRead
  apply Meets.attempt
  · have read : Meets faults (At readers 3) srcConn.getTemplates
        (fun templates session => At readers 4 session ∧ faults 3 = none ∧
          templates = (readers srcConn.address).templates)
        fun session => At readers 4 session ∧ faults 3 ≠ none :=
      meets_ask_at
    apply Meets.bind read
    intro templates
    apply meets_pure
    rintro session ⟨here, fault, rfl⟩
    exact ⟨here, by rw [if_pos fault]; rfl⟩
  · intro _
    apply meets_pure
    rintro session ⟨here, fault⟩
    exact ⟨here, by rw [if_neg fault]⟩

theorem meets_readFingers_at {srcConn : Connection} {uid : Int} {userId : String} :
    Meets faults (At readers 3) (readFingers srcConn uid userId)
      (fun result session =>
        At readers (targetPlace faults (readers srcConn.address) uid) session ∧
          result = fingersRead faults (readers srcConn.address) uid)
      fun _ => False := by
  unfold readFingers targetPlace fingersRead
  apply Meets.bind meets_bulkFingers_at
  intro bulk
  apply meets_and_fact
  rintro rfl
  split
  · exact meets_scanFingers_at (List.range 10)
  · exact meets_pure _ fun _ here => ⟨here, rfl⟩

theorem meets_checkFpVersions {srcConn tgtConn : Connection} :
    Meets faults (At readers (place + 2)) (checkFpVersions srcConn tgtConn)
      (fun _ => At readers (listPlace faults place)) fun _ => False := by
  unfold checkFpVersions listPlace
  have first : Meets faults (At readers (place + 2)) srcConn.getFpVersion
      (fun _ session => At readers (place + 3) session ∧ faults (place + 2) = none)
      fun session => At readers (if faults (place + 2) = none then place + 4 else place + 3)
        session := by
    apply meets_ask_at.weaken (fun _ start => start) (fun _ _ holds => ⟨holds.1, holds.2.1⟩)
    rintro session ⟨here, fault⟩
    rw [if_neg fault]
    exact here
  have second : Meets faults (At readers (place + 3)) tgtConn.getFpVersion
      (fun _ => At readers (place + 4)) (At readers (place + 4)) :=
    meets_ask_at.weaken (fun _ start => start) (fun _ _ holds => holds.1) fun _ holds => holds.1
  apply Meets.attempt
  · apply Meets.bind first
    intro _
    apply meets_and_fact
    intro fault
    rw [if_pos fault]
    apply Meets.bind second
    intro _
    exact meets_pure _ fun _ here => here
  · intro _
    exact meets_pure _ fun _ here => here

theorem meets_openTarget {srcConn target : Connection} :
    Meets faults (At readers place) (openTarget srcConn target)
      (fun result session =>
        (At readers (listPlace faults place + 1) session ∧ TargetListed faults place) ∧
          result = (target, (readers target.address).users))
      fun session => ¬ TargetListed faults place ∧ Left readers session := by
  unfold openTarget
  have connected : Meets faults (At readers place) (connectZkDevice target)
      (fun conn session => (At readers (place + 1) session ∧ faults place = none) ∧ conn = target)
      fun session => ¬ TargetListed faults place ∧ Left readers session :=
    meets_connect_at.weaken (fun _ start => start) (fun _ _ holds => ⟨⟨holds.1, holds.2.1⟩, holds.2.2⟩)
      fun _ holds => ⟨fun listed => holds.2 listed.1, holds.1.left⟩
  apply Meets.bind connected
  intro conn
  apply meets_and_fact
  rintro rfl
  apply meets_and_fact
  intro first
  have disabled : Meets faults (At readers (place + 1)) conn.disableDevice
      (fun _ session => At readers (place + 2) session ∧ faults (place + 1) = none)
      fun session => ¬ TargetListed faults place ∧ Left readers session :=
    meets_ask_at.weaken (fun _ start => start) (fun _ _ holds => ⟨holds.1, holds.2.1⟩)
      fun _ holds => ⟨fun listed => holds.2 listed.2.1, holds.1.left⟩
  apply Meets.bind disabled
  intro _
  apply meets_and_fact
  intro second
  apply Meets.bind meets_checkFpVersions.unraised
  intro _
  have shown : Meets faults (At readers (listPlace faults place)) conn.getUsers
      (fun users session => At readers (listPlace faults place + 1) session ∧
        faults (listPlace faults place) = none ∧ users = (readers conn.address).users)
      fun session => ¬ TargetListed faults place ∧ Left readers session :=
    meets_ask_at.weaken (fun _ start => start) (fun _ _ holds => holds)
      fun _ holds => ⟨fun listed => holds.2 listed.2.2, holds.1.left⟩
  apply Meets.bind shown
  intro users
  apply meets_and_fact
  rintro ⟨third, rfl⟩
  exact meets_pure _ fun _ here => ⟨⟨here, first, second, third⟩, rfl⟩

end

/-! ## Writing the target -/

theorem refreshPlace_fingersAt (slot : Slot) (fingers : List ZkFinger) (place : Nat) :
    refreshPlace (fingersAt slot fingers) place = refreshPlace fingers place := by
  unfold refreshPlace fingersAt
  rw [List.isEmpty_map]

theorem targetWritten_fingersAt (faults : Faults String) (slot : Slot) (fingers : List ZkFinger)
    (place : Nat) :
    TargetWritten faults (fingersAt slot fingers) place ↔ TargetWritten faults fingers place := by
  unfold TargetWritten
  rw [refreshPlace_fingersAt, fingersAt, List.isEmpty_map]

def SourceKept (source : Address) (reader : Reader) (net : Address → Reader) : Prop :=
  net source = reader

def PinWritten (source target : Address) (reader : Reader) (userId : String)
    (net : Address → Reader) : Prop :=
  net source = reader ∧ (net target).users.any (ZkUser.hasId userId) = true

section

variable {faults : Faults String} {source : Address} {tgtConn : Connection} {reader : Reader}
  {place : Nat}

theorem pinWritten_tell {call : Call} {profile : ZkUser} (fingers : List ZkFinger)
    (apart : source ≠ tgtConn.address) (net : Address → Reader)
    (kept : net source = reader) :
    PinWritten source tgtConn.address reader profile.userId
      (Network.tell net tgtConn.address call fun target =>
        fingers.foldl Reader.putTemplate (target.putUser profile)) := by
  constructor
  · simpa [Network.tell, apart] using kept
  · simp only [Network.tell, if_true, Reader.users_foldl_putTemplate, List.any_eq_true]
    exact ⟨profile, Reader.mem_putUser _ profile, by simp [ZkUser.hasId]⟩

/-- Whatever raises on the way, the source is as it was. -/
theorem meets_writeTarget_at {profile : ZkUser} {fingers : List ZkFinger}
    (apart : source ≠ tgtConn.address) :
    Meets faults (Placed (SourceKept source reader) place) (writeTarget tgtConn profile fingers)
      (fun verified session =>
        (Placed (SourceKept source reader) (refreshPlace fingers place + 2) session ∧
          TargetWritten faults fingers place) ∧ verified = true)
      fun session => ¬ TargetWritten faults fingers place ∧
        session.world.readers source = reader := by
  unfold writeTarget
  have set : Meets faults (Placed (SourceKept source reader) place) (tgtConn.setUser profile)
      (fun _ session => Placed (PinWritten source tgtConn.address reader profile.userId) (place + 1)
        session ∧ faults place = none)
      fun session => ¬ TargetWritten faults fingers place ∧
        session.world.readers source = reader :=
    (meets_tell_placed (pinWritten_tell [] apart)).weaken (fun _ start => start)
      (fun _ _ holds => holds) fun _ holds => ⟨fun written => holds.2 written.1, holds.1.1⟩
  apply Meets.bind set
  intro _
  apply meets_and_fact
  intro first
  have saved : Meets faults
      (Placed (PinWritten source tgtConn.address reader profile.userId) (place + 1))
      (writeFingers tgtConn profile fingers)
      (fun _ session => Placed (PinWritten source tgtConn.address reader profile.userId)
        (refreshPlace fingers place) session ∧ (fingers.isEmpty = false → faults (place + 1) = none))
      fun session => ¬ TargetWritten faults fingers place ∧
        session.world.readers source = reader := by
    unfold writeFingers refreshPlace
    cases none : fingers.isEmpty with
    | true =>
        simp only [if_true]
        exact meets_pure _ fun _ here => ⟨here, fun some => nomatch some⟩
    | false =>
        simp only [Bool.false_eq_true, if_false]
        apply (meets_tell_placed fun net held => pinWritten_tell fingers apart net held.1).weaken
          (fun _ start => start) (fun _ _ holds => ⟨holds.1, fun _ => holds.2⟩)
        exact fun _ holds => ⟨fun written => holds.2 (written.2.1 none), holds.1.1.1⟩
  apply Meets.bind saved
  intro _
  apply meets_and_fact
  intro second
  have refreshed : Meets faults
      (Placed (PinWritten source tgtConn.address reader profile.userId)
        (refreshPlace fingers place))
      tgtConn.refreshData
      (fun _ session => Placed (PinWritten source tgtConn.address reader profile.userId)
        (refreshPlace fingers place + 1) session ∧ faults (refreshPlace fingers place) = none)
      fun session => ¬ TargetWritten faults fingers place ∧
        session.world.readers source = reader :=
    meets_ask_placed.weaken (fun _ start => start) (fun _ _ holds => ⟨holds.1, holds.2.1⟩)
      fun _ holds => ⟨fun written => holds.2 written.2.2.1, holds.1.1.1⟩
  apply Meets.bind refreshed
  intro _
  apply meets_and_fact
  intro third
  have listed : Meets faults
      (Placed (PinWritten source tgtConn.address reader profile.userId)
        (refreshPlace fingers place + 1))
      tgtConn.getUsers
      (fun users session => (Placed (SourceKept source reader) (refreshPlace fingers place + 2)
          session ∧ faults (refreshPlace fingers place + 1) = none) ∧
        users.any (ZkUser.hasId profile.userId) = true)
      fun session => ¬ TargetWritten faults fingers place ∧
        session.world.readers source = reader := by
    apply meets_ask_placed.weaken (fun _ start => start)
    · rintro users session ⟨here, fault, net, held, rfl⟩
      exact ⟨⟨⟨here.1.1, here.2⟩, fault⟩, held.2⟩
    · exact fun _ holds => ⟨fun written => holds.2 written.2.2.2, holds.1.1.1⟩
  apply Meets.bind listed
  intro verifiedTgtUsers
  apply meets_and_fact
  intro verified
  exact meets_pure _ fun _ holds => ⟨⟨holds.1, first, second, third, holds.2⟩, verified⟩

end

/-! ## The deletion from the source -/

theorem meets_deleteFromSource_at [UnicodeTables] {faults : Faults String} {srcConn : Connection}
    {reader : Reader} {place : Nat} {mode userId : String} {user : ZkUser}
    (move : lower mode = "move") :
    Meets faults (Placed (SourceKept srcConn.address reader) place)
      (deleteFromSource srcConn mode userId user)
      (fun _ session => faults place = none ∧ faults (place + 1) = none ∧
        session.world.readers srcConn.address = reader.dropUser user.uid)
      fun session => faults place ≠ none ∧ session.world.readers srcConn.address = reader ∨
        faults place = none ∧ faults (place + 1) ≠ none ∧
          session.world.readers srcConn.address = reader.dropUser user.uid := by
  unfold deleteFromSource
  rw [if_pos move]
  have deleted : Meets faults (Placed (SourceKept srcConn.address reader) place)
      (srcConn.deleteUser user.uid userId)
      (fun _ session => Placed (SourceKept srcConn.address (reader.dropUser user.uid)) (place + 1)
        session ∧ faults place = none)
      fun session => faults place ≠ none ∧ session.world.readers srcConn.address = reader ∨
        faults place = none ∧ faults (place + 1) ≠ none ∧
          session.world.readers srcConn.address = reader.dropUser user.uid := by
    apply (meets_tell_placed _).weaken (fun _ start => start) (fun _ _ holds => holds)
    · exact fun _ holds => .inl ⟨holds.2, holds.1.1⟩
    · intro net kept
      unfold SourceKept at kept ⊢
      simp [Network.tell, kept]
  apply Meets.bind deleted
  intro _
  apply meets_and_fact
  intro first
  apply meets_ask_placed.weaken (fun _ start => start)
  · exact fun _ _ holds => ⟨first, holds.2.1, holds.1.1⟩
  · exact fun _ holds => .inr ⟨first, holds.2, holds.1.1⟩

/-! ## The move -/

section

variable [UnicodeTables] (faults : Faults String) (ends : Endpoints) (request : MigrationRequest)
  (readers : Address → Reader) (user : ZkUser)

def writePlace : Nat :=
  listPlace faults (targetPlace faults (sourceReader ends readers) user.uid) + 1

/-- Where the user is deleted from the source; the next call refreshes the source. -/
def deletePlace : Nat :=
  refreshPlace (fingersRead faults (sourceReader ends readers) user.uid)
    (writePlace faults ends readers user) + 2

/-- Every call up to the deletion does its job, but for those whose failure is passed over,
and the target has a slot. -/
structure DeletionReturns : Prop where
  listed : UsersListed faults
  opened : TargetListed faults (targetPlace faults (sourceReader ends readers) user.uid)
  slot : (chooseSlot (targetReader ends readers).users (migratedName user request.userId)
    request.destUserId).isSome = true
  written : TargetWritten faults (fingersRead faults (sourceReader ends readers) user.uid)
    (writePlace faults ends readers user)
  deleted : faults (deletePlace faults ends readers user) = none

/-- The source after a move, and what the move says. -/
def MoveEnded (result : MigrationResult) (after : Address → Reader) : Prop :=
  ¬ DeletionReturns faults ends request readers user ∧ result.ok = false ∧
      after ends.srcConnection.address = sourceReader ends readers ∨
    DeletionReturns faults ends request readers user ∧
      after ends.srcConnection.address = (sourceReader ends readers).dropUser user.uid ∧
      (result.ok = true ↔ faults (deletePlace faults ends readers user + 1) = none)

end

section

variable [UnicodeTables] {faults : Faults String} {ends : Endpoints} {request : MigrationRequest}
  {readers : Address → Reader} {user : ZkUser}

theorem moveEnded_of_kept {after : Address → Reader}
    (stopped : ¬ DeletionReturns faults ends request readers user)
    (kept : after ends.srcConnection.address = sourceReader ends readers) (result : MigrationResult)
    (failed : result.ok = false) : MoveEnded faults ends request readers user result after :=
  .inl ⟨stopped, failed, kept⟩

theorem meets_finishMigration_at {slot : Slot}
    (move : lower request.mode = "move")
    (apart : ends.srcConnection.address ≠ ends.tgtConnection.address) (listed : UsersListed faults)
    (opened : TargetListed faults (targetPlace faults (sourceReader ends readers) user.uid))
    (chosen : chooseSlot (targetReader ends readers).users (migratedName user request.userId)
      request.destUserId = some slot) :
    Meets faults (At readers (writePlace faults ends readers user))
      (finishMigration ends request ends.srcConnection ends.tgtConnection user
        (migratedName user request.userId)
        (fingersRead faults (sourceReader ends readers) user.uid) slot)
      (fun result session => MoveEnded faults ends request readers user result
        session.world.readers)
      fun session => ∀ result, result.ok = false →
        MoveEnded faults ends request readers user result session.world.readers := by
  unfold finishMigration
  have written : Meets faults (At readers (writePlace faults ends readers user))
      (writeTarget ends.tgtConnection (profileAt slot (migratedName user request.userId) user)
        (fingersAt slot (fingersRead faults (sourceReader ends readers) user.uid)))
      (fun verified session =>
        (Placed (SourceKept ends.srcConnection.address (sourceReader ends readers))
            (deletePlace faults ends readers user) session ∧
          TargetWritten faults (fingersRead faults (sourceReader ends readers) user.uid)
            (writePlace faults ends readers user)) ∧ verified = true)
      fun session => ∀ result, result.ok = false →
        MoveEnded faults ends request readers user result session.world.readers := by
    apply (meets_writeTarget_at apart).weaken (fun _ here => here.placed rfl)
    · intro verified session holds
      rw [refreshPlace_fingersAt, targetWritten_fingersAt] at holds
      exact holds
    · rintro session ⟨unwritten, kept⟩
      rw [targetWritten_fingersAt] at unwritten
      exact moveEnded_of_kept (fun returns => unwritten returns.written) kept
  apply Meets.bind written
  intro verified
  apply meets_and_fact
  rintro rfl
  apply meets_and_fact
  intro done
  simp only [if_true]
  have deleted : Meets faults
      (Placed (SourceKept ends.srcConnection.address (sourceReader ends readers))
        (deletePlace faults ends readers user))
      (deleteFromSource ends.srcConnection request.mode request.userId user)
      (fun _ session => ∀ result, result.ok = true →
        MoveEnded faults ends request readers user result session.world.readers)
      fun session => ∀ result, result.ok = false →
        MoveEnded faults ends request readers user result session.world.readers := by
    apply (meets_deleteFromSource_at move).weaken (fun _ here => here)
    · rintro _ session ⟨first, second, gone⟩ result ok
      exact .inr ⟨⟨listed, opened, by rw [chosen]; rfl, done, first⟩, gone, iff_of_true ok second⟩
    · rintro session (⟨raised, kept⟩ | ⟨first, second, gone⟩) result failed
      · exact moveEnded_of_kept (fun returns => raised returns.deleted) kept result failed
      · refine .inr ⟨⟨listed, opened, by rw [chosen]; rfl, done, first⟩, gone, ?_⟩
        rw [failed]
        exact iff_of_false Bool.false_ne_true second
  apply Meets.bind deleted
  intro _
  exact meets_pure _ fun _ ended => ended _ rfl

theorem meets_migrateFound_at (move : lower request.mode = "move")
    (apart : ends.srcConnection.address ≠ ends.tgtConnection.address)
    (listed : UsersListed faults) :
    Meets faults (At readers 3)
      (migrateFound ends request ends.srcConnection user (migratedName user request.userId))
      (fun result session => MoveEnded faults ends request readers user result
        session.world.readers)
      fun session => ∀ result, result.ok = false →
        MoveEnded faults ends request readers user result session.world.readers := by
  unfold migrateFound
  apply Meets.bind meets_readFingers_at.unraised
  intro userFingers
  apply meets_and_fact
  rintro rfl
  have opening : Meets faults
      (At readers (targetPlace faults (sourceReader ends readers) user.uid))
      (openTarget ends.srcConnection ends.tgtConnection)
      (fun result session => (At readers (writePlace faults ends readers user) session ∧
          TargetListed faults (targetPlace faults (sourceReader ends readers) user.uid)) ∧
        result = (ends.tgtConnection, (targetReader ends readers).users))
      fun session => ∀ result, result.ok = false →
        MoveEnded faults ends request readers user result session.world.readers := by
    apply meets_openTarget.weaken (fun _ here => here) (fun _ _ holds => holds)
    rintro session ⟨unlisted, kept⟩
    apply moveEnded_of_kept fun returns => unlisted returns.opened
    rw [kept]
    rfl
  apply Meets.bind opening
  rintro ⟨tgtConn, tgtUsers⟩
  apply meets_and_fact
  rintro ⟨⟩
  apply meets_and_fact
  intro opened
  dsimp only
  cases chosen : chooseSlot (targetReader ends readers).users (migratedName user request.userId)
      request.destUserId with
  | none =>
      apply meets_raise
      intro session here
      apply moveEnded_of_kept
      · intro returns
        have some := returns.slot
        rw [chosen] at some
        cases some
      · rw [here.1]
        rfl
  | some slot => exact meets_finishMigration_at move apart listed opened chosen

theorem meets_move {registry : Registry} {sourcePort targetPort : Int}
    (places : endpoints registry request sourcePort targetPort = ends)
    (move : lower request.mode = "move")
    (apart : ends.srcConnection.address ≠ ends.tgtConnection.address)
    (found : (sourceReader ends readers).users.find? (ZkUser.hasId request.userId) = some user) :
    Meets faults (At readers 0)
      (migrateSingleUserReal true registry request sourcePort targetPort)
      (fun result session => MoveEnded faults ends request readers user result
        session.world.readers)
      fun _ => False := by
  unfold migrateSingleUserReal Network.migrateSingleUserReal
  rw [places]
  simp only [if_true]
  apply @meets_finally _ _ _ _ _ _ _ fun result net =>
    MoveEnded faults ends request readers user result net
  unfold tryMigration
  apply Meets.attempt
  · apply Meets.bind meets_findSourceUser_at
    rintro ⟨srcConn, held⟩
    apply meets_and_fact
    intro read
    obtain ⟨rfl, searched⟩ := Prod.mk.inj read
    apply meets_and_fact
    intro listed
    have owner : held = some user := searched.trans found
    subst owner
    dsimp only
    apply Meets.attempt (meets_migrateFound_at move apart listed)
    intro error
    exact meets_pure _ fun _ ended => ended _ rfl
  · intro error
    apply meets_pure
    rintro session ⟨unlisted, kept⟩
    apply moveEnded_of_kept (fun returns => unlisted returns.listed) _ _ rfl
    rw [kept]
    rfl

end

def Reader.Holds (reader : Reader) (userId : String) : Prop :=
  ∃ record ∈ reader.users, record.userId = userId

def Reader.OneUid (reader : Reader) (userId : String) (uid : Int) : Prop :=
  ∀ record ∈ reader.users, record.userId = userId → record.uid = uid

theorem holds_dropUser_iff {reader : Reader} {userId : String} {uid : Int} :
    (reader.dropUser uid).Holds userId ↔ ¬ reader.OneUid userId uid := by
  constructor
  · rintro ⟨record, kept, own⟩ one
    obtain ⟨listed, apart⟩ := List.mem_filter.mp kept
    have same := one record listed own
    simp [ZkUser.hasUid, same] at apart
  · intro several
    unfold Reader.OneUid at several
    simp only [not_forall] at several
    obtain ⟨record, listed, own, apart⟩ := several
    exact ⟨record, List.mem_filter.mpr ⟨listed, by simpa [ZkUser.hasUid] using apart⟩, own⟩

theorem oneUid_of_distinct {reader : Reader} {userId : String} {user : ZkUser}
    (distinct : (reader.users.map ZkUser.userId).Nodup)
    (found : reader.users.find? (ZkUser.hasId userId) = some user) :
    reader.OneUid userId user.uid := by
  intro record listed own
  have held : user.userId = userId := by simpa [ZkUser.hasId] using List.find?_some found
  have same : record.userId = user.userId := own.trans held.symm
  rw [List.inj_on_of_nodup_map distinct listed (List.mem_of_find?_eq_some found) same]

/-- A move tells the truth about the source exactly if, once the deletion returned, the refresh
after it returns where the PIN was one user's and raises where it was not; with distinct PINs, if
that refresh returns. -/
theorem move_truthful_iff [UnicodeTables] (hasPyzk : Bool) (registry : Registry)
    (request : MigrationRequest) (sourcePort targetPort : Int) (faults : Faults String)
    (readers : Address → Reader) (user : ZkUser) :
    let ends := endpoints registry request sourcePort targetPort
    lower request.mode = "move" → ends.srcConnection.address ≠ ends.tgtConnection.address →
    (sourceReader ends readers).users.find? (ZkUser.hasId request.userId) = some user →
    ((∃ result after, migrateSingleUserReal hasPyzk registry request sourcePort targetPort faults
            (ZkSession.fresh readers) = (.ok result, after) ∧
          (result.ok = false → (sourceReader ends after.world.readers).Holds request.userId) ∧
          (result.ok = true → ¬ (sourceReader ends after.world.readers).Holds request.userId)) ↔
        (hasPyzk = true → DeletionReturns faults ends request readers user →
          (faults (deletePlace faults ends readers user + 1) = none ↔
            (sourceReader ends readers).OneUid request.userId user.uid))) ∧
      (((sourceReader ends readers).users.map ZkUser.userId).Nodup →
        (sourceReader ends readers).OneUid request.userId user.uid) := by
  intro ends move apart found
  have there : (sourceReader ends readers).Holds request.userId :=
    ⟨user, List.mem_of_find?_eq_some found, by simpa [ZkUser.hasId] using List.find?_some found⟩
  refine ⟨?_, fun distinct => oneUid_of_distinct distinct found⟩
  cases hasPyzk with
  | false =>
      refine iff_of_true ⟨_, _, rfl, fun _ => there, fun ok => ?_⟩ fun absent => ?_
      · cases ok
      · cases absent
  | true =>
      have meets : Meets faults (At readers 0)
          (migrateSingleUserReal true registry request sourcePort targetPort)
          (fun result session => MoveEnded faults ends request readers user result
            session.world.readers) fun _ => False := meets_move rfl move apart found
      have start : At readers 0 (ZkSession.fresh readers) := at_fresh readers
      obtain ⟨result, after, ran, ended⟩ := meets.returns start
      rw [ran_iff ran fun result after =>
        (result.ok = false → (sourceReader ends after.world.readers).Holds request.userId) ∧
          (result.ok = true → ¬ (sourceReader ends after.world.readers).Holds request.userId),
        imp_iff_right rfl]
      rcases ended with ⟨stopped, failed, kept⟩ | ⟨returns, gone, told⟩
      · refine iff_of_true ⟨fun _ => ?_, fun ok => ?_⟩ fun returns => absurd returns stopped
        · rw [sourceReader, kept]
          exact there
        · rw [failed] at ok
          cases ok
      · rw [imp_iff_right returns, ← told, sourceReader, gone, holds_dropUser_iff]
        cases result.ok <;> simp

def oneToMove : Address → Reader := fun address =>
  if address = ⟨"192.168.0.210", 4370⟩ then
    ⟨[⟨1, "Asha", 0, "", "1", "101", 0⟩], [⟨1, 0, 1, [7]⟩], 10⟩
  else ⟨[], [], 10⟩

/-- The refresh of the source is the fifteenth call. -/
def failsAtRefresh : Faults String := fun place => if place = 14 then some "timed out" else none

theorem move_truthful_without_faults :
    let := UnicodeTables.ascii
    ∃ result after, migrateSingleUserReal true defaultRegistry
          (moveRequest "NFZ8254900401" "NFZ8242802542" "101" "101") 4370 4370 (fun _ => none)
          (ZkSession.fresh oneToMove) = (.ok result, after) ∧
      (result.ok = false → (sourceReader (endpoints defaultRegistry (moveRequest "NFZ8254900401"
        "NFZ8242802542" "101" "101") 4370 4370) after.world.readers).Holds "101") ∧
      (result.ok = true → ¬ (sourceReader (endpoints defaultRegistry (moveRequest "NFZ8254900401"
        "NFZ8242802542" "101" "101") 4370 4370) after.world.readers).Holds "101") := by
  intro _
  have truthful := move_truthful_iff true defaultRegistry
    (moveRequest "NFZ8254900401" "NFZ8242802542" "101" "101") 4370 4370 (fun _ => none) oneToMove
    ⟨1, "Asha", 0, "", "1", "101", 0⟩ (by decide +kernel) (by decide +kernel) (by decide +kernel)
  exact truthful.1.mpr fun _ _ => iff_of_true rfl (truthful.2 (by decide +kernel))

/-- The refresh after the deletion raises: the move says that it failed, and the user is gone. -/
theorem move_untruthful_at_refresh :
    let := UnicodeTables.ascii
    ∃ result after, migrateSingleUserReal true defaultRegistry
          (moveRequest "NFZ8254900401" "NFZ8242802542" "101" "101") 4370 4370 failsAtRefresh
          (ZkSession.fresh oneToMove) = (.ok result, after) ∧
      (oneToMove ⟨"192.168.0.210", 4370⟩).Holds "101" ∧ result.ok = false ∧
      ¬ (after.world.readers ⟨"192.168.0.210", 4370⟩).Holds "101" := by
  intro _
  have answer : (migrateSingleUserReal true defaultRegistry
      (moveRequest "NFZ8254900401" "NFZ8242802542" "101" "101") 4370 4370 failsAtRefresh
      (ZkSession.fresh oneToMove)).1 = .ok ⟨false, "move", "101", "Asha", "192.168.0.210",
        "192.168.0.154", "101", 0, some "timed out"⟩ := by
    decide +kernel
  have left : ((migrateSingleUserReal true defaultRegistry
      (moveRequest "NFZ8254900401" "NFZ8242802542" "101" "101") 4370 4370 failsAtRefresh
      (ZkSession.fresh oneToMove)).2.world.readers ⟨"192.168.0.210", 4370⟩).users = [] := by
    decide +kernel
  generalize migrateSingleUserReal true defaultRegistry
    (moveRequest "NFZ8254900401" "NFZ8242802542" "101" "101") 4370 4370 failsAtRefresh
    (ZkSession.fresh oneToMove) = ran at answer left
  obtain ⟨result, after⟩ := ran
  refine ⟨_, after, Prod.ext answer rfl, ⟨⟨1, "Asha", 0, "", "1", "101", 0⟩, by decide, rfl⟩, rfl, ?_⟩
  rintro ⟨record, listed, -⟩
  rw [left] at listed
  cases listed

end PumoBioMetric.Core
