import PumoBioMetric.Core.BatchCounts

/-!
# When a wipe of fingerprints is done

Both functions call the reader once or twice for each of ten fingers, pass over what fails
and report the wipe.  The readers here refuse a deletion whenever they like.
-/

set_option autoImplicit false

namespace PumoBioMetric.Core

open Py FaultyCalls Router

/-! ## Readers that refuse -/

def Call.deletesTemplate : Call → Bool
  | .deleteUserTemplate _ _ _ => true
  | .deleteTemplateCommand _ _ => true
  | _ => false

/-- Readers, whether the deletion that reaches them next is refused, and how many have. -/
structure BalkyReaders where
  readers : Address → Reader
  balks : Nat → Bool
  reached : Nat

/-- A deletion that is refused changes nothing and finds nothing to do. -/
instance : Network BalkyReaders where
  ask net address call :=
    (if call.deletesTemplate && net.balks net.reached then
        { net.readers address with templates := [] }
      else net.readers address, net)
  text _ _ _ := ""
  tell net address call change :=
    { net with
      readers :=
        if call.deletesTemplate && net.balks net.reached then net.readers
        else Function.update net.readers address (change (net.readers address))
      reached := if call.deletesTemplate then net.reached + 1 else net.reached }

instance : SilentReads BalkyReaders := ⟨fun _ _ _ => rfl⟩

/-- How many calls were issued, and how many deletions of a template reached a reader. -/
structure Turn where
  place : Nat
  reached : Nat
deriving DecidableEq, Repr

namespace Turn

section

variable (faults : Faults String) (balks : Nat → Bool) (turn : Turn)

/-- The deletion issued now neither raises nor is refused. -/
def Works : Prop := faults turn.place = none ∧ balks turn.reached = false

instance : Decidable (turn.Works faults balks) := inferInstanceAs (Decidable (_ ∧ _))

def next : Turn := ⟨turn.place + 1, if faults turn.place = none then turn.reached + 1 else turn.reached⟩

end

end Turn

def BalkyReaders.start (readers : Address → Reader) (balks : Nat → Bool) :
    ReaderSession BalkyReaders :=
  ReaderSession.fresh ⟨readers, balks, 0⟩

theorem BalkyReaders.at_start (readers : Address → Reader) (balks : Nat → Bool) :
    At ⟨readers, balks, 0⟩ 0 (BalkyReaders.start readers balks) :=
  at_fresh _

def AtTurn (readers : Address → Reader) (balks : Nat → Bool) (turn : Turn) :
    ReaderSession BalkyReaders → Prop :=
  At ⟨readers, balks, turn.reached⟩ turn.place

section

variable {faults : Faults String} {balks : Nat → Bool} {readers : Address → Reader} {turn : Turn}
  {conn : Connection}

theorem meets_templateDeletion {call : Call} (deletes : call.deletesTemplate = true)
    {applies : Reader → Bool} {change : Reader → Reader}
    (needs : ∀ reader : Reader, applies { reader with templates := [] } = false) :
    Meets faults (AtTurn readers balks turn) (orElse (conn.attemptTell call applies change) false)
      (fun success session =>
        turn.Works faults balks ∧ success = applies (readers conn.address) ∧
            AtTurn (Function.update readers conn.address (change (readers conn.address))) balks
              (turn.next faults) session ∨
          ¬ turn.Works faults balks ∧ success = false ∧
            AtTurn readers balks (turn.next faults) session)
      fun _ => False := by
  unfold orElse
  apply Meets.attempt
  · apply meets_attemptTell_at.weaken (fun _ start => start) _ fun _ holds => holds
    rintro success session ⟨here, fault, rfl⟩
    have later : turn.next faults = ⟨turn.place + 1, turn.reached + 1⟩ := by
      rw [Turn.next, if_pos fault]
    cases balked : balks turn.reached with
    | false =>
        refine .inl ⟨⟨fault, balked⟩, ?_, ?_⟩
        · simp [Network.ask, balked]
        · rw [later]
          simpa [AtTurn, Network.tell, deletes, balked] using here
    | true =>
        refine .inr ⟨fun works => ?_, ?_, ?_⟩
        · rw [works.2] at balked
          cases balked
        · simp [Network.ask, deletes, balked, needs]
        · rw [later]
          simpa [AtTurn, Network.tell, deletes, balked] using here
  · intro error
    apply meets_pure
    rintro session ⟨here, fault⟩
    have later : turn.next faults = ⟨turn.place + 1, turn.reached⟩ := by
      rw [Turn.next, if_neg fault]
    refine .inr ⟨fun works => fault works.1, rfl, ?_⟩
    rw [later]
    exact here

end

/-! ## What one reader shows -/

namespace Reader

def shows (reader : Reader) (uid : Int) (fid : Nat) : Bool :=
  reader.templates.any (ZkFinger.isAt uid fid)

/-- The raw command: the template of the first user with the PIN. -/
def dropAddressed (reader : Reader) (pin : String) (fid : Nat) : Reader :=
  match reader.users.find? (ZkUser.hasId pin) with
  | some user => reader.dropTemplate user.uid fid
  | none => reader

/-- The uid that the raw command reaches. -/
def addressed (reader : Reader) (pin : String) : Option Int :=
  (reader.users.find? (ZkUser.hasId pin)).map ZkUser.uid

theorem shows_dropTemplate (reader : Reader) (uid other : Int) (fid finger : Nat) :
    (reader.dropTemplate uid fid).shows other finger =
      (reader.shows other finger && !(other == uid && finger == fid)) := by
  unfold shows dropTemplate
  rw [List.any_filter]
  induction reader.templates with
  | nil => rfl
  | cons template rest ih =>
      rw [List.any_cons, List.any_cons, ih, Bool.and_or_distrib_right]
      congr 1
      by_cases own : template.isAt other finger = true
      · have place : template.uid = other ∧ template.fid = finger := by
          simpa [ZkFinger.isAt] using own
        simp [ZkFinger.isAt, place.1, place.2]
      · simp [Bool.eq_false_iff.mpr own]

@[simp] theorem users_dropTemplate (reader : Reader) (uid : Int) (fid : Nat) :
    (reader.dropTemplate uid fid).users = reader.users := rfl

@[simp] theorem users_dropAddressed (reader : Reader) (pin : String) (fid : Nat) :
    (reader.dropAddressed pin fid).users = reader.users := by
  unfold dropAddressed
  split <;> rfl

theorem shows_dropAddressed (reader : Reader) (pin : String) (other : Int) (fid finger : Nat) :
    (reader.dropAddressed pin fid).shows other finger =
      (reader.shows other finger && !(reader.addressed pin == some other && finger == fid)) := by
  unfold dropAddressed addressed
  cases reader.users.find? (ZkUser.hasId pin) with
  | none => simp
  | some user =>
      rw [shows_dropTemplate, BEq.comm (a := other)]
      simp

end Reader

/-! ## One deletion by uid -/

section

variable {faults : Faults String} {balks : Nat → Bool}

def afterFirst (faults : Faults String) (balks : Nat → Bool) (uid : Int) (reader : Reader)
    (turn : Turn) (fid : Nat) : Reader :=
  if turn.Works faults balks then reader.dropTemplate uid fid else reader

theorem users_afterFirst (uid : Int) (reader : Reader) (turn : Turn) (fid : Nat) :
    (afterFirst faults balks uid reader turn fid).users = reader.users := by
  unfold afterFirst
  split <;> rfl

theorem shows_afterFirst (uid : Int) (reader : Reader) (turn : Turn) (fid : Nat) (other : Int)
    (finger : Nat) :
    (afterFirst faults balks uid reader turn fid).shows other finger = true ↔
      reader.shows other finger = true ∧
        ¬ (finger = fid ∧ turn.Works faults balks ∧ other = uid) := by
  unfold afterFirst
  by_cases works : turn.Works faults balks
  · rw [if_pos works, Reader.shows_dropTemplate]
    simp [works, imp_iff_not_or, or_comm]
  · simp [works]

variable {readers : Address → Reader} {conn : Connection} {turn : Turn} {uid : Int} {fid : Nat}
  {text : String}

theorem meets_deletionByUid :
    Meets faults (AtTurn readers balks turn) (orElse (conn.deleteUserTemplate uid fid text) false)
      (fun success session =>
        AtTurn (Function.update readers conn.address
            (afterFirst faults balks uid (readers conn.address) turn fid)) balks
          (turn.next faults) session ∧
        success = (decide (turn.Works faults balks) && (readers conn.address).shows uid fid))
      fun _ => False := by
  apply (meets_templateDeletion rfl fun _ => rfl).weaken (fun _ start => start) _ fun _ no => no
  rintro success session (⟨works, rfl, here⟩ | ⟨idle, rfl, here⟩)
  · rw [afterFirst, if_pos works]
    exact ⟨here, by simp [works, Reader.shows]⟩
  · rw [afterFirst, if_neg idle, Function.update_eq_self]
    exact ⟨here, by simp [idle]⟩

end

/-! ## The fingers of one user, each with a second try -/

section

variable (faults : Faults String) (balks : Nat → Bool) (user : ZkUser) (pin : String)

/-- The deletion by uid finds a template and works; there is no second call then. -/
def FirstTry (reader : Reader) (turn : Turn) (fid : Nat) : Prop :=
  turn.Works faults balks ∧ reader.shows user.uid fid = true

instance (reader : Reader) (turn : Turn) (fid : Nat) :
    Decidable (FirstTry faults balks user reader turn fid) :=
  inferInstanceAs (Decidable (_ ∧ _))

def turnAfter (reader : Reader) (turn : Turn) (fid : Nat) : Turn :=
  if FirstTry faults balks user reader turn fid then turn.next faults
  else (turn.next faults).next faults

def FingerRemoved (reader : Reader) (turn : Turn) (fid : Nat) (uid : Int) : Prop :=
  turn.Works faults balks ∧ uid = user.uid ∨
    ¬ FirstTry faults balks user reader turn fid ∧ (turn.next faults).Works faults balks ∧
      reader.addressed pin = some uid

/-- Each template of this uid is removed when the turn comes to its finger. -/
def FingersRemoved (reader : Reader) (uid : Int) : Turn → List Nat → Prop
  | _, [] => True
  | turn, fid :: rest =>
      (reader.shows uid fid = true → FingerRemoved faults balks user pin reader turn fid uid) ∧
        FingersRemoved reader uid (turnAfter faults balks user reader turn fid) rest

def turnAfterAll (reader : Reader) (turn : Turn) (fids : List Nat) : Turn :=
  fids.foldl (turnAfter faults balks user reader) turn

def afterFinger (reader : Reader) (turn : Turn) (fid : Nat) : Reader :=
  if FirstTry faults balks user reader turn fid then afterFirst faults balks user.uid reader turn fid
  else if (turn.next faults).Works faults balks then
    (afterFirst faults balks user.uid reader turn fid).dropAddressed pin fid
  else afterFirst faults balks user.uid reader turn fid

end

section

variable {faults : Faults String} {balks : Nat → Bool} {user : ZkUser} {pin : String}

theorem users_afterFinger (reader : Reader) (turn : Turn) (fid : Nat) :
    (afterFinger faults balks user pin reader turn fid).users = reader.users := by
  unfold afterFinger
  split
  · exact users_afterFirst user.uid reader turn fid
  · split
    · rw [Reader.users_dropAddressed, users_afterFirst]
    · exact users_afterFirst user.uid reader turn fid

/-- A template stays unless a call for its finger removes it. -/
theorem shows_afterFinger (reader : Reader) (turn : Turn) (fid : Nat) (uid : Int) (finger : Nat) :
    (afterFinger faults balks user pin reader turn fid).shows uid finger = true ↔
      reader.shows uid finger = true ∧
        ¬ (finger = fid ∧ FingerRemoved faults balks user pin reader turn fid uid) := by
  have first := @shows_afterFirst faults balks user.uid reader turn fid uid finger
  unfold afterFinger FingerRemoved
  by_cases tried : FirstTry faults balks user reader turn fid
  · simp [tried, first]
  · by_cases second : (turn.next faults).Works faults balks
    · have reached : (afterFirst faults balks user.uid reader turn fid).addressed pin =
          reader.addressed pin := by
        unfold Reader.addressed
        rw [users_afterFirst]
      rw [if_neg tried, if_pos second, Reader.shows_dropAddressed, reached, Bool.and_eq_true, first]
      simp [tried, second]
      tauto
    · simp [tried, second, first]

theorem firstTry_congr {reader other : Reader} {fid : Nat}
    (shown : other.shows user.uid fid = reader.shows user.uid fid) (turn : Turn) :
    FirstTry faults balks user other turn fid ↔ FirstTry faults balks user reader turn fid := by
  rw [FirstTry, FirstTry, shown]

theorem turnAfter_congr {reader other : Reader} {fid : Nat}
    (shown : other.shows user.uid fid = reader.shows user.uid fid) (turn : Turn) :
    turnAfter faults balks user other turn fid = turnAfter faults balks user reader turn fid :=
  if_congr (firstTry_congr shown turn) rfl rfl

theorem fingersRemoved_congr {reader other : Reader} (users : other.users = reader.users)
    {fids : List Nat} (shown : ∀ fid ∈ fids, ∀ uid, other.shows uid fid = reader.shows uid fid)
    (uid : Int) (turn : Turn) :
    FingersRemoved faults balks user pin other uid turn fids ↔
      FingersRemoved faults balks user pin reader uid turn fids := by
  induction fids generalizing turn with
  | nil => exact Iff.rfl
  | cons fid rest ih =>
      have here := shown fid (List.mem_cons_self ..)
      have later := ih fun finger listed => shown finger (List.mem_cons_of_mem _ listed)
      rw [FingersRemoved, FingersRemoved, here, turnAfter_congr (here _), later, FingerRemoved, FingerRemoved,
        firstTry_congr (here _), Reader.addressed, Reader.addressed, users]

theorem turnAfterAll_congr {reader other : Reader} {fids : List Nat}
    (shown : ∀ fid ∈ fids, ∀ uid, other.shows uid fid = reader.shows uid fid) (turn : Turn) :
    turnAfterAll faults balks user other turn fids =
      turnAfterAll faults balks user reader turn fids := by
  induction fids generalizing turn with
  | nil => rfl
  | cons fid rest ih =>
      have here := shown fid (List.mem_cons_self ..)
      have later := ih fun finger listed => shown finger (List.mem_cons_of_mem _ listed)
      unfold turnAfterAll at later ⊢
      rw [List.foldl_cons, List.foldl_cons, turnAfter_congr (here _), later]

theorem shows_afterFinger_other (reader : Reader) (turn : Turn) {fid finger : Nat}
    (apart : finger ≠ fid) (uid : Int) :
    (afterFinger faults balks user pin reader turn fid).shows uid finger =
      reader.shows uid finger := by
  rw [Bool.eq_iff_iff, shows_afterFinger]
  simp [apart]

theorem shows_afterFinger_same (reader : Reader) (turn : Turn) (fid : Nat) (uid : Int) :
    (afterFinger faults balks user pin reader turn fid).shows uid fid = false ↔
      (reader.shows uid fid = true → FingerRemoved faults balks user pin reader turn fid uid) := by
  rw [← Bool.not_eq_true, shows_afterFinger]
  simp

structure WipedBy (faults : Faults String) (balks : Nat → Bool) (user : ZkUser) (pin : String)
    (turn : Turn) (fids : List Nat) (before after : Reader) : Prop where
  users : after.users = before.users
  others : ∀ fid ∉ fids, ∀ uid, after.shows uid fid = before.shows uid fid
  gone : ∀ uid, (∀ fid ∈ fids, after.shows uid fid = false) ↔
    FingersRemoved faults balks user pin before uid turn fids

theorem WipedBy.cons {turn : Turn} {fid : Nat} {rest : List Nat} {before after : Reader}
    (fresh : fid ∉ rest)
    (wiped : WipedBy faults balks user pin (turnAfter faults balks user before turn fid) rest
      (afterFinger faults balks user pin before turn fid) after) :
    WipedBy faults balks user pin turn (fid :: rest) before after := by
  have apart : ∀ finger ∈ rest, ∀ uid,
      (afterFinger faults balks user pin before turn fid).shows uid finger =
        before.shows uid finger := by
    intro finger listed uid
    apply shows_afterFinger_other before turn
    rintro rfl
    exact fresh listed
  refine ⟨wiped.users.trans (users_afterFinger before turn fid), ?_, ?_⟩
  · intro finger unlisted uid
    rw [List.mem_cons, not_or] at unlisted
    rw [wiped.others finger unlisted.2, shows_afterFinger_other before turn unlisted.1]
  · intro uid
    rw [List.forall_mem_cons, wiped.gone uid, wiped.others fid fresh, shows_afterFinger_same,
      fingersRemoved_congr (users_afterFinger before turn fid) apart, FingersRemoved]

variable {readers : Address → Reader} {conn : Connection} {turn : Turn} {userId : String}

theorem meets_firstTry (fid : Nat) :
    Meets faults (AtTurn readers balks turn)
      (orElse (conn.deleteUserTemplate user.uid fid "") false)
      (fun success session =>
        AtTurn (Function.update readers conn.address
            (afterFirst faults balks user.uid (readers conn.address) turn fid)) balks
          (turn.next faults) session ∧
        (success = true ↔ FirstTry faults balks user (readers conn.address) turn fid))
      fun _ => False := by
  apply meets_deletionByUid.weaken (fun _ start => start) _ fun _ no => no
  rintro success session ⟨here, rfl⟩
  exact ⟨here, by simp [FirstTry]⟩

theorem meets_secondTry (fid : Nat) :
    Meets faults (AtTurn readers balks turn) (orElse (conn.deleteTemplateCommand pin fid) false)
      (fun _ => AtTurn (Function.update readers conn.address
        (if turn.Works faults balks then (readers conn.address).dropAddressed pin fid
          else readers conn.address)) balks (turn.next faults))
      fun _ => False := by
  have needs : ∀ reader : Reader, ((reader.users.find? (ZkUser.hasId pin)).any fun user =>
      ([] : List ZkFinger).any (ZkFinger.isAt user.uid fid)) = false := by
    intro reader
    cases reader.users.find? (ZkUser.hasId pin) <;> rfl
  apply (meets_templateDeletion rfl needs).weaken (fun _ start => start) _ fun _ no => no
  rintro success session (⟨works, -, here⟩ | ⟨idle, -, here⟩)
  · rw [if_pos works]
    exact here
  · rw [if_neg idle, Function.update_eq_self]
    exact here

theorem meets_deleteFinger (fid : Nat) :
    Meets faults (AtTurn readers balks turn) (deleteFinger conn user userId fid)
      (fun _ => AtTurn
        (Function.update readers conn.address
          (afterFinger faults balks user (packedId userId) (readers conn.address) turn fid))
        balks (turnAfter faults balks user (readers conn.address) turn fid))
      fun _ => False := by
  unfold deleteFinger
  apply Meets.bind (meets_firstTry fid)
  intro success
  apply meets_and_fact
  intro tried
  cases success with
  | true =>
      have first := tried.mp rfl
      rw [if_pos rfl, afterFinger, turnAfter, if_pos first, if_pos first]
      exact meets_pure _ fun _ here => here
  | false =>
      have again : ¬ FirstTry faults balks user (readers conn.address) turn fid := by
        simpa using tried
      rw [if_neg Bool.false_ne_true, afterFinger, turnAfter, if_neg again, if_neg again]
      apply (meets_secondTry fid).weaken (fun _ here => here) _ fun _ no => no
      intro _ session here
      rw [Function.update_self, Function.update_idem] at here
      exact here

theorem meets_deleteFingers {fids : List Nat} (distinct : fids.Nodup) :
    Meets faults (AtTurn readers balks turn) (deleteFingers conn user userId fids)
      (fun _ session => ∃ after,
        AtTurn (Function.update readers conn.address after) balks
            (turnAfterAll faults balks user (readers conn.address) turn fids) session ∧
          WipedBy faults balks user (packedId userId) turn fids (readers conn.address) after)
      fun _ => False := by
  induction fids generalizing readers turn with
  | nil =>
      unfold deleteFingers
      apply meets_pure
      intro session here
      refine ⟨readers conn.address, ?_, ⟨rfl, fun _ _ _ => rfl, fun uid => ?_⟩⟩
      · rw [Function.update_eq_self]
        exact here
      · simp [FingersRemoved]
  | cons fid rest ih =>
      obtain ⟨fresh, distinctRest⟩ := List.nodup_cons.mp distinct
      unfold deleteFingers
      apply Meets.bind (meets_deleteFinger fid)
      intro success
      apply Meets.bind (ih distinctRest)
      intro others
      apply meets_pure
      rintro session ⟨after, here, wiped⟩
      rw [Function.update_self] at wiped
      refine ⟨after, ?_, wiped.cons fresh⟩
      rw [Function.update_self, Function.update_idem] at here
      have shown : ∀ finger ∈ rest, ∀ uid,
          (afterFinger faults balks user (packedId userId) (readers conn.address) turn fid).shows
            uid finger = (readers conn.address).shows uid finger := by
        intro finger listed uid
        apply shows_afterFinger_other _ turn
        rintro rfl
        exact fresh listed
      rw [turnAfterAll_congr shown] at here
      exact here

end

/-! ## `delete_device_user_real` -/

/-- `deleted` of the answer, without `queued`. -/
def DeletionReply.deletedNow : DeletionReply → Bool
  | .templatesDeleted _ _ _ => true
  | .deleted _ _ => true
  | .missing _ => false
  | .notFound _ _ => false
  | .queued _ _ _ _ => false

def NoTemplates (users : List ZkUser) (reader : Reader) (userId : String) : Prop :=
  ∀ record ∈ users, record.userId = userId → ∀ fid < 10, reader.shows record.uid fid = false

def Turn.afterListing : Turn := ⟨3, 0⟩

section

variable (faults : Faults String) (balks : Nat → Bool) (reader : Reader) (userId : String)

def WipeFinished (user : ZkUser) : Prop :=
  faults (turnAfterAll faults balks user reader .afterListing (List.range 10)).place = none ∧
    faults ((turnAfterAll faults balks user reader .afterListing (List.range 10)).place + 1) = none

/-- The wipe is reported: the user is found, and only calls for a template fail. -/
def WipeReported : Prop :=
  UsersListed faults ∧ ∃ user, reader.users.find? (ZkUser.hasId userId) = some user ∧
    WipeFinished faults balks reader user

/-- Every template of the users with the PIN is removed in its turn. -/
def WipeWorks (user : ZkUser) : Prop :=
  ∀ record ∈ reader.users, record.userId = userId →
    FingersRemoved faults balks user (packedId userId) reader record.uid .afterListing
      (List.range 10)

end

section

variable {faults : Faults String} {balks : Nat → Bool} {readers : Address → Reader}
  {user : ZkUser} {userId sn ip : String} {port : Int}

theorem WipedBy.noTemplates_iff {before after : Reader}
    (wiped : WipedBy faults balks user (packedId userId) .afterListing (List.range 10) before after) :
    NoTemplates before.users after userId ↔ WipeWorks faults balks before userId user := by
  constructor
  · intro none record listed own
    apply (wiped.gone record.uid).mp
    intro fid member
    exact none record listed own fid (List.mem_range.mp member)
  · intro works record listed own fid small
    exact (wiped.gone record.uid).mpr (works record listed own) fid (List.mem_range.mpr small)

theorem meets_refreshAndEnable {conn : Connection} {Result : Type} {net : BalkyReaders}
    {place : Nat} (reply : Result) :
    Meets faults (At net place)
      (do
        conn.refreshData
        conn.enableDevice
        pure reply)
      (fun result session => (faults place = none ∧ faults (place + 1) = none) ∧ result = reply ∧
        session.world.readers = net)
      fun _ => ¬ (faults place = none ∧ faults (place + 1) = none) := by
  have refreshed : Meets faults (At net place) conn.refreshData
      (fun _ session => At net (place + 1) session ∧ faults place = none)
      fun _ => ¬ (faults place = none ∧ faults (place + 1) = none) :=
    meets_ask_at.weaken (fun _ start => start) (fun _ _ holds => ⟨holds.1, holds.2.1⟩)
      fun _ holds finished => holds.2 finished.1
  apply Meets.bind refreshed
  intro _
  apply meets_and_fact
  intro first
  have enabled : Meets faults (At net (place + 1)) conn.enableDevice
      (fun _ session => Left net session ∧ faults (place + 1) = none)
      fun _ => ¬ (faults place = none ∧ faults (place + 1) = none) :=
    meets_ask_at.weaken (fun _ start => start) (fun _ _ holds => ⟨holds.1.left, holds.2.1⟩)
      fun _ holds finished => holds.2 finished.2
  apply Meets.bind enabled
  intro _
  exact meets_pure _ fun _ holds => ⟨⟨first, holds.2⟩, rfl, holds.1⟩

theorem meets_wipeTemplates :
    Meets faults (AtTurn readers balks .afterListing)
      (wipeTemplates (readerAt ip port) user sn userId : ReaderProgram BalkyReaders DeletionReply)
      (fun reply session => WipeFinished faults balks (readers ⟨ip, port⟩) user ∧
        reply.deletedNow = true ∧ WipedBy faults balks user (packedId userId) .afterListing
          (List.range 10) (readers ⟨ip, port⟩) (session.world.readers.readers ⟨ip, port⟩))
      fun _ => ¬ WipeFinished faults balks (readers ⟨ip, port⟩) user := by
  unfold wipeTemplates
  apply Meets.bind (meets_deleteFingers List.nodup_range).unraised
  intro count
  apply meets_exists
  intro after
  apply meets_and_fact
  intro wiped
  apply (meets_refreshAndEnable _).weaken (fun _ here => here) _ fun _ stopped => stopped
  rintro reply session ⟨finished, rfl, left⟩
  refine ⟨finished, rfl, ?_⟩
  rw [left]
  simp only [readerAt, Function.update_self]
  exact wiped

/-- What is known of an answer: whether it reports a wipe, and what that wipe left. -/
structure WipeAnswer (faults : Faults String) (balks : Nat → Bool) (before : Reader)
    (userId : String) (reply : DeletionReply) (after : Reader) : Prop where
  reported : reply.deletedNow = true ↔ WipeReported faults balks before userId
  wiped : reply.deletedNow = true → ∀ user, before.users.find? (ZkUser.hasId userId) = some user →
    WipedBy faults balks user (packedId userId) .afterListing (List.range 10) before after

theorem meets_deleteOnReader :
    Meets faults (At ⟨readers, balks, 0⟩ 0)
      (deleteOnReader sn ip port userId true : ReaderProgram BalkyReaders DeletionReply)
      (fun reply session => WipeAnswer faults balks (readers ⟨ip, port⟩) userId reply
        (session.world.readers.readers ⟨ip, port⟩))
      fun _ => ¬ WipeReported faults balks (readers ⟨ip, port⟩) userId := by
  unfold deleteOnReader
  apply meets_listed (fun _ unreached _ => fun reported => unreached reported.1)
  intro listed
  have shown : (Network.ask (⟨readers, balks, 0⟩ : BalkyReaders) (readerAt ip port).address
      .getUsers).1.users = (readers ⟨ip, port⟩).users := rfl
  rw [shown]
  cases found : (readers ⟨ip, port⟩).users.find? (ZkUser.hasId userId) with
  | none =>
      have unreported : ¬ WipeReported faults balks (readers ⟨ip, port⟩) userId := by
        rintro ⟨-, user, held, -⟩
        rw [found] at held
        cases held
      have enabled : Meets faults (At ⟨readers, balks, 0⟩ 3)
          ((readerAt ip port).enableDevice : ReaderProgram BalkyReaders Unit)
          (fun _ _ => True) fun _ => ¬ WipeReported faults balks (readers ⟨ip, port⟩) userId :=
        meets_true.weaken (fun _ here => here) (fun _ _ holds => holds) fun _ _ => unreported
      apply Meets.bind enabled
      intro _
      apply meets_pure
      intro session _
      exact ⟨iff_of_false Bool.false_ne_true unreported, fun deleted => nomatch deleted⟩
  | some user =>
      simp only [if_true]
      apply meets_wipeTemplates.weaken (fun _ here => here)
      · rintro reply session ⟨finished, deleted, wiped⟩
        refine ⟨iff_of_true deleted ⟨listed, user, found, finished⟩, fun _ other held => ?_⟩
        cases found.symm.trans held
        exact wiped
      · rintro session stopped ⟨-, other, held, finished⟩
        cases found.symm.trans held
        exact stopped finished

section

variable [UnicodeTables] {registry : Registry} {queue : CommandQueue} {deviceId : String}
  {ipOverride : Option String} {hasPyzk : Bool}

/-- A reported wipe of one user left no template exactly if each was removed in its turn. -/
theorem deleteDeviceUserReal_wipes_iff :
    let before := readers (calledAddress registry deviceId port ipOverride)
    (∃ reply after, deleteDeviceUserReal hasPyzk registry queue deviceId userId port true
          ipOverride faults (BalkyReaders.start readers balks) = (.ok reply, after) ∧
        (reply.1.deletedNow = true → NoTemplates before.users
          (after.world.readers.readers (calledAddress registry deviceId port ipOverride)) userId)) ↔
      (hasPyzk = true → WipeReported faults balks before userId →
        ∀ user, before.users.find? (ZkUser.hasId userId) = some user →
          WipeWorks faults balks before userId user) := by
  intro before
  cases hasPyzk with
  | false =>
      refine iff_of_true ⟨(.missing notInstalled, queue), _, rfl, ?_⟩ ?_
      · rintro ⟨⟩
      · intro absent
        cases absent
  | true =>
      have meets : Meets faults (At ⟨readers, balks, 0⟩ 0)
          (deleteDeviceUserReal true registry queue deviceId userId port true ipOverride :
            ReaderProgram BalkyReaders (DeletionReply × CommandQueue))
          (fun reply session => WipeAnswer faults balks before userId reply.1
            (session.world.readers.readers (calledAddress registry deviceId port ipOverride)))
          fun _ => False := by
        unfold deleteDeviceUserReal
        simp only [if_true]
        apply @meets_finally _ _ _ _ _ _ _ fun (reply : DeletionReply × CommandQueue)
          (net : BalkyReaders) => WipeAnswer faults balks before userId reply.1
            (net.readers (calledAddress registry deviceId port ipOverride))
        apply Meets.attempt
        · apply Meets.bind meets_deleteOnReader
          intro reply
          exact meets_pure _ fun _ answer => answer
        · intro _
          apply meets_pure
          intro session unreported
          have queued : (queueDeletion queue (resolveDevice registry deviceId port).sn userId
              true).1.deletedNow = false := rfl
          refine ⟨?_, fun deleted => ?_⟩
          · rw [queued]
            exact iff_of_false Bool.false_ne_true unreported
          · rw [queued] at deleted
            cases deleted
      obtain ⟨reply, after, ran, answer⟩ := meets.returns (BalkyReaders.at_start readers balks)
      rw [ran_iff ran fun answer final => answer.1.deletedNow = true → NoTemplates before.users
        (final.world.readers.readers (calledAddress registry deviceId port ipOverride)) userId,
        imp_iff_right rfl, ← answer.reported]
      constructor
      · intro clean deleted user found
        exact (answer.wiped deleted user found).noTemplates_iff.mp (clean deleted)
      · intro works deleted
        obtain ⟨-, user, found, -⟩ := answer.reported.mp deleted
        exact (answer.wiped deleted user found).noTemplates_iff.mpr (works deleted user found)

end

end

/-! ## `delete_batch_device_users` -/

section

variable (faults : Faults String) (balks : Nat → Bool)

def SlotWorks (uid : Int) (fid : Nat) : Turn → List (Int × Nat) → Prop
  | _, [] => False
  | turn, slot :: rest =>
      (fid = slot.2 ∧ turn.Works faults balks ∧ uid = slot.1) ∨
        SlotWorks uid fid (turn.next faults) rest

def afterSlots : Reader → Turn → List (Int × Nat) → Reader
  | reader, _, [] => reader
  | reader, turn, slot :: rest =>
      afterSlots (afterFirst faults balks slot.1 reader turn slot.2) (turn.next faults) rest

def turnAfterSlots : Turn → List (Int × Nat) → Turn
  | turn, [] => turn
  | turn, _ :: rest => turnAfterSlots (turn.next faults) rest

end

def wipeSlots (fids : List Nat) (user : ZkUser) : List (Int × Nat) :=
  fids.map fun fid => (user.uid, fid)

def batchSlots (asked : List ZkUser) : List (Int × Nat) := asked.flatMap (wipeSlots (List.range 10))

section

variable {faults : Faults String} {balks : Nat → Bool}

theorem shows_afterSlots (slots : List (Int × Nat)) (reader : Reader) (turn : Turn) (uid : Int)
    (fid : Nat) :
    (afterSlots faults balks reader turn slots).shows uid fid = true ↔
      reader.shows uid fid = true ∧ ¬ SlotWorks faults balks uid fid turn slots := by
  induction slots generalizing reader turn with
  | nil => simp [afterSlots, SlotWorks]
  | cons slot rest ih =>
      rw [afterSlots, ih, shows_afterFirst, SlotWorks, not_or, and_assoc]

theorem afterSlots_append (first second : List (Int × Nat)) (reader : Reader) (turn : Turn) :
    afterSlots faults balks reader turn (first ++ second) =
      afterSlots faults balks (afterSlots faults balks reader turn first)
        (turnAfterSlots faults turn first) second := by
  induction first generalizing reader turn with
  | nil => rfl
  | cons slot rest ih => exact ih _ _

theorem turnAfterSlots_append (first second : List (Int × Nat)) (turn : Turn) :
    turnAfterSlots faults turn (first ++ second) =
      turnAfterSlots faults (turnAfterSlots faults turn first) second := by
  induction first generalizing turn with
  | nil => rfl
  | cons slot rest ih => exact ih _

def AfterSlots (faults : Faults String) (balks : Nat → Bool) (readers : Address → Reader)
    (address : Address) (turn : Turn) (slots : List (Int × Nat)) :
    ReaderSession BalkyReaders → Prop :=
  AtTurn (Function.update readers address (afterSlots faults balks (readers address) turn slots))
    balks (turnAfterSlots faults turn slots)

variable {readers : Address → Reader} {conn : Connection} {turn : Turn} {user : ZkUser}
  {userId sn ip : String} {port : Int}

theorem AfterSlots.append {first second : List (Int × Nat)} {session : ReaderSession BalkyReaders}
    (here : AfterSlots faults balks
      (Function.update readers conn.address
        (afterSlots faults balks (readers conn.address) turn first)) conn.address
      (turnAfterSlots faults turn first) second session) :
    AfterSlots faults balks readers conn.address turn (first ++ second) session := by
  unfold AfterSlots at here ⊢
  rw [Function.update_self, Function.update_idem] at here
  rw [afterSlots_append, turnAfterSlots_append]
  exact here

theorem meets_clearFingers (fids : List Nat) :
    Meets faults (AtTurn readers balks turn) (clearFingers conn user userId fids)
      (fun _ => AfterSlots faults balks readers conn.address turn (wipeSlots fids user))
      fun _ => False := by
  induction fids generalizing readers turn with
  | nil =>
      unfold clearFingers
      apply meets_pure
      intro session here
      unfold AfterSlots
      rw [wipeSlots, List.map_nil, afterSlots, Function.update_eq_self]
      exact here
  | cons fid rest ih =>
      unfold clearFingers
      have called : Meets faults (AtTurn readers balks turn)
          (orElse (conn.deleteUserTemplate user.uid fid userId) false)
          (fun _ => AfterSlots faults balks readers conn.address turn [(user.uid, fid)])
          fun _ => False :=
        meets_deletionByUid.weaken (fun _ start => start) (fun _ _ holds => holds.1) fun _ no => no
      apply Meets.bind called
      intro _
      apply ih.weaken (fun _ here => here) _ fun _ no => no
      intro _ session here
      exact @AfterSlots.append faults balks readers conn turn [(user.uid, fid)]
        (wipeSlots rest user) session here

theorem meets_deleteItems_wipe (users : List ZkUser) (userIds : List String) :
    Meets faults (AtTurn readers balks turn) (deleteItems conn users true userIds)
      (fun items session =>
        AfterSlots faults balks readers conn.address turn (batchSlots (askedUsers users userIds))
          session ∧
        deletedItemIds items = (askedUsers users userIds).map ZkUser.userId)
      fun _ => False := by
  induction userIds generalizing readers turn with
  | nil =>
      unfold deleteItems
      apply meets_pure
      intro session here
      refine ⟨?_, rfl⟩
      unfold AfterSlots
      rw [askedUsers, List.filterMap_nil, batchSlots, List.flatMap_nil, afterSlots,
        Function.update_eq_self]
      exact here
  | cons userId rest ih =>
      cases found : lastWithId users (strip userId) with
      | none =>
          rw [askedUsers_skip rest found]
          exact meets_deleteItems_unreported (meets_deleteItem_absent found) ih
      | some user =>
          have owner := (lastWithId_some found).2
          have wiped : Meets faults (AtTurn readers balks turn)
              (deleteItem conn users true (strip userId))
              (fun item session =>
                AfterSlots faults balks readers conn.address turn (wipeSlots (List.range 10) user)
                  session ∧
                item.userId = strip userId ∧ item.deleted = true)
              fun _ => False := by
            unfold deleteItem
            rw [found]
            apply Meets.attempt_unraised
            simp only [if_true]
            apply Meets.bind (meets_clearFingers (List.range 10))
            intro _
            exact meets_pure _ fun _ here => ⟨here, rfl, rfl⟩
          have parts : batchSlots (user :: askedUsers users rest) =
              wipeSlots (List.range 10) user ++ batchSlots (askedUsers users rest) :=
            List.flatMap_cons
          rw [askedUsers_next rest found, List.map_cons, owner, parts]
          apply (meets_deleteItems_reported wiped ih).weaken (fun _ start => start) _ fun _ no => no
          rintro items session ⟨left, reported⟩
          exact ⟨left.append, reported⟩

/-- What is known of an answer: the users it reports, and what the deletions left. -/
structure BatchAnswer (faults : Faults String) (balks : Nat → Bool) (before : Reader)
    (asked : List ZkUser) (reply : BatchReply) (after : Reader) : Prop where
  reported : reply.deletedIds = asked.map ZkUser.userId
  left : after = afterSlots faults balks before .afterListing (batchSlots asked)

theorem meets_tryBatch_wipe {userIds : List String} :
    Meets faults (At ⟨readers, balks, 0⟩ 0)
      (tryBatch sn ip port userIds true : ReaderProgram BalkyReaders BatchReply)
      (fun reply session =>
        UsersListed faults ∧ BatchAnswer faults balks (readers ⟨ip, port⟩)
            (askedUsers (readers ⟨ip, port⟩).users userIds) reply
            (session.world.readers.readers ⟨ip, port⟩) ∨
          ¬ UsersListed faults ∧ reply.deletedIds = [])
      fun _ => False := by
  unfold tryBatch
  have listing : Meets faults (At ⟨readers, balks, 0⟩ 0)
      (do
        let conn ← connectZkDevice (readerAt ip port)
        conn.disableDevice
        let users ← conn.getUsers
        let results ← deleteItems conn users true userIds
        finishBatch conn sn true results : ReaderProgram BalkyReaders BatchReply)
      (fun reply session => UsersListed faults ∧ BatchAnswer faults balks (readers ⟨ip, port⟩)
        (askedUsers (readers ⟨ip, port⟩).users userIds) reply
        (session.world.readers.readers ⟨ip, port⟩))
      fun _ => ¬ UsersListed faults := by
    apply meets_listed fun _ unreached _ => unreached
    intro reached
    have looped : Meets faults (AtTurn readers balks .afterListing)
        (deleteItems (readerAt ip port) (readers ⟨ip, port⟩).users true userIds :
          ReaderProgram BalkyReaders (List BatchItem)) _ fun _ => False :=
      meets_deleteItems_wipe (readers ⟨ip, port⟩).users userIds
    apply Meets.bind looped.unraised
    intro items
    apply meets_and_fact
    intro reported
    have unchanged : ∀ remaining, items.map (verifyItem remaining true) = items := by
      intro remaining
      exact List.map_id'' (fun _ => rfl) items
    apply (meets_finishBatch (unchanged _)).unraised.weaken (fun _ here => here) _ fun _ holds => holds
    rintro reply session ⟨left, deleted, -⟩
    rw [reported] at deleted
    refine ⟨reached, deleted, ?_⟩
    rw [left]
    exact Function.update_self ..
  apply Meets.attempt (listing.weaken (fun _ start => start) (fun _ _ answer => .inl answer)
    fun _ holds => holds)
  intro error
  exact meets_pure _ fun session unreached => .inr ⟨unreached, rfl⟩

end

/-- Each template of a user with one of the PINs is deleted in some round. -/
def BatchWorks (faults : Faults String) (balks : Nat → Bool) (reader : Reader)
    (asked : List ZkUser) : Prop :=
  ∀ user ∈ asked, ∀ record ∈ reader.users, record.userId = user.userId → ∀ fid < 10,
    reader.shows record.uid fid = true →
      SlotWorks faults balks record.uid fid .afterListing (batchSlots asked)

theorem BatchAnswer.noTemplates_iff {faults : Faults String} {balks : Nat → Bool}
    {before after : Reader} {asked : List ZkUser} {reply : BatchReply}
    (answer : BatchAnswer faults balks before asked reply after) :
    (∀ userId ∈ reply.deletedIds, NoTemplates before.users after userId) ↔
      BatchWorks faults balks before asked := by
  rw [answer.reported, answer.left]
  constructor
  · intro clean user listed record held own fid small shown
    have gone := clean user.userId (List.mem_map_of_mem listed) record held own fid small
    by_contra missed
    rw [(shows_afterSlots (batchSlots asked) before .afterListing record.uid fid).mpr
      ⟨shown, missed⟩] at gone
    cases gone
  · intro works userId reported record held own fid small
    obtain ⟨user, listed, rfl⟩ := List.mem_map.mp reported
    rw [← Bool.not_eq_true, shows_afterSlots]
    rintro ⟨shown, missed⟩
    exact missed (works user listed record held own fid small shown)

/-- A batch wipe left no template of the users it reports exactly if each was deleted. -/
theorem deleteBatchDeviceUsers_wipes_iff [UnicodeTables] {registry : Registry} {deviceId : String}
    {userIds : List String} {port : Int} {ipOverride : Option String} {hasPyzk : Bool}
    {faults : Faults String} {balks : Nat → Bool} {readers : Address → Reader} :
    let before := readers (calledAddress registry deviceId port ipOverride)
    (∃ reply after, deleteBatchDeviceUsers hasPyzk registry deviceId userIds port true ipOverride
          faults (BalkyReaders.start readers balks) = (.ok reply, after) ∧
        ∀ userId ∈ reply.deletedIds, NoTemplates before.users
          (after.world.readers.readers (calledAddress registry deviceId port ipOverride)) userId) ↔
      (hasPyzk = true → UsersListed faults →
        BatchWorks faults balks before (askedUsers before.users userIds)) := by
  intro before
  cases userIds with
  | nil =>
      refine iff_of_true ⟨.empty, _, rfl, fun userId listed => nomatch listed⟩ fun _ _ => ?_
      intro user listed
      cases listed
  | cons first rest =>
      cases hasPyzk with
      | false =>
          refine iff_of_true ⟨.missing notInstalled, _, rfl, fun userId listed => nomatch listed⟩ ?_
          intro absent
          cases absent
      | true =>
          have meets : Meets faults (At ⟨readers, balks, 0⟩ 0)
              (deleteBatchDeviceUsers true registry deviceId (first :: rest) port true ipOverride :
                ReaderProgram BalkyReaders BatchReply)
              (fun reply session =>
                UsersListed faults ∧ BatchAnswer faults balks before
                    (askedUsers before.users (first :: rest)) reply
                    (session.world.readers.readers
                      (calledAddress registry deviceId port ipOverride)) ∨
                  ¬ UsersListed faults ∧ reply.deletedIds = [])
              fun _ => False := by
            apply @meets_finally _ _ _ _ _ _ _ fun (reply : BatchReply) (net : BalkyReaders) =>
              UsersListed faults ∧ BatchAnswer faults balks before
                  (askedUsers before.users (first :: rest)) reply
                  (net.readers (calledAddress registry deviceId port ipOverride)) ∨
                ¬ UsersListed faults ∧ reply.deletedIds = []
            exact meets_tryBatch_wipe
          obtain ⟨reply, after, ran, outcome⟩ := meets.returns (BalkyReaders.at_start readers balks)
          rw [ran_iff ran fun answer final => ∀ userId ∈ answer.deletedIds,
            NoTemplates before.users (final.world.readers.readers
              (calledAddress registry deviceId port ipOverride)) userId, imp_iff_right rfl]
          rcases outcome with ⟨reached, answer⟩ | ⟨unreached, nobody⟩
          · rw [imp_iff_right reached]
            exact answer.noTemplates_iff
          · refine iff_of_true ?_ fun reached => absurd reached unreached
            intro userId listed
            rw [nobody] at listed
            cases listed

/-- A wipe that is reported left no template exactly if every template is removed by a call that
neither raises nor is refused, in both functions. -/
theorem biometrics_wipe_iff [UnicodeTables] (hasPyzk : Bool) (registry : Registry)
    (queue : CommandQueue) (deviceId userId : String) (userIds : List String) (port : Int)
    (ipOverride : Option String) (faults : Faults String) (balks : Nat → Bool)
    (readers : Address → Reader) :
    let address := calledAddress registry deviceId port ipOverride
    let before := readers address
    ((∃ reply after, deleteDeviceUserReal hasPyzk registry queue deviceId userId port true
            ipOverride faults (BalkyReaders.start readers balks) = (.ok reply, after) ∧
          (reply.1.deletedNow = true →
            NoTemplates before.users (after.world.readers.readers address) userId)) ↔
        (hasPyzk = true → WipeReported faults balks before userId →
          ∀ user, before.users.find? (ZkUser.hasId userId) = some user →
            WipeWorks faults balks before userId user)) ∧
      ((∃ reply after, deleteBatchDeviceUsers hasPyzk registry deviceId userIds port true ipOverride
            faults (BalkyReaders.start readers balks) = (.ok reply, after) ∧
          ∀ userId ∈ reply.deletedIds,
            NoTemplates before.users (after.world.readers.readers address) userId) ↔
        (hasPyzk = true → UsersListed faults →
          BatchWorks faults balks before (askedUsers before.users userIds))) :=
  ⟨deleteDeviceUserReal_wipes_iff, deleteBatchDeviceUsers_wipes_iff⟩

def oneTemplate : Address → Reader :=
  fun _ => ⟨[⟨1, "Asha", 0, "", "1", "101", 0⟩], [⟨1, 0, 1, [7]⟩], 10⟩

/-- The reader refuses every deletion of a template. -/
theorem biometrics_wipe_refused :
    let := UnicodeTables.ascii
    ∃ reply after, deleteDeviceUserReal true defaultRegistry .initial "NFZ8254900401" "101" 4370 true
          none (fun _ => none) (BalkyReaders.start oneTemplate fun _ => true) = (.ok reply, after) ∧
      reply.1.deletedNow = true ∧
      ¬ NoTemplates (oneTemplate ⟨"192.168.0.210", 4370⟩).users
        (after.world.readers.readers ⟨"192.168.0.210", 4370⟩) "101" := by
  intro _
  have answer : (deleteDeviceUserReal true defaultRegistry .initial "NFZ8254900401" "101" 4370 true
      none (fun _ => none) (BalkyReaders.start oneTemplate fun _ => true)).1.map Prod.fst =
      .ok (.templatesDeleted "NFZ8254900401" "101" 0) := by
    decide +kernel
  have left : ((deleteDeviceUserReal true defaultRegistry .initial "NFZ8254900401" "101" 4370 true
      none (fun _ => none) (BalkyReaders.start oneTemplate fun _ => true)).2.world.readers.readers
        ⟨"192.168.0.210", 4370⟩).shows 1 0 = true := by
    decide +kernel
  generalize deleteDeviceUserReal true defaultRegistry .initial "NFZ8254900401" "101" 4370 true none
    (fun _ => none) (BalkyReaders.start oneTemplate fun _ => true) = ran at answer left
  obtain ⟨error | reply, after⟩ := ran
  · cases answer
  · have told : reply.1 = .templatesDeleted "NFZ8254900401" "101" 0 := by
      simpa [Except.map] using answer
    refine ⟨reply, after, rfl, ?_, fun none => ?_⟩
    · rw [told]
      rfl
    · have gone := none ⟨1, "Asha", 0, "", "1", "101", 0⟩ (by decide) rfl 0 (by decide)
      rw [left] at gone
      cases gone

end PumoBioMetric.Core
