import PumoBioMetric.Core.CopyUndone
import PumoBioMetric.Core.PlacedCalls
import PumoBioMetric.Core.SimulatorCalls
import PumoBioMetric.Library.KeyedTable
import Mathlib.Data.List.Dedup

/-!
# What a batch deletion counts

A batch on a simulated device looks each id up afresh.  A batch on a reader works from the
user list read before the loop, so an id that comes twice is deleted twice.
-/

set_option autoImplicit false

namespace PumoBioMetric.Core

open Py FirstMatch FaultyCalls

/-- A count and the ids reported deleted, beside the PINs on the device before and after. -/
structure Counts (before after : List String) (count : Option Nat) (deletedIds : List String) :
    Prop where
  counted : ∀ deletedCount, count = some deletedCount → deletedCount + after.length = before.length
  gone : ∀ userId ∈ deletedIds, userId ∈ before ∧ userId ∉ after

/-! ## Simulated devices -/

section

variable [UnicodeTables] (registry : Registry)

omit [UnicodeTables] in
theorem length_filter_hasId {users : List SimUser} (pins : (users.map SimUser.userId).Nodup)
    (userId : String) :
    (users.filter fun user => !user.hasId userId).length +
      (if (users.find? (SimUser.hasId userId)).isSome then 1 else 0) = users.length := by
  have parts : users.length = (users.filter (SimUser.hasId userId)).length +
      (users.filter fun user => !user.hasId userId).length :=
    List.length_eq_length_filter_add (SimUser.hasId userId)
  cases first : users.find? (SimUser.hasId userId) with
  | none =>
      have nobody : users.filter (SimUser.hasId userId) = [] := by
        rw [List.filter_eq_nil_iff]
        exact List.find?_eq_none.mp first
      rw [nobody] at parts
      simpa using parts.symm
  | some user =>
      have owner : user.userId = userId := userId_of_find? first
      have single : users.filter (SimUser.hasId userId) = [user] := by
        rw [← owner]
        exact KeyedTable.filter_key_eq SimUser.userId users pins (List.mem_of_find?_eq_some first)
      rw [single] at parts
      simp only [List.length_cons, List.length_nil] at parts
      simp only [Option.isSome_some, if_true]
      omega

def simulatedPins (devices : SimDevices) (deviceId : String) : List String :=
  match simulatedDevice registry deviceId with
  | none => []
  | some dev => (devices.users dev).map SimUser.userId

def deletedUserIds (results : List DeleteResult) : List String :=
  (results.filter DeleteResult.deleted).filterMap DeleteResult.userId

theorem deleteDeviceUserSimulated_counts {devices : SimDevices} {deviceId : String}
    {dev : SimDevice} (found : simulatedDevice registry deviceId = some dev)
    (pins : ((devices.users dev).map SimUser.userId).Nodup) (userId : String) :
    let outcome := deleteDeviceUserSimulated registry devices deviceId userId false
    (outcome.2.users dev).length + (if outcome.1.deleted then 1 else 0) =
        (devices.users dev).length ∧
      outcome.2.users dev = (devices.users dev).filter (fun user => !user.hasId userId) ∧
      outcome.1.userId = some userId ∧
      (outcome.1.deleted = true → userId ∈ (devices.users dev).map SimUser.userId) := by
  intro outcome
  have after : outcome.2.users dev =
      (devices.users dev).filter fun user => !user.hasId userId := by
    rw [deleteDeviceUserSimulated_full registry found userId, SimDevices.users_setUsers_same]
  have reported : outcome.1.deleted =
      ((devices.users dev).find? (SimUser.hasId userId)).isSome ∧
      outcome.1.userId = some userId := by
    simp only [outcome, deleteDeviceUserSimulated, found]
    cases (devices.users dev).find? (SimUser.hasId userId) <;> exact ⟨rfl, rfl⟩
  rw [after, reported.1]
  refine ⟨length_filter_hasId pins userId, rfl, reported.2, fun deleted => ?_⟩
  by_contra absent
  rw [find?_hasId_eq_none.mpr absent] at deleted
  cases deleted

theorem deleteEachSimulated_counts {deviceId : String} {dev : SimDevice}
    (found : simulatedDevice registry deviceId = some dev) (userIds : List String)
    {devices : SimDevices} (pins : ((devices.users dev).map SimUser.userId).Nodup) :
    let outcome := deleteEachSimulated registry deviceId false devices userIds
    (outcome.2.users dev).Sublist (devices.users dev) ∧
      Counts ((devices.users dev).map SimUser.userId) ((outcome.2.users dev).map SimUser.userId)
        (some (outcome.1.filter DeleteResult.deleted).length) (deletedUserIds outcome.1) := by
  induction userIds generalizing devices with
  | nil =>
      refine ⟨List.Sublist.refl _, ?_, fun userId listed => ?_⟩
      · rintro _ ⟨⟩
        exact Nat.zero_add _
      · cases listed
  | cons userId rest ih =>
      obtain ⟨one, left, named, wasThere⟩ :=
        deleteDeviceUserSimulated_counts registry found pins userId
      simp only [deleteEachSimulated]
      generalize deleteDeviceUserSimulated registry devices deviceId userId false = step at *
      obtain ⟨res, between⟩ := step
      have fewer : (between.users dev).Sublist (devices.users dev) := by
        rw [left]
        exact List.filter_sublist
      obtain ⟨shrinks, counts⟩ := ih ((fewer.map SimUser.userId).nodup pins)
      generalize deleteEachSimulated registry deviceId false between rest = others at *
      obtain ⟨results, final⟩ := others
      have counted := counts.counted _ rfl
      have missing : userId ∉ (between.users dev).map SimUser.userId := by
        rw [left]
        simp [SimUser.hasId]
      refine ⟨shrinks.trans fewer, ?_, ?_⟩
      · rintro _ ⟨⟩
        simp only [List.length_map] at counted one ⊢
        cases reported : res.deleted <;> simp [reported] at one ⊢ <;> omega
      · intro other listed
        have owner : res.userId = some userId := named
        have either : res.deleted = true ∧ other = userId ∨ other ∈ deletedUserIds results := by
          unfold deletedUserIds at listed ⊢
          cases reported : res.deleted with
          | false => simpa [reported] using listed
          | true => simpa [reported, owner] using listed
        rcases either with ⟨reported, rfl⟩ | later
        · exact ⟨wasThere reported, fun kept =>
            missing ((shrinks.map SimUser.userId).subset kept)⟩
        · obtain ⟨here, gone⟩ := counts.gone other later
          exact ⟨(fewer.map SimUser.userId).subset here, gone⟩

theorem deleteEachSimulated_missing {deviceId : String}
    (missing : simulatedDevice registry deviceId = none) (userIds : List String)
    (devices : SimDevices) :
    (deleteEachSimulated registry deviceId false devices userIds).2 = devices ∧
      (deleteEachSimulated registry deviceId false devices userIds).1.filter
        DeleteResult.deleted = [] := by
  induction userIds generalizing devices with
  | nil => exact ⟨rfl, rfl⟩
  | cons userId rest ih =>
      have same : (deleteDeviceUserSimulated registry devices deviceId userId false).2 = devices :=
        deleteDeviceUserSimulated_missing registry missing userId false
      have unreported : (deleteDeviceUserSimulated registry devices deviceId userId false).1.deleted =
          false := by
        simp only [deleteDeviceUserSimulated, missing]
      simp only [deleteEachSimulated, same, List.filter_cons, unreported]
      exact ih devices

/-- On a simulated device the count is exact. -/
theorem deleteBatchSimulated_counts (devices : SimDevices) (deviceId : String)
    (userIds : List String) (pins : (simulatedPins registry devices deviceId).Nodup) :
    let outcome := deleteBatchSimulated registry devices deviceId userIds false
    Counts (simulatedPins registry devices deviceId) (simulatedPins registry outcome.2 deviceId)
      (some outcome.1.deletedCount) (deletedUserIds outcome.1.results) := by
  intro outcome
  have looped : outcome.2 = (deleteEachSimulated registry deviceId false devices userIds).2 ∧
      outcome.1.deletedCount = ((deleteEachSimulated registry deviceId false devices
        userIds).1.filter DeleteResult.deleted).length ∧
      outcome.1.results = (deleteEachSimulated registry deviceId false devices userIds).1 := by
    unfold outcome deleteBatchSimulated
    split
    · rename_i nobody
      subst nobody
      exact ⟨rfl, rfl, rfl⟩
    · exact ⟨rfl, rfl, rfl⟩
  obtain ⟨left, counted, listed⟩ := looped
  rw [left, counted, listed]
  unfold simulatedPins at pins ⊢
  cases found : simulatedDevice registry deviceId with
  | none =>
      obtain ⟨-, nobody⟩ := deleteEachSimulated_missing registry found userIds devices
      rw [deletedUserIds, nobody]
      refine ⟨?_, fun userId listed => ?_⟩
      · rintro _ ⟨⟩
        rfl
      · cases listed
  | some dev =>
      rw [found] at pins
      exact (deleteEachSimulated_counts registry found userIds pins).2

end

/-! ## Readers -/

def deletedItemIds (items : List BatchItem) : List String :=
  (items.filter BatchItem.deleted).map BatchItem.userId

def BatchReply.count : BatchReply → Option Nat
  | .empty => some 0
  | .missing _ => none
  | .done _ results => some (deletedCount results)
  | .failed _ _ _ => none

def BatchReply.deletedIds : BatchReply → List String
  | .empty => []
  | .missing _ => []
  | .done _ results => deletedItemIds results
  | .failed _ _ results => deletedItemIds results

theorem deletedCount_eq (items : List BatchItem) :
    deletedCount items = (deletedItemIds items).length := by
  rw [deletedItemIds, List.length_map, deletedCount, List.countP_eq_length_filter]

def Reader.dropUsers (reader : Reader) (gone : List ZkUser) : Reader :=
  gone.foldl (fun reader user => reader.dropUser user.uid) reader

theorem Reader.users_dropUsers (reader : Reader) (gone : List ZkUser) :
    (reader.dropUsers gone).users =
      reader.users.filter fun user => decide (user.uid ∉ gone.map ZkUser.uid) := by
  induction gone generalizing reader with
  | nil => simp [Reader.dropUsers]
  | cons user rest ih =>
      have step : reader.dropUsers (user :: rest) = (reader.dropUser user.uid).dropUsers rest := rfl
      rw [step, ih, Reader.dropUser, List.filter_filter]
      apply List.filter_congr
      intro other _
      by_cases same : other.uid = user.uid <;> simp [ZkUser.hasUid, same]

theorem lastWithId_some {users : List ZkUser} {userId : String} {user : ZkUser}
    (found : lastWithId users userId = some user) : user ∈ users ∧ user.userId = userId := by
  have held := List.find?_some found
  have listed := List.mem_of_find?_eq_some found
  exact ⟨List.mem_reverse.mp listed, by simpa [ZkUser.hasId] using held⟩

/-- The users whose deletion the loop asks for, one after the other. -/
def askedUsers (users : List ZkUser) (userIds : List String) : List ZkUser :=
  userIds.filterMap fun userId => lastWithId users (strip userId)

theorem askedUsers_skip {users : List ZkUser} {userId : String} (userIds : List String)
    (absent : lastWithId users (strip userId) = none) :
    askedUsers users (userId :: userIds) = askedUsers users userIds := by
  simp only [askedUsers, List.filterMap_cons, absent]

theorem askedUsers_next {users : List ZkUser} {userId : String} {user : ZkUser}
    (userIds : List String) (found : lastWithId users (strip userId) = some user) :
    askedUsers users (userId :: userIds) = user :: askedUsers users userIds := by
  simp only [askedUsers, List.filterMap_cons, found]

/-- Of the deletions from this place on, those that return. -/
def deletionsReturned (faults : Faults String) : Nat → List ZkUser → List ZkUser
  | _, [] => []
  | place, user :: rest =>
      if faults place = none then user :: deletionsReturned faults (place + 1) rest
      else deletionsReturned faults (place + 1) rest

theorem deletionsReturned_subset (faults : Faults String) (place : Nat) (asked : List ZkUser) :
    deletionsReturned faults place asked ⊆ asked := by
  induction asked generalizing place with
  | nil => exact fun _ listed => listed
  | cons user rest ih =>
      unfold deletionsReturned
      split
      · exact List.cons_subset_cons user (ih (place + 1))
      · exact List.Subset.trans (ih (place + 1)) (List.subset_cons_self user rest)

section

variable {faults : Faults String} {readers : Address → Reader} {place : Nat} {conn : Connection}

def afterDeletions (readers : Address → Reader) (address : Address) (gone : List ZkUser) :
    Address → Reader :=
  Function.update readers address ((readers address).dropUsers gone)

theorem afterDeletions_nil (address : Address) : afterDeletions readers address [] = readers :=
  Function.update_eq_self address readers

theorem tell_deletion (address : Address) (user : ZkUser) (call : Call) :
    (Network.tell readers address call fun reader => reader.dropUser user.uid) =
      afterDeletions readers address [user] := by
  funext other
  by_cases same : other = address
  · subst same
    simp [Network.tell, afterDeletions, Reader.dropUsers]
  · simp [Network.tell, afterDeletions, same]

theorem afterDeletions_cons (address : Address) (user : ZkUser) (gone : List ZkUser) :
    afterDeletions (afterDeletions readers address [user]) address gone =
      afterDeletions readers address (user :: gone) := by
  simp only [afterDeletions, Function.update_self, Function.update_idem]
  rfl

theorem meets_deleteItem_absent {Net : Type} [Network Net] {users : List ZkUser} {userId : String}
    {deleteBiometricsOnly : Bool} {pre : ReaderSession Net → Prop}
    (absent : lastWithId users userId = none) :
    Meets faults pre (deleteItem conn users deleteBiometricsOnly userId)
      (fun item session => pre session ∧ item.deleted = false) fun _ => False := by
  unfold deleteItem
  rw [absent]
  exact meets_pure _ fun _ here => ⟨here, rfl⟩

theorem meets_deleteItem_found {users : List ZkUser} {userId : String} {user : ZkUser}
    (found : lastWithId users userId = some user) :
    Meets faults (At readers place) (deleteItem conn users false userId)
      (fun item session => item.userId = userId ∧
        (faults place = none ∧ item.deleted = true ∧
            At (afterDeletions readers conn.address [user]) (place + 1) session ∨
          faults place ≠ none ∧ item.deleted = false ∧ At readers (place + 1) session))
      fun _ => False := by
  unfold deleteItem
  rw [found]
  have asked : Meets faults (At readers place) (conn.deleteUser user.uid userId)
      (fun _ session => faults place = none ∧
        At (afterDeletions readers conn.address [user]) (place + 1) session)
      fun session => faults place ≠ none ∧ At readers (place + 1) session := by
    apply meets_tell_at.weaken (fun _ start => start) _ fun _ holds => ⟨holds.2, holds.1⟩
    intro _ session holds
    rw [tell_deletion] at holds
    exact ⟨holds.2, holds.1⟩
  apply Meets.attempt
  · simp only [Bool.false_eq_true, if_false]
    apply Meets.bind asked
    intro _
    exact meets_pure _ fun _ holds => ⟨rfl, .inl ⟨holds.1, rfl, holds.2⟩⟩
  · intro _
    exact meets_pure _ fun _ holds => ⟨rfl, .inr ⟨holds.1, rfl, holds.2⟩⟩

theorem meets_deleteItems_unreported {Net : Type} [Network Net] {users : List ZkUser}
    {userId : String} {rest ids : List String} {deleteBiometricsOnly : Bool}
    {pre middle post : ReaderSession Net → Prop}
    (first : Meets faults pre (deleteItem conn users deleteBiometricsOnly (strip userId))
      (fun item session => middle session ∧ item.deleted = false) fun _ => False)
    (others : Meets faults middle (deleteItems conn users deleteBiometricsOnly rest)
      (fun items session => post session ∧ deletedItemIds items = ids) fun _ => False) :
    Meets faults pre (deleteItems conn users deleteBiometricsOnly (userId :: rest))
      (fun items session => post session ∧ deletedItemIds items = ids) fun _ => False := by
  unfold deleteItems
  apply Meets.bind first
  intro item
  apply meets_and_fact
  intro unreported
  apply Meets.bind others
  intro items
  apply meets_pure
  intro session holds
  refine ⟨holds.1, ?_⟩
  rw [← holds.2, deletedItemIds, List.filter_cons_of_neg (by simp [unreported])]
  rfl

theorem meets_deleteItems_reported {Net : Type} [Network Net] {users : List ZkUser}
    {userId name : String} {rest ids : List String} {deleteBiometricsOnly : Bool}
    {pre middle post : ReaderSession Net → Prop}
    (first : Meets faults pre (deleteItem conn users deleteBiometricsOnly (strip userId))
      (fun item session => middle session ∧ item.userId = name ∧ item.deleted = true)
      fun _ => False)
    (others : Meets faults middle (deleteItems conn users deleteBiometricsOnly rest)
      (fun items session => post session ∧ deletedItemIds items = ids) fun _ => False) :
    Meets faults pre (deleteItems conn users deleteBiometricsOnly (userId :: rest))
      (fun items session => post session ∧ deletedItemIds items = name :: ids)
      fun _ => False := by
  unfold deleteItems
  apply Meets.bind first
  intro item
  apply meets_and_fact
  rintro ⟨named, reported⟩
  apply Meets.bind others
  intro items
  apply meets_pure
  intro session holds
  refine ⟨holds.1, ?_⟩
  rw [deletedItemIds, List.filter_cons_of_pos reported, List.map_cons, named, ← holds.2]
  rfl

/-- The loop reports the deletions that return. -/
theorem meets_deleteItems (users : List ZkUser) (userIds : List String) :
    Meets faults (At readers place) (deleteItems conn users false userIds)
      (fun items session =>
        At (afterDeletions readers conn.address
            (deletionsReturned faults place (askedUsers users userIds)))
          (place + (askedUsers users userIds).length) session ∧
        deletedItemIds items =
          (deletionsReturned faults place (askedUsers users userIds)).map ZkUser.userId)
      fun _ => False := by
  induction userIds generalizing place readers with
  | nil =>
      unfold deleteItems
      apply meets_pure
      intro session here
      exact ⟨by rw [askedUsers, List.filterMap_nil, deletionsReturned, afterDeletions_nil]; exact here,
        rfl⟩
  | cons userId rest ih =>
      cases found : lastWithId users (strip userId) with
      | none =>
          rw [askedUsers_skip rest found]
          exact meets_deleteItems_unreported (meets_deleteItem_absent found) ih
      | some user =>
          have calls : place + (user :: askedUsers users rest).length =
              place + 1 + (askedUsers users rest).length := by
            simp only [List.length_cons]
            omega
          have owner := (lastWithId_some found).2
          rw [askedUsers_next rest found, calls]
          cases fault : faults place with
          | none =>
              have deleted : Meets faults (At readers place)
                  (deleteItem conn users false (strip userId))
                  (fun item session => At (afterDeletions readers conn.address [user]) (place + 1)
                    session ∧ item.userId = strip userId ∧ item.deleted = true) fun _ => False := by
                apply (meets_deleteItem_found found).weaken (fun _ start => start) _ fun _ no => no
                rintro item session ⟨named, ⟨-, reported, here⟩ | ⟨raised, -⟩⟩
                · exact ⟨here, named, reported⟩
                · exact absurd fault raised
              have looped := meets_deleteItems_reported deleted ih
              rw [afterDeletions_cons] at looped
              rw [deletionsReturned, if_pos fault, List.map_cons, owner]
              exact looped
          | some error =>
              have raised : Meets faults (At readers place)
                  (deleteItem conn users false (strip userId))
                  (fun item session => At readers (place + 1) session ∧ item.deleted = false)
                  fun _ => False := by
                apply (meets_deleteItem_found found).weaken (fun _ start => start) _ fun _ no => no
                rintro item session ⟨-, ⟨returned, -⟩ | ⟨-, unreported, here⟩⟩
                · rw [fault] at returned
                  cases returned
                · exact ⟨here, unreported⟩
              rw [deletionsReturned, if_neg (by simp [fault])]
              exact meets_deleteItems_unreported raised ih

/-- The reader is refreshed, asked for its users and enabled, and none of it raises. -/
def FinishReached (faults : Faults String) (place : Nat) : Prop :=
  faults place = none ∧ faults (place + 1) = none ∧ faults (place + 2) = none

theorem map_verifyItem_of_absent {remaining : List ZkUser} {items : List BatchItem}
    (absent : ∀ userId ∈ deletedItemIds items, remaining.any (ZkUser.hasId userId) = false) :
    items.map (verifyItem remaining false) = items := by
  conv_rhs => rw [← List.map_id items]
  apply List.map_congr_left
  intro item listed
  unfold verifyItem
  cases reported : item.deleted with
  | false => rfl
  | true =>
      have unlisted := absent item.userId
        (List.mem_map_of_mem (List.mem_filter.mpr ⟨listed, reported⟩))
      simp [unlisted]

theorem meets_finishBatch {Net : Type} [Network Net] [SilentReads Net] {net : Net} {sn : String}
    {deleteBiometricsOnly : Bool} {items : List BatchItem}
    (unchanged : items.map (verifyItem (Network.ask net conn.address .getUsers).1.users
      deleteBiometricsOnly) = items) :
    Meets faults (At net place) (finishBatch conn sn deleteBiometricsOnly items)
      (fun reply session => session.world.readers = net ∧
        reply.deletedIds = deletedItemIds items ∧
        ∀ count, reply.count = some count ↔
          FinishReached faults place ∧ count = (deletedItemIds items).length)
      fun _ => False := by
  have stopped : ∀ error, ¬ FinishReached faults place → ∀ session, Left net session →
      (session.world.readers = net ∧
        (BatchReply.failed sn error items).deletedIds = deletedItemIds items ∧
        ∀ count, (BatchReply.failed sn error items).count = some count ↔
          FinishReached faults place ∧ count = (deletedItemIds items).length) := by
    intro error unreached session here
    refine ⟨here, rfl, fun count => ⟨fun given => ?_, fun given => absurd given.1 unreached⟩⟩
    cases given
  unfold finishBatch
  have refreshed : Meets faults (At net place) conn.refreshData
      (fun _ session => At net (place + 1) session ∧ faults place = none)
      fun session => ¬ FinishReached faults place ∧ Left net session :=
    meets_ask_at.weaken (fun _ start => start) (fun _ _ holds => ⟨holds.1, holds.2.1⟩)
      fun _ holds => ⟨fun reached => holds.2 reached.1, holds.1.left⟩
  have listed : Meets faults (At net (place + 1)) conn.getUsers
      (fun remaining session => At net (place + 2) session ∧ faults (place + 1) = none ∧
        remaining = (Network.ask net conn.address .getUsers).1.users)
      fun session => ¬ FinishReached faults place ∧ Left net session :=
    meets_ask_at.weaken (fun _ start => start) (fun _ _ holds => holds)
      fun _ holds => ⟨fun reached => holds.2 reached.2.1, holds.1.left⟩
  have enabled : Meets faults (At net (place + 2)) conn.enableDevice
      (fun _ session => Left net session ∧ faults (place + 2) = none)
      fun session => ¬ FinishReached faults place ∧ Left net session :=
    meets_ask_at.weaken (fun _ start => start) (fun _ _ holds => ⟨holds.1.left, holds.2.1⟩)
      fun _ holds => ⟨fun reached => holds.2 reached.2.2, holds.1.left⟩
  apply Meets.attempt
  · apply Meets.bind refreshed
    intro _
    apply meets_and_fact
    intro first
    apply Meets.bind listed
    intro remaining
    apply meets_and_fact
    rintro ⟨second, rfl⟩
    simp only [unchanged]
    apply Meets.attempt
    · apply Meets.bind enabled
      intro _
      apply meets_and_fact
      intro third
      apply meets_pure
      intro session here
      refine ⟨here, rfl, fun count => ?_⟩
      rw [BatchReply.count, deletedCount_eq, Option.some.injEq]
      exact ⟨fun same => ⟨⟨first, second, third⟩, same.symm⟩, fun holds => holds.2.symm⟩
    · intro error
      exact meets_pure _ fun session holds => stopped error holds.1 session holds.2
  · intro error
    exact meets_pure _ fun session holds => stopped error holds.1 session holds.2

/-- What a batch answers and leaves once the users were listed. -/
structure BatchEnded (faults : Faults String) (readers : Address → Reader) (address : Address)
    (asked : List ZkUser) (reply : BatchReply) (after : Address → Reader) : Prop where
  left : after = afterDeletions readers address (deletionsReturned faults 3 asked)
  reported : reply.deletedIds = (deletionsReturned faults 3 asked).map ZkUser.userId
  counted : ∀ count, reply.count = some count ↔
    FinishReached faults (3 + asked.length) ∧ count = (deletionsReturned faults 3 asked).length

theorem askedUsers_subset (users : List ZkUser) (userIds : List String) :
    askedUsers users userIds ⊆ users := by
  intro user listed
  obtain ⟨userId, _, found⟩ := List.mem_filterMap.mp listed
  exact (lastWithId_some found).1

theorem dropUsers_absent {reader : Reader} (pins : (reader.users.map ZkUser.userId).Nodup)
    {gone : List ZkUser} (listed : gone ⊆ reader.users) {userId : String}
    (deleted : userId ∈ gone.map ZkUser.userId) :
    userId ∉ (reader.dropUsers gone).users.map ZkUser.userId := by
  intro kept
  obtain ⟨user, member, rfl⟩ := List.mem_map.mp deleted
  obtain ⟨other, left, same⟩ := List.mem_map.mp kept
  rw [Reader.users_dropUsers, List.mem_filter] at left
  have one : other = user := List.inj_on_of_nodup_map pins left.1 (listed member) same
  subst one
  have apart := of_decide_eq_true left.2
  exact apart (List.mem_map_of_mem member)

theorem meets_tryBatch {sn ip : String} {port : Int} {userIds : List String}
    (pins : ((readers ⟨ip, port⟩).users.map ZkUser.userId).Nodup) :
    Meets faults (At readers 0) (tryBatch sn ip port userIds false)
      (fun reply session =>
        UsersListed faults ∧ BatchEnded faults readers ⟨ip, port⟩
            (askedUsers (readers ⟨ip, port⟩).users userIds) reply session.world.readers ∨
          ¬ UsersListed faults ∧ session.world.readers = readers ∧ reply.deletedIds = [] ∧
            reply.count = none)
      fun _ => False := by
  unfold tryBatch
  have listing : Meets faults (At readers 0)
      (do
        let conn ← connectZkDevice (readerAt ip port)
        conn.disableDevice
        let users ← conn.getUsers
        let results ← deleteItems conn users false userIds
        finishBatch conn sn false results)
      (fun reply session => UsersListed faults ∧ BatchEnded faults readers ⟨ip, port⟩
        (askedUsers (readers ⟨ip, port⟩).users userIds) reply session.world.readers)
      fun session => ¬ UsersListed faults ∧ Left readers session := by
    apply meets_listed fun _ unreached here => ⟨unreached, here⟩
    intro reached
    apply Meets.bind (meets_deleteItems _ userIds).unraised
    intro items
    apply meets_and_fact
    intro reported
    have absent : ∀ userId ∈ deletedItemIds items,
        ((afterDeletions readers ⟨ip, port⟩ (deletionsReturned faults 3 (askedUsers
          (readers ⟨ip, port⟩).users userIds))) ⟨ip, port⟩).users.any (ZkUser.hasId userId) =
            false := by
      intro userId deleted
      rw [reported] at deleted
      have gone := dropUsers_absent pins (List.Subset.trans (deletionsReturned_subset faults 3 _)
        (askedUsers_subset _ userIds)) deleted
      rw [afterDeletions, Function.update_self]
      simpa [ZkUser.hasId] using gone
    apply (meets_finishBatch (map_verifyItem_of_absent absent)).unraised.weaken (fun _ here => here) _
      fun _ holds => holds
    intro reply session holds
    obtain ⟨left, deleted, counted⟩ := holds
    rw [reported, List.length_map] at counted
    rw [reported] at deleted
    exact ⟨reached, left, deleted, counted⟩
  apply Meets.attempt (listing.weaken (fun _ start => start) (fun _ _ ended => .inl ended)
    fun _ holds => holds)
  intro error
  exact meets_pure _ fun session holds => .inr ⟨holds.1, holds.2, rfl, rfl⟩

def OnePerDeletion (users gone : List ZkUser) : Prop :=
  (users.filter fun user => decide (user.uid ∈ gone.map ZkUser.uid)).length = gone.length

theorem onePerDeletion_iff_nodup {users gone : List ZkUser} (uids : (users.map ZkUser.uid).Nodup)
    (listed : gone ⊆ users) : OnePerDeletion users gone ↔ gone.Nodup := by
  have same : (users.filter fun user => decide (user.uid ∈ gone.map ZkUser.uid)).Perm gone.dedup := by
    rw [List.perm_ext_iff_of_nodup ((List.Nodup.of_map _ uids).filter _) (List.nodup_dedup gone)]
    intro user
    rw [List.mem_filter, decide_eq_true_iff, List.mem_dedup]
    constructor
    · rintro ⟨here, taken⟩
      obtain ⟨other, member, equal⟩ := List.mem_map.mp taken
      rw [← List.inj_on_of_nodup_map uids (listed member) here equal]
      exact member
    · intro member
      exact ⟨listed member, List.mem_map_of_mem member⟩
  rw [OnePerDeletion, same.length_eq]
  constructor
  · intro full
    rw [← (List.dedup_sublist gone).eq_of_length full]
    exact List.nodup_dedup gone
  · intro distinct
    rw [distinct.dedup]

/-- The rows are right in any case; the count is if the deletions and the users are as many. -/
theorem BatchEnded.counts_iff {address : Address} {userIds : List String} {reply : BatchReply}
    {after : Address → Reader} (pins : ((readers address).users.map ZkUser.userId).Nodup)
    (ended : BatchEnded faults readers address (askedUsers (readers address).users userIds) reply
      after) :
    Counts ((readers address).users.map ZkUser.userId) ((after address).users.map ZkUser.userId)
        reply.count reply.deletedIds ↔
      (FinishReached faults (3 + (askedUsers (readers address).users userIds).length) →
        OnePerDeletion (readers address).users
          (deletionsReturned faults 3 (askedUsers (readers address).users userIds))) := by
  obtain ⟨left, reported, counted⟩ := ended
  have listed := List.Subset.trans
    (deletionsReturned_subset faults 3 (askedUsers (readers address).users userIds))
    (askedUsers_subset (readers address).users userIds)
  generalize deletionsReturned faults 3 (askedUsers (readers address).users userIds) = gone at *
  have parts : (readers address).users.length =
      ((readers address).users.filter fun user : ZkUser => decide (user.uid ∈ gone.map ZkUser.uid)).length +
        ((readers address).dropUsers gone).users.length := by
    rw [Reader.users_dropUsers]
    simp only [decide_not]
    exact List.length_eq_length_filter_add _
  have own : after address = (readers address).dropUsers gone := by
    rw [left, afterDeletions, Function.update_self]
  rw [own, reported]
  constructor
  · intro counts finished
    have agreed := counts.counted _ ((counted _).mpr ⟨finished, rfl⟩)
    simp only [List.length_map] at agreed
    unfold OnePerDeletion
    omega
  · intro once
    refine ⟨fun count given => ?_, fun userId deleted => ⟨?_, dropUsers_absent pins listed deleted⟩⟩
    · obtain ⟨finished, rfl⟩ := (counted count).mp given
      have many := once finished
      unfold OnePerDeletion at many
      simp only [List.length_map]
      omega
    · exact (List.map_subset _ listed) deleted

variable [UnicodeTables] {registry : Registry} {deviceId : String} {userIds : List String}
  {port : Int} {ipOverride : Option String} {hasPyzk : Bool}

/-- The run answers, and its report is right exactly if the deletions and the users are as many. -/
theorem deleteBatchDeviceUsers_counts_iff
    (pins : ((readers (calledAddress registry deviceId port ipOverride)).users.map
      ZkUser.userId).Nodup) :
    let address := calledAddress registry deviceId port ipOverride
    let asked := askedUsers (readers address).users userIds
    (∃ reply after, deleteBatchDeviceUsers hasPyzk registry deviceId userIds port false ipOverride
          faults (ReaderSession.fresh readers) = (.ok reply, after) ∧
        Counts ((readers address).users.map ZkUser.userId)
          ((after.world.readers address).users.map ZkUser.userId) reply.count reply.deletedIds) ↔
      (hasPyzk = true → UsersListed faults → FinishReached faults (3 + asked.length) →
        OnePerDeletion (readers address).users (deletionsReturned faults 3 asked)) := by
  intro address asked
  have nothing : ∀ count : Option Nat, (∀ n, count = some n → n = 0) →
      Counts ((readers address).users.map ZkUser.userId)
        ((readers address).users.map ZkUser.userId) count [] := by
    intro count zero
    refine ⟨fun n given => ?_, fun userId listed => ?_⟩
    · rw [zero n given, Nat.zero_add]
    · cases listed
  cases userIds with
  | nil =>
      refine iff_of_true ⟨.empty, _, rfl, nothing _ ?_⟩ fun _ _ _ => ?_
      · rintro n ⟨⟩
        rfl
      · simp [asked, askedUsers, deletionsReturned, OnePerDeletion]
  | cons first rest =>
      cases hasPyzk with
      | false =>
          refine iff_of_true ⟨.missing notInstalled, _, rfl, nothing _ ?_⟩ ?_
          · rintro n ⟨⟩
          · intro absent
            cases absent
      | true =>
          have meets : Meets faults (At readers 0)
              (deleteBatchDeviceUsers true registry deviceId (first :: rest) port false ipOverride)
              (fun reply session =>
                UsersListed faults ∧ BatchEnded faults readers address asked reply
                    session.world.readers ∨
                  ¬ UsersListed faults ∧ session.world.readers = readers ∧
                    reply.deletedIds = [] ∧ reply.count = none)
              fun _ => False := by
            apply @meets_finally _ _ _ _ _ _ _ fun reply net =>
              UsersListed faults ∧ BatchEnded faults readers address asked reply net ∨
                ¬ UsersListed faults ∧ net = readers ∧ reply.deletedIds = [] ∧ reply.count = none
            exact meets_tryBatch pins
          obtain ⟨reply, after, ran, outcome⟩ := meets.returns (at_fresh readers)
          rw [ran_iff ran fun answer final =>
            Counts ((readers address).users.map ZkUser.userId)
              ((final.world.readers address).users.map ZkUser.userId) answer.count
              answer.deletedIds, imp_iff_right rfl]
          rcases outcome with ⟨reached, ended⟩ | ⟨unreached, same, nobody, uncounted⟩
          · rw [imp_iff_right reached]
            exact ended.counts_iff pins
          · refine iff_of_true ?_ fun reached => absurd reached unreached
            rw [same, nobody, uncounted]
            exact nothing none fun n given => nomatch given

end

/-- A batch counts what it deletes on a simulated device, and on a reader exactly if its count
is not reported or as many users had the uids as deletions returned; with distinct uids, if no
deletion of a user returned twice. -/
theorem batch_deletion_counts_iff [UnicodeTables] (registry : Registry) (deviceId : String)
    (userIds : List String) {devices : SimDevices}
    (simulatedDistinct : (simulatedPins registry devices deviceId).Nodup) (hasPyzk : Bool)
    (port : Int) (ipOverride : Option String) (faults : Faults String)
    {readers : Address → Reader}
    (distinct : ((readers (calledAddress registry deviceId port ipOverride)).users.map
      ZkUser.userId).Nodup) :
    let simulated := deleteBatchSimulated registry devices deviceId userIds false
    let address := calledAddress registry deviceId port ipOverride
    let asked := askedUsers (readers address).users userIds
    let gone := deletionsReturned faults 3 asked
    Counts (simulatedPins registry devices deviceId) (simulatedPins registry simulated.2 deviceId)
        (some simulated.1.deletedCount) (deletedUserIds simulated.1.results) ∧
      ((∃ reply after, deleteBatchDeviceUsers hasPyzk registry deviceId userIds port false
            ipOverride faults (ReaderSession.fresh readers) = (.ok reply, after) ∧
          Counts ((readers address).users.map ZkUser.userId)
            ((after.world.readers address).users.map ZkUser.userId) reply.count reply.deletedIds) ↔
        (hasPyzk = true → UsersListed faults → FinishReached faults (3 + asked.length) →
          OnePerDeletion (readers address).users gone)) ∧
      (((readers address).users.map ZkUser.uid).Nodup →
        (OnePerDeletion (readers address).users gone ↔ gone.Nodup)) := by
  intro simulated address asked gone
  refine ⟨deleteBatchSimulated_counts registry devices deviceId userIds simulatedDistinct,
    deleteBatchDeviceUsers_counts_iff distinct, fun uids => ?_⟩
  apply onePerDeletion_iff_nodup uids
  exact List.Subset.trans (deletionsReturned_subset faults 3 asked)
    (askedUsers_subset (readers address).users userIds)

def enrolledReaders : Address → Reader :=
  fun _ => ⟨[⟨1, "Asha", 0, "", "1", "101", 0⟩, ⟨2, "Ravi", 0, "", "1", "102", 0⟩], [], 10⟩

theorem batch_deletion_counts_two :
    let := UnicodeTables.ascii
    ∃ reply after, deleteBatchDeviceUsers true defaultRegistry "NFZ8254900401" ["101", " 102 "] 4370
        false none (fun _ => none) (ReaderSession.fresh enrolledReaders) = (.ok reply, after) ∧
      Counts ["101", "102"]
        ((after.world.readers ⟨"192.168.0.210", 4370⟩).users.map ZkUser.userId) reply.count
        reply.deletedIds := by
  intro _
  have simulatedDistinct : (simulatedPins defaultRegistry resetSimulationState
      "NFZ8254900401").Nodup := by
    decide +kernel
  have distinct : ((enrolledReaders (calledAddress defaultRegistry "NFZ8254900401" 4370 none)).users.map
      ZkUser.userId).Nodup := by
    decide +kernel
  have counts := (batch_deletion_counts_iff defaultRegistry "NFZ8254900401" ["101", " 102 "]
    simulatedDistinct true 4370 none (fun _ => none) distinct).2.1
  exact counts.mpr fun _ _ _ => by
    unfold OnePerDeletion
    decide +kernel

/-- An id twice: the second deletion does nothing, and is counted. -/
theorem batch_deletion_counts_twice :
    let := UnicodeTables.ascii
    ∃ reply after, deleteBatchDeviceUsers true defaultRegistry "NFZ8254900401" ["101", "101"] 4370
        false none (fun _ => none) (ReaderSession.fresh enrolledReaders) = (.ok reply, after) ∧
      ¬ Counts ["101", "102"]
        ((after.world.readers ⟨"192.168.0.210", 4370⟩).users.map ZkUser.userId) reply.count
        reply.deletedIds := by
  intro _
  have answer : (deleteBatchDeviceUsers true defaultRegistry "NFZ8254900401" ["101", "101"] 4370
      false none (fun _ => none) (ReaderSession.fresh enrolledReaders)).1 =
      .ok (.done "NFZ8254900401" [⟨true, true, "101", none⟩, ⟨true, true, "101", none⟩]) := by
    decide +kernel
  have left : ((deleteBatchDeviceUsers true defaultRegistry "NFZ8254900401" ["101", "101"] 4370
      false none (fun _ => none) (ReaderSession.fresh enrolledReaders)).2.world.readers
        ⟨"192.168.0.210", 4370⟩).users.map ZkUser.userId = ["102"] := by
    decide +kernel
  generalize deleteBatchDeviceUsers true defaultRegistry "NFZ8254900401" ["101", "101"] 4370 false
    none (fun _ => none) (ReaderSession.fresh enrolledReaders) = ran at answer left
  obtain ⟨reply, after⟩ := ran
  refine ⟨_, after, Prod.ext answer rfl, fun counts => ?_⟩
  rw [left] at counts
  exact absurd (counts.counted 2 rfl) (by decide)

end PumoBioMetric.Core
