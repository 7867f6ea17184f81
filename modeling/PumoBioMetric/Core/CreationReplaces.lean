import PumoBioMetric.Core.PlacedCalls
import PumoBioMetric.Core.QueuedCommands

/-!
# Whether creating a user replaces one

The check for a user with the PIN stands on the direct path.  Where that path raises before
the check, the creation is queued, and the reader that executes it sets the profile of
whoever has the PIN.
-/

set_option autoImplicit false

namespace PumoBioMetric.Core

open Py FaultyCalls Router QueueingCall

/-! ## A reader that executes commands -/

/-- A tab or a line end closes a value. -/
def endsValue (char : Char) : Bool := char == '\t' || char == '\r' || char == '\n'

def userinfoHead : String := "DATA UPDATE USERINFO PIN="

/-- The PIN that a command for the user table names, and the text behind it. -/
def userinfoCommand (command : String) : Option (String × String) :=
  ((splitOnce ':' command).bind fun numbered => splitOnce ':' numbered.2).bind fun parts =>
    if startsWith parts.2 userinfoHead then
      let text := parts.2.toList.drop userinfoHead.toList.length
      some (String.ofList (text.takeWhile fun char => !endsValue char),
        String.ofList (text.dropWhile fun char => !endsValue char))
    else none

section

-- What the reader makes of a profile when it reads the text behind the PIN.
variable (profileOf : String → ZkUser → ZkUser)

def executeUserinfo (reader : Reader) (pin text : String) : Reader :=
  { reader with
    users :=
      if reader.users.any (ZkUser.hasId pin) then
        reader.users.map fun user => if user.hasId pin then profileOf text user else user
      else
        reader.users ++ [profileOf text ⟨nextReaderUid reader.users, "", 0, "", "", pin, 0⟩] }

def executeCommand (reader : Reader) (command : String) : Reader :=
  match userinfoCommand command with
  | none => reader
  | some (pin, text) => executeUserinfo profileOf reader pin text

def holders (reader : Reader) (pin : String) : List ZkUser := reader.users.filter (ZkUser.hasId pin)

variable {profileOf}

theorem holders_executeUserinfo_other (keepsPin : ∀ text user, (profileOf text user).userId = user.userId)
    (reader : Reader) {pin other : String} (apart : other ≠ pin) (text : String) :
    holders (executeUserinfo profileOf reader other text) pin = holders reader pin := by
  unfold holders executeUserinfo
  by_cases taken : reader.users.any (ZkUser.hasId other) = true
  · simp only [taken, if_true]
    induction reader.users with
    | nil => rfl
    | cons user rest ih =>
        simp only [List.map_cons, List.filter_cons, ih]
        by_cases held : user.userId = other
        · have kept := keepsPin text user
          simp [ZkUser.hasId, held, kept, apart]
        · simp [ZkUser.hasId, held]
  · simp only [taken, Bool.false_eq_true, if_false]
    rw [List.filter_append, List.filter_cons_of_neg, List.filter_nil, List.append_nil]
    simp [ZkUser.hasId, keepsPin, apart]

theorem holders_executeUserinfo_same (keepsPin : ∀ text user, (profileOf text user).userId = user.userId)
    (reader : Reader) {pin : String} (taken : reader.users.any (ZkUser.hasId pin) = true)
    (text : String) :
    holders (executeUserinfo profileOf reader pin text) pin =
      (holders reader pin).map (profileOf text) := by
  unfold holders executeUserinfo
  simp only [taken, if_true]
  induction reader.users with
  | nil => rfl
  | cons user rest ih =>
      simp only [List.map_cons, List.filter_cons, ih]
      by_cases held : user.userId = pin
      · have kept := keepsPin text user
        simp [ZkUser.hasId, held, kept]
      · simp [ZkUser.hasId, held]

end

/-! ## The command of a creation -/

def NewUser.request (user : NewUser) : String :=
  "\tName=" ++ user.cleanName ++ "\tPri=" ++ toString user.role ++ "\tPasswd=" ++ user.password ++
    "\tCard=" ++ toString user.card ++ "\tGrp=1"

theorem creationCommand_split (user : NewUser) :
    creationCommand user = userinfoHead ++ (user.pin ++ user.request) := by
  unfold creationCommand NewUser.request userinfoHead
  simp only [String.append_assoc]

theorem request_begins (user : NewUser) : ∃ rest, user.request.toList = '\t' :: rest := by
  unfold NewUser.request
  simp only [String.append_assoc]
  exact ⟨_, String.toList_append⟩

theorem plain_iff_all {text : String} :
    Plain text ↔ ∀ char ∈ text.toList, (!endsValue char) = true := by
  simp [Plain, endsValue, and_assoc]

def NewUser.seenPin (user : NewUser) : String :=
  String.ofList (user.pin.toList.takeWhile fun char => !endsValue char)

theorem seenPin_eq_iff (user : NewUser) : user.seenPin = user.pin ↔ Plain user.pin := by
  rw [plain_iff_all, ← List.takeWhile_eq_self_iff, NewUser.seenPin]
  constructor
  · intro same
    rw [← String.toList_ofList (l := user.pin.toList.takeWhile _), same]
  · intro same
    rw [same, String.ofList_toList]

theorem splitOnce_command (number : Nat) (body : String) :
    splitOnce ':' ("C:" ++ toString number ++ ":" ++ body) =
      some ("C", toString number ++ ":" ++ body) := by
  have whole : ("C:" ++ toString number ++ ":" ++ body).toList =
      ['C'] ++ ':' :: (toString number ++ ":" ++ body).toList := by
    simp
  rw [splitOnce_of_toList whole (by decide), String.ofList_toList]

/-- A reader finds the PIN up to its first separator, and the rest behind a plain one. -/
theorem userinfoCommand_creation (user : NewUser) (number : Nat) :
    ∃ text, userinfoCommand ("C:" ++ toString number ++ ":" ++ creationCommand user) =
        some (user.seenPin, text) ∧ (Plain user.pin → text = user.request) := by
  obtain ⟨rest, begins⟩ := request_begins user
  have chars : (creationCommand user).toList =
      userinfoHead.toList ++ (user.pin.toList ++ '\t' :: rest) := by
    rw [creationCommand_split, String.toList_append, String.toList_append, begins]
  have head : startsWith (creationCommand user) userinfoHead = true := by
    rw [startsWith, chars, List.isPrefixOf_iff_prefix]
    exact List.prefix_append _ _
  have seen : ((user.pin.toList ++ '\t' :: rest).takeWhile fun char => !endsValue char) =
      user.pin.toList.takeWhile fun char => !endsValue char := by
    rw [List.takeWhile_append]
    split
    · rename_i full
      have whole := (List.takeWhile_prefix fun char => !endsValue char).eq_of_length full
      have stops : (('\t' :: rest).takeWhile fun char => !endsValue char) = [] :=
        List.takeWhile_cons_of_neg (by decide)
      rw [stops, List.append_nil, whole]
    · rfl
  refine ⟨String.ofList ((user.pin.toList ++ '\t' :: rest).dropWhile fun char => !endsValue char),
    ?_, ?_⟩
  · rw [userinfoCommand, splitOnce_command, Option.bind_some, splitOnce_numbered, Option.bind_some,
      if_pos head, chars, List.drop_left]
    simp only [seen]
    rfl
  · intro plain
    have passed : ((user.pin.toList ++ '\t' :: rest).dropWhile fun char => !endsValue char) =
        ('\t' :: rest).dropWhile fun char => !endsValue char :=
      List.dropWhile_append_of_pos (plain_iff_all.mp plain)
    rw [passed, List.dropWhile_cons_of_neg (by decide), ← begins, String.ofList_toList]

/-! ## The run -/

def CreateReply.isCreated : CreateReply → Bool
  | .refused _ => false
  | .created _ _ _ _ => true
  | .queued _ _ _ _ => true

section

variable {faults : Faults String} {readers : Address → Reader} {user : NewUser}

/-- Where somebody holds the PIN, the direct path refuses or raises before the check, and
writes nothing. -/
theorem meets_createOnReader_held {sn ip : String} {port : Int}
    (held : (readers ⟨ip, port⟩).users.any (ZkUser.hasId user.pin) = true) :
    Meets faults (At readers 0) (createOnReader user sn ip port)
      (fun reply session => reply.isCreated = false ∧ UsersListed faults ∧ Left readers session)
      fun session => ¬ UsersListed faults ∧ Left readers session := by
  unfold createOnReader
  apply meets_listed (fun _ unreached here => ⟨unreached, here⟩)
  intro reached
  have found : (Network.ask readers (readerAt ip port).address .getUsers).1.users.any
      (ZkUser.hasId user.pin) = true := held
  rw [if_pos found]
  exact meets_pure _ fun _ here => ⟨rfl, reached, here.left⟩

/-- The requests that `create_device_user` takes to the reader. -/
def Accepted (hasPyzk : Bool) (user : NewUser) : Prop :=
  hasPyzk = true ∧ ¬ (user.pin = "" ∨ user.cleanName = "") ∧ user.pin.length ≤ 24

variable [UnicodeTables] {registry : Registry} {queue : CommandQueue} {deviceId : String}
  {port : Int} {ipOverride : Option String} {hasPyzk : Bool}

theorem refused_of_not_accepted (unaccepted : ¬ Accepted hasPyzk user) :
    Meets faults (At readers 0)
      (createDeviceUser hasPyzk registry queue deviceId user port ipOverride)
      (fun outcome _ => outcome.1.isCreated = false) fun _ => False := by
  unfold createDeviceUser
  by_cases blank : user.pin = "" ∨ user.cleanName = ""
  · simp only [if_pos blank]
    exact meets_pure _ fun _ _ => rfl
  · by_cases long : 24 < user.pin.length
    · simp only [if_neg blank, if_pos long]
      exact meets_pure _ fun _ _ => rfl
    · cases hasPyzk with
      | false =>
          simp only [if_neg blank, if_neg long, Bool.false_eq_true, if_false]
          exact meets_pure _ fun _ _ => rfl
      | true => exact absurd ⟨rfl, blank, Nat.not_lt.mp long⟩ unaccepted

theorem meets_createDeviceUser_held (accepted : Accepted hasPyzk user)
    (held : (readers (calledAddress registry deviceId port ipOverride)).users.any
      (ZkUser.hasId user.pin) = true) :
    Meets faults (At readers 0)
      (createDeviceUser hasPyzk registry queue deviceId user port ipOverride)
      (fun outcome session => session.world.readers = readers ∧
        (UsersListed faults ∧ outcome.1.isCreated = false ∨ ¬ UsersListed faults ∧
          outcome = queueCreation queue user (resolveDevice registry deviceId port).sn))
      fun _ => False := by
  obtain ⟨rfl, named, short⟩ := accepted
  unfold createDeviceUser
  simp only [if_neg named, if_neg (Nat.not_lt.mpr short), if_true]
  apply @meets_finally _ _ _ _ _ _ _ (fun outcome net => net = readers ∧
    (UsersListed faults ∧ outcome.1.isCreated = false ∨ ¬ UsersListed faults ∧
      outcome = queueCreation queue user (resolveDevice registry deviceId port).sn))
  apply Meets.attempt
  · apply Meets.bind (meets_createOnReader_held held)
    intro reply
    exact meets_pure _ fun _ holds => ⟨holds.2.2, .inl ⟨holds.2.1, holds.1⟩⟩
  · intro _
    exact meets_pure _ fun _ holds => ⟨holds.2, .inr ⟨holds.1, rfl⟩⟩

/-- Once the reader has executed the commands, whoever had the PIN has the same profile. -/
def LeavesHolders (profileOf : String → ZkUser → ZkUser) (before after : Reader) (pin : String)
    (commands : List String) : Prop :=
  (∃ holder ∈ before.users, holder.userId = pin) →
    holders (commands.foldl (executeCommand profileOf) after) pin = holders before pin

theorem leavesHolders_queued_iff {profileOf : String → ZkUser → ZkUser}
    (keepsPin : ∀ text user, (profileOf text user).userId = user.userId) {reader : Reader}
    (held : reader.users.any (ZkUser.hasId user.pin) = true) (queue : CommandQueue) (sn : String) :
    LeavesHolders profileOf reader reader user.pin
        [(queueDeviceCmd queue sn (creationCommand user)).1] ↔
      (Plain user.pin → ∀ holder ∈ reader.users, holder.userId = user.pin →
        profileOf user.request holder = holder) := by
  obtain ⟨text, parsed, whole⟩ := userinfoCommand_creation user (queue.counter + 1)
  have executed : executeCommand profileOf reader (queueDeviceCmd queue sn (creationCommand user)).1 =
      executeUserinfo profileOf reader user.seenPin text := by
    rw [queueDeviceCmd_fst queue sn (strip_creationCommand user), executeCommand, parsed]
  have someone : ∃ holder ∈ reader.users, holder.userId = user.pin := by
    simpa [ZkUser.hasId] using held
  simp only [LeavesHolders, List.foldl_cons, List.foldl_nil, executed]
  rw [imp_iff_right someone]
  by_cases plain : Plain user.pin
  · rw [imp_iff_right plain, (seenPin_eq_iff user).mpr plain, whole plain,
      holders_executeUserinfo_same keepsPin reader held]
    have fixed : (holders reader user.pin).map (profileOf user.request) = holders reader user.pin ↔
        ∀ holder ∈ holders reader user.pin, profileOf user.request holder = holder := by
      conv_lhs => rhs; rw [← List.map_id (holders reader user.pin)]
      exact List.map_inj_left
    rw [fixed]
    simp [holders, ZkUser.hasId]
  · have apart : user.seenPin ≠ user.pin := fun same => plain ((seenPin_eq_iff user).mp same)
    rw [holders_executeUserinfo_other keepsPin reader apart]
    exact iff_of_true rfl fun other => absurd other plain

/-- A reported creation leaves the holders of the PIN alone exactly if nobody holds it with
another profile or the check for them was reached. -/
theorem creation_never_replaces_iff {profileOf : String → ZkUser → ZkUser}
    (keepsPin : ∀ text user, (profileOf text user).userId = user.userId) (hasPyzk : Bool)
    (registry : Registry) (queue : CommandQueue) (deviceId : String) (user : NewUser) (port : Int)
    (ipOverride : Option String) (faults : Faults String) (readers : Address → Reader) :
    (∀ reply after, (createDeviceUser hasPyzk registry queue deviceId user port ipOverride faults
          (ReaderSession.fresh readers)).1 = .ok (reply, after) → reply.isCreated = true →
        LeavesHolders profileOf (readers (calledAddress registry deviceId port ipOverride))
          ((createDeviceUser hasPyzk registry queue deviceId user port ipOverride faults
            (ReaderSession.fresh readers)).2.world.readers
              (calledAddress registry deviceId port ipOverride))
          user.pin (reply.commands.getD [])) ↔
      (Accepted hasPyzk user → ¬ UsersListed faults → Plain user.pin →
        ∀ holder ∈ (readers (calledAddress registry deviceId port ipOverride)).users,
          holder.userId = user.pin → profileOf user.request holder = holder) := by
  by_cases held : (readers (calledAddress registry deviceId port ipOverride)).users.any
      (ZkUser.hasId user.pin) = true
  · by_cases accepted : Accepted hasPyzk user
    · have meets : Meets faults (At readers 0)
          (createDeviceUser hasPyzk registry queue deviceId user port ipOverride)
          (fun outcome session => session.world.readers = readers ∧
            (UsersListed faults ∧ outcome.1.isCreated = false ∨ ¬ UsersListed faults ∧
              outcome = queueCreation queue user (resolveDevice registry deviceId port).sn))
          fun _ => False := meets_createDeviceUser_held accepted held
      obtain ⟨outcome, after, ran, same, reached⟩ := meets.returns (at_fresh readers)
      rw [ran, same, imp_iff_right accepted]
      rw [← leavesHolders_queued_iff keepsPin held queue (resolveDevice registry deviceId port).sn]
      rcases reached with ⟨checked, refused⟩ | ⟨unchecked, rfl⟩
      · refine iff_of_true ?_ fun unchecked => absurd checked unchecked
        rintro reply final returned created
        cases returned
        rw [refused] at created
        cases created
      · rw [imp_iff_right unchecked]
        constructor
        · intro leaves
          exact leaves _ _ rfl rfl
        · rintro leaves reply final returned _
          cases returned
          exact leaves
    · refine iff_of_true ?_ fun given => absurd given accepted
      intro reply final returned created
      have refused : reply.isCreated = false :=
        (refused_of_not_accepted accepted).of_ok (at_fresh readers) returned
      rw [refused] at created
      cases created
  · have nobody : ∀ holder ∈ (readers (calledAddress registry deviceId port ipOverride)).users,
        holder.userId ≠ user.pin := by
      simpa [ZkUser.hasId] using held
    refine iff_of_true ?_ fun _ _ _ holder listed own => absurd own (nobody holder listed)
    rintro reply final _ _ ⟨holder, listed, own⟩
    exact absurd own (nobody holder listed)

end

/-! ## A reader with an administrator -/

def fieldOf (key text : String) : Option String :=
  ((splitChar '\t' text).filterMap (splitOnce '=')).lookup key

def profileFromFields (text : String) (user : ZkUser) : ZkUser :=
  { user with
    name := (fieldOf "Name" text).getD user.name
    privilege := ((fieldOf "Pri" text).bind int?).getD user.privilege
    password := (fieldOf "Passwd" text).getD user.password
    card := ((fieldOf "Card" text).bind int?).getD user.card
    groupId := (fieldOf "Grp" text).getD user.groupId }

def administrator : ZkUser := ⟨1, "Admin", 14, "", "1", "101", 0⟩

def administered : Address → Reader := fun _ => ⟨[administrator], [], 10⟩

theorem creation_never_replaces_same_profile :
    let := UnicodeTables.ascii
    ∃ reply after, createDeviceUser true defaultRegistry .initial "ZK1"
          ⟨"101", "Admin", 14, "", 0⟩ 4370 none unreachable (ReaderSession.fresh administered) =
        (.ok reply, after) ∧ reply.1.isCreated = true ∧
      LeavesHolders profileFromFields (administered ⟨"192.168.1.209", 4370⟩)
        (after.world.readers ⟨"192.168.1.209", 4370⟩) "101" (reply.1.commands.getD []) := by
  intro _
  obtain ⟨after, ran, _⟩ := createDeviceUser_unreachable defaultRegistry .initial "ZK1" 4370 none
    administered ⟨"101", "Admin", 14, "", 0⟩ (by decide +kernel) (by decide +kernel)
  have same : profileFromFields (NewUser.request ⟨"101", "Admin", 14, "", 0⟩) administrator =
      administrator := by
    decide +kernel
  refine ⟨_, after, ran, rfl, ?_⟩
  have leaves := (@creation_never_replaces_iff _ profileFromFields (fun _ _ => rfl) true
    defaultRegistry .initial "ZK1" ⟨"101", "Admin", 14, "", 0⟩ 4370 none unreachable
    administered).mpr fun _ _ _ holder listed _ => by
      rw [List.mem_singleton.mp listed]
      exact same
  rw [ran] at leaves
  exact leaves _ _ rfl rfl

/-- Somebody else under the PIN of the administrator, over a connection that fails. -/
theorem creation_replaces_administrator :
    let := UnicodeTables.ascii
    ∃ reply after, createDeviceUser true defaultRegistry .initial "ZK1"
          ⟨"101", "Asha", 0, "", 0⟩ 4370 none unreachable (ReaderSession.fresh administered) =
        (.ok reply, after) ∧ reply.1.isCreated = true ∧
      ¬ LeavesHolders profileFromFields (administered ⟨"192.168.1.209", 4370⟩)
        (after.world.readers ⟨"192.168.1.209", 4370⟩) "101" (reply.1.commands.getD []) := by
  intro _
  obtain ⟨after, ran, same⟩ := createDeviceUser_unreachable defaultRegistry .initial "ZK1" 4370 none
    administered ⟨"101", "Asha", 0, "", 0⟩ (by decide +kernel) (by decide +kernel)
  refine ⟨_, after, ran, rfl, ?_⟩
  rw [same]
  intro leaves
  have unchanged := leaves ⟨administrator, by decide, by decide +kernel⟩
  exact absurd unchanged (by decide +kernel)

end PumoBioMetric.Core
