import PumoBioMetric.Core.ReaderCalls
import PumoBioMetric.Py.Split

/-!
# What the queued commands carry

When the direct connection fails, `create_device_user` and `delete_device_user_real` put
commands on the queue: one line each, with the fields separated by tabs.  The requested
values are written into it as they are.
-/

set_option autoImplicit false

namespace PumoBioMetric.Core

open Py FaultyCalls Router

/-! ## Lines of fields -/

/-- Text that neither ends a field nor a line. -/
def Plain (text : String) : Prop := ∀ char ∈ text.toList, char ≠ '\t' ∧ char ≠ '\r' ∧ char ≠ '\n'

instance (text : String) : Decidable (Plain text) := List.decidableBAll _ _

theorem plain_append {front back : String} :
    Plain (front ++ back) ↔ Plain front ∧ Plain back := by
  unfold Plain
  rw [String.toList_append]
  exact List.forall_mem_append

/-- One line, whose body after the number has these fields. -/
def CarriesExactly (command : String) (fields : List String) : Prop :=
  (∀ char ∈ command.toList, char ≠ '\r' ∧ char ≠ '\n') ∧
    ∃ (number : Nat) (body : String), command = "C:" ++ toString number ++ ":" ++ body ∧
      splitChar '\t' body = fields

theorem plain_toString (number : Nat) : Plain (toString number) := by
  intro char member
  rw [toList_toString] at member
  have digit := toDigits_isDigit number char member
  refine ⟨?_, ?_, ?_⟩ <;> rintro rfl <;> exact absurd digit (by decide)

theorem plain_int (number : Int) : Plain (toString number) := by
  cases number with
  | ofNat value => exact plain_toString value
  | negSucc value =>
      have spelled : toString (Int.negSucc value) = "-" ++ toString (value + 1) := rfl
      rw [spelled, plain_append]
      exact ⟨by simp [Plain], plain_toString _⟩

theorem splitOnce_numbered (number : Nat) (body : String) :
    splitOnce ':' (toString number ++ ":" ++ body) = some (toString number, body) := by
  have whole : (toString number ++ ":" ++ body).toList =
      Nat.toDigits 10 number ++ ':' :: body.toList := by
    simp
  have absent : ':' ∉ Nat.toDigits 10 number := fun member =>
    absurd (toDigits_isDigit number ':' member) (by decide)
  rw [splitOnce_of_toList whole absent, ← toList_toString, String.ofList_toList,
    String.ofList_toList]

theorem body_inj {left right : Nat} {leftBody rightBody : String}
    (same : "C:" ++ toString left ++ ":" ++ leftBody = "C:" ++ toString right ++ ":" ++ rightBody) :
    leftBody = rightBody := by
  simp only [String.append_assoc] at same
  have rest := String.append_right_inj "C:" |>.mp same
  simp only [← String.append_assoc] at rest
  have split := splitOnce_numbered left leftBody
  rw [rest, splitOnce_numbered] at split
  exact (Prod.mk.inj (Option.some.inj split)).2.symm

/-- A numbered line of joined fields carries them exactly if every field is plain. -/
theorem carriesExactly_iff {number : Nat} {fields : List String} (present : fields ≠ []) :
    CarriesExactly ("C:" ++ toString number ++ ":" ++ joinChar '\t' fields) fields ↔
      ∀ field ∈ fields, Plain field := by
  constructor
  · rintro ⟨line, other, body, same, split⟩ field listed char member
    rw [← body_inj same, splitChar_joinChar_iff present] at split
    have inLine : char ∈ (joinChar '\t' fields).toList := mem_joinChar_of_mem listed member
    refine ⟨?_, line char (by rw [String.toList_append]; exact List.mem_append_right _ inLine)⟩
    rintro rfl
    exact split field listed member
  · intro plain
    have apart : ∀ field ∈ fields, '\t' ∉ field.toList :=
      fun field listed member => (plain field listed '\t' member).1 rfl
    refine ⟨?_, number, _, rfl, splitChar_joinChar apart present⟩
    intro char member
    have front : Plain ("C:" ++ toString number ++ ":") := by
      rw [plain_append, plain_append]
      exact ⟨⟨by simp [Plain], plain_toString number⟩, by simp [Plain]⟩
    rw [String.toList_append] at member
    rcases List.mem_append.mp member with numbered | joined
    · exact (front char numbered).2
    · rcases mem_joinChar joined with rfl | ⟨field, listed, inside⟩
      · decide
      · exact (plain field listed char inside).2

/-! ## The builders -/

def creationFields (user : NewUser) : List String :=
  ["DATA UPDATE USERINFO PIN=" ++ user.pin, "Name=" ++ user.cleanName,
    "Pri=" ++ toString user.role, "Passwd=" ++ user.password, "Card=" ++ toString user.card, "Grp=1"]

theorem joinChar_tab_cons (field next : String) (fields : List String) :
    joinChar '\t' (field :: next :: fields) = field ++ ("\t" ++ joinChar '\t' (next :: fields)) := by
  apply String.toList_injective
  rw [toList_joinChar_cons, String.toList_append, String.toList_append]
  rfl

theorem joinChar_single (separator : Char) (field : String) : joinChar separator [field] = field := by
  apply String.toList_injective
  rw [toList_joinChar_single]

theorem tab_append {head whole : String} (literal : "\t" ++ head = whole) (text : String) :
    "\t" ++ (head ++ text) = whole ++ text := by
  rw [← String.append_assoc, literal]

theorem creationCommand_eq (user : NewUser) :
    creationCommand user = joinChar '\t' (creationFields user) := by
  have name := @tab_append "Name=" "\tName=" (by decide +kernel)
  have privilege := @tab_append "Pri=" "\tPri=" (by decide +kernel)
  have password := @tab_append "Passwd=" "\tPasswd=" (by decide +kernel)
  have card := @tab_append "Card=" "\tCard=" (by decide +kernel)
  have group : "\t" ++ "Grp=1" = "\tGrp=1" := by decide +kernel
  unfold creationCommand creationFields
  simp only [joinChar_tab_cons, joinChar_single, String.append_assoc]
  rw [name, privilege, password, card, group]

theorem strip_command {text : String} {middle : List Char} {last : Char}
    (whole : text.toList = "DATA".toList ++ (middle ++ [last])) (visible : isSpace last = false) :
    strip text = text := by
  have front : ("DATA".toList.all fun char => isSpace char = false) = true := by decide
  exact strip_of_ends middle whole (by decide) (by simp) (by simpa using front)
    (by simpa using visible)

theorem strip_creationCommand (user : NewUser) :
    strip (creationCommand user) = creationCommand user := by
  obtain ⟨middle, whole⟩ := joinChar_ends '\t' ("DATA UPDATE USERINFO PIN=" ++ user.pin)
    ["Name=" ++ user.cleanName, "Pri=" ++ toString user.role, "Passwd=" ++ user.password,
      "Card=" ++ toString user.card] "Grp=1"
  have head : "DATA UPDATE USERINFO PIN=" = "DATA" ++ " UPDATE USERINFO PIN=" := by decide +kernel
  have last : "Grp=1" = "Grp=" ++ "1" := by decide +kernel
  refine @strip_command _ (" UPDATE USERINFO PIN=".toList ++ user.pin.toList ++ middle ++
    "Grp=".toList) '1' ?_ (by decide)
  rw [creationCommand_eq]
  refine whole.trans ?_
  rw [head, last]
  simp only [String.toList_append, List.append_assoc]
  rfl

def deletionHeads (deleteBiometricsOnly : Bool) : List String :=
  (if deleteBiometricsOnly then [] else ["DATA DELETE USERINFO PIN=", "DATA DELETE USER PIN="]) ++
    ["DATA DELETE FINGERTMP PIN=", "DATA DELETE BIOPHOTO PIN="]

theorem deletionCommands_eq (userId : String) (deleteBiometricsOnly : Bool) :
    deletionCommands userId deleteBiometricsOnly =
      (deletionHeads deleteBiometricsOnly).map fun head => head ++ strip userId := by
  cases deleteBiometricsOnly <;> rfl

theorem strip_deletionCommand {deleteBiometricsOnly : Bool} {head : String}
    (listed : head ∈ deletionHeads deleteBiometricsOnly) (userId : String) :
    strip (head ++ strip userId) = head ++ strip userId := by
  have heads : ∀ biometricsOnly, ∀ head ∈ deletionHeads biometricsOnly,
      strip head = head ∧ "DATA".toList <+: head.toList := by
    decide +kernel
  obtain ⟨stripped, rest, data⟩ := heads deleteBiometricsOnly head listed
  by_cases empty : strip userId = ""
  · rw [empty, String.append_empty]
    exact stripped
  · obtain ⟨init, last, ends, visible⟩ := strip_last empty
    refine @strip_command _ (rest ++ init) last ?_ visible
    rw [String.toList_append, ← data, ends]
    simp only [List.append_assoc]

theorem plain_deletionHeads {deleteBiometricsOnly : Bool} {head : String}
    (listed : head ∈ deletionHeads deleteBiometricsOnly) : Plain head := by
  have heads : ∀ biometricsOnly, ∀ head ∈ deletionHeads biometricsOnly, Plain head := by
    decide +kernel
  exact heads deleteBiometricsOnly head listed

/-! ## The queue after a call -/

section

variable [UnicodeTables]

/-- The commands that wait for the reader after those that waited before. -/
def Gained (before after : CommandQueue) (sn : String) (commands : List String) : Prop :=
  (after.pending.get? (upper (strip sn))).getD [] =
    (before.pending.get? (upper (strip sn))).getD [] ++ commands

theorem gained_queueDeviceCmd (queue : CommandQueue) (sn body : String) :
    Gained queue (queueDeviceCmd queue sn body).2 sn [(queueDeviceCmd queue sn body).1] := by
  unfold Gained queueDeviceCmd
  simp only [Dict.get?_set, if_true, Option.getD_some]

theorem Gained.trans {first second third : CommandQueue} {sn : String}
    {commands more : List String} (one : Gained first second sn commands)
    (two : Gained second third sn more) : Gained first third sn (commands ++ more) := by
  unfold Gained at *
  rw [two, one, List.append_assoc]

theorem gained_queueAll (queue : CommandQueue) (sn : String) (bodies : List String) :
    Gained queue (queueAll queue sn bodies).2 sn (queueAll queue sn bodies).1 := by
  induction bodies generalizing queue with
  | nil => simp [Gained, queueAll]
  | cons body rest ih =>
      have one := gained_queueDeviceCmd queue sn body
      exact one.trans (ih _)

theorem queueDeviceCmd_fst (queue : CommandQueue) (sn : String) {body : String}
    (stripped : strip body = body) :
    (queueDeviceCmd queue sn body).1 = "C:" ++ toString (queue.counter + 1) ++ ":" ++ body := by
  rw [queueDeviceCmd, stripped]

/-- The commands of a deletion carry the PIN alone exactly if it is plain. -/
theorem carries_queueAll {heads : List String} {pin : String}
    (stripped : ∀ head ∈ heads, strip (head ++ pin) = head ++ pin)
    (plain : ∀ head ∈ heads, Plain head) (queue : CommandQueue) (sn : String) :
    List.Forall₂ CarriesExactly (queueAll queue sn (heads.map fun head => head ++ pin)).1
        (heads.map fun head => [head ++ pin]) ↔ ∀ head ∈ heads, Plain pin := by
  induction heads generalizing queue with
  | nil => simp [queueAll]
  | cons head rest ih =>
      have restIff := ih (fun other listed => stripped other (List.mem_cons_of_mem _ listed))
        (fun other listed => plain other (List.mem_cons_of_mem _ listed))
        (queueDeviceCmd queue sn (head ++ pin)).2
      have here : CarriesExactly (queueDeviceCmd queue sn (head ++ pin)).1 [head ++ pin] ↔
          Plain pin := by
        have line := @carriesExactly_iff (queue.counter + 1) [head ++ pin] (by simp)
        rw [joinChar_single] at line
        rw [queueDeviceCmd_fst queue sn (stripped head List.mem_cons_self), line]
        simp [plain_append, plain head List.mem_cons_self]
      simp only [List.map_cons, queueAll, List.forall₂_cons, List.forall_mem_cons, here, restIff]

theorem carries_queueCreation (queue : CommandQueue) (sn : String) (user : NewUser) :
    CarriesExactly (queueDeviceCmd queue sn (creationCommand user)).1 (creationFields user) ↔
      Plain user.pin ∧ Plain user.cleanName ∧ Plain user.password := by
  have literals : Plain "DATA UPDATE USERINFO PIN=" ∧ Plain "Name=" ∧ Plain "Pri=" ∧
      Plain "Passwd=" ∧ Plain "Card=" ∧ Plain "Grp=1" := by
    decide +kernel
  have role : Plain user.role.repr := plain_int _
  have card : Plain user.card.repr := plain_int _
  rw [queueDeviceCmd_fst queue sn (strip_creationCommand user), creationCommand_eq,
    carriesExactly_iff (by simp [creationFields])]
  simp [creationFields, plain_append, literals, role, card]

end

/-! ## Runs -/

section

variable {Net : Type} [Network Net] {faults : Faults String}

def CreateReply.commands : CreateReply → Option (List String)
  | .queued _ _ _ command => some [command]
  | _ => none

def DeletionReply.commands : DeletionReply → Option (List String)
  | .queued _ _ _ commands => some commands
  | _ => none

theorem createOnReader_queues_nothing (user : NewUser) (sn ip : String) (port : Int) :
    Meets faults (fun _ => True) (createOnReader user sn ip port : ReaderProgram Net CreateReply)
      (fun reply _ => reply.commands = none) fun _ => True := by
  unfold createOnReader
  apply Meets.bind meets_true
  intro conn
  apply Meets.bind meets_true
  intro _
  apply Meets.bind meets_true
  intro users
  by_cases taken : users.any (ZkUser.hasId user.pin) = true
  · rw [if_pos taken]
    exact meets_pure _ fun _ _ => rfl
  · rw [if_neg taken]
    apply Meets.bind meets_true
    intro _
    apply Meets.bind meets_true
    intro _
    apply Meets.bind meets_true
    intro listed
    cases listed.find? (ZkUser.hasId user.pin) with
    | none => exact meets_raise _ fun _ _ => trivial
    | some created => exact meets_pure _ fun _ _ => rfl

theorem deleteOnReader_queues_nothing (sn ip : String) (port : Int) (userId : String)
    (deleteBiometricsOnly : Bool) :
    Meets faults (fun _ => True)
      (deleteOnReader sn ip port userId deleteBiometricsOnly : ReaderProgram Net DeletionReply)
      (fun reply _ => reply.commands = none) fun _ => True := by
  unfold deleteOnReader
  apply Meets.bind meets_true
  intro conn
  apply Meets.bind meets_true
  intro _
  apply Meets.bind meets_true
  intro users
  cases users.find? (ZkUser.hasId userId) with
  | none =>
      apply Meets.bind meets_true
      intro _
      exact meets_pure _ fun _ _ => rfl
  | some user =>
      cases deleteBiometricsOnly with
      | true =>
          simp only [if_true, wipeTemplates]
          apply Meets.bind meets_true
          intro _
          apply Meets.bind meets_true
          intro _
          apply Meets.bind meets_true
          intro _
          exact meets_pure _ fun _ _ => rfl
      | false =>
          simp only [Bool.false_eq_true, if_false, deleteProfile]
          apply Meets.bind meets_true
          intro _
          apply Meets.bind meets_true
          intro _
          apply Meets.bind meets_true
          intro remaining
          by_cases left : remaining.any (ZkUser.hasId userId) = true
          · rw [if_pos left]
            exact meets_raise _ fun _ _ => trivial
          · rw [if_neg left]
            apply Meets.bind meets_true
            intro _
            exact meets_pure _ fun _ _ => rfl

theorem meets_fallback {Result Final : Type} {body : ReaderProgram Net Result}
    {finish : Result → Final} {fallback : Final} {known : Final → Prop}
    (inner : Meets faults (fun _ => True) body (fun result _ => known (finish result))
      fun _ => True) (fallen : known fallback) :
    Meets faults (fun _ => True)
      (do
        let final ← Program.attempt (do
          let result ← body
          pure (finish result)) fun _ => pure fallback
        let opened ← Program.look Site.opened
        closeConnections opened
        pure final)
      (fun final _ => known final) fun _ => True := by
  have tried : Meets faults (fun _ => True)
      (Program.attempt (do
        let result ← body
        pure (finish result)) fun _ => pure fallback : ReaderProgram Net Final)
      (fun final _ => True ∧ known final) fun _ => True := by
    apply Meets.attempt
    · apply Meets.bind inner
      intro result
      exact meets_pure _ fun _ holds => ⟨trivial, holds⟩
    · intro _
      exact meets_pure _ fun _ _ => ⟨trivial, fallen⟩
  apply Meets.bind tried
  intro final
  apply meets_and_fact
  intro holds
  apply Meets.bind meets_true
  intro opened
  apply Meets.bind meets_true
  intro _
  exact meets_pure _ fun _ _ => holds

end

/-- The calls that fall back to the queue. -/
inductive QueueingCall where
  | create (user : NewUser)
  | delete (userId : String) (deleteBiometricsOnly : Bool)
deriving DecidableEq, Repr

namespace QueueingCall

def requested : QueueingCall → List String
  | create user => [user.pin, user.cleanName, user.password]
  | delete userId _ => [strip userId]

def fields : QueueingCall → List (List String)
  | create user => [creationFields user]
  | delete userId deleteBiometricsOnly =>
      (deletionHeads deleteBiometricsOnly).map fun head => [head ++ strip userId]

section

variable [UnicodeTables] {Net : Type} [Network Net] (hasPyzk : Bool) (registry : Registry)
  (queue : CommandQueue) (deviceId : String) (port : Int) (ipOverride : Option String)

/-- The commands that the call queued, if it did, and the queue after it. -/
def run : QueueingCall → ReaderProgram Net (Option (List String) × CommandQueue)
  | create user => do
      let (reply, after) ← createDeviceUser hasPyzk registry queue deviceId user port ipOverride
      pure (reply.commands, after)
  | delete userId deleteBiometricsOnly => do
      let (reply, after) ← deleteDeviceUserReal hasPyzk registry queue deviceId userId port
        deleteBiometricsOnly ipOverride
      pure (reply.commands, after)

def queued (sn : String) : QueueingCall → List String × CommandQueue
  | create user =>
      let (command, after) := queueDeviceCmd queue sn (creationCommand user)
      ([command], after)
  | delete userId deleteBiometricsOnly =>
      queueAll queue sn (deletionCommands userId deleteBiometricsOnly)

variable {faults : Faults String}

theorem meets_createDeviceUser (user : NewUser) :
    Meets faults (fun _ => True)
      (createDeviceUser hasPyzk registry queue deviceId user port ipOverride :
        ReaderProgram Net (CreateReply × CommandQueue))
      (fun outcome _ => outcome.1.commands = none ∨
        outcome = queueCreation queue user (resolveDevice registry deviceId port).sn)
      fun _ => True := by
  unfold createDeviceUser
  by_cases blank : user.pin = "" ∨ user.cleanName = ""
  · simp only [if_pos blank]
    exact meets_pure _ fun _ _ => .inl rfl
  · by_cases long : 24 < user.pin.length
    · simp only [if_neg blank, if_pos long]
      exact meets_pure _ fun _ _ => .inl rfl
    · cases hasPyzk with
      | false =>
          simp only [if_neg blank, if_neg long, Bool.false_eq_true, if_false]
          exact meets_pure _ fun _ _ => .inl rfl
      | true =>
          simp only [if_neg blank, if_neg long, if_true]
          apply meets_fallback
          · exact (createOnReader_queues_nothing user _ _ _).weaken (fun _ holds => holds)
              (fun _ _ none => .inl none) fun _ holds => holds
          · exact .inr rfl

theorem meets_deleteDeviceUserReal (userId : String) (deleteBiometricsOnly : Bool) :
    Meets faults (fun _ => True)
      (deleteDeviceUserReal hasPyzk registry queue deviceId userId port deleteBiometricsOnly
        ipOverride : ReaderProgram Net (DeletionReply × CommandQueue))
      (fun outcome _ => outcome.1.commands = none ∨ outcome =
        queueDeletion queue (resolveDevice registry deviceId port).sn userId deleteBiometricsOnly)
      fun _ => True := by
  unfold deleteDeviceUserReal
  cases hasPyzk with
  | false =>
      simp only [Bool.false_eq_true, if_false]
      exact meets_pure _ fun _ _ => .inl rfl
  | true =>
      simp only [if_true]
      apply meets_fallback
      · exact (deleteOnReader_queues_nothing _ _ _ userId deleteBiometricsOnly).weaken
          (fun _ holds => holds) (fun _ _ none => .inl none) fun _ holds => holds
      · exact .inr rfl

/-- A call queues nothing or what it queues where the direct connection fails. -/
theorem meets_run (call : QueueingCall) :
    Meets faults (fun _ => True)
      (call.run hasPyzk registry queue deviceId port ipOverride :
        ReaderProgram Net (Option (List String) × CommandQueue))
      (fun outcome _ => outcome.1 = none ∨
        outcome.1 = some (call.queued queue (resolveDevice registry deviceId port).sn).1 ∧
          outcome.2 = (call.queued queue (resolveDevice registry deviceId port).sn).2)
      fun _ => True := by
  cases call with
  | create user =>
      apply Meets.bind (meets_createDeviceUser hasPyzk registry queue deviceId port ipOverride user)
      intro outcome
      apply meets_pure
      rintro _ (none | rfl)
      · exact .inl none
      · exact .inr ⟨rfl, rfl⟩
  | delete userId deleteBiometricsOnly =>
      apply Meets.bind (meets_deleteDeviceUserReal hasPyzk registry queue deviceId port ipOverride
        userId deleteBiometricsOnly)
      intro outcome
      apply meets_pure
      rintro _ (none | rfl)
      · exact .inl none
      · exact .inr ⟨rfl, rfl⟩

omit [Network Net] in
theorem gained_queued (call : QueueingCall) (sn : String) :
    Gained queue (call.queued queue sn).2 sn (call.queued queue sn).1 := by
  cases call with
  | create user => exact gained_queueDeviceCmd queue sn _
  | delete userId deleteBiometricsOnly => exact gained_queueAll queue sn _

omit [Network Net] in
theorem carries_queued_iff (call : QueueingCall) (sn : String) :
    List.Forall₂ CarriesExactly (call.queued queue sn).1 call.fields ↔
      ∀ text ∈ call.requested, Plain text := by
  cases call with
  | create user =>
      simp only [queued, fields, requested, List.forall₂_cons, List.forall₂_nil_left_iff,
        carries_queueCreation, and_true, List.forall_mem_cons, List.not_mem_nil, false_implies,
        implies_true]
  | delete userId deleteBiometricsOnly =>
      have bodies := deletionCommands_eq userId deleteBiometricsOnly
      simp only [queued, fields, requested, bodies]
      rw [carries_queueAll (fun head listed => strip_deletionCommand listed userId)
        fun head listed => plain_deletionHeads listed]
      have some : "DATA DELETE FINGERTMP PIN=" ∈ deletionHeads deleteBiometricsOnly := by
        cases deleteBiometricsOnly <;> decide
      rw [List.forall_mem_singleton]
      exact ⟨fun all => all _ some, fun plain _ _ => plain⟩

/-- What a call queues stands behind the earlier commands of the reader, and carries exactly
the requested fields if and only if no requested text has a tab or a line end. -/
theorem queued_commands_exact_iff (call : QueueingCall) (readers : Net) {commands : List String}
    {after : CommandQueue}
    (ran : (call.run hasPyzk registry queue deviceId port ipOverride faults
      (ReaderSession.fresh readers)).1 = .ok (some commands, after)) :
    Gained queue after (resolveDevice registry deviceId port).sn commands ∧
      (List.Forall₂ CarriesExactly commands call.fields ↔ ∀ text ∈ call.requested, Plain text) := by
  have outcome := (meets_run hasPyzk registry queue deviceId port ipOverride call).of_ok trivial ran
  rcases outcome with none | ⟨same, rfl⟩
  · cases none
  · cases Option.some.inj same
    exact ⟨gained_queued queue call _, carries_queued_iff queue call _⟩

end

/-! ## Readers that cannot be reached -/

def unreachable : Faults String := fun _ => some "timed out"

section

variable [UnicodeTables] {Net : Type} [Network Net] (registry : Registry) (queue : CommandQueue)
  (deviceId : String) (port : Int) (ipOverride : Option String) (readers : Net)

theorem createDeviceUser_unreachable (user : NewUser)
    (named : ¬ (user.pin = "" ∨ user.cleanName = "")) (short : ¬ 24 < user.pin.length) :
    ∃ after, createDeviceUser true registry queue deviceId user port ipOverride unreachable
        (ReaderSession.fresh readers) =
      (.ok (queueCreation queue user (resolveDevice registry deviceId port).sn), after) ∧
        after.world.readers = readers := by
  simp only [createDeviceUser, if_neg named, if_neg short, if_true]
  exact ⟨_, rfl, rfl⟩

theorem create_unreachable (user : NewUser) (named : ¬ (user.pin = "" ∨ user.cleanName = ""))
    (short : ¬ 24 < user.pin.length) :
    ((QueueingCall.create user).run true registry queue deviceId port ipOverride unreachable
        (ReaderSession.fresh readers)).1 =
      .ok (some ((QueueingCall.create user).queued queue (resolveDevice registry deviceId port).sn).1,
        ((QueueingCall.create user).queued queue (resolveDevice registry deviceId port).sn).2) := by
  obtain ⟨after, ran, _⟩ := createDeviceUser_unreachable registry queue deviceId port ipOverride
    readers user named short
  rw [run, bind_of_returns ran]
  rfl

end

theorem queued_commands_exact_plain :
    let := UnicodeTables.ascii
    let call := QueueingCall.create ⟨" 101 ", "Asha", 0, "", 0⟩
    ∃ commands after, (call.run true defaultRegistry .initial "ZK1" 4370 none unreachable
        (ReaderSession.fresh fun _ : Address => Reader.mk [] [] 10)).1 = .ok (some commands, after) ∧
      List.Forall₂ CarriesExactly commands call.fields := by
  intro _ call
  have ran := create_unreachable defaultRegistry .initial "ZK1" 4370 none
    (fun _ : Address => Reader.mk [] [] 10) ⟨" 101 ", "Asha", 0, "", 0⟩
    (by decide +kernel) (by decide +kernel)
  refine ⟨_, _, ran, ?_⟩
  apply (queued_commands_exact_iff _ _ _ _ _ _ call _ ran).2.mpr
  decide +kernel

def promotedCommand : String :=
  "C:1001:DATA UPDATE USERINFO PIN=101\tName=Asha\tPri=14\tPri=0\tPasswd=\tCard=0\tGrp=1"

/-- A name that brings a privilege of its own. -/
theorem queued_name_adds_privilege :
    let := UnicodeTables.ascii
    let call := QueueingCall.create ⟨"101", "Asha\tPri=14", 0, "", 0⟩
    ∃ after, (call.run true defaultRegistry .initial "ZK1" 4370 none unreachable
        (ReaderSession.fresh fun _ : Address => Reader.mk [] [] 10)).1 =
          .ok (some [promotedCommand], after) ∧
      ¬ List.Forall₂ CarriesExactly [promotedCommand] call.fields := by
  intro _ call
  have ran := create_unreachable defaultRegistry .initial "ZK1" 4370 none
    (fun _ : Address => Reader.mk [] [] 10) ⟨"101", "Asha\tPri=14", 0, "", 0⟩
    (by decide +kernel) (by decide +kernel)
  have text : (call.queued .initial (resolveDevice defaultRegistry "ZK1" 4370).sn).1 =
      [promotedCommand] := by
    decide +kernel
  refine ⟨_, ran.trans (by rw [text]), ?_⟩
  rw [← text, carries_queued_iff]
  decide +kernel

end QueueingCall

end PumoBioMetric.Core
