import Mathlib.Data.List.Nodup
import PumoBioMetric.Library.Mailboxes
import PumoBioMetric.Py.Split
import PumoBioMetric.Router.CommandQueue

/-!
# Commands reach their reader in order

Any sequence of `queue_device_cmd` calls and `getrequest` polls.  The lists under the
serials that are not blank are mailboxes, and the counter numbers every command.
-/

set_option autoImplicit false

namespace PumoBioMetric.Router

open Py TransitionRun

inductive CommandEvent where
  | queue (sn cmdBody : String)
  | poll (sn : Option String)
deriving DecidableEq, Repr

inductive CommandRecord where
  | queued (sn command : String)
  | polled (sn : Option String) (answer : String)
deriving DecidableEq, Repr

def CommandQueue.waiting (queue : CommandQueue) (cleanSn : String) : List String :=
  (queue.pending.get? cleanSn).getD []

section

variable [UnicodeTables]

/-- `str(sn or "").strip().upper()`. -/
def cleanSerial (sn : Option String) : String := upper (strip (sn.getD ""))

def commandStep (queue : CommandQueue) : CommandEvent → CommandRecord × CommandQueue
  | .queue sn cmdBody =>
      let (command, after) := queueDeviceCmd queue sn cmdBody
      (.queued sn command, after)
  | .poll sn =>
      let (answer, after) := pollCommand queue sn
      (.polled sn answer, after)

/-- One record for each event, see `runCommands_records`. -/
def runCommands (queue : CommandQueue) :
    List CommandEvent → List CommandRecord × CommandQueue
  | [] => ([], queue)
  | event :: rest =>
      let (record, after) := commandStep queue event
      let (records, final) := runCommands after rest
      (record :: records, final)

/-- The record is of the event: a command carries its body, and an answer goes to its poll. -/
def CommandEvent.RecordedAs : CommandEvent → CommandRecord → Prop
  | .queue sn cmdBody, .queued reader command =>
      reader = sn ∧ ∃ number : Nat, command = "C:" ++ toString number ++ ":" ++ strip cmdBody
  | .poll sn, .polled reader _ => reader = sn
  | _, _ => False

theorem runCommands_records (queue : CommandQueue) (events : List CommandEvent) :
    List.Forall₂ CommandEvent.RecordedAs events (runCommands queue events).1 := by
  induction events generalizing queue with
  | nil => exact .nil
  | cons event rest ih =>
      refine .cons ?_ (ih (commandStep queue event).2)
      cases event with
      | queue sn cmdBody => exact ⟨rfl, queue.counter + 1, rfl⟩
      | poll sn => exact Eq.refl sn

/-! ## What a history says -/

def CommandRecord.queuedFor (cleanSn : String) : CommandRecord → Option String
  | .queued sn command => if cleanSerial (some sn) = cleanSn then some command else none
  | .polled _ _ => none

def CommandRecord.answeredTo (cleanSn : String) : CommandRecord → Option String
  | .queued _ _ => none
  | .polled sn answer =>
      if cleanSerial sn = cleanSn ∧ answer ≠ "OK" then some answer else none

end

def CommandRecord.command : CommandRecord → Option String
  | .queued _ command => some command
  | .polled _ _ => none

def commandNumber (command : String) : Option Int :=
  match splitOnce ':' command with
  | some (_, numbered) =>
      match splitOnce ':' numbered with
      | some (number, _) => int? number
      | none => none
  | none => none

example : commandNumber "C:1001:DATA QUERY USERINFO" = some 1001 := by decide

/-! ## Numbers -/

theorem commandNumber_text (number : Nat) (body : String) :
    commandNumber ("C:" ++ toString number ++ ":" ++ body) = some (number : Int) := by
  have whole : ("C:" ++ toString number ++ ":" ++ body).toList =
      ['C'] ++ ':' :: ((toString number).toList ++ ':' :: body.toList) := by
    simp [String.toList_append]
  have digits : ':' ∉ (toString number).toList := by
    rw [toList_toString]
    intro member
    exact absurd (toDigits_isDigit number ':' member) (by decide)
  have numbered := splitOnce_of_toList
    (String.toList_ofList (l := (toString number).toList ++ ':' :: body.toList)) digits
  rw [commandNumber, splitOnce_of_toList whole (by decide)]
  simp only [numbered, String.ofList_toList, int?_toString]

section

variable [UnicodeTables]

theorem counter_pollCommand (queue : CommandQueue) (sn : Option String) :
    (pollCommand queue sn).2.counter = queue.counter := by
  simp only [pollCommand, CommandQueue.serve]
  split
  · rfl
  · split <;> rfl

theorem numbers_runCommands (queue : CommandQueue) (events : List CommandEvent) :
    ∃ count, ((runCommands queue events).1.filterMap CommandRecord.command).map commandNumber =
      (List.range' (queue.counter + 1) count).map fun number : Nat => some (number : Int) := by
  induction events generalizing queue with
  | nil => exact ⟨0, rfl⟩
  | cons event rest ih =>
      obtain ⟨count, numbers⟩ := ih (commandStep queue event).2
      cases event with
      | queue sn cmdBody =>
          refine ⟨count + 1, ?_⟩
          simp only [runCommands, commandStep, queueDeviceCmd] at numbers ⊢
          simp only [List.filterMap_cons, CommandRecord.command, List.map_cons, numbers,
            commandNumber_text, List.range'_succ]
      | poll sn =>
          refine ⟨count, ?_⟩
          have same : (commandStep queue (.poll sn)).2.counter = queue.counter :=
            counter_pollCommand queue sn
          rw [same] at numbers
          simpa only [runCommands, commandStep, List.filterMap_cons, CommandRecord.command]
            using numbers

/-! ## Mailboxes -/

def CommandQueue.boxes (queue : CommandQueue) (cleanSn : String) : List String :=
  if cleanSn = "" then [] else queue.waiting cleanSn

def CommandRecord.entry : CommandRecord → Option (Mailboxes.Entry String String)
  | .queued sn command =>
      if cleanSerial (some sn) = "" then none else some (.put (cleanSerial (some sn)) command)
  | .polled sn answer =>
      if cleanSerial sn = "" then none
      else if answer = "OK" then some (.nothing (cleanSerial sn))
      else some (.got (cleanSerial sn) answer)

/-- Nothing that waits can be taken for the answer of an empty queue. -/
def CommandQueue.Proper (queue : CommandQueue) : Prop :=
  ∀ cleanSn, ∀ command ∈ queue.waiting cleanSn, command ≠ "OK"

omit [UnicodeTables] in
theorem waiting_set (counter : Nat) (pending : Dict (List String)) (key : String)
    (commands : List String) :
    (CommandQueue.mk counter (pending.set key commands)).waiting =
      Function.update (CommandQueue.mk counter pending).waiting key commands := by
  funext other
  rw [CommandQueue.waiting, Dict.get?_set, Function.update_apply]
  split <;> rfl

omit [UnicodeTables] in
theorem boxes_of_update {queue after : CommandQueue} {key : String} {commands : List String}
    (changed : after.waiting = Function.update queue.waiting key commands) :
    after.boxes = if key = "" then queue.boxes else Function.update queue.boxes key commands := by
  funext other
  by_cases blank : key = ""
  · subst blank
    rw [if_pos rfl, CommandQueue.boxes, CommandQueue.boxes, changed]
    by_cases same : other = ""
    · rw [if_pos same, if_pos same]
    · rw [if_neg same, if_neg same, Function.update_of_ne same]
  · rw [if_neg blank, Function.update_apply, CommandQueue.boxes, CommandQueue.boxes, changed,
      Function.update_apply]
    by_cases same : other = key
    · rw [if_pos same, if_pos same, same, if_neg blank]
    · rw [if_neg same, if_neg same]

omit [UnicodeTables] in
theorem proper_of_update {queue after : CommandQueue} {key : String} {commands : List String}
    (proper : queue.Proper) (changed : after.waiting = Function.update queue.waiting key commands)
    (new : ∀ command ∈ commands, command ≠ "OK") : after.Proper := by
  intro other command listed
  rw [changed, Function.update_apply] at listed
  split at listed
  · exact new command listed
  · exact proper other command listed

omit [UnicodeTables] in
theorem command_ne_ok (number : Nat) (body : String) :
    "C:" ++ toString number ++ ":" ++ body ≠ "OK" := by
  intro same
  have chars := congrArg String.toList same
  simp [String.toList_append] at chars

theorem queue_boxes {queue : CommandQueue} (proper : queue.Proper) (sn cmdBody : String) :
    Run Mailboxes.Step queue.boxes (commandStep queue (.queue sn cmdBody)).1.entry.toList
        (commandStep queue (.queue sn cmdBody)).2.boxes ∧
      (commandStep queue (.queue sn cmdBody)).2.Proper := by
  have changed : (commandStep queue (.queue sn cmdBody)).2.waiting =
      Function.update queue.waiting (cleanSerial (some sn))
        (queue.waiting (cleanSerial (some sn)) ++ [(queueDeviceCmd queue sn cmdBody).1]) :=
    waiting_set _ _ _ _
  have entry : (commandStep queue (.queue sn cmdBody)).1.entry =
      if cleanSerial (some sn) = "" then none
      else some (.put (cleanSerial (some sn)) (queueDeviceCmd queue sn cmdBody).1) := rfl
  constructor
  · rw [boxes_of_update changed, entry]
    by_cases blank : cleanSerial (some sn) = ""
    · rw [if_pos blank, if_pos blank]
      exact .nil _
    · have own : queue.waiting (cleanSerial (some sn)) = queue.boxes (cleanSerial (some sn)) := by
        rw [CommandQueue.boxes, if_neg blank]
      rw [if_neg blank, if_neg blank, own]
      exact .cons (.put _ _) (.nil _)
  · refine proper_of_update proper changed ?_
    intro command listed
    rcases List.mem_append.mp listed with before | new
    · exact proper _ command before
    · rw [List.mem_singleton.mp new]
      exact command_ne_ok _ _

omit [UnicodeTables] in
theorem serve_cases (queue : CommandQueue) (key : String) :
    (queue.waiting key = [] ∧ queue.serve key = ("OK", queue)) ∨
      ∃ command rest, queue.waiting key = command :: rest ∧ (queue.serve key).1 = command ∧
        (queue.serve key).2.waiting = Function.update queue.waiting key rest := by
  unfold CommandQueue.serve CommandQueue.waiting
  split
  · rename_i command rest held
    exact Or.inr ⟨command, rest, by rw [held]; rfl, rfl, waiting_set _ _ _ _⟩
  · rename_i none
    left
    cases held : queue.pending.get? key with
    | none => exact ⟨rfl, rfl⟩
    | some commands =>
        cases commands with
        | nil => exact ⟨rfl, rfl⟩
        | cons command rest => exact absurd held (none command rest)

theorem poll_boxes {queue : CommandQueue} (proper : queue.Proper) (sn : Option String) :
    Run Mailboxes.Step queue.boxes (commandStep queue (.poll sn)).1.entry.toList
        (commandStep queue (.poll sn)).2.boxes ∧
      (commandStep queue (.poll sn)).2.Proper := by
  by_cases blank : cleanSerial sn = ""
  · have answer : pollCommand queue sn = ("OK", queue) := if_pos blank
    simp only [commandStep, answer, CommandRecord.entry, blank, if_true]
    exact ⟨.nil _, proper⟩
  · have answer : pollCommand queue sn = queue.serve (cleanSerial sn) := if_neg blank
    have own : queue.waiting (cleanSerial sn) = queue.boxes (cleanSerial sn) := by
      rw [CommandQueue.boxes, if_neg blank]
    rcases serve_cases queue (cleanSerial sn) with
      ⟨empty, served⟩ | ⟨command, rest, oldest, served, changed⟩
    · simp only [commandStep, answer, served, CommandRecord.entry, blank, if_false, if_true]
      exact ⟨.cons (.nothing _ (own.symm.trans empty)) (.nil _), proper⟩
    · have present : command ≠ "OK" := proper _ command (oldest ▸ List.mem_cons_self)
      simp only [commandStep, answer, served, CommandRecord.entry, blank, present, if_false]
      refine ⟨?_, proper_of_update proper changed fun other listed =>
        proper _ other (oldest ▸ List.mem_cons_of_mem _ listed)⟩
      rw [boxes_of_update changed, if_neg blank]
      exact .cons (.got _ _ _ (own.symm.trans oldest)) (.nil _)

theorem commandStep_boxes {queue : CommandQueue} (proper : queue.Proper) (event : CommandEvent) :
    Run Mailboxes.Step queue.boxes (commandStep queue event).1.entry.toList
        (commandStep queue event).2.boxes ∧
      (commandStep queue event).2.Proper := by
  cases event with
  | queue sn cmdBody => exact queue_boxes proper sn cmdBody
  | poll sn => exact poll_boxes proper sn

/-- Any sequence of calls and polls is a run of mailboxes. -/
theorem runCommands_boxes {queue : CommandQueue} (proper : queue.Proper)
    (events : List CommandEvent) :
    Run Mailboxes.Step queue.boxes ((runCommands queue events).1.filterMap CommandRecord.entry)
        (runCommands queue events).2.boxes ∧
      (runCommands queue events).2.Proper := by
  induction events generalizing queue with
  | nil => exact ⟨.nil _, proper⟩
  | cons event rest ih =>
      obtain ⟨here, kept⟩ := commandStep_boxes proper event
      obtain ⟨onward, final⟩ := ih kept
      have entries : (runCommands queue (event :: rest)).1.filterMap CommandRecord.entry =
          (commandStep queue event).1.entry.toList ++
            (runCommands (commandStep queue event).2 rest).1.filterMap CommandRecord.entry := by
        cases entry : (commandStep queue event).1.entry <;> simp [runCommands, entry]
      rw [entries]
      exact ⟨here.append onward, final⟩

theorem putFor_entry {cleanSn : String} (present : cleanSn ≠ "") (record : CommandRecord) :
    record.entry.bind (Mailboxes.Entry.putFor cleanSn) = record.queuedFor cleanSn := by
  cases record with
  | queued sn command =>
      by_cases blank : cleanSerial (some sn) = ""
      · simp [CommandRecord.entry, CommandRecord.queuedFor, blank, Ne.symm present]
      · simp [CommandRecord.entry, CommandRecord.queuedFor, blank, Mailboxes.Entry.putFor]
  | polled sn answer =>
      simp only [CommandRecord.entry, CommandRecord.queuedFor]
      split
      · rfl
      · split <;> rfl

theorem gotFor_entry {cleanSn : String} (present : cleanSn ≠ "") (record : CommandRecord) :
    record.entry.bind (Mailboxes.Entry.gotFor cleanSn) = record.answeredTo cleanSn := by
  cases record with
  | queued sn command =>
      simp only [CommandRecord.entry, CommandRecord.answeredTo]
      split <;> rfl
  | polled sn answer =>
      by_cases blank : cleanSerial sn = ""
      · simp [CommandRecord.entry, CommandRecord.answeredTo, blank, Ne.symm present]
      · by_cases none : answer = "OK"
        · simp [CommandRecord.entry, CommandRecord.answeredTo, blank, none,
            Mailboxes.Entry.gotFor]
        · simp [CommandRecord.entry, CommandRecord.answeredTo, blank, none,
            Mailboxes.Entry.gotFor]

/-! ## Delivery -/

omit [UnicodeTables] in
theorem proper_initial : CommandQueue.initial.Proper := by
  intro cleanSn command listed
  cases listed

/-- What was answered to a reader followed by what waits for it is what was queued for it. -/
theorem answered_append_waiting (events : List CommandEvent) {cleanSn : String}
    (present : cleanSn ≠ "") :
    (runCommands CommandQueue.initial events).1.filterMap (CommandRecord.answeredTo cleanSn) ++
        (runCommands CommandQueue.initial events).2.waiting cleanSn =
      (runCommands CommandQueue.initial events).1.filterMap
        (CommandRecord.queuedFor cleanSn) := by
  have balanced := Mailboxes.balanced (runCommands_boxes proper_initial events).1 cleanSn
  have empty : CommandQueue.initial.boxes cleanSn = [] := if_neg present
  have left : (runCommands CommandQueue.initial events).2.boxes cleanSn =
      (runCommands CommandQueue.initial events).2.waiting cleanSn := if_neg present
  rw [List.filterMap_filterMap, List.filterMap_filterMap, empty, List.nil_append, left] at balanced
  simp only [putFor_entry present, gotFor_entry present] at balanced
  exact balanced.symm

theorem waiting_of_ok {queue : CommandQueue} (proper : queue.Proper) {sn : Option String}
    (present : cleanSerial sn ≠ "") (answer : (pollCommand queue sn).1 = "OK") :
    queue.waiting (cleanSerial sn) = [] := by
  have served : pollCommand queue sn = queue.serve (cleanSerial sn) := if_neg present
  rcases serve_cases queue (cleanSerial sn) with ⟨empty, _⟩ | ⟨command, rest, oldest, given, _⟩
  · exact empty
  · rw [served, given] at answer
    exact absurd answer (proper _ command (oldest ▸ List.mem_cons_self))

/-- The commands carry these numbers, each higher than the one before. -/
def Numbered (commands : List String) (numbering : List Int) : Prop :=
  commands.map commandNumber = numbering.map some ∧ numbering.Pairwise (· < ·)

omit [UnicodeTables] in
theorem numbered_of_range' {commands : List String} {first count : Nat}
    (numbers : commands.map commandNumber =
      (List.range' first count).map fun number : Nat => some (number : Int)) :
    ∃ numbering, Numbered commands numbering := by
  refine ⟨(List.range' first count).map fun number : Nat => (number : Int), ?_, ?_⟩
  · rw [numbers, List.map_map]
    rfl
  · have increasing : (List.range' first count).Pairwise (· < ·) := List.pairwise_lt_range'
    exact List.pairwise_map.mpr (increasing.imp Int.ofNat_lt.mpr)

omit [UnicodeTables] in
theorem Numbered.nodup {commands : List String} {numbering : List Int}
    (numbered : Numbered commands numbering) : commands.Nodup := by
  have distinct : (numbering.map some).Nodup :=
    List.Nodup.map (Option.some_injective Int) (numbered.2.imp Int.ne_of_lt)
  rw [← numbered.1] at distinct
  exact List.Nodup.of_map _ distinct

/-- After every sequence of calls and polls: for each reader, what was answered followed by
what waits is what was queued, in order; `OK` answers a poll only where nothing waits; and
all commands ever queued are distinct and numbered upwards. -/
theorem commands_delivered_in_order (events : List CommandEvent) :
    (∀ cleanSn, cleanSn ≠ "" →
      (runCommands CommandQueue.initial events).1.filterMap (CommandRecord.answeredTo cleanSn) ++
          (runCommands CommandQueue.initial events).2.waiting cleanSn =
        (runCommands CommandQueue.initial events).1.filterMap
          (CommandRecord.queuedFor cleanSn)) ∧
    (∀ sn, cleanSerial sn ≠ "" →
      (pollCommand (runCommands CommandQueue.initial events).2 sn).1 = "OK" →
        (runCommands CommandQueue.initial events).2.waiting (cleanSerial sn) = []) ∧
    ((runCommands CommandQueue.initial events).1.filterMap CommandRecord.command).Nodup ∧
    ∃ numbering,
      Numbered ((runCommands CommandQueue.initial events).1.filterMap CommandRecord.command)
        numbering := by
  obtain ⟨count, numbers⟩ := numbers_runCommands CommandQueue.initial events
  obtain ⟨numbering, numbered⟩ := numbered_of_range' numbers
  refine ⟨fun cleanSn present => answered_append_waiting events present, ?_, numbered.nodup,
    numbering, numbered⟩
  intro sn present answer
  exact waiting_of_ok (runCommands_boxes proper_initial events).2 present answer

end

end PumoBioMetric.Router
