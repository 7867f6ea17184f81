import PumoBioMetric.Sync.PunchJson
import PumoBioMetric.Sync.SpoolFile

/-!
# The text of the spool file

One JSON line for each punch.  Without I/O errors and with one call at a time the file
is its text, or absent; `drain` leaves nothing behind at the staging path.
-/

set_option autoImplicit false

namespace PumoBioMetric.Sync

open PumoBioMetric.Py PumoBioMetric.Router

/-! ## Lines -/

/-- What text mode makes of line ends. -/
def universalNewlines : List Char → List Char
  | [] => []
  | '\r' :: '\n' :: rest => '\n' :: universalNewlines rest
  | char :: rest => (if char = '\r' then '\n' else char) :: universalNewlines rest

/-- `for line in handle`, each line with its line end. -/
def linesOf : List Char → List (List Char)
  | [] => []
  | char :: rest =>
      if char = '\n' then ['\n'] :: linesOf rest
      else match linesOf rest with
        | [] => [[char]]
        | line :: lines => (char :: line) :: lines

def visibleLines (text : List Char) : List (List Char) :=
  ((linesOf (universalNewlines text)).map stripChars).filter fun line => line ≠ []

/-! ## The operations -/

abbrev SpoolText := Option (List Char)

/-- `add`, and `restore`, which calls it. -/
def SpoolText.add (file : SpoolText) (punches : List SpooledPunch) : SpoolText :=
  if punches.isEmpty then file
  else some (file.getD [] ++ punches.flatMap fun punch => punch.toJson ++ ['\n'])

def SpoolText.pending (file : SpoolText) : Nat :=
  match file with
  | none => 0
  | some text => (visibleLines text).length

section

variable [ValueTables]

/-- The punches of the lines; a line that raises `ValueError` or `KeyError` is dropped,
any other exception ends the loop. -/
def readPunches : List (List Char) → Except Raised (List SpooledPunch)
  | [] => .ok []
  | line :: lines =>
      match fromJson line with
      | .ok punch => (readPunches lines).map fun punches => punch :: punches
      | .error .valueError | .error .keyError => readPunches lines
      | .error error => .error error

/-- The staged file is unlinked on every path. -/
def SpoolText.drain (file : SpoolText) : Except Raised (List SpooledPunch) × SpoolText :=
  match file with
  | none => (.ok [], none)
  | some text => (readPunches (visibleLines text), none)

end

/-! ## What the lines of a list of punches read as -/

theorem universalNewlines_of_no_return {text : List Char} (plain : '\r' ∉ text) :
    universalNewlines text = text := by
  induction text with
  | nil => rfl
  | cons char rest ih =>
      simp only [List.mem_cons, not_or] at plain
      rw [universalNewlines, if_neg (Ne.symm plain.1), ih plain.2]
      intro tail isReturn
      exact absurd isReturn.symm plain.1

theorem linesOf_line {line : List Char} (plain : '\n' ∉ line) (rest : List Char) :
    linesOf (line ++ '\n' :: rest) = (line ++ ['\n']) :: linesOf rest := by
  induction line with
  | nil => rfl
  | cons char line ih =>
      simp only [List.mem_cons, not_or] at plain
      rw [List.cons_append, linesOf, if_neg (Ne.symm plain.1), ih plain.2]
      rfl

def encode (punches : List SpooledPunch) : List Char :=
  punches.flatMap fun punch => punch.toJson ++ ['\n']

theorem encode_append (first second : List SpooledPunch) :
    encode (first ++ second) = encode first ++ encode second := List.flatMap_append

theorem toJson_plain {punch : SpooledPunch} (whole : punch.Whole) :
    '\n' ∉ punch.toJson ∧ '\r' ∉ punch.toJson :=
  ⟨fun member => absurd (dumps_printable whole.1 _ member) (by decide),
    fun member => absurd (dumps_printable whole.1 _ member) (by decide)⟩

theorem toJson_ne_nil (punch : SpooledPunch) : punch.toJson ≠ [] := by
  obtain ⟨body, text⟩ := dumps_obj _
  rw [SpooledPunch.toJson, SpooledPunch.record, text]
  exact List.cons_ne_nil _ _

theorem stripChars_toJson (punch : SpooledPunch) :
    stripChars (punch.toJson ++ ['\n']) = punch.toJson := by
  obtain ⟨body, text⟩ := dumps_obj _
  rw [SpooledPunch.toJson, SpooledPunch.record, text, List.cons_append, List.append_assoc]
  exact stripChars_between body (by decide) (by decide) (by simp [isSpace])

theorem return_notMem_encode {punches : List SpooledPunch}
    (whole : ∀ punch ∈ punches, punch.Whole) : '\r' ∉ encode punches := by
  intro member
  obtain ⟨punch, held, inLine⟩ := List.mem_flatMap.mp member
  rcases List.mem_append.mp inLine with inText | isEnd
  · exact (toJson_plain (whole punch held)).2 inText
  · exact absurd isEnd (by decide)

theorem visibleLines_encode {punches : List SpooledPunch}
    (whole : ∀ punch ∈ punches, punch.Whole) :
    visibleLines (encode punches) = punches.map SpooledPunch.toJson := by
  unfold visibleLines
  rw [universalNewlines_of_no_return (return_notMem_encode whole)]
  induction punches with
  | nil => rfl
  | cons punch punches ih =>
      have plain := (toJson_plain (whole punch List.mem_cons_self)).1
      have others := ih fun other member => whole other (List.mem_cons_of_mem _ member)
      have text : encode (punch :: punches) = punch.toJson ++ '\n' :: encode punches := by
        simp [encode]
      rw [text, linesOf_line plain, List.map_cons, stripChars_toJson,
        List.filter_cons_of_pos (by simpa using toJson_ne_nil punch), others, List.map_cons]

theorem readPunches_toJson [ValueTables] {punches : List SpooledPunch}
    (whole : ∀ punch ∈ punches, punch.Whole) :
    readPunches (punches.map SpooledPunch.toJson) = .ok punches := by
  induction punches with
  | nil => rfl
  | cons punch punches ih =>
      rw [List.map_cons, readPunches, fromJson_toJson (whole punch List.mem_cons_self)]
      dsimp only
      rw [ih fun other member => whole other (List.mem_cons_of_mem _ member)]
      rfl

/-! ## The file as a queue -/

theorem toPunch_whole {record : PunchRecord} {punch : Punch}
    (accepted : toPunch record = some punch) : punch.deviceTime.microsecond = 0 := by
  unfold toPunch at accepted
  cases parsed : parseTime record.timestamp with
  | none => simp [parsed] at accepted
  | some time =>
      have whole : time.microsecond = 0 := by
        unfold parseTime at parsed
        dsimp only at parsed
        split at parsed
        · cases parsed
        · obtain ⟨format, _, read⟩ := List.exists_of_findSome?_eq_some parsed
          exact strptime_whole read
      simp only [parsed] at accepted
      split at accepted
      · cases accepted
      · cases accepted
        exact whole

/-- The file holds exactly the lines of these punches. -/
structure SpoolText.Holds (file : SpoolText) (queue : List Punch) : Prop where
  text : file.getD [] = encode (queue.map Punch.held)
  whole : ∀ punch ∈ queue, punch.deviceTime.microsecond = 0

theorem held_all_whole {queue : List Punch}
    (whole : ∀ punch ∈ queue, punch.deviceTime.microsecond = 0) :
    ∀ punch ∈ queue.map Punch.held, punch.Whole := by
  intro punch member
  obtain ⟨typed, held, rfl⟩ := List.mem_map.mp member
  exact held_whole (whole typed held)

theorem encode_eq_nil {punches : List SpooledPunch} (empty : encode punches = []) :
    punches = [] := by
  cases punches with
  | nil => rfl
  | cons punch punches => simp [encode] at empty

theorem SpoolText.Holds.visibleLines {text : List Char} {queue : List Punch}
    (holds : Holds (some text) queue) :
    visibleLines text = (queue.map Punch.held).map SpooledPunch.toJson := by
  have same : text = encode (queue.map Punch.held) := holds.text
  rw [same, visibleLines_encode (held_all_whole holds.whole)]

theorem SpoolText.Holds.pending {file : SpoolText} {queue : List Punch}
    (holds : file.Holds queue) : file.pending = queue.length := by
  cases file with
  | none =>
      have empty := encode_eq_nil holds.text.symm
      rw [List.map_eq_nil_iff.mp empty]
      rfl
  | some text => simp [SpoolText.pending, holds.visibleLines]

theorem SpoolText.Holds.add {file : SpoolText} {queue : List Punch} (holds : file.Holds queue)
    {punches : List Punch} (whole : ∀ punch ∈ punches, punch.deviceTime.microsecond = 0) :
    (file.add (punches.map Punch.held)).Holds (queue ++ punches) := by
  constructor
  · cases punches with
    | nil => simpa [SpoolText.add] using holds.text
    | cons punch punches =>
        rw [List.map_append, encode_append, ← holds.text]
        rfl
  · intro punch member
    exact (List.mem_append.mp member).elim (holds.whole punch) (whole punch)

section

variable [ValueTables]

theorem SpoolText.Holds.drain {file : SpoolText} {queue : List Punch}
    (holds : file.Holds queue) : file.drain = (.ok (queue.map Punch.held), none) := by
  cases file with
  | none =>
      have empty := encode_eq_nil holds.text.symm
      rw [empty]
      rfl
  | some text =>
      rw [SpoolText.drain, holds.visibleLines, readPunches_toJson (held_all_whole holds.whole)]

/-! ## Runs -/

inductive SpoolCall where
  | add (punches : List Punch)
  | restore (punches : List Punch)
  | drain

def SpoolCall.punches : SpoolCall → List Punch
  | .add punches => punches
  | .restore punches => punches
  | .drain => []

/-- What the call returns, nothing for `add` and `restore`, and the file after it. -/
def SpoolCall.step (file : SpoolText) : SpoolCall → Except Raised (List SpooledPunch) × SpoolText
  | .add punches => (.ok [], file.add (punches.map Punch.held))
  | .restore punches => (.ok [], file.add (punches.map Punch.held))
  | .drain => file.drain

def SpoolCall.runAll : List SpoolCall → SpoolText →
    List (Except Raised (List SpooledPunch)) × SpoolText
  | [], file => ([], file)
  | call :: calls, file =>
      let (result, after) := call.step file
      let (results, final) := SpoolCall.runAll calls after
      (result :: results, final)

/-- One call returns what it takes from the front of the queue. -/
theorem SpoolCall.step_holds {file : SpoolText} {queue : List Punch} (holds : file.Holds queue)
    {call : SpoolCall} (whole : ∀ punch ∈ call.punches, punch.deviceTime.microsecond = 0) :
    ∃ returned left : List Punch, (call.step file).1 = .ok (returned.map Punch.held) ∧
      (call.step file).2.Holds left ∧ queue ++ call.punches = returned ++ left := by
  cases call with
  | add punches => exact ⟨[], queue ++ punches, rfl, holds.add whole, rfl⟩
  | restore punches => exact ⟨[], queue ++ punches, rfl, holds.add whole, rfl⟩
  | drain =>
      have taken := holds.drain
      refine ⟨queue, [], ?_, ?_, rfl⟩
      · rw [SpoolCall.step, taken]
      · rw [SpoolCall.step, taken]
        exact ⟨rfl, by simp⟩

theorem SpoolCall.runAll_holds {calls : List SpoolCall} {file : SpoolText} {queue : List Punch}
    (holds : file.Holds queue)
    (whole : ∀ call ∈ calls, ∀ punch ∈ call.punches, punch.deviceTime.microsecond = 0) :
    ∃ (returned : List (List Punch)) (left : List Punch),
      (SpoolCall.runAll calls file).1 = returned.map (fun punches => .ok (punches.map Punch.held)) ∧
      (SpoolCall.runAll calls file).2.Holds left ∧
      queue ++ calls.flatMap SpoolCall.punches = returned.flatten ++ left := by
  induction calls generalizing file queue with
  | nil => exact ⟨[], queue, rfl, holds, by simp⟩
  | cons call calls ih =>
      obtain ⟨first, middle, result, held, conserved⟩ :=
        step_holds holds (whole call List.mem_cons_self)
      obtain ⟨others, left, results, final, rest⟩ :=
        ih held fun other member => whole other (List.mem_cons_of_mem _ member)
      refine ⟨first :: others, left, ?_, final, ?_⟩
      · simp only [SpoolCall.runAll, List.map_cons, result, results]
      · rw [List.flatMap_cons, ← List.append_assoc, conserved, List.append_assoc, rest,
          List.flatten_cons, List.append_assoc]

/-- The spool is a lossless queue: what the drains return, followed by what a last drain
returns, is what was added in the same order, and `pending` counts the latter. -/
theorem spool_fifo (calls : List SpoolCall)
    (rows : ∀ call ∈ calls, ∀ punch ∈ call.punches, ∃ record, toPunch record = some punch) :
    ∃ (drained : List (List Punch)) (last : List Punch),
      (SpoolCall.runAll calls none).1 =
        drained.map (fun punches => .ok (punches.map Punch.held)) ∧
      (SpoolCall.runAll calls none).2.drain = (.ok (last.map Punch.held), none) ∧
      drained.flatten ++ last = calls.flatMap SpoolCall.punches ∧
      (SpoolCall.runAll calls none).2.pending = last.length := by
  have empty : SpoolText.Holds none [] := ⟨rfl, by simp⟩
  have whole : ∀ call ∈ calls, ∀ punch ∈ call.punches, punch.deviceTime.microsecond = 0 :=
    fun call member punch held => (rows call member punch held).elim fun _ => toPunch_whole
  obtain ⟨drained, last, results, holds, conserved⟩ := SpoolCall.runAll_holds empty whole
  exact ⟨drained, last, results, holds.drain, conserved.symm, holds.pending⟩

end

def oddRecord : PunchRecord :=
  { sampleRecord with userName := "Zoë \"Z\"", workCode := "\\", raw := "102\r\n103" }

def oddPunch : Punch :=
  { deviceSerial := "ZK1", deviceUserId := "102",
    deviceTime := sampleTime, verifyMode := some 1,
    workCode := some "\\", deviceUserName := some "Zoë \"Z\"", rawPayload := some "102\r\n103" }

def oddCalls : List SpoolCall := [.add [oddPunch], .drain, .restore [oddPunch], .add [oddPunch]]

theorem spool_fifo_odd :
    ∃ (drained : List (List Punch)) (last : List Punch),
      (@SpoolCall.runAll .scalars oddCalls none).1 =
        drained.map (fun punches => .ok (punches.map Punch.held)) ∧
      @SpoolText.drain .scalars (@SpoolCall.runAll .scalars oddCalls none).2 =
        (.ok (last.map Punch.held), none) ∧
      drained.flatten ++ last = oddCalls.flatMap SpoolCall.punches ∧
      (@SpoolCall.runAll .scalars oddCalls none).2.pending = last.length := by
  have parsed : ∃ record, toPunch record = some oddPunch := ⟨oddRecord, by decide⟩
  refine @spool_fifo .scalars oddCalls ?_
  simpa [oddCalls, SpoolCall.punches] using parsed

end PumoBioMetric.Sync
