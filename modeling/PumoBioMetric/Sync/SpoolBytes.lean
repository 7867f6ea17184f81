import PumoBioMetric.Py.Utf8
import PumoBioMetric.Sync.SpoolText

/-!
# The bytes of the spool file

`drain` of a file of any bytes.  The loop drops a line that raises `ValueError` or
`KeyError`; what else a line raises, and what decoding raises between two lines, leaves
`drain` after the staged file is unlinked.
-/

set_option autoImplicit false

namespace PumoBioMetric.Sync

open PumoBioMetric.Py PumoBioMetric.Router

/-! ## Lines of text and lines of bytes -/

/-- `\n` and `\r`; between the two of `\r\n` there is nothing. -/
def endsLine (byte : UInt8) : Bool := byte == 10 || byte == 13

def endsTextLine (char : Char) : Bool := decide (char.toNat < 128) && endsLine (UInt8.ofNat char.toNat)

theorem endsTextLine_iff (char : Char) : endsTextLine char = true ↔ char = '\n' ∨ char = '\r' := by
  constructor
  · intro ends
    obtain ⟨ascii, isEnd⟩ := Bool.and_eq_true_iff.mp ends
    have small : char.toNat < 128 := by simpa using ascii
    have code : ∀ number : Nat, number < 128 → UInt8.ofNat char.toNat = UInt8.ofNat number →
        char = Char.ofNat number := by
      intro number low same
      have equal := congrArg UInt8.toNat same
      simp only [UInt8.toNat_ofNat'] at equal
      have number_eq : char.toNat = number := by omega
      rw [← number_eq, Char.ofNat_toNat]
    simp only [endsLine, Bool.or_eq_true, beq_iff_eq] at isEnd
    rcases isEnd with feed | carriage
    · exact .inl (code 10 (by omega) feed)
    · exact .inr (code 13 (by omega) carriage)
  · rintro (rfl | rfl) <;> rfl

def shown (lines : List (List Char)) : List (List Char) :=
  (lines.map stripChars).filter fun line => line ≠ []

theorem stripChars_line (line : List Char) : stripChars (line ++ ['\n']) = stripChars line := by
  have blank : isSpace '\n' = true := by decide
  unfold stripChars
  rw [List.dropWhile_append]
  split
  · rename_i allBlank
    rw [List.isEmpty_iff.mp allBlank]
    simp [blank]
  · rw [List.reverse_append, List.reverse_singleton, List.singleton_append,
      List.dropWhile_cons_of_pos blank]

def withEnds : List (List Char) → List (List Char)
  | [] => []
  | [last] => if last = [] then [] else [last]
  | line :: next :: rest => (line ++ ['\n']) :: withEnds (next :: rest)

theorem linesOf_eq_withEnds (text : List Char) :
    linesOf text = withEnds (text.splitOnP fun char => char == '\n') := by
  induction text with
  | nil => rfl
  | cons char rest ih =>
      rw [linesOf, ih, List.splitOnP_cons_eq_if_modifyHead]
      have some_line : rest.splitOnP (fun char => char == '\n') ≠ [] := List.splitOnP_ne_nil _ _
      obtain ⟨line, lines, whole⟩ := List.exists_cons_of_ne_nil some_line
      rw [whole]
      by_cases ends : char = '\n'
      · subst ends
        rfl
      · simp only [ends, if_false, beq_iff_eq]
        cases lines with
        | nil => by_cases empty : line = [] <;> simp [withEnds, empty]
        | cons next more => rfl

theorem shown_cons (line : List Char) (lines : List (List Char)) :
    shown (line :: lines) =
      if stripChars line = [] then shown lines else stripChars line :: shown lines := by
  by_cases blank : stripChars line = [] <;> simp [shown, blank]

theorem shown_withEnds (lines : List (List Char)) : shown (withEnds lines) = shown lines := by
  induction lines using withEnds.induct with
  | case1 => rfl
  | case2 => rfl
  | case3 last visible => simp [withEnds, visible]
  | case4 line next rest ih => rw [withEnds, shown_cons, shown_cons, stripChars_line, ih]

/-- The two ends of `\r\n` enclose a blank line. -/
theorem universalNewlines_splits (text : List Char) :
    ∃ line lines others,
      (universalNewlines text).splitOnP (fun char => char == '\n') = line :: lines ∧
      text.splitOnP endsTextLine = line :: others ∧ shown lines = shown others := by
  induction text using universalNewlines.induct with
  | case1 => exact ⟨[], [], [], rfl, rfl, rfl⟩
  | case2 rest ih =>
      obtain ⟨line, lines, others, newlines, ends, same⟩ := ih
      have blank : stripChars [] = [] := rfl
      refine ⟨[], line :: lines, [] :: line :: others, ?_, ?_, ?_⟩
      · rw [universalNewlines, List.splitOnP_cons_eq_if_modifyHead, newlines]
        rfl
      · rw [List.splitOnP_cons_eq_if_modifyHead, List.splitOnP_cons_eq_if_modifyHead, ends]
        rfl
      · rw [shown_cons [], if_pos blank, shown_cons line lines, shown_cons line others, same]
  | case3 char rest notPair ih =>
      obtain ⟨line, lines, others, newlines, ends, same⟩ := ih
      rw [universalNewlines.eq_3 char rest notPair, List.splitOnP_cons_eq_if_modifyHead,
        List.splitOnP_cons_eq_if_modifyHead, newlines, ends]
      by_cases isEnd : char = '\n' ∨ char = '\r'
      · have split : endsTextLine char = true := (endsTextLine_iff char).mpr isEnd
        have newline : ((if char = '\r' then '\n' else char) == '\n') = true := by
          rcases isEnd with rfl | rfl <;> rfl
        rw [if_pos newline, if_pos split]
        exact ⟨[], _, _, rfl, rfl, by rw [shown_cons line lines, shown_cons line others, same]⟩
      · obtain ⟨notFeed, notReturn⟩ := not_or.mp isEnd
        have inside : ¬ endsTextLine char = true := fun split => isEnd ((endsTextLine_iff char).mp split)
        rw [if_neg notReturn, if_neg (by simpa using notFeed), if_neg inside]
        exact ⟨char :: line, lines, others, rfl, rfl, same⟩

theorem shown_universalNewlines (text : List Char) :
    shown ((universalNewlines text).splitOnP fun char => char == '\n') =
      shown (text.splitOnP endsTextLine) := by
  obtain ⟨line, lines, others, newlines, ends, same⟩ := universalNewlines_splits text
  rw [newlines, ends, shown_cons, shown_cons, same]

theorem visibleLines_eq_shown (text : List Char) :
    visibleLines text = shown (text.splitOnP endsTextLine) := by
  unfold visibleLines
  rw [linesOf_eq_withEnds]
  exact (shown_withEnds _).trans (shown_universalNewlines text)

theorem visibleLines_line {line : List Char} (inside : ∀ char ∈ line, endsTextLine char = false)
    (rest : List Char) : visibleLines (line ++ '\n' :: rest) = shown [line] ++ visibleLines rest := by
  rw [visibleLines_eq_shown, visibleLines_eq_shown,
    List.splitOnP_append_cons_of_forall_mem inside _ rfl, shown_cons, shown_cons]
  split <;> rfl

/-! ## `drain` -/

/-- A limit of the interpreter that reading a line meets: the depth of calls, which raises
`RecursionError`, or the number of digits of an integer, which raises `ValueError`. -/
inductive Limit where
  | recursion
  | digits
deriving DecidableEq

/-- Which lines meet one; it depends on the interpreter's settings and call stack. -/
abbrev Limits := List Char → Option Limit

inductive DrainError where
  | unicodeDecodeError
  | recursionError
  | fromLine (error : Raised)
deriving DecidableEq

/-- `except (ValueError, KeyError)` around `from_json`. -/
def DrainError.dropped : DrainError → Bool
  | .fromLine .valueError | .fromLine .keyError => true
  | .fromLine .typeError | .fromLine .overflowError => false
  | .unicodeDecodeError | .recursionError => false

abbrev SpoolBytes := Option (List UInt8)

section

variable [ValueTables] (limits : Limits)

def readLine (line : List Char) : Except DrainError SpooledPunch :=
  match limits line with
  | some .recursion => .error .recursionError
  | some .digits => .error (.fromLine .valueError)
  | none => (fromJson line).mapError .fromLine

def readLines : List (List Char) → Except DrainError (List SpooledPunch)
  | [] => .ok []
  | line :: lines =>
      match readLine limits line with
      | .ok punch => (readLines lines).map fun punches => punch :: punches
      | .error error => if error.dropped then readLines lines else .error error

/-- `PunchSpool.drain`.  Text mode decodes ahead of the loop, so a line before the bytes
that are not UTF-8 may raise first; the punches are lost with either exception. -/
def SpoolBytes.drain (file : SpoolBytes) : Except DrainError (List SpooledPunch) × SpoolBytes :=
  match file with
  | none => (.ok [], none)
  | some bytes =>
      (match decodeUtf8 bytes with
        | none => .error .unicodeDecodeError
        | some text => readLines limits (visibleLines text), none)

/-! ## The property -/

def lineRecord (line : List UInt8) : Option SpooledPunch :=
  (decodeUtf8 line).bind fun text => (readLine limits (stripChars text)).toOption

/-- The punches of the valid records of a file, line by line. -/
def validRecords (bytes : List UInt8) : List SpooledPunch :=
  (bytes.splitOnP endsLine).filterMap (lineRecord limits)

def RecoversRecords (file : SpoolBytes) : Prop :=
  (file.drain limits).1 = .ok (validRecords limits (file.getD []))

/-! ## The condition -/

def StateEscapes : Json → Prop
  | .real literal => ValueTables.intOfFloat literal = .error .typeError ∨
      ValueTables.intOfFloat literal = .error .overflowError
  | .arr items => items ≠ []
  | .obj members => members ≠ []
  | .null | .bool _ | .int _ | .str _ => False

def isText : Json → Bool
  | .str _ => true
  | .null | .bool _ | .int _ | .real _ | .arr _ | .obj _ => false

/-- No object; or one with the three keys whose time is no text, or reads and is followed
by a state that `int` does not take. -/
def RecordEscapes : Json → Prop
  | .obj members => ∃ serial userId time,
      members.lookup "device_serial" = some serial ∧
      members.lookup "device_user_id" = some userId ∧
      members.lookup "device_time" = some time ∧
      (isText time = false ∨ ((timeOf time).isOk = true ∧
        StateEscapes ((members.lookup "punch_state").getD .null)))
  | .null | .bool _ | .int _ | .real _ | .str _ | .arr _ => True

def LineEscapes (line : List Char) : Prop :=
  limits line = some .recursion ∨
    (limits line = none ∧ ∃ raw, loads line = some raw ∧ RecordEscapes raw)

/-! ## One line -/

variable {limits}

omit [ValueTables] in
theorem dropped_fromLine_iff {error : Raised} :
    (DrainError.fromLine error).dropped = false ↔ error = .typeError ∨ error = .overflowError := by
  cases error <;> simp [DrainError.dropped]

theorem stateEscapes_iff {value : Json} :
    StateEscapes value ↔
      intOrZero value = .error .typeError ∨ intOrZero value = .error .overflowError := by
  cases value with
  | null | bool | int | real => simp [StateEscapes, intOrZero]
  | str text =>
      simp only [StateEscapes, intOrZero, false_iff]
      split
      · simp
      · cases int? text <;> simp
  | arr items => cases items <;> simp [StateEscapes, intOrZero]
  | obj members => cases members <;> simp [StateEscapes, intOrZero]

omit [ValueTables] in
theorem timeOf_cases (value : Json) :
    (isText value = false ∧ timeOf value = .error .typeError) ∨
      (isText value = true ∧ (timeOf value = .error .valueError ∨
        ∃ time, timeOf value = .ok time)) := by
  cases value with
  | str text =>
      refine .inr ⟨rfl, ?_⟩
      cases parsed : strptime text standardFormat with
      | none => exact .inl (by simp [timeOf, parsed])
      | some time => exact .inr ⟨time, by simp [timeOf, parsed]⟩
  | null | bool | int | real | arr | obj => exact .inl ⟨rfl, rfl⟩

theorem fromJson_obj {line : List Char} {members : List (String × Json)}
    (read : loads line = some (.obj members)) {serial userId time : Json}
    (hasSerial : members.lookup "device_serial" = some serial)
    (hasUser : members.lookup "device_user_id" = some userId)
    (hasTime : members.lookup "device_time" = some time) (error : Raised) :
    fromJson line = .error error ↔
      timeOf time = .error error ∨ ((timeOf time).isOk = true ∧
        intOrZero ((members.lookup "punch_state").getD .null) = .error error) := by
  unfold fromJson
  rw [read]
  simp only [Json.item, hasSerial, hasUser, hasTime, Json.get?, bind, Except.bind]
  cases timeOf time with
  | error raised => simp [Except.isOk, Except.toBool]
  | ok taken =>
      cases intOrZero ((members.lookup "punch_state").getD .null) with
      | error raised => simp [Except.isOk, Except.toBool]
      | ok state => simp [Except.isOk, Except.toBool, pure, Except.pure]

theorem fromJson_missing {line : List Char} {members : List (String × Json)}
    (read : loads line = some (.obj members))
    (missing : members.lookup "device_serial" = none ∨ members.lookup "device_user_id" = none ∨
      members.lookup "device_time" = none) : fromJson line = .error .keyError := by
  unfold fromJson
  rw [read]
  simp only [Json.item, bind, Except.bind]
  rcases missing with noSerial | noUser | noTime
  · rw [noSerial]
  · rw [noUser]
    cases members.lookup "device_serial" <;> rfl
  · rw [noTime]
    cases members.lookup "device_serial" <;> cases members.lookup "device_user_id" <;> rfl

/-- The exceptions of `from_json` that the loop does not catch. -/
theorem fromJson_escapes_iff {line : List Char} {raw : Json} (read : loads line = some raw) :
    (fromJson line = .error .typeError ∨ fromJson line = .error .overflowError) ↔
      RecordEscapes raw := by
  cases raw with
  | obj members =>
      by_cases missing : members.lookup "device_serial" = none ∨
          members.lookup "device_user_id" = none ∨ members.lookup "device_time" = none
      · rw [fromJson_missing read missing]
        refine iff_of_false (by simp) ?_
        rintro ⟨serial, userId, time, hasSerial, hasUser, hasTime, _⟩
        simp [hasSerial, hasUser, hasTime] at missing
      · simp only [not_or, ← ne_eq, Option.ne_none_iff_exists'] at missing
        obtain ⟨⟨serial, hasSerial⟩, ⟨userId, hasUser⟩, time, hasTime⟩ := missing
        rw [fromJson_obj read hasSerial hasUser hasTime, fromJson_obj read hasSerial hasUser hasTime]
        simp only [RecordEscapes, hasSerial, hasUser, hasTime, stateEscapes_iff, Option.some.injEq,
          exists_and_left, exists_eq_left']
        rcases timeOf_cases time with ⟨noText, raised⟩ | ⟨text, raised | ⟨taken, reads⟩⟩
        · simp [noText, raised]
        · simp [text, raised, Except.isOk, Except.toBool]
        · simp [text, reads, Except.isOk, Except.toBool]
  | null | bool | int | real | str | arr =>
      refine iff_of_true (.inl ?_) trivial
      unfold fromJson
      rw [read]
      rfl

theorem readLine_escapes_iff (line : List Char) :
    (∃ error, readLine limits line = .error error ∧ error.dropped = false) ↔
      LineEscapes limits line := by
  unfold readLine LineEscapes
  cases limits line with
  | some limit =>
      cases limit <;> simp [DrainError.dropped]
  | none =>
      simp only [reduceCtorEq, true_and, false_or]
      cases read : loads line with
      | none =>
          have bad : fromJson line = .error .valueError := by
            unfold fromJson
            rw [read]
          rw [bad]
          simp [Except.mapError, DrainError.dropped]
      | some raw =>
          simp only [Option.some.injEq, exists_eq_left', ← fromJson_escapes_iff read]
          cases fromJson line with
          | ok punch => simp [Except.mapError]
          | error raised => simp [Except.mapError, dropped_fromLine_iff]

/-! ## The loop -/

theorem readLines_eq_ok_iff {lines : List (List Char)} {punches : List SpooledPunch} :
    readLines limits lines = .ok punches ↔
      (∀ line ∈ lines, ¬ LineEscapes limits line) ∧
        punches = lines.filterMap fun line => (readLine limits line).toOption := by
  induction lines generalizing punches with
  | nil => simp [readLines, eq_comm]
  | cons line lines ih =>
      simp only [List.forall_mem_cons, ← readLine_escapes_iff line, readLines]
      cases read : readLine limits line with
      | ok punch =>
          simp only [reduceCtorEq, false_and, exists_false, not_false_eq_true, true_and,
            List.filterMap_cons, read, Except.toOption]
          constructor
          · intro returned
            cases rest : readLines limits lines with
            | error error => simp [rest, Except.map] at returned
            | ok others =>
                obtain ⟨calm, same⟩ := ih.mp rest
                simp only [rest, Except.map, Except.ok.injEq] at returned
                exact ⟨calm, by rw [← returned, same]; rfl⟩
          · rintro ⟨calm, rfl⟩
            rw [ih.mpr ⟨calm, rfl⟩]
            rfl
      | error error =>
          cases dropped : error.dropped with
          | true => simp [dropped, read, Except.toOption, ih]
          | false => simp [dropped]

/-! ## The file -/

theorem readLine_blank : (readLine limits []).toOption = none := by
  have blank : fromJson [] = .error .valueError := rfl
  unfold readLine
  cases limits [] with
  | some limit => cases limit <;> rfl
  | none =>
      rw [blank]
      rfl

theorem filterMap_shown (lines : List (List Char)) :
    (shown lines).filterMap (fun line => (readLine limits line).toOption) =
      lines.filterMap fun line => (readLine limits (stripChars line)).toOption := by
  induction lines with
  | nil => rfl
  | cons line lines ih =>
      rw [shown_cons, List.filterMap_cons]
      by_cases blank : stripChars line = []
      · rw [if_pos blank, blank, readLine_blank, ih]
      · rw [if_neg blank, List.filterMap_cons, ih]

theorem validRecords_encodeUtf8 (text : List Char) :
    validRecords limits (encodeUtf8 text) =
      (visibleLines text).filterMap fun line => (readLine limits line).toOption := by
  have ascii : ∀ byte, endsLine byte = true → byte.toNat < 128 := by
    intro byte ends
    simp only [endsLine, Bool.or_eq_true, beq_iff_eq] at ends
    rcases ends with rfl | rfl <;> decide
  have decoded : ∀ line, lineRecord limits (encodeUtf8 line) =
      (readLine limits (stripChars line)).toOption := by
    intro line
    rw [lineRecord, decodeUtf8_encodeUtf8, Option.bind_some]
  unfold validRecords
  rw [splitOnP_encodeUtf8 ascii, List.filterMap_map, visibleLines_eq_shown, filterMap_shown]
  exact List.filterMap_congr fun line _ => decoded line

theorem drain_text (text : List Char) :
    (SpoolBytes.drain limits (some (encodeUtf8 text))).1 = readLines limits (visibleLines text) := by
  simp only [SpoolBytes.drain, decodeUtf8_encodeUtf8]

/-- Where no limit is met, this is the `drain` of the file's text. -/
theorem drain_encodeUtf8 (text : List Char) (unlimited : ∀ line, limits line = none) :
    (SpoolBytes.drain limits (some (encodeUtf8 text))).1 =
      (SpoolText.drain (some text)).1.mapError .fromLine := by
  have lines : ∀ lines, readLines limits lines = (readPunches lines).mapError .fromLine := by
    intro lines
    induction lines with
    | nil => rfl
    | cons line lines ih =>
        rw [readLines, readPunches, readLine, unlimited line]
        cases fromJson line with
        | ok punch =>
            simp only [Except.mapError, ih]
            cases readPunches lines <;> rfl
        | error error => cases error <;> simp [Except.mapError, DrainError.dropped, ih]
  rw [drain_text]
  exact lines _

/-- A `drain` returns where the file is UTF-8 and no line of it raises what the loop does not
catch, and then it returns the punches of the valid records. -/
theorem drain_eq_ok_iff {file : SpoolBytes} {punches : List SpooledPunch} :
    (file.drain limits).1 = .ok punches ↔
      (∃ text, file.getD [] = encodeUtf8 text ∧
        ∀ line ∈ visibleLines text, ¬ LineEscapes limits line) ∧
        punches = validRecords limits (file.getD []) := by
  cases file with
  | none =>
      have empty : validRecords limits [] = [] := validRecords_encodeUtf8 []
      have noLine : ∃ text, [] = encodeUtf8 text ∧
          ∀ line ∈ visibleLines text, ¬ LineEscapes limits line :=
        ⟨[], rfl, by simp [visibleLines, universalNewlines, linesOf]⟩
      rw [Option.getD_none, empty, SpoolBytes.drain, Except.ok.injEq]
      exact ⟨fun same => ⟨noLine, same.symm⟩, fun holds => holds.2.symm⟩
  | some bytes =>
      simp only [SpoolBytes.drain, Option.getD_some]
      cases decoded : decodeUtf8 bytes with
      | none =>
          refine iff_of_false (by simp) ?_
          rintro ⟨⟨text, rfl, _⟩, _⟩
          simp at decoded
      | some text =>
          obtain rfl := decodeUtf8_eq_some_iff.mp decoded
          have only : ∀ other, encodeUtf8 text = encodeUtf8 other → other = text := by
            intro other same
            have again := decodeUtf8_encodeUtf8 other
            rw [← same, decoded] at again
            exact (Option.some.inj again).symm
          simp only [readLines_eq_ok_iff, validRecords_encodeUtf8]
          constructor
          · rintro ⟨calm, same⟩
            exact ⟨⟨text, rfl, calm⟩, same⟩
          · rintro ⟨⟨other, same, calm⟩, records⟩
            rw [only other same] at calm
            exact ⟨calm, records⟩

end

/-- `drain` returns the punches of the valid records of a file, and nothing else, if and only
if the file is UTF-8 and no line of it raises what the loop does not catch. -/
theorem drain_recovers_iff [ValueTables] (limits : Limits) (file : SpoolBytes) :
    RecoversRecords limits file ↔
      ∃ text, file.getD [] = encodeUtf8 text ∧
        ∀ line ∈ visibleLines text, ¬ LineEscapes limits line := by
  rw [RecoversRecords, drain_eq_ok_iff, and_iff_left rfl]

/-! ## A line that is no object -/

def goodPunch : Punch where
  deviceSerial := "ZK1"
  deviceUserId := "102"
  deviceTime := sampleTime

def listLineFile : SpoolBytes :=
  some (encodeUtf8 (['[', ']'] ++ '\n' :: encode [goodPunch.held]))

theorem list_line_loses_record :
    (@validRecords .scalars (fun _ => none) (listLineFile.getD [])).length = 1 ∧
      ¬ @RecoversRecords .scalars (fun _ => none) listLineFile := by
  let := ValueTables.scalars
  have whole : ∀ punch ∈ [goodPunch.held], punch.Whole := by
    intro punch member
    rw [List.mem_singleton.mp member]
    exact held_whole rfl
  have inside : ∀ char ∈ ['[', ']'], endsTextLine char = false := by
    intro char member
    simp only [List.mem_cons, List.not_mem_nil, or_false] at member
    rcases member with rfl | rfl <;> rfl
  have lines : visibleLines (['[', ']'] ++ '\n' :: encode [goodPunch.held]) =
      [['[', ']'], goodPunch.held.toJson] := by
    rw [visibleLines_line inside, visibleLines_encode whole]
    rfl
  have escapes : LineEscapes (fun _ => none) ['[', ']'] := .inr ⟨rfl, .arr [], rfl, trivial⟩
  constructor
  · have first : readLine (fun _ => none) ['[', ']'] = .error (.fromLine .typeError) := rfl
    have second : readLine (fun _ => none) goodPunch.held.toJson = .ok goodPunch.held := by
      unfold readLine
      rw [fromJson_toJson (held_whole rfl)]
      rfl
    simp only [listLineFile, Option.getD_some, validRecords_encodeUtf8, lines, List.filterMap_cons,
      first, second, Except.toOption, List.filterMap_nil, List.length_singleton]
  · intro recovers
    rw [RecoversRecords, listLineFile, drain_text, lines] at recovers
    exact (readLines_eq_ok_iff.mp recovers).1 _ List.mem_cons_self escapes

end PumoBioMetric.Sync
