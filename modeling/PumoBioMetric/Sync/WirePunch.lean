import PumoBioMetric.Py.IsoText
import PumoBioMetric.Router.Attlog
import PumoBioMetric.Router.PunchLog
import PumoBioMetric.Sync.Punch

/-!
# One punch as a line of text

A punch written as key-value fields, or as columns separated by tabs, spaces or commas:
the characters of the line, its ends, and the times in it.
-/

set_option autoImplicit false

namespace PumoBioMetric.Sync

open PumoBioMetric.Py PumoBioMetric.Router

inductive WireLayout where
  | keyValue
  | tabs
  | spaces
  | commas
deriving DecidableEq, Repr

/-- A punch that a line can carry: a PIN of ASCII letters and digits that is no header and
a whole second. -/
structure WirePunch where
  pin : String
  time : Naive
  status : Nat
  verify : Nat
  workCode : Nat
  named : pin ≠ ""
  plain : ∀ char ∈ pin.toList, char.isAlphanum = true
  unlisted : ∀ head ∈ headerPrefixes, startsWith (asciiLower pin) head = false
  whole : time.microsecond = 0

namespace WirePunch

def dateText (punch : WirePunch) : String := strftime punch.time (ymd '-')

def clockText (punch : WirePunch) : String := strftime punch.time hms

/-- `YYYY-MM-DD HH:MM:SS` -/
def timeText (punch : WirePunch) : String := strftime punch.time standardFormat

def columns (punch : WirePunch) : List String :=
  [punch.pin, punch.timeText, toString punch.status, toString punch.verify,
    toString punch.workCode]

def line (punch : WirePunch) : WireLayout → String
  | .keyValue =>
      joinChar '\t' ["PIN=" ++ punch.pin, "TIME=" ++ punch.timeText,
        "STATUS=" ++ toString punch.status, "VERIFY=" ++ toString punch.verify,
        "WORKCODE=" ++ toString punch.workCode]
  | .tabs => joinChar '\t' punch.columns
  | .spaces => joinChar ' ' punch.columns
  | .commas => joinChar ',' punch.columns

end WirePunch

def eveningPunch : WirePunch where
  pin := "102"
  time := sampleTime
  status := 0
  verify := 1
  workCode := 0
  named := by decide
  plain := List.all_eq_true.mp (by decide)
  unlisted := by decide
  whole := rfl

/-! ## The characters of a line -/

def wireChar (char : Char) : Bool := char.isAlphanum || char == '-' || char == ':'

theorem ascii_of_isAlphanum {char : Char} (alphanum : char.isAlphanum = true) :
    char.toNat < 128 := by
  have ranges : (('A'.val ≤ char.val ∧ char.val ≤ 'Z'.val) ∨
      ('a'.val ≤ char.val ∧ char.val ≤ 'z'.val)) ∨ char.isDigit = true := by
    rw [Char.isAlphanum, Bool.or_eq_true] at alphanum
    refine alphanum.imp_left fun alpha => ?_
    have letter : (char.isUpper || char.isLower) = true := alpha
    exact (Bool.or_eq_true_iff.mp letter).imp of_decide_eq_true fun lower =>
      (Bool.and_eq_true_iff.mp lower).imp of_decide_eq_true of_decide_eq_true
  simp only [UInt32.le_iff_toNat_le, Char.isDigit_iff_toNat] at ranges
  change ((65 ≤ char.toNat ∧ char.toNat ≤ 90) ∨ (97 ≤ char.toNat ∧ char.toNat ≤ 122)) ∨
    (48 ≤ char.toNat ∧ char.toNat ≤ 57) at ranges
  omega

theorem ascii_of_wireChar {char : Char} (wire : wireChar char = true) : char.toNat < 128 := by
  simp only [wireChar, Bool.or_eq_true, beq_iff_eq] at wire
  rcases wire with (alphanum | rfl) | rfl
  · exact ascii_of_isAlphanum alphanum
  · decide
  · decide

theorem wireChar_facts {char : Char} (wire : wireChar char = true) :
    isSpace char = false ∧ char ≠ '=' ∧ char ≠ ',' ∧ isSpace char.toLower = false := by
  have entry := of_ascii (fun char => !wireChar char ||
      (!isSpace char && char != '=' && char != ',' && !isSpace char.toLower))
    (by decide +kernel) (ascii_of_wireChar wire)
  simpa [wire, and_assoc] using entry

def Solid (text : String) : Prop := ∀ char ∈ text.toList, wireChar char = true

theorem Solid.visible {text : String} (solid : Solid text) :
    ∀ char ∈ text.toList, isSpace char = false :=
  fun char member => (wireChar_facts (solid char member)).1

theorem Solid.strip {text : String} (solid : Solid text) : strip text = text := by
  rw [Py.strip, stripChars_of_no_space _ solid.visible, String.ofList_toList]

theorem Solid.notMem {text : String} (solid : Solid text) {char : Char}
    (other : wireChar char = false) : char ∉ text.toList := by
  intro member
  rw [solid char member] at other
  cases other

theorem wireChar_of_isDigit {char : Char} (digit : char.isDigit = true) :
    wireChar char = true := by
  simp [wireChar, Char.isAlphanum, digit]

theorem solid_toString (number : Nat) : Solid (toString number) := by
  intro char member
  rw [toList_toString] at member
  exact wireChar_of_isDigit (toDigits_isDigit number char member)

theorem solid_strftime (time : Naive) {format : List Directive}
    (marks : ∀ directive ∈ format, directive ≠ .space ∧
      ∀ char, directive = .literal char → wireChar char = true) :
    Solid (strftime time format) := by
  intro char member
  rw [strftime, String.toList_ofList] at member
  obtain ⟨directive, listed, written⟩ := List.mem_flatMap.mp member
  obtain ⟨solid, literal⟩ := marks directive listed
  by_cases mark : ∃ other, directive = .literal other
  · obtain ⟨other, rfl⟩ := mark
    rw [List.mem_singleton.mp written]
    exact literal other rfl
  · exact wireChar_of_isDigit
      (written_isDigit time solid (fun other same => mark ⟨other, same⟩) char written)

theorem strftime_append (time : Naive) (front back : List Directive) :
    (strftime time (front ++ back)).toList =
      (strftime time front).toList ++ (strftime time back).toList := by
  simp [strftime]

theorem strftime_ne_empty (time : Naive) {format : List Directive} (nonempty : format ≠ []) :
    strftime time format ≠ "" := by
  intro empty
  have chars : format.flatMap time.written = [] := by
    rw [← String.toList_ofList (l := format.flatMap time.written)]
    exact congrArg String.toList empty
  obtain ⟨directive, rest, rfl⟩ := List.exists_cons_of_ne_nil nonempty
  have first := List.flatMap_eq_nil_iff.mp chars directive (List.mem_cons_self ..)
  cases directive <;> cases first

/-! ## The text of a time -/

theorem solid_ymdText (time : Naive) : Solid (strftime time (ymd '-')) :=
  solid_strftime time (by simp [ymd, wireChar])

theorem solid_hmsText (time : Naive) : Solid (strftime time hms) :=
  solid_strftime time (by simp [hms, wireChar])

theorem standardText_eq (time : Naive) :
    strftime time standardFormat = strftime time (ymd '-') ++ (" " ++ strftime time hms) := by
  apply String.toList_injective
  have parts : standardFormat = ymd '-' ++ ([.space] ++ hms) := rfl
  rw [parts, strftime_append, strftime_append, String.toList_append, String.toList_append]
  rfl

theorem strip_standardText (time : Naive) :
    strip (strftime time standardFormat) = strftime time standardFormat := by
  have whole : (strftime time standardFormat).toList =
      (strftime time (ymd '-')).toList ++ (" ".toList ++ (strftime time hms).toList) := by
    rw [standardText_eq, String.toList_append, String.toList_append]
  exact strip_of_ends _ whole (by simpa using strftime_ne_empty time (by simp [ymd]))
    (by simpa using strftime_ne_empty time (by simp [hms])) (solid_ymdText time).visible
    (solid_hmsText time).visible

theorem standardText_ne_empty (time : Naive) : strftime time standardFormat ≠ "" :=
  strftime_ne_empty time (List.cons_ne_nil _ _)

theorem parseTime_standardText (time : Naive) (whole : time.microsecond = 0) :
    parseTime (strftime time standardFormat) = some time := by
  have formats : timeFormats = standardFormat :: timeFormats.tail := rfl
  have read : strptime (strftime time standardFormat) standardFormat = some time :=
    strptime_strftime time whole
  rw [parseTime, strip_standardText, if_neg (standardText_ne_empty time), formats,
    List.findSome?_cons, read]

/-- The dashboard reads the time as it was written, without an offset. -/
theorem readTimestamp_standardText [IsoFormat] (reads : ReadsWritten) (time : Naive)
    (whole : time.microsecond = 0) :
    readTimestamp (strftime time standardFormat) = some (.naive time) := by
  have plain := reads time whole
  simp [readTimestamp, strip_standardText, standardText_ne_empty, plain]

theorem not_readsAware_standardText [IsoFormat] (reads : ReadsWritten) (time : Naive)
    (whole : time.microsecond = 0) : ¬ ReadsAware (strftime time standardFormat) := by
  rintro ⟨stamp, read, aware⟩
  rw [readTimestamp_standardText reads time whole] at read
  rw [← Option.some.inj read] at aware
  cases aware

namespace WirePunch

variable (punch : WirePunch)

theorem solid_pin : Solid punch.pin := by
  intro char member
  simp [wireChar, punch.plain char member]

theorem solid_dateText : Solid punch.dateText := solid_ymdText punch.time

theorem solid_clockText : Solid punch.clockText := solid_hmsText punch.time

theorem timeText_eq : punch.timeText = punch.dateText ++ (" " ++ punch.clockText) :=
  standardText_eq punch.time

theorem dateText_ne_empty : punch.dateText ≠ "" :=
  strftime_ne_empty punch.time (by simp [ymd])

theorem clockText_ne_empty : punch.clockText ≠ "" :=
  strftime_ne_empty punch.time (by simp [hms])

theorem strip_timeText : strip punch.timeText = punch.timeText := strip_standardText punch.time

theorem dash_mem_timeText : '-' ∈ punch.dateText.toList := by
  rw [dateText, strftime, String.toList_ofList]
  simp [ymd, Naive.written]

theorem colon_mem_clockText : ':' ∈ punch.clockText.toList := by
  rw [clockText, strftime, String.toList_ofList]
  simp [hms, Naive.written]

/-! ## Reading the time -/

theorem timeText_ne_empty : punch.timeText ≠ "" := standardText_ne_empty punch.time

theorem parseTime_timeText : parseTime punch.timeText = some punch.time :=
  parseTime_standardText punch.time punch.whole

theorem parseTime_dateText : parseTime punch.dateText = none := by
  have visible := punch.solid_dateText.visible
  have compact : strptime punch.dateText [.year, .month, .day, .hour, .minute, .second] = none := by
    have small : punch.time.year < 10000 := Nat.lt_succ_of_le punch.time.valid.1.2
    have text : punch.dateText.toList = fourDigits punch.time.year ++
        ('-' :: (twoDigits punch.time.month ++ ('-' :: twoDigits punch.time.day))) := by
      simp [dateText, strftime, ymd, Naive.written]
    have noMonth : ∀ rest, Directive.month.matches ('-' :: rest) = [] := fun _ => rfl
    rw [strptime, text, formatMatches, year_matches small]
    simp [formatMatches, noMonth]
  rw [parseTime, punch.solid_dateText.strip, if_neg punch.dateText_ne_empty,
    List.findSome?_eq_none_iff]
  intro format listed
  simp only [timeFormats, List.mem_cons, List.not_mem_nil, or_false] at listed
  rcases listed with rfl | rfl | rfl | rfl | rfl
  · exact strptime_of_solid (by decide) visible
  · exact strptime_of_solid (by decide) visible
  · exact strptime_of_solid (by decide) visible
  · exact strptime_of_solid (by decide) visible
  · exact compact

/-- A record with the fields of the punch is stored as the punch. -/
theorem toPunch_fields (record : PunchRecord) (pin : record.userId = punch.pin)
    (time : record.timestamp = punch.timeText) (status : record.status = toString punch.status)
    (verify : record.verifyType = toString punch.verify)
    (workCode : record.workCode = toString punch.workCode) :
    ∃ stored, toPunch record = some stored ∧ stored.deviceUserId = punch.pin ∧
      stored.deviceTime = punch.time ∧ stored.punchState = punch.status ∧
      stored.verifyMode = some (punch.verify : Int) ∧
      stored.workCode = some (toString punch.workCode) := by
  have stripped := punch.solid_pin.strip
  have coded : toString punch.workCode ≠ "" := toString_ne_empty _
  have number : ∀ (value : Nat) (default : Option Int),
      asInt (toString value) default = some (value : Int) := by
    intro value default
    rw [asInt, strip_toString, int?_toString]
    rfl
  simp only [toPunch, pin, time, status, verify, workCode, parseTime_timeText, stripped,
    punch.named, if_false, number, coded, Option.getD_some]
  exact ⟨_, rfl, rfl, rfl, rfl, rfl, rfl⟩

/-! ## The line of a body -/

def lineChar (char : Char) : Bool :=
  wireChar char || char == ' ' || char == '\t' || char == ',' || char == '='

theorem lineChar_facts {char : Char} (inside : lineChar char = true) :
    char.toNat < 128 ∧ char ≠ '\r' ∧ char ≠ '\n' := by
  simp only [lineChar, Bool.or_eq_true, beq_iff_eq] at inside
  rcases inside with (((wire | rfl) | rfl) | rfl) | rfl
  · have ascii := ascii_of_wireChar wire
    have entry := of_ascii (fun char => !wireChar char || (char != '\r' && char != '\n'))
      (by decide +kernel) ascii
    simp only [wire, Bool.not_true, Bool.false_or, Bool.and_eq_true, bne_iff_ne] at entry
    exact ⟨ascii, entry⟩
  all_goals decide

theorem Solid.lineChar {text : String} (solid : Solid text) :
    ∀ char ∈ text.toList, lineChar char = true := by
  intro char member
  simp [WirePunch.lineChar, solid char member]

theorem mem_columns {column : String} (listed : column ∈ punch.columns) {char : Char}
    (member : char ∈ column.toList) : wireChar char = true ∨ char = ' ' := by
  simp only [columns, List.mem_cons, List.not_mem_nil, or_false] at listed
  rcases listed with rfl | rfl | rfl | rfl | rfl
  · exact Or.inl (punch.solid_pin char member)
  · rw [timeText_eq, String.toList_append, String.toList_append, List.mem_append,
      List.mem_append] at member
    rcases member with date | space | clock
    · exact Or.inl (punch.solid_dateText char date)
    · exact Or.inr (List.mem_singleton.mp space)
    · exact Or.inl (punch.solid_clockText char clock)
  all_goals exact Or.inl (solid_toString _ char member)

theorem notMem_columns {column : String} (listed : column ∈ punch.columns) {char : Char}
    (other : wireChar char = false) (notSpace : char ≠ ' ') : char ∉ column.toList := by
  intro member
  rcases punch.mem_columns listed member with wire | space
  · rw [wire] at other
    cases other
  · exact notSpace space

theorem mem_fields {key value : String} (keyLine : ∀ char ∈ key.toList, lineChar char = true)
    (valueLine : ∀ char ∈ value.toList, lineChar char = true) :
    ∀ char ∈ (key ++ value).toList, lineChar char = true := by
  intro char member
  rw [String.toList_append] at member
  rcases List.mem_append.mp member with inKey | inValue
  · exact keyLine char inKey
  · exact valueLine char inValue

theorem line_chars (layout : WireLayout) :
    ∀ char ∈ (punch.line layout).toList, lineChar char = true := by
  have column : ∀ column ∈ punch.columns, ∀ char ∈ column.toList, lineChar char = true := by
    intro column listed char member
    rcases punch.mem_columns listed member with wire | rfl
    · simp [lineChar, wire]
    · rfl
  have joined : ∀ separator, lineChar separator = true → ∀ char ∈
      (joinChar separator punch.columns).toList, lineChar char = true := by
    intro separator mark char member
    rcases mem_joinChar member with rfl | ⟨text, listed, inside⟩
    · exact mark
    · exact column text listed char inside
  cases layout with
  | tabs => exact joined '\t' rfl
  | spaces => exact joined ' ' rfl
  | commas => exact joined ',' rfl
  | keyValue =>
      intro char member
      rcases mem_joinChar member with rfl | ⟨text, listed, inside⟩
      · rfl
      · simp only [List.mem_cons, List.not_mem_nil, or_false] at listed
        rcases listed with rfl | rfl | rfl | rfl | rfl
        all_goals
          exact mem_fields (by simp [lineChar, wireChar]) (column _ (by simp [columns])) char inside

theorem line_ends (layout : WireLayout) :
    ∃ front middle back, (punch.line layout).toList = front ++ (middle ++ back) ∧
      front ≠ [] ∧ back ≠ [] ∧ (∀ char ∈ front, wireChar char = true) ∧
        ∀ char ∈ back, wireChar char = true := by
  have last := solid_toString punch.workCode
  have lastPresent : (toString punch.workCode).toList ≠ [] := by simp
  have columnEnds : ∀ separator, ∃ middle, (joinChar separator punch.columns).toList =
      punch.pin.toList ++ (middle ++ (toString punch.workCode).toList) := by
    intro separator
    obtain ⟨middle, whole⟩ := joinChar_ends separator punch.pin
      [punch.timeText, toString punch.status, toString punch.verify] (toString punch.workCode)
    exact ⟨middle, whole⟩
  have columnLine : ∀ separator, ∃ front middle back,
      (joinChar separator punch.columns).toList = front ++ (middle ++ back) ∧
        front ≠ [] ∧ back ≠ [] ∧ (∀ char ∈ front, wireChar char = true) ∧
          ∀ char ∈ back, wireChar char = true := by
    intro separator
    obtain ⟨middle, whole⟩ := columnEnds separator
    exact ⟨_, middle, _, whole, by simpa using punch.named, lastPresent, punch.solid_pin, last⟩
  cases layout with
  | tabs => exact columnLine '\t'
  | spaces => exact columnLine ' '
  | commas => exact columnLine ','
  | keyValue =>
      obtain ⟨middle, whole⟩ := joinChar_ends '\t' ("PIN=" ++ punch.pin)
        ["TIME=" ++ punch.timeText, "STATUS=" ++ toString punch.status,
          "VERIFY=" ++ toString punch.verify] ("WORKCODE=" ++ toString punch.workCode)
      refine ⟨['P', 'I', 'N'], '=' :: (punch.pin.toList ++ (middle ++ "WORKCODE=".toList)),
        (toString punch.workCode).toList, ?_, by simp, lastPresent, by simp [wireChar], last⟩
      rw [line]
      refine whole.trans ?_
      simp [String.toList_append]

theorem strip_line (layout : WireLayout) : strip (punch.line layout) = punch.line layout := by
  obtain ⟨front, middle, back, whole, frontPresent, backPresent, frontWire, backWire⟩ :=
    punch.line_ends layout
  exact strip_of_ends _ whole frontPresent backPresent
    (fun char member => (wireChar_facts (frontWire char member)).1)
    (fun char member => (wireChar_facts (backWire char member)).1)

theorem line_ne_empty (layout : WireLayout) : punch.line layout ≠ "" := by
  obtain ⟨front, middle, back, whole, frontPresent, _⟩ := punch.line_ends layout
  intro empty
  rw [empty] at whole
  exact frontPresent (List.append_eq_nil_iff.mp whole.symm).1

theorem lower_columns (separator : Char) (same : separator.toLower = separator) :
    ∃ rest, (asciiLower (joinChar separator punch.columns)).toList =
      (asciiLower punch.pin).toList ++ separator :: rest := by
  rw [columns, asciiLower, String.toList_ofList, toList_joinChar_cons, List.map_append,
    List.map_cons, same, asciiLower, String.toList_ofList]
  exact ⟨_, rfl⟩

end WirePunch

end PumoBioMetric.Sync
