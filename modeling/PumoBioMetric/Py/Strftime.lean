import Mathlib.Tactic.IntervalCases
import PumoBioMetric.Py.Strptime

/-!
# `datetime.strftime`, and `strptime` on what it wrote

Numeric directives are written with their documented widths: four digits for a year,
two for the others.
-/

set_option autoImplicit false

namespace PumoBioMetric.Py

def twoDigits (value : Nat) : List Char :=
  [(value / 10 % 10).digitChar, (value % 10).digitChar]

def fourDigits (value : Nat) : List Char :=
  twoDigits (value / 100) ++ twoDigits (value % 100)

def Naive.written (time : Naive) : Directive → List Char
  | .year => fourDigits time.year
  | .month => twoDigits time.month
  | .day => twoDigits time.day
  | .hour => twoDigits time.hour
  | .minute => twoDigits time.minute
  | .second => twoDigits time.second
  | .space => [' ']
  | .literal char => [char]

def strftime (time : Naive) (format : List Directive) : String :=
  String.ofList (format.flatMap time.written)

/-! ## What a directive makes of its own digits -/

theorem digitValue_digitChar : ∀ digit < 10, digitValue digit.digitChar = some digit := by decide

theorem isSpace_digitChar : ∀ digit < 10, isSpace digit.digitChar = false := by decide

theorem digitChar_isDigit : ∀ digit < 10, digit.digitChar.isDigit = true := by decide

theorem year_matches {value : Nat} (small : value < 10000) (rest : List Char) :
    Directive.year.matches (fourDigits value ++ rest) = [(value, rest)] := by
  have digits : ∀ number, digitValue (number % 10).digitChar = some (number % 10) :=
    fun number => digitValue_digitChar _ (Nat.mod_lt _ (by decide))
  have accepted : ∀ number, anyDigit (number % 10).digitChar = true := by
    intro number
    rw [anyDigit, digits]
    rfl
  simp only [Directive.matches, Directive.alternatives, fourDigits, twoDigits,
    List.cons_append, List.nil_append, List.filterMap_cons, List.filterMap_nil, matchClasses,
    accepted, if_true, Option.map_some, numberOf, List.foldl_cons, List.foldl_nil, digits,
    Option.getD_some]
  congr 2
  omega

theorem year_reads {value : Nat} (small : value < 10000) (rest : List Char) :
    (Directive.year.matches (fourDigits value ++ rest)).head? = some (value, rest) := by
  rw [year_matches small]
  rfl

theorem month_reads {value : Nat} (low : 1 ≤ value) (high : value ≤ 12) (rest : List Char) :
    (Directive.month.matches (twoDigits value ++ rest)).head? = some (value, rest) := by
  interval_cases value <;> rfl

theorem day_reads {value : Nat} (low : 1 ≤ value) (high : value ≤ 31) (rest : List Char) :
    (Directive.day.matches (twoDigits value ++ rest)).head? = some (value, rest) := by
  interval_cases value <;> rfl

theorem hour_reads {value : Nat} (high : value < 24) (rest : List Char) :
    (Directive.hour.matches (twoDigits value ++ rest)).head? = some (value, rest) := by
  interval_cases value <;> rfl

theorem minute_reads {value : Nat} (high : value < 60) (rest : List Char) :
    (Directive.minute.matches (twoDigits value ++ rest)).head? = some (value, rest) := by
  interval_cases value <;> rfl

theorem second_reads {value : Nat} (high : value < 60) (rest : List Char) :
    (Directive.second.matches (twoDigits value ++ rest)).head? = some (value, rest) := by
  interval_cases value <;> rfl

theorem space_reads {char : Char} (visible : isSpace char = false) (rest : List Char) :
    (Directive.space.matches (' ' :: char :: rest)).head? = some (0, char :: rest) := by
  have run : (' ' :: char :: rest).takeWhile isSpace = [' '] := by
    rw [List.takeWhile_cons_of_pos (by decide), List.takeWhile_cons_of_neg (by simp [visible])]
  simp only [Directive.matches, spaceMatches, run]
  rfl

theorem literal_reads (char : Char) (rest : List Char) :
    ((Directive.literal char).matches (char :: rest)).head? = some (numberOf [char], rest) := by
  simp [Directive.matches, Directive.alternatives, matchClasses]

/-- The number that the digits of a directive spell. -/
def Naive.field (time : Naive) : Directive → Nat
  | .year => time.year
  | .month => time.month
  | .day => time.day
  | .hour => time.hour
  | .minute => time.minute
  | .second => time.second
  | .space => 0
  | .literal char => numberOf [char]

theorem Naive.day_le (time : Naive) : time.day ≤ 31 := by
  obtain ⟨_, _, ⟨_, inMonth⟩, _⟩ := time.valid
  unfold daysInMonth at inMonth
  split at inMonth
  · split at inMonth <;> omega
  · split at inMonth <;> omega

theorem written_reads (time : Naive) (directive : Directive) (rest : List Char)
    (visible : directive = .space → ∃ char more, rest = char :: more ∧ isSpace char = false) :
    (directive.matches (time.written directive ++ rest)).head? =
      some (time.field directive, rest) := by
  obtain ⟨⟨_, yearHigh⟩, ⟨monthLow, monthHigh⟩, ⟨dayLow, _⟩, hour, minute, second, _⟩ :=
    time.valid
  cases directive with
  | year => exact year_reads (Nat.lt_succ_of_le yearHigh) rest
  | month => exact month_reads monthLow monthHigh rest
  | day => exact day_reads dayLow time.day_le rest
  | hour => exact hour_reads hour rest
  | minute => exact minute_reads minute rest
  | second => exact second_reads second rest
  | space =>
      obtain ⟨char, more, rfl, notSpace⟩ := visible rfl
      exact space_reads notSpace more
  | literal char => exact literal_reads char rest

/-! ## A whole format -/

theorem formatMatches_head {directive : Directive} {format : List Directive}
    {text rest : List Char} {fields : Fields} {value : Nat} {found : Fields × List Char}
    (first : (directive.matches text).head? = some (value, rest))
    (others : (formatMatches format rest (fields.set value directive)).head? = some found) :
    (formatMatches (directive :: format) text fields).head? = some found := by
  obtain ⟨later, ways⟩ := List.head?_eq_some_iff.mp first
  obtain ⟨more, tail⟩ := List.head?_eq_some_iff.mp others
  rw [formatMatches, ways, List.flatMap_cons, tail]
  rfl

/-- No white space of the format is at its end or before more white space. -/
def separates : List Directive → Prop
  | [] => True
  | directive :: format =>
      (directive = .space → ∃ next more, format = next :: more ∧
        ∀ (time : Naive) (rest : List Char),
          ∃ char tail, time.written next ++ rest = char :: tail ∧ isSpace char = false) ∧
      separates format

theorem formatMatches_written (time : Naive) (format : List Directive) (fields : Fields)
    (spaced : separates format) :
    (formatMatches format (format.flatMap time.written) fields).head? =
      some (format.foldl (fun fields directive => fields.set (time.field directive) directive)
        fields, []) := by
  induction format generalizing fields with
  | nil => rfl
  | cons directive format ih =>
      rw [List.flatMap_cons, List.foldl_cons]
      refine formatMatches_head (written_reads time directive _ ?_) (ih _ spaced.2)
      intro isSpace
      obtain ⟨next, more, rfl, digits⟩ := spaced.1 isSpace
      exact digits time _

theorem written_isDigit (time : Naive) {directive : Directive} (solid : directive ≠ .space)
    (numeric : ∀ char, directive ≠ .literal char) :
    ∀ char ∈ time.written directive, char.isDigit = true := by
  have digit : ∀ number, (number % 10).digitChar.isDigit = true :=
    fun number => digitChar_isDigit _ (Nat.mod_lt _ (by decide))
  have two : ∀ value, ∀ char ∈ twoDigits value, char.isDigit = true := by
    intro value char member
    simp only [twoDigits, List.mem_cons, List.not_mem_nil, or_false] at member
    rcases member with rfl | rfl <;> exact digit _
  cases directive with
  | year =>
      intro char member
      rcases List.mem_append.mp member with high | low
      · exact two _ char high
      · exact two _ char low
  | month => exact two _
  | day => exact two _
  | hour => exact two _
  | minute => exact two _
  | second => exact two _
  | space => contradiction
  | literal char => exact absurd rfl (numeric char)

/-! ## Text that no way of matching uses up -/

theorem matchClasses_rest {classes : List (Char → Bool)} {text : List Char}
    {found : List Char × List Char} (matched : matchClasses classes text = some found) :
    found.2 <:+ text := by
  induction classes generalizing text found with
  | nil =>
      cases matched
      exact List.suffix_rfl
  | cons accepts classes ih =>
      cases text with
      | nil => cases matched
      | cons char text =>
          rw [matchClasses] at matched
          split at matched
          · obtain ⟨inner, tail, rfl⟩ := Option.map_eq_some_iff.mp matched
            exact (ih tail).trans (List.suffix_cons _ _)
          · cases matched

theorem matches_rest {directive : Directive} {text : List Char} {found : Nat × List Char}
    (matched : found ∈ directive.matches text) : found.2 <:+ text := by
  unfold Directive.matches at matched
  split at matched
  · obtain ⟨rest, listed, rfl⟩ := List.mem_map.mp matched
    obtain ⟨shorter, _, rfl⟩ := List.mem_map.mp listed
    exact List.drop_suffix _ _
  · obtain ⟨classes, _, taken⟩ := List.mem_filterMap.mp matched
    obtain ⟨inner, consumed, rfl⟩ := Option.map_eq_some_iff.mp taken
    exact matchClasses_rest consumed

theorem formatMatches_of_solid {format : List Directive} (spaced : .space ∈ format)
    {text : List Char} (solid : ∀ char ∈ text, isSpace char = false) (fields : Fields) :
    formatMatches format text fields = [] := by
  induction format generalizing text fields with
  | nil => simp at spaced
  | cons directive format ih =>
      rw [formatMatches, List.flatMap_eq_nil_iff]
      intro found matched
      have rest : ∀ char ∈ found.2, isSpace char = false :=
        fun char member => solid char ((matches_rest matched).subset member)
      rcases List.mem_cons.mp spaced with rfl | later
      · have run : text.takeWhile isSpace = [] := by
          cases text with
          | nil => rfl
          | cons char text =>
              exact List.takeWhile_cons_of_neg (by simp [solid char List.mem_cons_self])
        simp [Directive.matches, spaceMatches, run] at matched
      · exact ih later rest _

theorem strptime_of_solid {format : List Directive} (spaced : .space ∈ format) {text : String}
    (solid : ∀ char ∈ text.toList, isSpace char = false) : strptime text format = none := by
  rw [strptime, formatMatches_of_solid spaced solid]
  rfl

theorem matchClasses_met {classes : List (Char → Bool)} {text : List Char}
    {found : List Char × List Char} (matched : matchClasses classes text = some found) :
    ∀ accepts ∈ classes, ∃ char ∈ text, accepts char = true := by
  induction classes generalizing text found with
  | nil => simp
  | cons accepts classes ih =>
      cases text with
      | nil => cases matched
      | cons char text =>
          rw [matchClasses] at matched
          split at matched
          · rename_i accepted
            obtain ⟨inner, tail, rfl⟩ := Option.map_eq_some_iff.mp matched
            intro other member
            rcases List.mem_cons.mp member with rfl | later
            · exact ⟨char, List.mem_cons_self, accepted⟩
            · obtain ⟨met, inText, holds⟩ := ih tail other later
              exact ⟨met, List.mem_cons_of_mem _ inText, holds⟩
          · cases matched

theorem anyDigit_of_between {low high char : Char} (lower : '0' ≤ low) (upper : high ≤ '9')
    (inside : between low high char = true) : anyDigit char = true := by
  obtain ⟨above, below⟩ := Bool.and_eq_true_iff.mp inside
  have first : '0' ≤ char := Char.le_trans lower (of_decide_eq_true above)
  have last : char ≤ '9' := Char.le_trans (of_decide_eq_true below) upper
  have digit : char.isDigit = true := by
    rw [Char.isDigit, Bool.and_eq_true_iff]
    exact ⟨decide_eq_true first, decide_eq_true last⟩
  rw [anyDigit, digitValue_of_asciiDigit digit]
  rfl

def DigitClass (accepts : Char → Bool) : Prop := ∀ char, accepts char = true → anyDigit char = true

theorem digitClass_any : DigitClass anyDigit := fun _ digit => digit

theorem digitClass_between {low high : Char} (lower : '0' ≤ low) (upper : high ≤ '9') :
    DigitClass (between low high) := fun _ => anyDigit_of_between lower upper

theorem digitClass_mark {digit : Char} (isDigit : anyDigit digit = true) :
    DigitClass (· == digit) := by
  intro char same
  rwa [eq_of_beq same]

theorem alternatives_digits {directive : Directive}
    (numeric : ∀ char, directive ≠ .literal char) :
    ∀ classes ∈ directive.alternatives, ∃ first others, classes = first :: others ∧
      (DigitClass first ∨ directive = .day ∧ first = (· == ' ') ∧ others ≠ []) ∧
      ∀ accepts ∈ others, DigitClass accepts := by
  have one : ∀ {first}, DigitClass first → ∃ front back, [first] = front :: back ∧
      (DigitClass front ∨ directive = .day ∧ front = (· == ' ') ∧ back ≠ []) ∧
      ∀ accepts ∈ back, DigitClass accepts :=
    fun {first} digit => ⟨first, [], rfl, Or.inl digit, by simp⟩
  have two : ∀ {first second}, DigitClass first → DigitClass second →
      ∃ front back, [first, second] = front :: back ∧
        (DigitClass front ∨ directive = .day ∧ front = (· == ' ') ∧ back ≠ []) ∧
        ∀ accepts ∈ back, DigitClass accepts :=
    fun {first second} digit after => ⟨first, [second], rfl, Or.inl digit, by simpa using after⟩
  have zero : DigitClass (· == '0') := digitClass_mark rfl
  have nonzero : DigitClass (between '1' '9') := digitClass_between (by decide) (by decide)
  intro classes member
  cases directive <;>
    simp only [Directive.alternatives, List.mem_cons, List.not_mem_nil, or_false] at member
  case year =>
    subst member
    exact ⟨_, _, rfl, Or.inl digitClass_any, by simpa using digitClass_any⟩
  case month =>
    rcases member with rfl | rfl | rfl
    · exact two (digitClass_mark rfl) (digitClass_between (by decide) (by decide))
    · exact two zero nonzero
    · exact one nonzero
  case day =>
    rcases member with rfl | rfl | rfl | rfl | rfl
    · exact two (digitClass_mark rfl) (digitClass_between (by decide) (by decide))
    · exact two (digitClass_between (by decide) (by decide)) digitClass_any
    · exact two zero nonzero
    · exact one nonzero
    · exact ⟨_, _, rfl, Or.inr ⟨rfl, rfl, by simp⟩, by simpa using nonzero⟩
  case hour =>
    rcases member with rfl | rfl | rfl
    · exact two (digitClass_mark rfl) (digitClass_between (by decide) (by decide))
    · exact two (digitClass_between (by decide) (by decide)) digitClass_any
    · exact one digitClass_any
  case minute =>
    rcases member with rfl | rfl
    · exact two (digitClass_between (by decide) (by decide)) digitClass_any
    · exact one digitClass_any
  case second =>
    rcases member with rfl | rfl | rfl
    · exact two (digitClass_mark rfl) (digitClass_between (by decide) (by decide))
    · exact two (digitClass_between (by decide) (by decide)) digitClass_any
    · exact one digitClass_any
  case literal char => exact absurd rfl (numeric char)

theorem alternatives_digit {directive : Directive} (numeric : ∀ char, directive ≠ .literal char) :
    ∀ classes ∈ directive.alternatives, ∃ accepts ∈ classes, DigitClass accepts := by
  intro classes member
  obtain ⟨first, others, rfl, front, back⟩ := alternatives_digits numeric classes member
  rcases front with digit | ⟨_, _, something⟩
  · exact ⟨first, List.mem_cons_self, digit⟩
  · obtain ⟨second, rest, rfl⟩ := List.exists_cons_of_ne_nil something
    exact ⟨second, List.mem_cons_of_mem _ List.mem_cons_self, back _ List.mem_cons_self⟩

theorem matches_of_noDigit {directive : Directive} (solid : directive ≠ .space)
    (numeric : ∀ char, directive ≠ .literal char) {text : List Char}
    (noDigit : ∀ char ∈ text, anyDigit char = false) : directive.matches text = [] := by
  have unmet : ∀ classes ∈ directive.alternatives, matchClasses classes text = none := by
    intro classes member
    obtain ⟨accepts, here, digit⟩ := alternatives_digit numeric classes member
    by_contra some
    obtain ⟨found, matched⟩ := Option.ne_none_iff_exists'.mp some
    obtain ⟨char, inText, accepted⟩ := matchClasses_met matched accepts here
    exact absurd (digit char accepted) (by simp [noDigit char inText])
  cases directive with
  | space => contradiction
  | literal char => exact absurd rfl (numeric char)
  | _ =>
      refine List.filterMap_eq_nil_iff.mpr fun classes member => ?_
      rw [unmet classes member]
      rfl

theorem strptime_of_noDigit {directive : Directive} (solid : directive ≠ .space)
    (numeric : ∀ char, directive ≠ .literal char) (format : List Directive) {text : String}
    (noDigit : ∀ char ∈ text.toList, anyDigit char = false) :
    strptime text (directive :: format) = none := by
  rw [strptime, formatMatches, matches_of_noDigit solid numeric noDigit]
  rfl

/-- `%Y-%m-%d %H:%M:%S` -/
def standardFormat : List Directive :=
  [.year, .literal '-', .month, .literal '-', .day, .space, .hour, .literal ':', .minute,
    .literal ':', .second]

theorem separates_standardFormat : separates standardFormat := by
  have digits : ∀ (time : Naive) (rest : List Char),
      ∃ char tail, time.written .hour ++ rest = char :: tail ∧ isSpace char = false := by
    intro time rest
    exact ⟨_, _, rfl, isSpace_digitChar _ (Nat.mod_lt _ (by decide))⟩
  simpa [separates, standardFormat] using digits

theorem strptime_whole {text : String} {format : List Directive} {time : Naive}
    (parsed : strptime text format = some time) : time.microsecond = 0 := by
  unfold strptime at parsed
  split at parsed
  · unfold Naive.new? at parsed
    split at parsed
    · cases parsed
      rfl
    · cases parsed
  · cases parsed

/-- `strptime` inverts `strftime` on whole seconds where the format writes every field. -/
theorem strptime_written {format : List Directive} (spaced : separates format)
    (complete : ∀ time : Naive,
      format.foldl (fun (fields : Fields) directive =>
          fields.set (time.field directive) directive) {} =
        ⟨time.year, time.month, time.day, time.hour, time.minute, time.second⟩)
    (time : Naive) (whole : time.microsecond = 0) :
    strptime (strftime time format) format = some time := by
  have read := formatMatches_written time format {} spaced
  have valid := time.valid
  rw [whole] at valid
  unfold strptime strftime
  rw [String.toList_ofList, read, complete]
  obtain ⟨year, month, day, hour, minute, second, microsecond, _⟩ := time
  cases whole
  exact dif_pos valid

theorem strptime_strftime (time : Naive) (whole : time.microsecond = 0) :
    strptime (strftime time standardFormat) standardFormat = some time :=
  strptime_written separates_standardFormat (fun _ => rfl) time whole

end PumoBioMetric.Py
