import PumoBioMetric.Py.StrptimeCuts
import PumoBioMetric.Sync.WirePunch

/-!
# How many readings a timestamp has

The marks of a text tell which of `_TIME_FORMATS` it can match, and where there are marks
they tell the fields apart as well.  `%Y%m%d%H%M%S` has none: its fields are told apart by
their widths alone, and `strptime` accepts fields that are not padded.
-/

set_option autoImplicit false

namespace PumoBioMetric.Sync

open PumoBioMetric.Py

/-- `%Y%m%d%H%M%S` -/
def compactFormat : List Directive := [.year, .month, .day, .hour, .minute, .second]

/-- `%d-%m-%Y %H:%M:%S` -/
def dayFirstFormat : List Directive :=
  [.day, .literal '-', .month, .literal '-', .year, .space] ++ hms

def OneCut (text : List Char) : Prop :=
  ∀ format ∈ timeFormats, ∀ other ∈ timeFormats,
    ∀ (cut : FormatCut format text) (second : FormatCut other text),
      format = other ∧ cut.pieces = second.pieces

/-- Two cuts of the text by the formats that say a date-time say the same. -/
def OneReading (text : List Char) : Prop :=
  ∀ format ∈ timeFormats, ∀ other ∈ timeFormats,
    ∀ (cut : FormatCut format text) (second : FormatCut other text) (time : Naive),
      cut.time? = some time → ∀ read, second.time? = some read → time = read

/-- The fields of the text are set apart by marks, or all that adjoin are of one width: those
after the year, or those after the day where a blank stands before it. -/
def fieldsTold (text : List Char) : Bool :=
  text.contains '-' || text.contains '/' ||
    match text.dropWhile fun char => char != ' ' with
    | _ :: _ :: clock => clock.length == 3 || clock.length == 6
    | _ => text.length == 9 || text.length == 14

theorem OneCut.oneReading {text : List Char} (one : OneCut text) : OneReading text := by
  intro format listed other otherListed cut second time found read otherFound
  obtain ⟨rfl, pieces⟩ := one format listed other otherListed cut second
  obtain rfl : cut = second := Cut.ext pieces
  exact Option.some.inj (found.symm.trans otherFound)

/-! ## The marks of a format -/

def isMark (char : Char) : Bool := char == '-' || char == '/' || char == ':'

theorem isMark_false {char : Char} (other : anyDigit char = true ∨ isSpace char = true) :
    isMark char = false := by
  rw [Bool.eq_false_iff]
  intro mark
  simp only [isMark, Bool.or_eq_true, beq_iff_eq] at mark
  rcases mark with (rfl | rfl) | rfl <;> revert other <;> decide

def marks : Directive → List Char
  | .literal char => [char].filter isMark
  | _ => []

theorem filter_isMark_of_fits {directive : Directive} {piece : List Char}
    (fits : directive.Fits piece) : piece.filter isMark = marks directive := by
  by_cases mark : ∃ char, directive = .literal char
  · obtain ⟨char, rfl⟩ := mark
    rw [Directive.fits_literal.mp fits]
    rfl
  · have numeric : ∀ char, directive ≠ .literal char := fun char same => mark ⟨char, same⟩
    have none : marks directive = [] := by
      cases directive <;> first | rfl | exact absurd rfl (numeric _)
    rw [none, List.filter_eq_nil_iff]
    intro char member
    rw [Bool.not_eq_true]
    apply isMark_false
    by_cases blank : directive = .space
    · subst blank
      exact Or.inr (fits.2 char member)
    · obtain ⟨head, tail, rfl, front, digits⟩ := fits.digits blank numeric
      rcases List.mem_cons.mp member with rfl | inside
      · exact front.imp_right fun padded => by rw [padded.2.1]; rfl
      · exact Or.inl (digits char inside)

theorem filter_isMark_of_cut {format : List Directive} {text : List Char}
    (cut : FormatCut format text) : text.filter isMark = format.flatMap marks := by
  obtain ⟨pieces, fits, rfl⟩ := cut
  induction fits with
  | nil => rfl
  | cons first _ ih =>
      rw [List.flatten_cons, List.filter_append, filter_isMark_of_fits first, ih,
        List.flatMap_cons]

/-- The year first and the day first have one series of marks; the first of them comes after
four digits or after two at most. -/
theorem not_dayFirst_of_standard {text : List Char} (cut : FormatCut standardFormat text)
    (other : FormatCut dayFirstFormat text) : False := by
  obtain ⟨_, fits, whole⟩ := cut
  obtain ⟨_, otherFits, otherWhole⟩ := other
  cases fits with
  | @cons _ year _ _ yearFits fits =>
  cases fits with
  | cons dash _ =>
  cases otherFits with
  | @cons _ day _ _ dayFits otherFits =>
  cases otherFits with
  | cons otherDash _ =>
  rw [Directive.fits_literal.mp dash] at whole
  rw [Directive.fits_literal.mp otherDash] at otherWhole
  have free : ∀ {directive : Directive} {piece : List Char}, directive.Fits piece →
      marks directive = [] → ∀ char ∈ piece, ¬ char = '-' := by
    intro directive piece fits unmarked char member same
    have none := (filter_isMark_of_fits fits).trans unmarked
    rw [List.filter_eq_nil_iff] at none
    exact none char member (by rw [same]; rfl)
  obtain ⟨rfl, _⟩ := Cut.split_unique (whole.trans otherWhole.symm)
    (free yearFits rfl) (free dayFits rfl) rfl rfl
  have long := (yearFits.width (by simp)).1
  have short := (dayFits.width (by simp)).2
  exact absurd (long.trans short) (by decide)

/-- No two of the formats cut one text. -/
theorem format_unique {format other : List Directive} (listed : format ∈ timeFormats)
    (otherListed : other ∈ timeFormats) {text : List Char} (cut : FormatCut format text)
    (second : FormatCut other text) : format = other := by
  have same : format.flatMap marks = other.flatMap marks :=
    (filter_isMark_of_cut cut).symm.trans (filter_isMark_of_cut second)
  have table : ∀ format ∈ timeFormats, ∀ other ∈ timeFormats,
      format.flatMap marks = other.flatMap marks → format = other ∨
        format = standardFormat ∧ other = dayFirstFormat ∨
        format = dayFirstFormat ∧ other = standardFormat := by
    decide
  rcases table format listed other otherListed same with same | ⟨rfl, rfl⟩ | ⟨rfl, rfl⟩
  · exact same
  · exact (not_dayFirst_of_standard cut second).elim
  · exact (not_dayFirst_of_standard second cut).elim

/-! ## Fields without marks -/

theorem compact_blank {text : List Char} (cut : FormatCut compactFormat text)
    (blank : ' ' ∈ text) :
    ∃ year month last clock, cut.pieces = year :: month :: [' ', last] :: clock ∧
      year.length = 4 ∧ (∀ char ∈ year ++ month, ¬ char = ' ') ∧
      List.Forall₂ Directive.Fits [.hour, .minute, .second] clock := by
  have digits : ∀ {directive : Directive} {piece : List Char}, directive.Fits piece →
      directive ∈ [Directive.year, .month, .hour, .minute, .second] →
        ∀ char ∈ piece, ¬ char = ' ' := by
    intro directive piece fits listed char member same
    have digit := fits.all_digits listed char member
    rw [same] at digit
    revert digit
    decide
  obtain ⟨pieces, fits, rfl⟩ := cut
  simp only [compactFormat, List.forall₂_cons_left_iff, List.forall₂_nil_left_iff] at fits
  obtain ⟨year, _, yearFits, ⟨month, _, monthFits, ⟨day, _, dayFits, ⟨hour, _, hourFits,
    ⟨minute, _, minuteFits, ⟨second, _, secondFits, rfl, rfl⟩, rfl⟩, rfl⟩, rfl⟩, rfl⟩, rfl⟩ := fits
  have yearFree := digits yearFits (by simp)
  have monthFree := digits monthFits (by simp)
  have clock : List.Forall₂ Directive.Fits [.hour, .minute, .second] [hour, minute, second] :=
    .cons hourFits (.cons minuteFits (.cons secondFits .nil))
  have inDay : ' ' ∈ day := by
    simp only [List.flatten_cons, List.flatten_nil, List.mem_append, List.not_mem_nil,
      or_false] at blank
    rcases blank with inYear | inMonth | inDay | inHour | inMinute | inSecond
    · exact absurd rfl (yearFree _ inYear)
    · exact absurd rfl (monthFree _ inMonth)
    · exact inDay
    · exact absurd rfl (digits hourFits (by simp) _ inHour)
    · exact absurd rfl (digits minuteFits (by simp) _ inMinute)
    · exact absurd rfl (digits secondFits (by simp) _ inSecond)
  obtain ⟨last, rfl⟩ := dayFits.padded_day inDay
  refine ⟨year, month, last, [hour, minute, second], rfl, ?_, ?_, clock⟩
  · have bounds := yearFits.width (by simp)
    exact Nat.le_antisymm bounds.2 bounds.1
  · intro char member
    rcases List.mem_append.mp member with inYear | inMonth
    · exact yearFree char inYear
    · exact monthFree char inMonth

theorem compact_width {text : List Char} (cut : FormatCut compactFormat text)
    (told : fieldsTold text = true) :
    match text.dropWhile fun char => char != ' ' with
    | _ :: _ :: clock => clock.length = 3 ∨ clock.length = 6
    | _ => text.length = 9 ∨ text.length = 14 := by
  have unmarked := filter_isMark_of_cut cut
  have none : compactFormat.flatMap marks = [] := rfl
  rw [none, List.filter_eq_nil_iff] at unmarked
  have absent : ∀ mark, isMark mark = true → text.contains mark = false := by
    intro mark isMark
    rw [Bool.eq_false_iff]
    intro inside
    exact unmarked mark (List.contains_iff_mem.mp inside) isMark
  rw [fieldsTold, absent '-' rfl, absent '/' rfl, Bool.false_or, Bool.false_or] at told
  split at told <;> simpa using told

theorem compact_cut_unique {text : List Char} (told : fieldsTold text = true)
    (cut other : FormatCut compactFormat text) : cut = other := by
  have width := compact_width cut told
  by_cases blank : ' ' ∈ text
  · obtain ⟨year, month, last, clock, pieces, long, free, fits⟩ := compact_blank cut blank
    obtain ⟨otherYear, otherMonth, otherLast, otherClock, otherPieces, otherLong, otherFree,
      otherFits⟩ := compact_blank other blank
    have whole : text = (year ++ month) ++ ' ' :: last :: clock.flatten := by
      rw [← cut.whole, pieces]
      simp
    have otherWhole : text =
        (otherYear ++ otherMonth) ++ ' ' :: otherLast :: otherClock.flatten := by
      rw [← other.whole, otherPieces]
      simp
    obtain ⟨front, back⟩ := Cut.split_unique (whole.symm.trans otherWhole) free otherFree rfl rfl
    obtain ⟨rfl, rfl⟩ := List.append_inj front (long.trans otherLong.symm)
    obtain ⟨rfl, clocks⟩ := List.cons.inj (List.cons.inj back).2
    have clockWidth : clock.flatten.length = 3 ∨ clock.flatten.length = 6 := by
      have skipped : text.dropWhile (fun char => char != ' ') =
          ' ' :: last :: clock.flatten := by
        rw [whole, List.dropWhile_append_of_pos (by simpa using free)]
        rfl
      rw [skipped] at width
      exact width
    have sameClock := cut_unique_of_width (by decide) clockWidth
      ⟨clock, fits, rfl⟩ ⟨otherClock, otherFits, clocks.symm⟩
    apply Cut.ext
    rw [pieces, otherPieces, Cut.mk.inj sameClock]
  · have skipped : text.dropWhile (fun char => char != ' ') = [] := by
      rw [List.dropWhile_eq_nil_iff]
      intro char member
      simpa using fun same : char = ' ' => blank (same ▸ member)
    rw [skipped] at width
    exact cut_unique_of_width (by decide) width cut other

theorem oneCut_of_told {text : List Char} (told : fieldsTold text = true) : OneCut text := by
  intro format listed other otherListed cut second
  obtain rfl := format_unique listed otherListed cut second
  refine ⟨rfl, ?_⟩
  have table : ∀ format ∈ timeFormats, format = compactFormat ∨
      format.IsChain fun directive next => directive.endsBefore next = true := by
    decide
  rcases table format listed with rfl | separated
  · rw [compact_cut_unique told cut second]
  · rw [cut_unique_of_separated separated cut second]

/-! ## What was written -/

theorem strip_strftime (time : Naive) {format : List Directive} (listed : format ∈ timeFormats) :
    strip (strftime time format) = strftime time format := by
  have table : ∀ format ∈ timeFormats, ∃ first ∈ [Directive.year, .day],
      ∃ last ∈ [Directive.minute, .second],
        format = first :: (format.tail.dropLast ++ [last]) := by
    decide
  have number : ∀ directive ∈ [Directive.year, .day] ++ [.minute, .second],
      time.written directive ≠ [] ∧ ∀ char ∈ time.written directive, isSpace char = false := by
    intro directive member
    have solid : directive ≠ .space := by rintro rfl; revert member; decide
    have numeric : ∀ char, directive ≠ .literal char := by rintro char rfl; simp at member
    refine ⟨?_, fun char inside =>
      isSpace_of_asciiDigit (written_isDigit time solid numeric char inside)⟩
    cases directive <;> exact List.cons_ne_nil _ _
  obtain ⟨first, inFront, last, inBack, parts⟩ := table format listed
  have front := number first (List.mem_append_left [.minute, .second] inFront)
  have back := number last (List.mem_append_right [.year, .day] inBack)
  refine strip_of_ends (format.tail.dropLast.flatMap time.written) ?_ front.1 back.1 front.2 back.2
  rw [strftime, String.toList_ofList]
  conv => lhs; rw [parts]
  simp

theorem strptime_of_listed {format : List Directive} (listed : format ∈ timeFormats)
    (seconds : .second ∈ format) (time : Naive) (whole : time.microsecond = 0) :
    strptime (strftime time format) format = some time := by
  have digits : ∀ (time : Naive) (rest : List Char),
      ∃ char tail, time.written .hour ++ rest = char :: tail ∧ isSpace char = false := by
    intro time rest
    exact ⟨_, _, rfl, isSpace_digitChar _ (Nat.mod_lt _ (by decide))⟩
  simp only [timeFormats, List.mem_cons, List.not_mem_nil, or_false] at listed
  rcases listed with rfl | rfl | rfl | rfl | rfl
  · exact strptime_strftime time whole
  · exact strptime_written (by simpa [separates, ymd, hms] using digits) (fun _ => rfl) time whole
  · exact absurd seconds (by decide)
  · exact strptime_written (by simpa [separates, hms] using digits) (fun _ => rfl) time whole
  · exact strptime_written (by simp [separates]) (fun _ => rfl) time whole

/-- A whole second written in any of the formats with seconds reads back as it was. -/
theorem parseTime_strftime {format : List Directive} (listed : format ∈ timeFormats)
    (seconds : .second ∈ format) (time : Naive) (whole : time.microsecond = 0) :
    parseTime (strftime time format) = some time := by
  have read := strptime_of_listed listed seconds time whole
  have something : strftime time format ≠ "" :=
    strftime_ne_empty time (List.ne_nil_of_mem seconds)
  rw [parseTime, strip_strftime time listed, if_neg something]
  cases parsed : timeFormats.findSome? (strptime (strftime time format)) with
  | none =>
      have unread := List.findSome?_eq_none_iff.mp parsed format listed
      rw [read] at unread
      cases unread
  | some stored =>
      obtain ⟨other, otherListed, otherRead⟩ := List.exists_of_findSome?_eq_some parsed
      obtain ⟨cut, _⟩ := strptime_cut read
      obtain ⟨second, _⟩ := strptime_cut otherRead
      obtain rfl := format_unique listed otherListed cut second
      exact otherRead.symm.trans read

/-! ## The readings of a timestamp -/

/-- One format can match an accepted text.  Where its fields are told apart it has one cut;
otherwise the time stored is of the cut that takes more in the first field that differs.
Padded renderings read back. -/
theorem timestamp_readings :
    (∀ raw time, parseTime raw = some time →
      let text := (strip raw).toList
      (∀ format ∈ timeFormats, ∀ other ∈ timeFormats, Nonempty (FormatCut format text) →
        Nonempty (FormatCut other text) → format = other) ∧
      (fieldsTold text = true → OneCut text ∧ OneReading text) ∧
      ∃ format ∈ timeFormats, ∃ stored : FormatCut format text, stored.time? = some time ∧
        ∀ cut : FormatCut format text, cut = stored ∨ LongerFirst stored.pieces cut.pieces) ∧
    ∀ (time : Naive), time.microsecond = 0 → ∀ format ∈ timeFormats, .second ∈ format →
      parseTime (strftime time format) = some time := by
  refine ⟨fun raw time accepted => ⟨?_, ?_, ?_⟩, fun time whole format listed seconds => ?_⟩
  · rintro format listed other otherListed ⟨cut⟩ ⟨second⟩
    exact format_unique listed otherListed cut second
  · intro told
    exact ⟨oneCut_of_told told, (oneCut_of_told told).oneReading⟩
  · simp only [parseTime] at accepted
    split at accepted
    · cases accepted
    · obtain ⟨format, listed, read⟩ := List.exists_of_findSome?_eq_some accepted
      exact ⟨format, listed, strptime_cut read⟩
  · exact parseTime_strftime listed seconds time whole

theorem timestamp_readings_padded :
    OneReading (strip "20260815221205").toList ∧
      parseTime (strftime sampleTime standardFormat) = some sampleTime := by
  have padded : parseTime "20260815221205" = some sampleTime := by decide +kernel
  have told : fieldsTold (strip "20260815221205").toList = true := by decide +kernel
  exact ⟨((timestamp_readings.1 _ _ padded).2.1 told).2,
    timestamp_readings.2 sampleTime rfl standardFormat (by decide) (by decide)⟩

/-- Nine digits for five fields: 11 November, 23:45:06, or 11 January, 12:34:56. -/
theorem unpadded_compact_two_readings :
    (parseTime "2026111123456").isSome = true ∧
      ¬ OneReading (strip "2026111123456").toList := by
  refine ⟨by decide +kernel, fun one => ?_⟩
  have november : (⟨2026, 11, 11, 23, 45, 6⟩, []) ∈
      formatMatches compactFormat (strip "2026111123456").toList {} := by decide +kernel
  have january : (⟨2026, 1, 11, 12, 34, 56⟩, []) ∈
      formatMatches compactFormat (strip "2026111123456").toList {} := by decide +kernel
  obtain ⟨cut, stored⟩ := exists_cut_of_match november
  obtain ⟨other, read⟩ := exists_cut_of_match january
  have listed : compactFormat ∈ timeFormats := by decide
  have same := one compactFormat listed compactFormat listed cut other
    ⟨2026, 11, 11, 23, 45, 6, 0, by decide⟩ (stored.trans rfl)
    ⟨2026, 1, 11, 12, 34, 56, 0, by decide⟩ (read.trans rfl)
  exact absurd (congrArg Naive.month same) (by decide)

end PumoBioMetric.Sync
