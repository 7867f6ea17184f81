import PumoBioMetric.Router.AttlogPieces

/-!
# Blank columns of a tab-separated row

`parse_attlog` strips the line, keeps the empty columns in their places and drops the
columns of spaces only, so the columns after such a one move up.
-/

set_option autoImplicit false

namespace PumoBioMetric.Router

open Py

/-! ## Stripping joined columns -/

theorem exists_visible {text : String} (present : strip text ≠ "") :
    ∃ char ∈ text.toList, isSpace char = false := by
  by_contra none
  have blank : ∀ char ∈ text.toList, isSpace char = true := by
    intro char member
    by_contra visible
    exact none ⟨char, member, by simpa using visible⟩
  apply present
  rw [strip, stripChars, List.dropWhile_eq_nil_iff.mpr blank]
  rfl

theorem blank_of_strip {text : String} (empty : strip text = "") :
    ∀ char ∈ text.toList, isSpace char = true := by
  intro char member
  by_contra visible
  have kept := mem_strip_of_visible member (by simpa using visible)
  rw [empty] at kept
  cases kept

theorem dropWhile_append_visible {front : List Char}
    (visible : ∃ char ∈ front, isSpace char = false) (back : List Char) :
    (front ++ back).dropWhile isSpace = front.dropWhile isSpace ++ back := by
  obtain ⟨char, member, shown⟩ := visible
  have kept : front.dropWhile isSpace ≠ [] := by
    intro gone
    have blank := List.dropWhile_eq_nil_iff.mp gone char member
    rw [shown] at blank
    cases blank
  rw [List.dropWhile_append, if_neg (by simpa using kept)]

theorem rdropWhile_append_visible {back : List Char} (visible : ∃ char ∈ back, isSpace char = false)
    (front : List Char) :
    (front ++ back).rdropWhile isSpace = front ++ back.rdropWhile isSpace := by
  obtain ⟨char, member, shown⟩ := visible
  rw [List.rdropWhile, List.reverse_append,
    dropWhile_append_visible ⟨char, List.mem_reverse.mpr member, shown⟩, List.reverse_append,
    List.reverse_reverse]
  rfl

theorem rdropWhile_append_blank {back : List Char} (blank : ∀ char ∈ back, isSpace char = true)
    (front : List Char) : (front ++ back).rdropWhile isSpace = front.rdropWhile isSpace := by
  rw [List.rdropWhile, List.reverse_append,
    List.dropWhile_append_of_pos fun char member => blank char (List.mem_reverse.mp member)]
  rfl

def lstrip (column : String) : String := String.ofList (column.toList.dropWhile isSpace)

def rstrip (column : String) : String := String.ofList (column.toList.rdropWhile isSpace)

theorem strip_lstrip (column : String) : strip (lstrip column) = strip column := by
  rw [strip, lstrip, String.toList_ofList, stripChars, List.dropWhile_idempotent]
  rfl

theorem strip_rstrip {column : String} (present : strip column ≠ "") :
    strip (rstrip column) = strip column := by
  have parts : column.toList.rdropWhile isSpace ++ column.toList.rtakeWhile isSpace =
      column.toList := List.rdropWhile_append_rtakeWhile
  have blank : ∀ char ∈ column.toList.rtakeWhile isSpace, isSpace char = true :=
    fun _ member => List.mem_rtakeWhile_imp member
  have inside : ∃ char ∈ column.toList.rdropWhile isSpace, isSpace char = false := by
    obtain ⟨char, member, shown⟩ := exists_visible present
    rw [← parts] at member
    refine ⟨char, (List.mem_append.mp member).resolve_right fun later => ?_, shown⟩
    have isBlank := blank char later
    rw [shown] at isBlank
    cases isBlank
  have splits : ∀ list, stripChars list = (list.dropWhile isSpace).rdropWhile isSpace :=
    fun _ => rfl
  rw [strip, rstrip, String.toList_ofList, strip, splits, splits]
  conv_rhs => rw [← parts, dropWhile_append_visible inside, rdropWhile_append_blank blank]

theorem toList_joinChar_flatMap (separator : Char) (first : String) (columns : List String) :
    (joinChar separator (first :: columns)).toList =
      first.toList ++ columns.flatMap fun column => separator :: column.toList := by
  induction columns generalizing first with
  | nil => simp [toList_joinChar_single]
  | cons next columns ih =>
      rw [toList_joinChar_cons, ih, List.flatMap_cons, List.cons_append]

/-- Stripping joined columns drops the blank ones at the end and strips the two ends. -/
theorem strip_joinChar {separator : Char} (spaced : isSpace separator = true)
    {first last : String} (middle blanks : List String) (firstPresent : strip first ≠ "")
    (lastPresent : strip last ≠ "") (blank : ∀ column ∈ blanks, strip column = "") :
    strip (joinChar separator (first :: (middle ++ last :: blanks))) =
      joinChar separator (lstrip first :: (middle ++ [rstrip last])) := by
  apply String.toList_injective
  have tail : ∀ char ∈ blanks.flatMap fun column => separator :: column.toList,
      isSpace char = true := by
    intro char member
    obtain ⟨column, listed, inside⟩ := List.mem_flatMap.mp member
    rcases List.mem_cons.mp inside with rfl | later
    · exact spaced
    · exact blank_of_strip (blank column listed) char later
  have splits : ∀ list, stripChars list = (list.dropWhile isSpace).rdropWhile isSpace :=
    fun _ => rfl
  rw [strip, String.toList_ofList, splits, toList_joinChar_flatMap, toList_joinChar_flatMap,
    dropWhile_append_visible (exists_visible firstPresent)]
  simp only [List.flatMap_append, List.flatMap_cons, List.flatMap_nil, List.append_nil]
  rw [← List.append_assoc, ← List.append_assoc, rdropWhile_append_blank tail, List.append_cons,
    rdropWhile_append_visible (exists_visible lastPresent), lstrip, rstrip, String.toList_ofList,
    String.toList_ofList]
  simp

/-! ## The columns that `parse_attlog` keeps -/

/-- A column with nothing but white space in it, and something. -/
def SpacesOnly (column : String) : Prop := column ≠ "" ∧ strip column = ""

def keptColumns (columns : List String) : List String :=
  (columns.filter fun p => strip p != "" || p == "").map strip

theorem column_cases (column : String) :
    (SpacesOnly column ∧ ∀ rest, keptColumns (column :: rest) = keptColumns rest) ∨
    (¬ SpacesOnly column ∧ ∀ rest, keptColumns (column :: rest) = strip column :: keptColumns rest) := by
  by_cases spaces : SpacesOnly column
  · refine .inl ⟨spaces, fun rest => ?_⟩
    rw [keptColumns, List.filter_cons_of_neg (by simp [spaces.1, spaces.2])]
    rfl
  · refine .inr ⟨spaces, fun rest => ?_⟩
    have keeps : strip column ≠ "" ∨ column = "" := by
      by_cases empty : column = ""
      · exact .inr empty
      · exact .inl fun blank => spaces ⟨empty, blank⟩
    rw [keptColumns, List.filter_cons_of_pos (by simpa using keeps)]
    rfl

theorem columnOr_nil (index : Nat) (default : String) : columnOr [] index default = default := rfl

theorem columnOr_zero (column : String) (rest : List String) (default : String) :
    columnOr (column :: rest) 0 default = if column = "" then default else column := rfl

theorem columnOr_succ (column : String) (rest : List String) (index : Nat) (default : String) :
    columnOr (column :: rest) (index + 1) default = columnOr rest index default := rfl

theorem keptColumns_append (front back : List String) :
    keptColumns (front ++ back) = keptColumns front ++ keptColumns back := by
  rw [keptColumns, List.filter_append, List.map_append]
  rfl

theorem keptColumns_cons_present {column : String} (present : strip column ≠ "")
    (rest : List String) : keptColumns (column :: rest) = strip column :: keptColumns rest := by
  rcases column_cases column with ⟨spaces, _⟩ | ⟨_, kept⟩
  · exact absurd spaces.2 present
  · exact kept rest

theorem keptColumns_blank {columns : List String} (blank : ∀ column ∈ columns, strip column = "") :
    ∀ column ∈ keptColumns columns, column = "" := by
  intro column listed
  obtain ⟨other, kept, rfl⟩ := List.mem_map.mp listed
  exact blank other (List.mem_filter.mp kept).1

theorem columnOr_append_blank (front : List String) {back : List String}
    (blank : ∀ column ∈ back, column = "") (index : Nat) (default : String) :
    columnOr (front ++ back) index default = columnOr front index default := by
  unfold columnOr
  by_cases inside : index < front.length
  · rw [List.getElem?_append_left inside]
  · have outside : front.length ≤ index := Nat.le_of_not_lt inside
    rw [List.getElem?_append_right outside, List.getElem?_eq_none outside]
    cases found : back[index - front.length]? with
    | none => rfl
    | some column => simp [blank column (List.mem_of_getElem? found)]

theorem exists_last_present {first : String} (present : strip first ≠ "") (columns : List String) :
    ∃ middle last blanks, first :: columns = middle ++ last :: blanks ∧ strip last ≠ "" ∧
      ∀ column ∈ blanks, strip column = "" := by
  induction columns using List.reverseRecOn with
  | nil => exact ⟨[], first, [], rfl, present, by simp⟩
  | append_singleton columns column ih =>
      by_cases blank : strip column = ""
      · obtain ⟨middle, last, blanks, whole, shown, rest⟩ := ih
        refine ⟨middle, last, blanks ++ [column], ?_, shown, ?_⟩
        · rw [← List.cons_append, whole, List.append_assoc, List.cons_append]
        · intro other listed
          rcases List.mem_append.mp listed with earlier | here
          · exact rest other earlier
          · rw [List.mem_singleton.mp here]
            exact blank
      · exact ⟨first :: columns, column, [], rfl, blank, by simp⟩

theorem tabParts_strip {first second : String} {columns : List String}
    (firstPresent : strip first ≠ "") (secondPresent : strip second ≠ "")
    (plain : ∀ column ∈ first :: second :: columns, '\t' ∉ column.toList) :
    ∃ front back, tabParts (strip (joinChar '\t' (first :: second :: columns))) =
        strip first :: front ∧
      strip second :: keptColumns columns = front ++ back ∧ front ≠ [] ∧
      ∀ column ∈ back, column = "" := by
  obtain ⟨middle, last, blanks, whole, shown, blank⟩ := exists_last_present secondPresent columns
  rw [whole] at plain ⊢
  rw [strip_joinChar rfl middle blanks firstPresent shown blank, tabParts, splitChar_joinChar]
  · refine ⟨keptColumns middle ++ [strip last], keptColumns blanks, ?_, ?_, by simp,
      keptColumns_blank blank⟩
    · change keptColumns (lstrip first :: (middle ++ [rstrip last])) = _
      have same := strip_rstrip shown
      rw [keptColumns_cons_present (by rw [strip_lstrip]; exact firstPresent), strip_lstrip,
        keptColumns_append, keptColumns_cons_present (by rw [same]; exact shown), same]
      rfl
    · rw [← keptColumns_cons_present secondPresent, whole, keptColumns_append,
        keptColumns_cons_present shown]
      simp
  · intro column listed member
    rcases List.mem_cons.mp listed with rfl | later
    · rw [lstrip, String.toList_ofList] at member
      exact plain first List.mem_cons_self ((List.dropWhile_suffix _).subset member)
    · rcases List.mem_append.mp later with inMiddle | isLast
      · exact plain column (by simp [inMiddle]) member
      · rw [List.mem_singleton.mp isLast, rstrip, String.toList_ofList] at member
        exact plain last (by simp) ((List.rdropWhile_prefix isSpace _).subset member)
  · exact List.cons_ne_nil _ _

/-! ## A row of columns -/

section

variable [UnicodeTables]

/-- Two to five columns between tabs, the second with a date or a time in it, in a line that
is neither a header nor holds `PIN=` or `TIME=` in any case. -/
structure ColumnRow where
  pin : String
  time : String
  rest : List String
  few : rest.length ≤ 3
  plain : ∀ column ∈ pin :: time :: rest, ∀ char ∈ column.toList,
    char ≠ '\t' ∧ endsPiece char = false
  pinPresent : strip pin ≠ ""
  timePresent : strip time ≠ ""
  dated : contains (strip time) "-" = true ∨ contains (strip time) ":" = true
  noHeader : isHeaderOrMetadataLine (strip (joinChar '\t' (pin :: time :: rest))) = false
  noPin : contains (upper (strip (joinChar '\t' (pin :: time :: rest)))) "PIN=" = false
  noTime : contains (upper (strip (joinChar '\t' (pin :: time :: rest)))) "TIME=" = false

def ColumnRow.text (row : ColumnRow) : String := joinChar '\t' (row.pin :: row.time :: row.rest)

/-- Every column stands in its field, trimmed, with its default where it is blank or absent. -/
structure ReadsColumns (row : ColumnRow) (record : PunchRecord) : Prop where
  userId : record.userId = strip row.pin
  timestamp : record.timestamp = strip row.time
  status : record.status = columnOr (row.rest.map strip) 0 "0"
  verifyType : record.verifyType = columnOr (row.rest.map strip) 1 "1"
  workCode : record.workCode = columnOr (row.rest.map strip) 2 "0"

end

/-- No column of spaces only has a column after it that is not blank; or the status is one,
the work code is 0, and the verification is 0 or of spaces only as well. -/
def Unshifted (columns : List String) : Prop :=
  columns.Pairwise (fun column later => SpacesOnly column → strip later = "") ∨
  ∃ status verify work, columns = [status, verify, work] ∧ SpacesOnly status ∧
    strip work = "0" ∧ (strip verify = "0" ∨ SpacesOnly verify)

theorem unshifted_two {status verify : String} :
    Unshifted [status, verify] ↔ (SpacesOnly status → strip verify = "") := by
  simp [Unshifted]

theorem unshifted_three {status verify work : String} :
    Unshifted [status, verify, work] ↔
      ((SpacesOnly status → strip verify = "" ∧ strip work = "") ∧
        (SpacesOnly verify → strip work = "")) ∨
      (SpacesOnly status ∧ strip work = "0" ∧ (strip verify = "0" ∨ SpacesOnly verify)) := by
  simp [Unshifted]
  grind

theorem unshifted_iff {columns : List String} (few : columns.length ≤ 3) :
    (columnOr (keptColumns columns) 0 "0" = columnOr (columns.map strip) 0 "0" ∧
      columnOr (keptColumns columns) 1 "1" = columnOr (columns.map strip) 1 "1" ∧
      columnOr (keptColumns columns) 2 "0" = columnOr (columns.map strip) 2 "0") ↔
      Unshifted columns := by
  have none : keptColumns [] = [] := rfl
  match columns, few with
  | [], _ => simp [Unshifted, none]
  | [status], _ =>
      rcases column_cases status with ⟨first, kept⟩ | ⟨first, kept⟩
      · simp [Unshifted, none, kept, columnOr, first.2]
      · simp [Unshifted, none, kept, columnOr]
  | [status, verify], _ =>
      rw [unshifted_two]
      rcases column_cases status with ⟨first, kept⟩ | ⟨first, kept⟩ <;>
        rcases column_cases verify with ⟨second, keptV⟩ | ⟨second, keptV⟩ <;>
        simp only [kept, keptV, none, List.map_cons, List.map_nil, columnOr_nil, columnOr_zero,
          columnOr_succ] <;>
        grind [SpacesOnly]
  | [status, verify, work], _ =>
      rw [unshifted_three]
      rcases column_cases status with ⟨first, kept⟩ | ⟨first, kept⟩ <;>
        rcases column_cases verify with ⟨second, keptV⟩ | ⟨second, keptV⟩ <;>
        rcases column_cases work with ⟨third, keptW⟩ | ⟨third, keptW⟩ <;>
        simp only [kept, keptV, keptW, none, List.map_cons, List.map_nil, columnOr_nil,
          columnOr_zero, columnOr_succ] <;>
        grind [SpacesOnly]

section

variable [UnicodeTables] (row : ColumnRow)

theorem ColumnRow.strip_text_ne_empty : strip row.text ≠ "" := by
  obtain ⟨char, member, visible⟩ := exists_visible row.pinPresent
  have inText : char ∈ row.text.toList := mem_joinChar_of_mem List.mem_cons_self member
  intro empty
  have blank := blank_of_strip empty char inText
  rw [visible] at blank
  cases blank

theorem ColumnRow.isPunchPiece_text : isPunchPiece row.text = true := by
  have noHeader : isHeaderOrMetadataLine (strip row.text) = false := row.noHeader
  simp [isPunchPiece, row.strip_text_ne_empty, noHeader]

theorem ColumnRow.tabParts_text : ∃ front back,
    tabParts (strip row.text) = strip row.pin :: strip row.time :: front ∧
      keptColumns row.rest = front ++ back ∧ ∀ column ∈ back, column = "" := by
  have plain : ∀ column ∈ row.pin :: row.time :: row.rest, '\t' ∉ column.toList :=
    fun column listed member => (row.plain column listed '\t' member).1 rfl
  obtain ⟨front, back, parts, whole, something, blank⟩ :=
    tabParts_strip row.pinPresent row.timePresent plain
  cases front with
  | nil => exact absurd rfl something
  | cons second front =>
      rw [List.cons_append] at whole
      obtain ⟨time, kept⟩ := List.cons.inj whole
      exact ⟨front, back, by rw [time]; exact parts, kept, blank⟩

/-- The row of the line: what stands behind the time are the columns that are kept. -/
theorem ColumnRow.parseLine_text (nowText : String) :
    parseLine nowText (strip row.text) =
      { userId := strip row.pin
        timestamp := strip row.time
        status := columnOr (keptColumns row.rest) 0 "0"
        verifyType := columnOr (keptColumns row.rest) 1 "1"
        workCode := columnOr (keptColumns row.rest) 2 "0"
        raw := strip row.text } := by
  have noKeys : keyValueRow (strip row.text) = none := by
    have noPin : contains (upper (strip row.text)) "PIN=" = false := row.noPin
    have noTime : contains (upper (strip row.text)) "TIME=" = false := row.noTime
    simp [keyValueRow, noPin, noTime]
  obtain ⟨front, back, parts, kept, blank⟩ := row.tabParts_text
  have same : ∀ index default, columnOr (tabParts (strip row.text)) (index + 2) default =
      columnOr (keptColumns row.rest) index default := by
    intro index default
    rw [parts, columnOr_succ, columnOr_succ, kept, columnOr_append_blank front blank]
  have joined : (!contains (strip row.time) "-" && !contains (strip row.time) ":") = false := by
    rcases row.dated with dash | colon
    · simp [dash]
    · simp [colon]
  have tabbed : tabRow (strip row.text) = some
      { userId := strip row.pin
        timestamp := strip row.time
        status := columnOr (keptColumns row.rest) 0 "0"
        verifyType := columnOr (keptColumns row.rest) 1 "1"
        workCode := columnOr (keptColumns row.rest) 2 "0"
        raw := strip row.text } := by
    rw [← same 0, ← same 1, ← same 2, tabRow, parts]
    dsimp only
    rw [if_neg row.pinPresent]
    cases front with
    | nil => rfl
    | cons third front =>
        dsimp only
        rw [joined]
        rfl
  rw [parseLine, noKeys, tabbed]
  rfl

/-- In every body the row is read as its columns stand exactly if no column moves up. -/
theorem blank_columns_unshifted_iff (lms : LmsNames) (arrivals : Nat → Arrival)
    (cache : UserCache) {bodyStr : String} {earlier later : List String}
    (placed : pieces bodyStr = earlier ++ row.text :: later) (sn : String) :
    ∃ record, (parseAttlog lms arrivals cache bodyStr sn).1[(earlier.filter
        isPunchPiece).length]? = some record ∧
      (ReadsColumns row record ↔ Unshifted row.rest) := by
  have line : (attlogLines bodyStr)[(earlier.filter isPunchPiece).length]? =
      some (strip row.text) := by
    rw [attlogLines_eq, placed, List.filter_append, List.filter_cons_of_pos row.isPunchPiece_text,
      List.getElem?_map, List.getElem?_append_right (Nat.le_refl _), Nat.sub_self]
    rfl
  obtain ⟨info, found⟩ := parseAttlog_getElem? lms arrivals cache bodyStr sn
    (earlier.filter isPunchPiece).length
  rw [line, Option.map_some, row.parseLine_text] at found
  refine ⟨_, found, ?_⟩
  rw [← unshifted_iff row.few]
  constructor
  · intro reads
    exact ⟨reads.status, reads.verifyType, reads.workCode⟩
  · rintro ⟨status, verifyType, workCode⟩
    exact ⟨rfl, rfl, status, verifyType, workCode⟩

end

/-! ## A verification code read as a check-out -/

theorem plain_of_all {columns : List String}
    (table : (columns.all fun column => column.toList.all fun char =>
      char != '\t' && !endsPiece char) = true) :
    ∀ column ∈ columns, ∀ char ∈ column.toList, char ≠ '\t' ∧ endsPiece char = false := by
  intro column listed char member
  have row := List.all_eq_true.mp (List.all_eq_true.mp table column listed) char member
  simpa using row

/-- 102 at 2026-08-15 22:12:05 with an empty status, verified by finger. -/
def emptyStatusRow : @ColumnRow .ascii :=
  let := UnicodeTables.ascii
  { pin := "102"
    time := "2026-08-15 22:12:05"
    rest := ["", "1", "0"]
    few := by decide
    plain := plain_of_all (by decide)
    pinPresent := by decide
    timePresent := by decide
    dated := by decide +kernel
    noHeader := by decide +kernel
    noPin := by decide +kernel
    noTime := by decide +kernel }

def spaceStatusRow : @ColumnRow .ascii :=
  let := UnicodeTables.ascii
  { pin := "102"
    time := "2026-08-15 22:12:05"
    rest := [" ", "1", "0"]
    few := by decide
    plain := plain_of_all (by decide)
    pinPresent := by decide
    timePresent := by decide
    dated := by decide +kernel
    noHeader := by decide +kernel
    noPin := by decide +kernel
    noTime := by decide +kernel }

theorem blank_columns_unshifted_empty_status :
    let := UnicodeTables.ascii
    pieces emptyStatusRow.text = [] ++ emptyStatusRow.text :: [] ∧
      ∃ record, (parseAttlog (fun _ => none) (fun _ => ⟨"1", "", "2026-08-15 22:12:06"⟩) []
          emptyStatusRow.text "ZK1").1[0]? = some record ∧
        (ReadsColumns emptyStatusRow record ↔ Unshifted ["", "1", "0"]) := by
  intro _
  have alone : pieces emptyStatusRow.text = [] ++ emptyStatusRow.text :: [] := by decide +kernel
  exact ⟨alone, blank_columns_unshifted_iff emptyStatusRow (fun _ => none)
    (fun _ => ⟨"1", "", "2026-08-15 22:12:06"⟩) [] alone "ZK1"⟩

/-- The verification code 1 becomes the status, a check-out. -/
theorem space_status_becomes_check_out :
    let := UnicodeTables.ascii
    ∃ record, (parseAttlog (fun _ => none) (fun _ => ⟨"1", "", "2026-08-15 22:12:06"⟩) []
        spaceStatusRow.text "ZK1").1 = [record] ∧ record.status = "1" ∧
      ¬ ReadsColumns spaceStatusRow record := by
  intro _
  refine ⟨recordOf "ZK1" ⟨some "User 102", some "Normal User"⟩ ⟨"1", "", "2026-08-15 22:12:06"⟩
    ⟨"102", "2026-08-15 22:12:05", "1", "0", "0", "102\t2026-08-15 22:12:05\t \t1\t0"⟩,
    by decide +kernel, rfl, ?_⟩
  intro reads
  exact absurd reads.status (by decide +kernel)

end PumoBioMetric.Router
