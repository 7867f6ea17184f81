import PumoBioMetric.Router.Attlog

/-!
# The records of a pushed body

A body is cut at CR and LF.  Every piece that is neither blank nor a header gives one
record, in the order of the pieces.
-/

set_option autoImplicit false

namespace PumoBioMetric.Router

open Py

/-! ## Pieces -/

def endsPiece (char : Char) : Bool := char == '\r' || char == '\n'

def pieces (bodyStr : String) : List String :=
  (bodyStr.toList.splitOnP endsPiece).map String.ofList

theorem splitChar_replaceReturn (bodyStr : String) :
    splitChar '\n' (replaceChar '\r' '\n' bodyStr) = pieces bodyStr := by
  rw [splitChar, replaceChar, String.toList_ofList, List.splitOn_eq_splitOnP, pieces]
  congr 1
  induction bodyStr.toList with
  | nil => rfl
  | cons char rest ih =>
      rw [List.map_cons, List.splitOnP_cons_eq_if_modifyHead,
        List.splitOnP_cons_eq_if_modifyHead, ih]
      by_cases carriage : char = '\r'
      · subst carriage
        rfl
      · have same : endsPiece char = (char == '\n') := by simp [endsPiece, carriage]
        rw [if_neg carriage, same]

section

variable [UnicodeTables]

def isPunchPiece (piece : String) : Bool :=
  strip piece != "" && !isHeaderOrMetadataLine (strip piece)

theorem attlogLines_eq (bodyStr : String) :
    attlogLines bodyStr = ((pieces bodyStr).filter isPunchPiece).map strip := by
  rw [attlogLines, splitChar_replaceReturn, List.filter_map]
  rfl

/-! ## The first character of a line -/

omit [UnicodeTables] in
theorem strip_first {text : String} (present : strip text ≠ "") :
    ∃ char rest, (strip text).toList = char :: rest ∧ isSpace char = false := by
  have again : stripChars (strip text).toList = (strip text).toList := by
    rw [strip, String.toList_ofList, stripChars_stripChars]
  cases chars : (strip text).toList with
  | nil => exact absurd (String.toList_injective chars) present
  | cons char rest =>
      refine ⟨char, rest, rfl, ?_⟩
      by_contra blank
      have front : (char :: rest).dropWhile isSpace = rest.dropWhile isSpace :=
        List.dropWhile_cons_of_pos (by simpa using blank)
      have shorter := congrArg List.length again
      rw [chars, stripChars, front] at shorter
      have left := (List.dropWhile_suffix isSpace (l := rest)).length_le
      have right := (List.dropWhile_suffix isSpace
        (l := (rest.dropWhile isSpace).reverse)).length_le
      simp only [List.length_reverse, List.length_cons] at shorter right
      omega

theorem attlogLines_visible {bodyStr line : String} (listed : line ∈ attlogLines bodyStr) :
    line ≠ "" ∧ ∃ char rest, line.toList = char :: rest ∧ isSpace char = false := by
  rw [attlogLines_eq] at listed
  obtain ⟨piece, kept, rfl⟩ := List.mem_map.mp listed
  have present : strip piece ≠ "" := by
    have parts := (Bool.and_eq_true_iff.mp (List.mem_filter.mp kept).2).1
    simpa using parts
  exact ⟨present, strip_first present⟩

omit [UnicodeTables] in
theorem tabParts_head {line : String} {char : Char} {rest : List Char}
    (begins : line.toList = char :: rest) (visible : isSpace char = false) :
    ∃ pin others, tabParts line = pin :: others ∧ strip pin = pin ∧ pin ≠ "" := by
  have notTab : (char == '\t') = false := by
    rw [beq_eq_false_iff_ne]
    rintro rfl
    cases visible
  obtain ⟨first, others, split, _, _⟩ := splitOnP_pieces (fun other => other == '\t') rest
  have columns : splitChar '\t' line =
      String.ofList (char :: first) :: others.map String.ofList := by
    rw [splitChar, begins, List.splitOn_eq_splitOnP, List.splitOnP_cons_eq_if_modifyHead, split]
    simp [notTab]
  have present : strip (String.ofList (char :: first)) ≠ "" :=
    strip_ne_empty String.toList_ofList visible
  generalize String.ofList (char :: first) = column at columns present
  have parts : tabParts line = strip column ::
      ((others.map String.ofList).filter fun p => strip p != "" || p == "").map strip := by
    rw [tabParts, columns, List.filter_cons_of_pos (by simp [present]), List.map_cons]
  exact ⟨strip column, _, parts, strip_strip column, present⟩

/-! ## The row of a line -/

/-- What holds of the rows of all five layouts holds of the row of a line. -/
theorem parseLine_rule {property : AttRow → Prop} {nowText line : String}
    (keyed : ∀ row, keyValueRow line = some row → property row)
    (tabbed : ∀ row, tabRow line = some row → property row)
    (spaced : ∀ row, spaceRow line = some row → property row)
    (separated : ∀ row, commaRow line = some row → property row)
    (fallen : property (fallbackRow nowText line)) : property (parseLine nowText line) := by
  unfold parseLine
  cases first : keyValueRow line with
  | some row => exact keyed row first
  | none =>
      cases second : tabRow line with
      | some row => exact tabbed row second
      | none =>
          cases third : spaceRow line with
          | some row => exact spaced row third
          | none =>
              cases fourth : commaRow line with
              | some row => exact separated row fourth
              | none => exact fallen

structure RowOfLine (line : String) (row : AttRow) : Prop where
  raw : row.raw = line
  userId : row.userId ≠ ""

theorem keyValueRow_ofLine {line : String} {row : AttRow} (given : keyValueRow line = some row) :
    RowOfLine line row := by
  simp only [keyValueRow] at given
  split at given
  · split at given
    · rename_i present
      rw [← Option.some.inj given]
      exact ⟨rfl, by simpa using (Bool.and_eq_true_iff.mp present).1⟩
    · cases given
  · cases given

omit [UnicodeTables] in
theorem tabRow_ofLine {line : String} {row : AttRow} (given : tabRow line = some row) :
    RowOfLine line row := by
  unfold tabRow at given
  split at given
  · split at given
    · cases given
    · rename_i present
      cases given
      exact ⟨rfl, present⟩
  · cases given

omit [UnicodeTables] in
theorem ne_empty_of_mem_words {text word : String} (listed : word ∈ words text) : word ≠ "" := by
  obtain ⟨chars, kept, rfl⟩ := List.mem_map.mp listed
  simpa using (List.mem_filter.mp kept).2

omit [UnicodeTables] in
theorem spaceRow_ofLine {line : String} {row : AttRow} (given : spaceRow line = some row) :
    RowOfLine line row := by
  unfold spaceRow at given
  split at given
  · rename_i pin date time rest columns
    have listed : pin ∈ words line := by
      rw [columns]
      exact List.mem_cons_self
    split at given
    · cases given
      exact ⟨rfl, ne_empty_of_mem_words listed⟩
    · cases given
  · cases given

omit [UnicodeTables] in
theorem commaRow_ofLine {line : String} {row : AttRow} (given : commaRow line = some row) :
    RowOfLine line row := by
  unfold commaRow at given
  split at given
  · rename_i pin when rest columns
    split at given
    · cases given
      have listed : pin ∈ ((splitChar ',' line).map strip).filter fun p => p != "" := by
        rw [columns]
        exact List.mem_cons_self
      exact ⟨rfl, by simpa using (List.mem_filter.mp listed).2⟩
    · cases given
  · cases given

theorem parseLine_raw (nowText line : String) : (parseLine nowText line).raw = line :=
  parseLine_rule (fun _ given => (keyValueRow_ofLine given).raw)
    (fun _ given => (tabRow_ofLine given).raw) (fun _ given => (spaceRow_ofLine given).raw)
    (fun _ given => (commaRow_ofLine given).raw) rfl

theorem parseLine_ofLine {bodyStr line : String} (listed : line ∈ attlogLines bodyStr)
    (nowText : String) : RowOfLine line (parseLine nowText line) := by
  refine ⟨parseLine_raw nowText line, ?_⟩
  obtain ⟨_, char, rest, begins, visible⟩ := attlogLines_visible listed
  obtain ⟨pin, others, columns, _, present⟩ := tabParts_head begins visible
  apply parseLine_rule (fun _ given => (keyValueRow_ofLine given).userId)
    (fun _ given => (tabRow_ofLine given).userId) (fun _ given => (spaceRow_ofLine given).userId)
    (fun _ given => (commaRow_ofLine given).userId)
  simpa [fallbackRow, columns] using present

/-! ## One row for each piece -/

/-- Every piece that is neither blank nor a header gives one row, in order. -/
theorem attlogRows_ofLine (nowText : Nat → String) (bodyStr : String) :
    List.Forall₂ (fun piece row => RowOfLine (strip piece) row)
      ((pieces bodyStr).filter isPunchPiece) (attlogRows nowText bodyStr) := by
  have rows : attlogRows nowText bodyStr =
      ((pieces bodyStr).filter isPunchPiece).zipIdx.map fun entry =>
        parseLine (nowText entry.2) (strip entry.1) := by
    rw [attlogRows, attlogLines_eq, List.zipIdx_map, List.map_map]
    rfl
  rw [rows]
  have inBody : ∀ piece ∈ (pieces bodyStr).filter isPunchPiece,
      strip piece ∈ attlogLines bodyStr := by
    intro piece member
    rw [attlogLines_eq]
    exact List.mem_map_of_mem member
  generalize (pieces bodyStr).filter isPunchPiece = kept at inBody ⊢
  generalize 0 = start
  induction kept generalizing start with
  | nil => exact .nil
  | cons piece rest ih =>
      rw [List.zipIdx_cons, List.map_cons]
      exact .cons (parseLine_ofLine (inBody piece List.mem_cons_self) _)
        (ih (fun other member => inBody other (List.mem_cons_of_mem _ member)) _)

end

end PumoBioMetric.Router
