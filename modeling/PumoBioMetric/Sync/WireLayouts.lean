import PumoBioMetric.Sync.WirePunch

/-!
# One punch in four layouts

What `parse_attlog` and `to_punch` make of a line in each of the layouts.
-/

set_option autoImplicit false

namespace PumoBioMetric.Sync

open PumoBioMetric.Py PumoBioMetric.Router

/-- The line, pushed alone, gives one punch, with the PIN, time, state, mode and code that
were written. -/
def ReadsBack [UnicodeTables] (lms : LmsNames) (arrivals : Nat → Arrival) (cache : UserCache)
    (sn : String) (punch : WirePunch) (layout : WireLayout) : Prop :=
  ∃ stored, usable (parseAttlog lms arrivals cache (punch.line layout) sn).1 = [stored] ∧
    stored.deviceUserId = punch.pin ∧ stored.deviceTime = punch.time ∧
    stored.punchState = punch.status ∧ stored.verifyMode = some (punch.verify : Int) ∧
    stored.workCode = some (toString punch.workCode)

/-- The layouts that are read back: key-value lines are not, and `table ` is a header. -/
def WirePunch.Readable (punch : WirePunch) : WireLayout → Prop
  | .keyValue => False
  | .tabs => True
  | .spaces => asciiLower punch.pin ≠ "table"
  | .commas => True

namespace WirePunch

variable (punch : WirePunch)

/-! ## The row of each layout of columns -/

def rowOf (punch : WirePunch) (raw : String) : AttRow where
  userId := punch.pin
  timestamp := punch.timeText
  status := toString punch.status
  verifyType := toString punch.verify
  workCode := toString punch.workCode
  raw := raw

theorem columns_ne_empty : ∀ column ∈ punch.columns, column ≠ "" := by
  simp [columns, punch.named, punch.timeText_ne_empty]

theorem columns_strip {column : String} (listed : column ∈ punch.columns) :
    strip column = column := by
  simp only [columns, List.mem_cons, List.not_mem_nil, or_false] at listed
  rcases listed with rfl | rfl | rfl | rfl | rfl
  · exact punch.solid_pin.strip
  · exact punch.strip_timeText
  all_goals exact strip_toString _

theorem columns_stripped : punch.columns.map strip = punch.columns := by
  have same : ∀ column ∈ punch.columns, strip column = id column :=
    fun column listed => punch.columns_strip listed
  rw [List.map_congr_left same, List.map_id]

theorem tabParts_tabs : tabParts (punch.line .tabs) = punch.columns := by
  have pieces : splitChar '\t' (punch.line .tabs) = punch.columns :=
    splitChar_joinChar (fun column listed => punch.notMem_columns listed rfl (by decide))
      (by simp [columns])
  have kept : (punch.columns.filter fun p => strip p != "" || p == "") = punch.columns := by
    rw [List.filter_eq_self]
    intro column listed
    simp [punch.columns_strip listed, punch.columns_ne_empty column listed]
  rw [tabParts, pieces, kept, columns_stripped]

theorem tabRow_tabs : tabRow (punch.line .tabs) = some (punch.rowOf (punch.line .tabs)) := by
  have dash : contains punch.timeText "-" = true := by
    apply contains_of_mem
    rw [punch.timeText_eq, String.toList_append]
    exact List.mem_append_left _ punch.dash_mem_timeText
  simp [tabRow, tabParts_tabs, columns, columnOr, dash, punch.named, rowOf]

theorem tabRow_of_notMem {line : String} (absent : '\t' ∉ line.toList) : tabRow line = none := by
  have one : tabParts line = [] ∨ tabParts line = [strip line] := by
    rw [tabParts, splitChar_of_notMem absent]
    cases kept : (strip line != "" || line == "") with
    | true => exact Or.inr (by simp [kept])
    | false => exact Or.inl (by simp [kept])
  rcases one with none | single
  · simp [tabRow, none]
  · simp [tabRow, single]

theorem noTab_columns {separator : Char} (other : separator ≠ '\t') :
    '\t' ∉ (joinChar separator punch.columns).toList := by
  intro member
  rcases mem_joinChar member with same | ⟨column, listed, inside⟩
  · exact other same.symm
  · exact punch.notMem_columns listed rfl (by decide) inside

theorem words_spaces : words (punch.line .spaces) =
    [punch.pin, punch.dateText, punch.clockText, toString punch.status, toString punch.verify,
      toString punch.workCode] := by
  have same : punch.line .spaces = joinChar ' ' [punch.pin, punch.dateText, punch.clockText,
      toString punch.status, toString punch.verify, toString punch.workCode] := by
    apply String.toList_injective
    simp [line, columns, toList_joinChar_cons, punch.timeText_eq,
      String.toList_append]
  rw [same]
  refine words_joinChar rfl ?_
  simp only [List.mem_cons, List.not_mem_nil, or_false]
  rintro column (rfl | rfl | rfl | rfl | rfl | rfl)
  · exact ⟨punch.named, punch.solid_pin.visible⟩
  · exact ⟨punch.dateText_ne_empty, punch.solid_dateText.visible⟩
  · exact ⟨punch.clockText_ne_empty, punch.solid_clockText.visible⟩
  all_goals exact ⟨toString_ne_empty _, (solid_toString _).visible⟩

theorem spaceRow_spaces :
    spaceRow (punch.line .spaces) = some (punch.rowOf (punch.line .spaces)) := by
  have dash : contains punch.dateText "-" = true := contains_of_mem punch.dash_mem_timeText
  have colon : contains punch.clockText ":" = true := contains_of_mem punch.colon_mem_clockText
  have joined : punch.dateText ++ " " ++ punch.clockText = punch.timeText := by
    rw [punch.timeText_eq, String.append_assoc]
  simp [spaceRow, words_spaces, dash, colon, joined, rowOf]

theorem words_commas : words (punch.line .commas) =
    [joinChar ',' [punch.pin, punch.dateText],
      joinChar ',' [punch.clockText, toString punch.status, toString punch.verify,
        toString punch.workCode]] := by
  have same : punch.line .commas = joinChar ' '
      [joinChar ',' [punch.pin, punch.dateText],
        joinChar ',' [punch.clockText, toString punch.status, toString punch.verify,
          toString punch.workCode]] := by
    apply String.toList_injective
    simp [line, columns, toList_joinChar_cons, toList_joinChar_single, punch.timeText_eq,
      String.toList_append]
  have solid : ∀ first second rest, first ≠ "" → Solid first →
      (∀ column ∈ second :: rest, Solid column) →
      joinChar ',' (first :: second :: rest) ≠ "" ∧
        ∀ char ∈ (joinChar ',' (first :: second :: rest)).toList, isSpace char = false := by
    intro first second rest present firstSolid others
    constructor
    · intro empty
      have chars := congrArg String.toList empty
      rw [toList_joinChar_cons] at chars
      exact present (String.toList_injective (List.append_eq_nil_iff.mp chars).1)
    · intro char member
      rcases mem_joinChar member with rfl | ⟨column, listed, inside⟩
      · rfl
      · rcases List.mem_cons.mp listed with rfl | later
        · exact firstSolid.visible char inside
        · exact (others column later).visible char inside
  rw [same]
  refine words_joinChar rfl ?_
  simp only [List.mem_cons, List.not_mem_nil, or_false]
  rintro column (rfl | rfl)
  · refine solid _ _ _ punch.named punch.solid_pin ?_
    simp only [List.mem_cons, List.not_mem_nil, or_false]
    rintro column rfl
    exact punch.solid_dateText
  · refine solid _ _ _ punch.clockText_ne_empty punch.solid_clockText ?_
    simp only [List.mem_cons, List.not_mem_nil, or_false]
    rintro column (rfl | rfl | rfl) <;> exact solid_toString _

theorem spaceRow_commas : spaceRow (punch.line .commas) = none := by
  simp [spaceRow, words_commas]

theorem commaRow_commas :
    commaRow (punch.line .commas) = some (punch.rowOf (punch.line .commas)) := by
  have pieces : splitChar ',' (punch.line .commas) = punch.columns :=
    splitChar_joinChar (fun column listed => punch.notMem_columns listed rfl (by decide))
      (by simp [columns])
  have kept : (punch.columns.filter fun p => p != "") = punch.columns := by
    rw [List.filter_eq_self]
    intro column listed
    simp [punch.columns_ne_empty column listed]
  have dash : contains punch.timeText "-" = true := by
    apply contains_of_mem
    rw [punch.timeText_eq, String.toList_append]
    exact List.mem_append_left _ punch.dash_mem_timeText
  rw [commaRow, pieces, columns_stripped, kept]
  simp [columns, dash, rowOf]

theorem words_keyValue : words (replaceChar '\t' ' ' (punch.line .keyValue)) =
    ["PIN" ++ ("=" ++ punch.pin), "TIME" ++ ("=" ++ punch.dateText), punch.clockText,
      "STATUS" ++ ("=" ++ toString punch.status), "VERIFY" ++ ("=" ++ toString punch.verify),
      "WORKCODE" ++ ("=" ++ toString punch.workCode)] := by
  have apart : ∀ column ∈ ["PIN=" ++ punch.pin, "TIME=" ++ punch.timeText,
      "STATUS=" ++ toString punch.status, "VERIFY=" ++ toString punch.verify,
      "WORKCODE=" ++ toString punch.workCode], '\t' ∉ column.toList := by
    have field : ∀ key value : String, '\t' ∉ key.toList → value ∈ punch.columns →
        '\t' ∉ (key ++ value).toList := by
      intro key value absent listed member
      rw [String.toList_append] at member
      rcases List.mem_append.mp member with inKey | inValue
      · exact absent inKey
      · exact punch.notMem_columns listed rfl (by decide) inValue
    simp only [List.mem_cons, List.not_mem_nil, or_false]
    rintro column (rfl | rfl | rfl | rfl | rfl)
    all_goals exact field _ _ (by decide) (by simp [columns])
  have cut : joinChar ' ' ["PIN=" ++ punch.pin, "TIME=" ++ punch.timeText,
      "STATUS=" ++ toString punch.status, "VERIFY=" ++ toString punch.verify,
      "WORKCODE=" ++ toString punch.workCode] =
      joinChar ' ' ["PIN" ++ ("=" ++ punch.pin), "TIME" ++ ("=" ++ punch.dateText),
        punch.clockText, "STATUS" ++ ("=" ++ toString punch.status),
        "VERIFY" ++ ("=" ++ toString punch.verify),
        "WORKCODE" ++ ("=" ++ toString punch.workCode)] := by
    apply String.toList_injective
    simp [toList_joinChar_cons, toList_joinChar_single, punch.timeText_eq, String.toList_append]
  have field : ∀ key value : String, (∀ char ∈ key.toList, isSpace char = false) → Solid value →
      key ++ ("=" ++ value) ≠ "" ∧
        ∀ char ∈ (key ++ ("=" ++ value)).toList, isSpace char = false := by
    intro key value keyVisible solid
    constructor
    · intro empty
      have chars := congrArg String.toList empty
      simp [String.toList_append] at chars
    · intro char member
      simp only [String.toList_append, List.mem_append] at member
      rcases member with inKey | mark | inValue
      · exact keyVisible char inKey
      · rw [List.mem_singleton.mp mark]
        rfl
      · exact solid.visible char inValue
  rw [line, replaceChar_joinChar apart, cut]
  refine words_joinChar rfl ?_
  simp only [List.mem_cons, List.not_mem_nil, or_false]
  rintro column (rfl | rfl | rfl | rfl | rfl | rfl)
  · exact field _ _ (by simp [isSpace]) punch.solid_pin
  · exact field _ _ (by simp [isSpace]) punch.solid_dateText
  · exact ⟨punch.clockText_ne_empty, punch.solid_clockText.visible⟩
  all_goals exact field _ _ (by simp [isSpace]) (solid_toString _)

end WirePunch

/-! ## The lines that are parsed -/

section

variable [UnicodeTables] (punch : WirePunch)

theorem strip_lower_line (layout : WireLayout) :
    strip (lower (punch.line layout)) = asciiLower (punch.line layout) := by
  have ascii : isAscii (punch.line layout) :=
    fun char member => (WirePunch.lineChar_facts (punch.line_chars layout char member)).1
  obtain ⟨front, middle, back, whole, frontPresent, backPresent, frontWire, backWire⟩ :=
    punch.line_ends layout
  have visible : ∀ chars : List Char, (∀ char ∈ chars, wireChar char = true) →
      ∀ char ∈ chars.map Char.toLower, isSpace char = false := by
    intro chars wire char member
    obtain ⟨source, listed, rfl⟩ := List.mem_map.mp member
    exact (wireChar_facts (wire source listed)).2.2.2
  have lowered : (asciiLower (punch.line layout)).toList =
      front.map Char.toLower ++ (middle.map Char.toLower ++ back.map Char.toLower) := by
    rw [asciiLower, String.toList_ofList, whole, List.map_append, List.map_append]
  rw [UnicodeTables.lower_ascii _ ascii]
  exact strip_of_ends _ lowered (by simpa using frontPresent) (by simpa using backPresent)
    (visible front frontWire) (visible back backWire)

theorem attlogLines_line (layout : WireLayout) :
    attlogLines (punch.line layout) =
      if isHeaderOrMetadataLine (punch.line layout) then [] else [punch.line layout] := by
  have noReturn : '\r' ∉ (punch.line layout).toList := fun member =>
    (WirePunch.lineChar_facts (punch.line_chars layout _ member)).2.1 rfl
  have noBreak : '\n' ∉ (punch.line layout).toList := fun member =>
    (WirePunch.lineChar_facts (punch.line_chars layout _ member)).2.2 rfl
  rw [attlogLines, replaceChar_of_notMem noReturn, splitChar_of_notMem noBreak]
  cases header : isHeaderOrMetadataLine (punch.line layout) with
  | true => simp [punch.strip_line, header]
  | false => simp [punch.strip_line, punch.line_ne_empty, header]

theorem header_line (layout : WireLayout) :
    isHeaderOrMetadataLine (punch.line layout) =
      headerPrefixes.any fun head =>
        head.toList.isPrefixOf (asciiLower (punch.line layout)).toList := by
  have present : asciiLower (punch.line layout) ≠ "" := by
    intro empty
    have chars := congrArg String.toList empty
    rw [asciiLower, String.toList_ofList] at chars
    exact punch.line_ne_empty layout (String.toList_injective (List.map_eq_nil_iff.mp chars))
  simp only [isHeaderOrMetadataLine, strip_lower_line, startsWith, beq_eq_false_iff_ne.mpr present,
    Bool.false_or]

theorem header_tabs : isHeaderOrMetadataLine (punch.line .tabs) = false := by
  obtain ⟨rest, lowered⟩ := punch.lower_columns '\t' rfl
  rw [header_line, WirePunch.line, lowered, List.any_eq_false]
  intro head listed
  have absent : '\t' ∉ head.toList := by
    have heads : ∀ head ∈ headerPrefixes, '\t' ∉ head.toList := by decide
    exact heads head listed
  rw [isPrefixOf_append_cons absent]
  exact Bool.eq_false_iff.mp (punch.unlisted head listed)

theorem header_commas : isHeaderOrMetadataLine (punch.line .commas) = false := by
  obtain ⟨rest, lowered⟩ := punch.lower_columns ',' rfl
  rw [header_line, WirePunch.line, lowered, List.any_eq_false]
  intro head listed
  have absent : ',' ∉ head.toList := by
    have heads : ∀ head ∈ headerPrefixes, ',' ∉ head.toList := by decide
    exact heads head listed
  rw [isPrefixOf_append_cons absent]
  exact Bool.eq_false_iff.mp (punch.unlisted head listed)

/-- Of the header prefixes only `table ` can reach into the second column. -/
theorem header_spaces :
    isHeaderOrMetadataLine (punch.line .spaces) = true ↔ asciiLower punch.pin = "table" := by
  obtain ⟨rest, lowered⟩ := punch.lower_columns ' ' rfl
  have solidPin : ' ' ∉ (asciiLower punch.pin).toList := by
    intro member
    rw [asciiLower, String.toList_ofList] at member
    obtain ⟨source, listed, lower⟩ := List.mem_map.mp member
    have visible := (wireChar_facts (punch.solid_pin source listed)).2.2.2
    rw [lower] at visible
    cases visible
  have spaced : ∀ head ∈ headerPrefixes, head = "table " ∨ ' ' ∉ head.toList := by decide
  rw [header_line, WirePunch.line, lowered, List.any_eq_true]
  constructor
  · rintro ⟨head, listed, opens⟩
    rcases spaced head listed with rfl | absent
    · obtain ⟨tail, whole⟩ := List.isPrefixOf_iff_prefix.mp opens
      have pieces : "table".toList :: tail.splitOn ' ' =
          (asciiLower punch.pin).toList :: rest.splitOn ' ' := by
        rw [← List.splitOn_append_cons_self_of_not_mem solidPin, ← whole,
          ← List.splitOn_append_cons_self_of_not_mem (by decide)]
        rfl
      exact (String.toList_injective (List.cons.inj pieces).1).symm
    · rw [isPrefixOf_append_cons absent] at opens
      exact absurd (opens : startsWith (asciiLower punch.pin) head = true)
        (Bool.eq_false_iff.mp (punch.unlisted head listed))
  · intro table
    refine ⟨"table ", by decide, ?_⟩
    rw [table, List.isPrefixOf_iff_prefix]
    exact ⟨rest, rfl⟩

theorem header_keyValue : isHeaderOrMetadataLine (punch.line .keyValue) = false := by
  obtain ⟨rest, lowered⟩ : ∃ rest, (asciiLower (punch.line .keyValue)).toList = 'p' :: rest := by
    rw [WirePunch.line, asciiLower, String.toList_ofList, toList_joinChar_cons, List.map_append,
      String.toList_append, List.map_append]
    exact ⟨_, rfl⟩
  have others : ∀ head ∈ headerPrefixes, head.toList.isPrefixOf ('p' :: rest) = false := by
    intro head listed
    simp only [headerPrefixes, List.mem_cons, List.not_mem_nil, or_false] at listed
    rcases listed with rfl | rfl | rfl | rfl | rfl | rfl | rfl | rfl | rfl | rfl | rfl | rfl
    all_goals rfl
  rw [header_line, lowered, List.any_eq_false]
  intro head listed
  exact Bool.eq_false_iff.mp (others head listed)

theorem keyValueRow_columns {separator : Char}
    (mark : separator = '\t' ∨ separator = ' ' ∨ separator = ',') :
    keyValueRow (joinChar separator punch.columns) = none := by
  have facts : ∀ char ∈ (joinChar separator punch.columns).toList,
      char.toNat < 128 ∧ char.toUpper ≠ '=' := by
    intro char member
    rcases mem_joinChar member with rfl | ⟨column, listed, inside⟩
    · rcases mark with rfl | rfl | rfl <;> decide
    · rcases punch.mem_columns listed inside with wire | rfl
      · have entry := of_ascii (fun char => !wireChar char || char.toUpper != '=')
          (by decide +kernel) (ascii_of_wireChar wire)
        simp only [wire, Bool.not_true, Bool.false_or, bne_iff_ne] at entry
        exact ⟨ascii_of_wireChar wire, entry⟩
      · decide
  have upperLine : upper (joinChar separator punch.columns) =
      asciiUpper (joinChar separator punch.columns) :=
    UnicodeTables.upper_ascii _ fun char member => (facts char member).1
  have noEquals : '=' ∉ (upper (joinChar separator punch.columns)).toList := by
    rw [upperLine, asciiUpper, String.toList_ofList]
    intro member
    obtain ⟨source, listed, same⟩ := List.mem_map.mp member
    exact (facts source listed).2 same
  have noPin : contains (upper (joinChar separator punch.columns)) "PIN=" = false :=
    contains_of_notMem (by decide) noEquals
  have noTime : contains (upper (joinChar separator punch.columns)) "TIME=" = false :=
    contains_of_notMem (by decide) noEquals
  simp [keyValueRow, noPin, noTime]

/-! ## Key-value lines -/

theorem upper_key {key : String} (stripped : strip key = key) (ascii : isAscii key)
    (upperCase : asciiUpper key = key) : upper (strip key) = key := by
  rw [stripped, UnicodeTables.upper_ascii key ascii, upperCase]

theorem keyValues_line : keyValues (punch.line .keyValue) =
    [("PIN", punch.pin), ("TIME", punch.dateText), ("STATUS", toString punch.status),
      ("VERIFY", toString punch.verify), ("WORKCODE", toString punch.workCode)] := by
  have pin : upper (strip "PIN") = "PIN" := upper_key (by decide) (by simp [isAscii]) (by decide)
  have time : upper (strip "TIME") = "TIME" :=
    upper_key (by decide) (by simp [isAscii]) (by decide)
  have status : upper (strip "STATUS") = "STATUS" :=
    upper_key (by decide) (by simp [isAscii]) (by decide)
  have verify : upper (strip "VERIFY") = "VERIFY" :=
    upper_key (by decide) (by simp [isAscii]) (by decide)
  have workCode : upper (strip "WORKCODE") = "WORKCODE" :=
    upper_key (by decide) (by simp [isAscii]) (by decide)
  rw [keyValues, punch.words_keyValue]
  simp only [List.foldl_cons, List.foldl_nil, splitOnce_field (by decide : '=' ∉ "PIN".toList),
    splitOnce_field (by decide : '=' ∉ "TIME".toList),
    splitOnce_field (by decide : '=' ∉ "STATUS".toList),
    splitOnce_field (by decide : '=' ∉ "VERIFY".toList),
    splitOnce_field (by decide : '=' ∉ "WORKCODE".toList),
    splitOnce_of_notMem (punch.solid_clockText.notMem rfl), pin, time, status, verify, workCode,
    punch.solid_pin.strip, punch.solid_dateText.strip, strip_toString]
  simp [Dict.set]

theorem keyValueRow_line : ∃ row, keyValueRow (punch.line .keyValue) = some row ∧
    row.timestamp = punch.dateText := by
  have ascii : isAscii (punch.line .keyValue) :=
    fun char member => (WirePunch.lineChar_facts (punch.line_chars .keyValue char member)).1
  have fields : contains (upper (punch.line .keyValue)) "PIN=" = true := by
    have opens : (asciiUpper (punch.line .keyValue)).toList = "PIN=".toList ++
        (asciiUpper (punch.line .keyValue)).toList.drop 4 := by
      simp only [asciiUpper, String.toList_ofList, WirePunch.line, toList_joinChar_cons,
        String.toList_append, List.map_append, List.append_assoc]
      rfl
    rw [UnicodeTables.upper_ascii _ ascii, contains, decide_eq_true_eq, opens]
    exact (List.prefix_append _ _).isInfix
  have pinGiven : (punch.pin != "") = true := by simpa using punch.named
  have dateGiven : (punch.dateText != "") = true := by simpa using punch.dateText_ne_empty
  have pin : firstTruthy [(keyValues (punch.line .keyValue)).get? "PIN",
      (keyValues (punch.line .keyValue)).get? "USERID",
      (keyValues (punch.line .keyValue)).get? "ID"] "" = punch.pin := by
    rw [keyValues_line]
    simp [Dict.get?, firstTruthy, pinGiven]
  have time : firstTruthy [(keyValues (punch.line .keyValue)).get? "TIME",
      (keyValues (punch.line .keyValue)).get? "TIMESTAMP",
      (keyValues (punch.line .keyValue)).get? "DATETIME"] "" = punch.dateText := by
    rw [keyValues_line]
    simp [Dict.get?, firstTruthy, List.lookup_cons, dateGiven]
  unfold keyValueRow
  rw [fields, Bool.true_or, if_pos rfl]
  simp only [pin, time, pinGiven, dateGiven, Bool.and_self, if_true]
  exact ⟨_, rfl, rfl⟩

/-! ## What is stored -/

theorem parseLine_tabs (nowText : String) :
    parseLine nowText (punch.line .tabs) = punch.rowOf (punch.line .tabs) := by
  have noFields : keyValueRow (punch.line .tabs) = none :=
    keyValueRow_columns punch (Or.inl rfl)
  simp [parseLine, noFields, punch.tabRow_tabs]

theorem parseLine_spaces (nowText : String) :
    parseLine nowText (punch.line .spaces) = punch.rowOf (punch.line .spaces) := by
  have noFields : keyValueRow (punch.line .spaces) = none :=
    keyValueRow_columns punch (Or.inr (Or.inl rfl))
  have noTabs : tabRow (punch.line .spaces) = none :=
    WirePunch.tabRow_of_notMem (punch.noTab_columns (by decide))
  simp [parseLine, noFields, noTabs, punch.spaceRow_spaces]

theorem parseLine_commas (nowText : String) :
    parseLine nowText (punch.line .commas) = punch.rowOf (punch.line .commas) := by
  have noFields : keyValueRow (punch.line .commas) = none :=
    keyValueRow_columns punch (Or.inr (Or.inr rfl))
  have noTabs : tabRow (punch.line .commas) = none :=
    WirePunch.tabRow_of_notMem (punch.noTab_columns (by decide))
  simp [parseLine, noFields, noTabs, punch.spaceRow_commas, punch.commaRow_commas]

variable (lms : LmsNames) (arrivals : Nat → Arrival) (cache : UserCache) (sn : String)

theorem parseAttlog_line {layout : WireLayout}
    (row : isHeaderOrMetadataLine (punch.line layout) = false) :
    ∃ info, (parseAttlog lms arrivals cache (punch.line layout) sn).1 =
      [recordOf sn info (arrivals 0)
        (parseLine (arrivals 0).nowText (punch.line layout))] := by
  simp only [parseAttlog, attlogRows, attlogLines_line, row, Bool.false_eq_true, if_false,
    List.zipIdx_singleton, List.map_cons, List.map_nil, recordRows]
  exact ⟨_, rfl⟩

theorem readsBack_of_rowOf {layout : WireLayout}
    (row : isHeaderOrMetadataLine (punch.line layout) = false)
    (fields : parseLine (arrivals 0).nowText (punch.line layout) =
      punch.rowOf (punch.line layout)) : ReadsBack lms arrivals cache sn punch layout := by
  obtain ⟨info, records⟩ := parseAttlog_line punch lms arrivals cache sn row
  obtain ⟨stored, accepted, same⟩ := punch.toPunch_fields
    (recordOf sn info (arrivals 0) (punch.rowOf (punch.line layout)))
    rfl rfl rfl rfl rfl
  refine ⟨stored, ?_, same⟩
  rw [records, fields]
  simp [usable, accepted]

theorem not_readsBack_keyValue : ¬ ReadsBack lms arrivals cache sn punch .keyValue := by
  rintro ⟨stored, kept, _⟩
  obtain ⟨info, records⟩ := parseAttlog_line punch lms arrivals cache sn (header_keyValue punch)
  obtain ⟨row, given, timestamp⟩ := keyValueRow_line punch
  have parsed : parseLine (arrivals 0).nowText (punch.line .keyValue) = row := by
    simp [parseLine, given]
  have dropped : toPunch (recordOf sn info (arrivals 0) row) = none := by
    have time : (recordOf sn info (arrivals 0) row).timestamp = punch.dateText := timestamp
    simp [toPunch, time, punch.parseTime_dateText]
  rw [records, parsed, usable] at kept
  simp [dropped] at kept

/-- Each layout is read back exactly where it is readable, which the key-value layout
never is: its time is cut at the space. -/
theorem wire_layout_reads_back_iff :
    (∀ layout, ReadsBack lms arrivals cache sn punch layout ↔ punch.Readable layout) ∧
      ¬ ∀ layout, ReadsBack lms arrivals cache sn punch layout := by
  refine ⟨?_, fun all => not_readsBack_keyValue punch lms arrivals cache sn (all .keyValue)⟩
  intro layout
  cases layout with
  | keyValue =>
      exact iff_of_false (not_readsBack_keyValue punch lms arrivals cache sn) id
  | tabs =>
      exact iff_of_true (readsBack_of_rowOf punch lms arrivals cache sn (header_tabs punch)
        (parseLine_tabs punch _)) trivial
  | commas =>
      exact iff_of_true (readsBack_of_rowOf punch lms arrivals cache sn (header_commas punch)
        (parseLine_commas punch _)) trivial
  | spaces =>
      by_cases table : asciiLower punch.pin = "table"
      · refine iff_of_false ?_ (not_not_intro table)
        rintro ⟨stored, kept, _⟩
        have header := (header_spaces punch).mpr table
        simp [parseAttlog, attlogRows, attlogLines_line, header, recordRows, usable] at kept
      · have row : isHeaderOrMetadataLine (punch.line .spaces) = false :=
          Bool.eq_false_iff.mpr fun header => table ((header_spaces punch).mp header)
        exact iff_of_true (readsBack_of_rowOf punch lms arrivals cache sn row
          (parseLine_spaces punch _)) table

end

/-- `PIN=102  TIME=2026-08-15 22:12:05  STATUS=0  VERIFY=1  WORKCODE=0` is acknowledged
and dropped. -/
theorem key_value_line_dropped :
    let := UnicodeTables.ascii
    ¬ ∀ layout, ReadsBack (fun _ => none) (fun _ => ⟨"1", "", "2026-08-15 22:12:06"⟩) [] "ZK1"
      eveningPunch layout := by
  intro _ all
  exact not_readsBack_keyValue eveningPunch _ _ _ _ (all .keyValue)

end PumoBioMetric.Sync
