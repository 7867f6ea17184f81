import PumoBioMetric.Py.Strftime
import PumoBioMetric.Router.AttlogPieces
import PumoBioMetric.Sync.Punch

/-!
# Where the time of a stored punch comes from

Four of the layouts of `parse_attlog` take the time out of the line.  A line that fits
none of them is given the time of its arrival, and `to_punch` cannot tell the two apart.
-/

set_option autoImplicit false

namespace PumoBioMetric.Sync

open PumoBioMetric.Py PumoBioMetric.Router

def fields (line : String) : List String := (splitChar '\t' line).map strip ++ words line

/-- A contiguous piece of the line, or two of its fields joined by one space. -/
def TakenFrom (line text : String) : Prop :=
  text.toList <:+: line.toList ∨
    ∃ first ∈ fields line, ∃ second ∈ fields line, text = first ++ " " ++ second

def Reported (line : String) (time : Naive) : Prop :=
  ∃ text, TakenFrom line text ∧ parseTime text = some time

structure Stated (line : String) (row : AttRow) : Prop where
  raw : row.raw = line
  taken : TakenFrom line row.timestamp

section

variable [UnicodeTables]

/-- Every punch of a body is stored with a time that its own line states; the line is the
raw payload. -/
def FabricatesNothing (lms : LmsNames) (arrivals : Nat → Arrival) (cache : UserCache)
    (bodyStr sn : String) : Prop :=
  ∀ punch ∈ usable (parseAttlog lms arrivals cache bodyStr sn).1,
    ∃ line ∈ attlogLines bodyStr, punch.rawPayload = some line ∧ Reported line punch.deviceTime

/-- The line fits none of the four layouts. -/
def FallsBack (line : String) : Prop :=
  keyValueRow line = none ∧ tabRow line = none ∧ spaceRow line = none ∧ commaRow line = none

/-- A line that fits no layout states the very time of its arrival. -/
def ArrivesOnTime (arrivals : Nat → Arrival) (bodyStr : String) : Prop :=
  ∀ index line, (attlogLines bodyStr)[index]? = some line → FallsBack line →
    ∀ time, parseTime (arrivals index).nowText = some time → Reported line time

end

/-! ## The layouts that take the time out of the line -/

theorem infix_of_mem_tabParts {line part : String} (member : part ∈ tabParts line) :
    part.toList <:+: line.toList ∧ part ∈ fields line := by
  obtain ⟨piece, listed, rfl⟩ := List.mem_map.mp member
  have split := (List.mem_filter.mp listed).1
  exact ⟨(strip_isInfix piece).trans (infix_of_mem_splitChar split),
    List.mem_append_left _ (List.mem_map.mpr ⟨piece, split, rfl⟩)⟩

theorem tabRow_stated {line : String} {row : AttRow} (given : tabRow line = some row) :
    Stated line row := by
  unfold tabRow at given
  split at given
  · rename_i pin second rest parts
    have here : second ∈ tabParts line := by simp [parts]
    split at given
    · cases given
    · cases given
      refine ⟨rfl, ?_⟩
      cases rest with
      | nil => exact Or.inl (infix_of_mem_tabParts here).1
      | cons third more =>
          have next : third ∈ tabParts line := by simp [parts]
          dsimp only
          split
          · exact Or.inr ⟨second, (infix_of_mem_tabParts here).2, third,
              (infix_of_mem_tabParts next).2, rfl⟩
          · exact Or.inl (infix_of_mem_tabParts here).1
  · cases given

theorem spaceRow_stated {line : String} {row : AttRow} (given : spaceRow line = some row) :
    Stated line row := by
  unfold spaceRow at given
  split at given
  · rename_i pin date time rest parts
    have dateField : date ∈ fields line := List.mem_append_right _ (by simp [parts])
    have timeField : time ∈ fields line := List.mem_append_right _ (by simp [parts])
    split at given
    · cases given
      exact ⟨rfl, Or.inr ⟨date, dateField, time, timeField, rfl⟩⟩
    · cases given
  · cases given

theorem commaRow_stated {line : String} {row : AttRow} (given : commaRow line = some row) :
    Stated line row := by
  unfold commaRow at given
  split at given
  · rename_i pin moment rest parts
    have listed : moment ∈ (splitChar ',' line).map strip :=
      (List.mem_filter.mp (parts ▸ List.mem_cons_of_mem _ List.mem_cons_self)).1
    obtain ⟨piece, split, rfl⟩ := List.mem_map.mp listed
    split at given
    · cases given
      exact ⟨rfl, Or.inl ((strip_isInfix piece).trans (infix_of_mem_splitChar split))⟩
    · cases given
  · cases given

section

variable [UnicodeTables]

theorem keyValues_isInfix (line : String) :
    ∀ entry ∈ keyValues line, entry.2.toList <:+: line.toList := by
  unfold keyValues
  refine List.foldlRecOn (motive := fun kvDict : Dict String =>
    ∀ entry ∈ kvDict, entry.2.toList <:+: line.toList) _ _ (by simp) ?_
  intro kvDict held item listed
  rw [words_replaceChar (by decide) (by decide)] at listed
  cases split : splitOnce '=' item with
  | none => exact held
  | some pair =>
      obtain ⟨key, value⟩ := pair
      refine Dict.values_set (fun text : String => text.toList <:+: line.toList) held ?_
      exact ((strip_isInfix value).trans (splitOnce_isInfix split)).trans
        (infix_of_mem_words listed)

theorem get?_isInfix {line key value : String} (found : (keyValues line).get? key = some value) :
    value.toList <:+: line.toList := by
  obtain ⟨before, after, whole, _⟩ := List.lookup_eq_some_iff.mp found
  exact keyValues_isInfix line (key, value) (by rw [whole]; simp)

theorem keyValueRow_stated {line : String} {row : AttRow} (given : keyValueRow line = some row) :
    Stated line row := by
  simp only [keyValueRow] at given
  split at given
  · split at given
    · rename_i present
      have stated := (Bool.and_eq_true_iff.mp present).2
      rw [← Option.some.inj given]
      refine ⟨rfl, Or.inl ?_⟩
      dsimp only
      generalize whole : firstTruthy [(keyValues line).get? "TIME",
        (keyValues line).get? "TIMESTAMP", (keyValues line).get? "DATETIME"] "" = text at stated ⊢
      rcases firstTruthy_cases [(keyValues line).get? "TIME", (keyValues line).get? "TIMESTAMP",
          (keyValues line).get? "DATETIME"] "" with empty | found
      · rw [← whole, empty] at stated
        cases stated
      · simp only [whole, List.mem_cons, List.not_mem_nil, or_false] at found
        rcases found with found | found | found <;> exact get?_isInfix found.symm
    · cases given
  · cases given

/-- Unless a line falls back, its time is taken from it. -/
theorem parseLine_cases (nowText line : String) :
    (FallsBack line ∧ parseLine nowText line = fallbackRow nowText line) ∨
      Stated line (parseLine nowText line) := by
  cases keyed : keyValueRow line with
  | some row => exact Or.inr (by simpa [parseLine, keyed] using keyValueRow_stated keyed)
  | none =>
      cases tabbed : tabRow line with
      | some row => exact Or.inr (by simpa [parseLine, keyed, tabbed] using tabRow_stated tabbed)
      | none =>
          cases spaced : spaceRow line with
          | some row =>
              exact Or.inr (by
                simpa [parseLine, keyed, tabbed, spaced] using spaceRow_stated spaced)
          | none =>
              cases separated : commaRow line with
              | some row =>
                  exact Or.inr (by
                    simpa [parseLine, keyed, tabbed, spaced, separated] using
                      commaRow_stated separated)
              | none =>
                  exact Or.inl ⟨⟨keyed, tabbed, spaced, separated⟩, by
                    simp [parseLine, keyed, tabbed, spaced, separated]⟩

/-! ## The record of a line -/

variable {lms : LmsNames} {arrivals : Nat → Arrival} {cache : UserCache} {bodyStr sn : String}

theorem fallbackRow_pin {line : String} (listed : line ∈ attlogLines bodyStr) (nowText : String) :
    strip (fallbackRow nowText line).userId ≠ "" := by
  obtain ⟨_, char, rest, begins, visible⟩ := attlogLines_visible listed
  obtain ⟨pin, others, columns, stripped, present⟩ := tabParts_head begins visible
  have own : (fallbackRow nowText line).userId = pin := by simp [fallbackRow, columns]
  rw [own, stripped]
  exact present

/-! ## Fabricated times -/

variable {lms : LmsNames} {cache : UserCache} {sn : String} {arrivals : Nat → Arrival}

theorem fabricatesNothing_of_onTime (onTime : ArrivesOnTime arrivals bodyStr) :
    FabricatesNothing lms arrivals cache bodyStr sn := by
  intro punch kept
  obtain ⟨record, listed, accepted⟩ := List.mem_filterMap.mp kept
  obtain ⟨index, found⟩ := List.mem_iff_getElem?.mp listed
  obtain ⟨info, records⟩ := parseAttlog_getElem? lms arrivals cache bodyStr sn index
  obtain ⟨line, here, rfl⟩ := Option.map_eq_some_iff.mp (records.symm.trans found)
  obtain ⟨parsed, _, _, _, payload⟩ := toPunch_origin accepted
  have inBody : line ∈ attlogLines bodyStr := List.mem_of_getElem? here
  have raw : (recordOf sn info (arrivals index)
      (parseLine (arrivals index).nowText line)).raw = line := parseLine_raw _ line
  rw [raw, if_neg (attlogLines_visible inBody).1] at payload
  refine ⟨line, inBody, payload, ?_⟩
  rcases parseLine_cases (arrivals index).nowText line with ⟨falls, row⟩ | stated
  · rw [row] at parsed
    exact onTime index line here falls punch.deviceTime parsed
  · exact ⟨_, stated.taken, parsed⟩

theorem onTime_of_fabricatesNothing
    (honest : FabricatesNothing lms arrivals cache bodyStr sn) :
    ArrivesOnTime arrivals bodyStr := by
  intro index line here falls time parsed
  have inBody : line ∈ attlogLines bodyStr := List.mem_of_getElem? here
  obtain ⟨info, records⟩ := parseAttlog_getElem? lms arrivals cache bodyStr sn index
  have row : parseLine (arrivals index).nowText line =
      fallbackRow (arrivals index).nowText line := by
    obtain ⟨keyed, tabbed, spaced, separated⟩ := falls
    simp [parseLine, keyed, tabbed, spaced, separated]
  rw [here, Option.map_some, row] at records
  obtain ⟨punch, accepted, rfl⟩ : ∃ punch, toPunch (recordOf sn info (arrivals index)
      (fallbackRow (arrivals index).nowText line)) = some punch ∧ punch.deviceTime = time :=
    toPunch_accepts parsed (fallbackRow_pin inBody (arrivals index).nowText)
  have kept : punch ∈ usable (parseAttlog lms arrivals cache bodyStr sn).1 :=
    List.mem_filterMap.mpr ⟨_, List.mem_of_getElem? records, accepted⟩
  obtain ⟨own, _, payload, reported⟩ := honest punch kept
  obtain ⟨_, _, _, _, raw⟩ := toPunch_origin accepted
  rw [payload] at raw
  change some own = if line = "" then none else some line at raw
  rw [if_neg (attlogLines_visible inBody).1] at raw
  rwa [Option.some.inj raw] at reported

/-- A body stores no invented time exactly when each of its lines that fits no layout
states the very time of its arrival. -/
theorem fabricates_nothing_iff :
    FabricatesNothing lms arrivals cache bodyStr sn ↔ ArrivesOnTime arrivals bodyStr :=
  ⟨onTime_of_fabricatesNothing, fabricatesNothing_of_onTime⟩

end

/-! ## A line without a time -/

theorem parseTime_of_noDigit {raw : String}
    (noDigit : ∀ char ∈ raw.toList, anyDigit char = false) : parseTime raw = none := by
  have stripped : ∀ char ∈ (strip raw).toList, anyDigit char = false :=
    fun char member => noDigit char ((strip_isInfix raw).subset member)
  simp only [parseTime]
  split
  · rfl
  · simp [timeFormats, ymd, strptime_of_noDigit _ _ _ stripped]

theorem fields_isInfix {line field : String} (listed : field ∈ fields line) :
    field.toList <:+: line.toList := by
  rcases List.mem_append.mp listed with column | word
  · obtain ⟨piece, split, rfl⟩ := List.mem_map.mp column
    exact (strip_isInfix piece).trans (infix_of_mem_splitChar split)
  · exact infix_of_mem_words word

theorem not_reported_of_noDigit {line : String}
    (noDigit : ∀ char ∈ line.toList, anyDigit char = false) (time : Naive) :
    ¬ Reported line time := by
  rintro ⟨text, taken, parsed⟩
  have none : ∀ char ∈ text.toList, anyDigit char = false := by
    intro char member
    rcases taken with piece | ⟨first, inFirst, second, inSecond, rfl⟩
    · exact noDigit char (piece.subset member)
    · simp only [String.toList_append, List.mem_append] at member
      rcases member with (early | blank) | late
      · exact noDigit char ((fields_isInfix inFirst).subset early)
      · rw [List.mem_singleton.mp blank]
        decide
      · exact noDigit char ((fields_isInfix inSecond).subset late)
  rw [parseTime_of_noDigit none] at parsed
  cases parsed

/-- Two words without a number become a punch at the time they arrived. -/
theorem door_open_stored :
    let := UnicodeTables.ascii
    ¬ FabricatesNothing (fun _ => none) (fun _ => ⟨"1", "", "2026-08-15 22:12:05"⟩) []
      "DOOR OPEN" "ZK1" := by
  intro _ honest
  have line : (attlogLines "DOOR OPEN")[0]? = some "DOOR OPEN" := by decide
  have layouts : FallsBack "DOOR OPEN" := ⟨by decide, by decide, by decide, by decide⟩
  have arrived : parseTime "2026-08-15 22:12:05" = some sampleTime := by decide
  have silent : ∀ char ∈ "DOOR OPEN".toList, anyDigit char = false := by
    have none : ("DOOR OPEN".toList.any anyDigit) = false := by decide
    exact fun char member => by simpa using List.any_eq_false.mp none char member
  exact not_reported_of_noDigit silent _
    (onTime_of_fabricatesNothing honest 0 "DOOR OPEN" line layouts _ arrived)

end PumoBioMetric.Sync
