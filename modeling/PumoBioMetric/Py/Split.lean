import Mathlib.Data.List.Infix
import PumoBioMetric.Py.Text

/-!
# Splitting and searching text
-/

set_option autoImplicit false

namespace PumoBioMetric.Py

/-- `needle in text`. -/
def contains (text needle : String) : Bool := decide (needle.toList <:+: text.toList)

/-- `text.replace(old, new)` of single characters. -/
def replaceChar (old new : Char) (text : String) : String :=
  String.ofList (text.toList.map fun char => if char = old then new else char)

/-- `text.split(separator)` of a single character. -/
def splitChar (separator : Char) (text : String) : List String :=
  (text.toList.splitOn separator).map String.ofList

/-- `text.split()`. -/
def words (text : String) : List String :=
  ((text.toList.splitOnP isSpace).filter fun word => !word.isEmpty).map String.ofList

/-- `text.split(separator, 1)` where the separator is in the text. -/
def splitOnce (separator : Char) (text : String) : Option (String × String) :=
  match text.toList.dropWhile fun char => char != separator with
  | [] => none
  | _ :: rest =>
      some (String.ofList (text.toList.takeWhile fun char => char != separator),
        String.ofList rest)

/-- `separator.join(columns)` of a single character. -/
def joinChar (separator : Char) (columns : List String) : String :=
  String.ofList ([separator].intercalate (columns.map String.toList))

example : words " 102  2026-08-15\t22:12:05" = ["102", "2026-08-15", "22:12:05"] := by decide

example : splitOnce '=' "PIN=1=2" = some ("PIN", "1=2") := by decide

/-! ## Joining -/

theorem toList_joinChar (separator : Char) (columns : List String) :
    (joinChar separator columns).toList = [separator].intercalate (columns.map String.toList) :=
  String.toList_ofList

theorem toList_joinChar_cons (separator : Char) (column next : String) (columns : List String) :
    (joinChar separator (column :: next :: columns)).toList =
      column.toList ++ separator :: (joinChar separator (next :: columns)).toList := by
  simp [toList_joinChar, List.intercalate_cons_cons]

theorem toList_joinChar_single (separator : Char) (column : String) :
    (joinChar separator [column]).toList = column.toList := by
  simp [toList_joinChar]

theorem joinChar_ends (separator : Char) (first : String) (columns : List String)
    (last : String) :
    ∃ middle, (joinChar separator (first :: (columns ++ [last]))).toList =
      first.toList ++ (middle ++ last.toList) := by
  induction columns generalizing first with
  | nil =>
      refine ⟨[separator], ?_⟩
      rw [List.nil_append, toList_joinChar_cons, toList_joinChar_single]
      rfl
  | cons next columns ih =>
      obtain ⟨middle, later⟩ := ih next
      refine ⟨separator :: (next.toList ++ middle), ?_⟩
      rw [List.cons_append, toList_joinChar_cons, later]
      simp

theorem mem_joinChar {separator char : Char} {columns : List String}
    (member : char ∈ (joinChar separator columns).toList) :
    char = separator ∨ ∃ column ∈ columns, char ∈ column.toList := by
  induction columns with
  | nil => simp [toList_joinChar] at member
  | cons column rest ih =>
      cases rest with
      | nil =>
          rw [toList_joinChar_single] at member
          exact Or.inr ⟨column, List.mem_cons_self, member⟩
      | cons next rest =>
          rw [toList_joinChar_cons, List.mem_append, List.mem_cons] at member
          rcases member with here | same | later
          · exact Or.inr ⟨column, List.mem_cons_self, here⟩
          · exact Or.inl same
          · rcases ih later with same | ⟨other, listed, inside⟩
            · exact Or.inl same
            · exact Or.inr ⟨other, List.mem_cons_of_mem _ listed, inside⟩

theorem mem_joinChar_of_mem {separator char : Char} {columns : List String} {column : String}
    (listed : column ∈ columns) (member : char ∈ column.toList) :
    char ∈ (joinChar separator columns).toList := by
  induction columns with
  | nil => cases listed
  | cons first rest ih =>
      cases rest with
      | nil =>
          rw [toList_joinChar_single, ← List.mem_singleton.mp listed]
          exact member
      | cons next rest =>
          rw [toList_joinChar_cons]
          rcases List.mem_cons.mp listed with rfl | later
          · exact List.mem_append_left _ member
          · exact List.mem_append_right _ (List.mem_cons_of_mem _ (ih later))

theorem splitChar_joinChar {separator : Char} {columns : List String}
    (apart : ∀ column ∈ columns, separator ∉ column.toList) (present : columns ≠ []) :
    splitChar separator (joinChar separator columns) = columns := by
  unfold splitChar
  rw [toList_joinChar, List.splitOn_intercalate]
  · simp
  · intro chars member
    obtain ⟨column, listed, rfl⟩ := List.mem_map.mp member
    exact apart column listed
  · simpa using present

theorem words_joinChar {separator : Char} (blank : isSpace separator = true)
    {columns : List String}
    (solid : ∀ column ∈ columns, column ≠ "" ∧ ∀ char ∈ column.toList, isSpace char = false) :
    words (joinChar separator columns) = columns := by
  unfold words
  induction columns with
  | nil => rw [toList_joinChar]; rfl
  | cons column rest ih =>
      obtain ⟨nonempty, visible⟩ := solid column List.mem_cons_self
      have later := ih fun other listed => solid other (List.mem_cons_of_mem _ listed)
      have kept : column.toList.isEmpty = false := by simpa using nonempty
      cases rest with
      | nil =>
          rw [toList_joinChar_single, List.splitOnP_eq_singleton visible]
          simp [nonempty]
      | cons next rest =>
          rw [toList_joinChar_cons,
            List.splitOnP_append_cons_of_forall_mem visible separator blank,
            List.filter_cons]
          simp [kept, later]

theorem splitChar_of_notMem {separator : Char} {text : String}
    (absent : separator ∉ text.toList) : splitChar separator text = [text] := by
  unfold splitChar
  rw [List.splitOn_eq_singleton absent]
  simp

theorem contains_of_mem {char : Char} {text : String} (member : char ∈ text.toList) :
    contains text (String.ofList [char]) = true := by
  simpa [contains, List.singleton_infix_iff] using member

theorem contains_of_notMem {char : Char} {text needle : String} (wanted : char ∈ needle.toList)
    (absent : char ∉ text.toList) : contains text needle = false := by
  refine decide_eq_false fun inside => absent (inside.subset wanted)

theorem map_replace_of_notMem {old new : Char} {chars : List Char} (absent : old ∉ chars) :
    chars.map (fun char => if char = old then new else char) = chars := by
  conv_rhs => rw [← List.map_id chars]
  refine List.map_congr_left fun char member => if_neg ?_
  rintro rfl
  exact absent member

theorem replaceChar_of_notMem {old new : Char} {text : String} (absent : old ∉ text.toList) :
    replaceChar old new text = text := by
  rw [replaceChar, map_replace_of_notMem absent, String.ofList_toList]

theorem strip_of_ends {text : String} {front back : List Char} (middle : List Char)
    (whole : text.toList = front ++ (middle ++ back)) (frontPresent : front ≠ [])
    (backPresent : back ≠ []) (frontVisible : ∀ char ∈ front, isSpace char = false)
    (backVisible : ∀ char ∈ back, isSpace char = false) : strip text = text := by
  have ends : stripChars text.toList = text.toList := by
    cases front with
    | nil => contradiction
    | cons first more =>
        rw [whole]
        obtain ⟨init, last, rfl⟩ : ∃ init last, back = init ++ [last] :=
          ⟨back.dropLast, back.getLast backPresent, (List.dropLast_append_getLast _).symm⟩
        have stripped : stripChars (first :: (more ++ (middle ++ init) ++ last :: [])) =
            first :: (more ++ (middle ++ init) ++ [last]) :=
          stripChars_between _ (frontVisible first List.mem_cons_self)
            (backVisible last (by simp)) (by simp)
        simpa using stripped
  rw [strip, ends, String.ofList_toList]

theorem isPrefixOf_append_cons {head front rest : List Char} {mark : Char}
    (absent : mark ∉ head) :
    head.isPrefixOf (front ++ mark :: rest) = head.isPrefixOf front := by
  rw [Bool.eq_iff_iff, List.isPrefixOf_iff_prefix, List.isPrefixOf_iff_prefix]
  constructor
  · intro whole
    rcases List.prefix_or_prefix_of_prefix whole (List.prefix_append front (mark :: rest)) with
      short | ⟨tail, rfl⟩
    · exact short
    · cases tail with
      | nil => exact ⟨[], by simp⟩
      | cons char tail =>
          have same := (List.cons_prefix_cons.mp ((List.prefix_append_right_inj front).mp whole)).1
          exact absurd (by simp [same]) absent
  · intro short
    exact short.trans (List.prefix_append _ _)

theorem splitOnce_of_toList {separator : Char} {item : String} {front back : List Char}
    (whole : item.toList = front ++ separator :: back) (absent : separator ∉ front) :
    splitOnce separator item = some (String.ofList front, String.ofList back) := by
  have frontChars : ∀ char ∈ front, (char != separator) = true := by
    intro char member
    rw [bne_iff_ne]
    rintro rfl
    exact absent member
  simp only [splitOnce, whole, List.dropWhile_append_of_pos frontChars,
    List.takeWhile_append_of_pos frontChars]
  simp

theorem splitOnce_field {key value : String} (absent : '=' ∉ key.toList) :
    splitOnce '=' (key ++ ("=" ++ value)) = some (key, value) := by
  have text : (key ++ ("=" ++ value)).toList = key.toList ++ '=' :: value.toList := by
    simp [String.toList_append]
  rw [splitOnce_of_toList text absent, String.ofList_toList, String.ofList_toList]

theorem splitOnce_of_notMem {item : String} (absent : '=' ∉ item.toList) :
    splitOnce '=' item = none := by
  have all : item.toList.dropWhile (fun char => char != '=') = [] := by
    rw [List.dropWhile_eq_nil_iff]
    intro char member
    rw [bne_iff_ne]
    rintro rfl
    exact absent member
  simp [splitOnce, all]

theorem replaceChar_joinChar {old new : Char} {columns : List String}
    (absent : ∀ column ∈ columns, old ∉ column.toList) :
    replaceChar old new (joinChar old columns) = joinChar new columns := by
  apply String.toList_injective
  rw [replaceChar, String.toList_ofList]
  induction columns with
  | nil => rfl
  | cons column rest ih =>
      have here := absent column List.mem_cons_self
      have later := ih fun other listed => absent other (List.mem_cons_of_mem _ listed)
      cases rest with
      | nil => rw [toList_joinChar_single, toList_joinChar_single, map_replace_of_notMem here]
      | cons next rest =>
          rw [toList_joinChar_cons, toList_joinChar_cons, List.map_append,
            map_replace_of_notMem here, List.map_cons, later, if_pos rfl]

/-! ## Pieces -/

theorem splitOnP_pieces {Item : Type} (separates : Item → Bool) (text : List Item) :
    ∃ first rest, text.splitOnP separates = first :: rest ∧ first <+: text ∧
      ∀ piece ∈ rest, piece <:+: text := by
  induction text with
  | nil => exact ⟨[], [], rfl, List.prefix_rfl, by simp⟩
  | cons item text ih =>
      obtain ⟨first, rest, split, head, others⟩ := ih
      rw [List.splitOnP_cons_eq_if_modifyHead, split]
      by_cases mark : separates item = true
      · refine ⟨[], first :: rest, by simp [mark], List.nil_prefix, ?_⟩
        intro piece member
        rcases List.mem_cons.mp member with rfl | later
        · exact head.isInfix.trans (List.suffix_cons _ _).isInfix
        · exact (others piece later).trans (List.suffix_cons _ _).isInfix
      · refine ⟨item :: first, rest, by simp [mark], ?_, ?_⟩
        · exact List.cons_prefix_cons.mpr ⟨rfl, head⟩
        · intro piece member
          exact (others piece member).trans (List.suffix_cons _ _).isInfix

theorem infix_of_mem_splitOnP {Item : Type} {separates : Item → Bool} {text piece : List Item}
    (member : piece ∈ text.splitOnP separates) : piece <:+: text := by
  obtain ⟨first, rest, split, head, others⟩ := splitOnP_pieces separates text
  rw [split] at member
  rcases List.mem_cons.mp member with rfl | later
  · exact head.isInfix
  · exact others piece later

theorem infix_of_mem_splitChar {separator : Char} {text piece : String}
    (member : piece ∈ splitChar separator text) : piece.toList <:+: text.toList := by
  obtain ⟨chars, listed, rfl⟩ := List.mem_map.mp member
  rw [List.splitOn_eq_splitOnP] at listed
  rw [String.toList_ofList]
  exact infix_of_mem_splitOnP listed

theorem notMem_of_mem_splitOnP {Item : Type} {separates : Item → Bool} {text : List Item} :
    ∀ piece ∈ text.splitOnP separates, ∀ item ∈ piece, separates item = false := by
  induction text with
  | nil => simp
  | cons item text ih =>
      rw [List.splitOnP_cons_eq_if_modifyHead]
      by_cases mark : separates item = true
      · simpa [mark] using ih
      · rw [if_neg mark]
        cases pieces : text.splitOnP separates with
        | nil => simp
        | cons first rest =>
            rw [pieces] at ih
            simp only [List.modifyHead_cons, List.forall_mem_cons]
            have apart := List.forall_mem_cons.mp ih
            exact ⟨⟨by simpa using mark, apart.1⟩, apart.2⟩

theorem notMem_of_mem_splitChar {separator : Char} {text piece : String}
    (member : piece ∈ splitChar separator text) : separator ∉ piece.toList := by
  obtain ⟨chars, listed, rfl⟩ := List.mem_map.mp member
  rw [List.splitOn_eq_splitOnP] at listed
  rw [String.toList_ofList]
  intro inside
  have other := notMem_of_mem_splitOnP chars listed separator inside
  simp at other

/-- Joined columns come back exactly if none of them holds the separator. -/
theorem splitChar_joinChar_iff {separator : Char} {columns : List String}
    (present : columns ≠ []) : splitChar separator (joinChar separator columns) = columns ↔
      ∀ column ∈ columns, separator ∉ column.toList := by
  constructor
  · intro back column listed
    rw [← back] at listed
    exact notMem_of_mem_splitChar listed
  · intro apart
    exact splitChar_joinChar apart present

theorem infix_of_mem_words {text word : String} (member : word ∈ words text) :
    word.toList <:+: text.toList := by
  obtain ⟨chars, listed, rfl⟩ := List.mem_map.mp member
  rw [String.toList_ofList]
  exact infix_of_mem_splitOnP (List.mem_filter.mp listed).1

theorem strip_isInfix (text : String) : (strip text).toList <:+: text.toList := by
  have front : text.toList.dropWhile isSpace <:+: text.toList :=
    (List.dropWhile_suffix _).isInfix
  have back : stripChars text.toList <+: text.toList.dropWhile isSpace :=
    List.rdropWhile_prefix isSpace _
  rw [strip, String.toList_ofList]
  exact back.isInfix.trans front

theorem splitOnce_isInfix {separator : Char} {item key value : String}
    (split : splitOnce separator item = some (key, value)) : value.toList <:+: item.toList := by
  unfold splitOnce at split
  split at split
  · cases split
  · rename_i mark rest after
    cases split
    rw [String.toList_ofList]
    have tail : mark :: rest <:+ item.toList := after ▸ List.dropWhile_suffix _
    exact ((List.suffix_cons mark rest).trans tail).isInfix

theorem words_replaceChar {old new : Char} (oldBlank : isSpace old = true)
    (newBlank : isSpace new = true) (text : String) :
    words (replaceChar old new text) = words text := by
  have pieces : ∀ chars : List Char,
      (chars.map fun char => if char = old then new else char).splitOnP isSpace =
        chars.splitOnP isSpace := by
    intro chars
    induction chars with
    | nil => rfl
    | cons char chars ih =>
        rw [List.map_cons, List.splitOnP_cons_eq_if_modifyHead, ih,
          List.splitOnP_cons_eq_if_modifyHead]
        by_cases same : char = old
        · rw [if_pos same, if_pos newBlank, same, if_pos oldBlank]
        · rw [if_neg same]
  rw [words, words, replaceChar, String.toList_ofList, pieces]

end PumoBioMetric.Py
