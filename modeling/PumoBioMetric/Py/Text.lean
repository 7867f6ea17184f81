import Mathlib.Data.List.Basic
import Mathlib.Data.List.DropRight
import Mathlib.Data.Nat.Digits.Defs

/-!
# Python text: stripping, decimal digits, `int` and case mapping

Strings are Lean strings; every function goes through the list of code points,
so closed calls reduce.  `int` reads decimal text of any length.  The full case
and letter tables of Unicode are a parameter of which the ASCII part is fixed.
-/

set_option autoImplicit false

namespace PumoBioMetric.Py

/-- The code points for which `str.isspace` holds; `\s` of `re` is the same set. -/
def isSpace (char : Char) : Bool :=
  let code := char.toNat
  (9 ≤ code && code ≤ 13) || (0x1c ≤ code && code ≤ 0x20) || code == 0x85 ||
    code == 0xa0 || code == 0x1680 || (0x2000 ≤ code && code ≤ 0x200a) ||
    code == 0x2028 || code == 0x2029 || code == 0x202f || code == 0x205f ||
    code == 0x3000

def stripChars (chars : List Char) : List Char :=
  ((chars.dropWhile isSpace).reverse.dropWhile isSpace).reverse

def strip (text : String) : String := String.ofList (stripChars text.toList)

theorem stripChars_stripChars (chars : List Char) :
    stripChars (stripChars chars) = stripChars chars := by
  have split : ∀ list, stripChars list = (list.dropWhile isSpace).rdropWhile isSpace :=
    fun _ => rfl
  -- What is left begins with the visible head of the text without leading blanks.
  have front : (stripChars chars).dropWhile isSpace = stripChars chars := by
    rw [List.dropWhile_eq_self_iff]
    intro something
    obtain ⟨tail, whole⟩ := List.rdropWhile_prefix isSpace (chars.dropWhile isSpace)
    have left := List.dropWhile_idempotent isSpace chars
    rw [List.dropWhile_eq_self_iff] at left
    have longer : 0 < (chars.dropWhile isSpace).length := by
      rw [← whole, List.length_append]
      exact Nat.lt_of_lt_of_le something (Nat.le_add_right _ _)
    have sameHead : (stripChars chars)[0] = (chars.dropWhile isSpace)[0] := by
      have parts : chars.dropWhile isSpace = stripChars chars ++ tail := whole.symm
      simp only [parts, List.getElem_append_left something]
    rw [sameHead]
    exact left longer
  rw [split (stripChars chars), front, split, List.rdropWhile_idempotent]

theorem strip_strip (text : String) : strip (strip text) = strip text := by
  unfold strip
  rw [String.toList_ofList, stripChars_stripChars]

theorem mem_strip_of_visible {text : String} {char : Char} (member : char ∈ text.toList)
    (visible : isSpace char = false) : char ∈ (strip text).toList := by
  have kept : ∀ list : List Char, char ∈ list → char ∈ list.dropWhile isSpace := by
    intro list listed
    have parts : list = list.takeWhile isSpace ++ list.dropWhile isSpace :=
      List.takeWhile_append_dropWhile.symm
    rw [parts] at listed
    rcases List.mem_append.mp listed with front | back
    · have blank := List.mem_takeWhile_imp front
      rw [visible] at blank
      cases blank
    · exact back
  rw [strip, String.toList_ofList, stripChars, List.mem_reverse]
  apply kept
  rw [List.mem_reverse]
  exact kept _ member

theorem strip_last {text : String} (something : strip text ≠ "") :
    ∃ init last, (strip text).toList = init ++ [last] ∧ isSpace last = false := by
  have chars : (strip text).toList = (text.toList.dropWhile isSpace).rdropWhile isSpace := by
    rw [strip, String.toList_ofList]
    rfl
  have present : (text.toList.dropWhile isSpace).rdropWhile isSpace ≠ [] := by
    rw [← chars]
    simpa using something
  refine ⟨_, _, chars.trans (List.dropLast_append_getLast present).symm, ?_⟩
  simpa using List.rdropWhile_last_not isSpace (text.toList.dropWhile isSpace) present

/-- `a or b or ... or default` of optional texts: an empty text is false. -/
def firstTruthy (candidates : List (Option String)) (default : String) : String :=
  ((candidates.filterMap id).find? fun text => text != "").getD default

theorem firstTruthy_cases (candidates : List (Option String)) (default : String) :
    firstTruthy candidates default = default ∨
      some (firstTruthy candidates default) ∈ candidates := by
  unfold firstTruthy
  cases first : (candidates.filterMap id).find? (fun text => text != "") with
  | none => exact Or.inl rfl
  | some text =>
      have member := List.mem_of_find?_eq_some first
      obtain ⟨candidate, listed, same⟩ := List.mem_filterMap.mp member
      have given : candidate = some text := same
      exact Or.inr (given ▸ listed)

def startsWith (text head : String) : Bool := head.toList.isPrefixOf text.toList

/-- The zeros of the decimal digit blocks (general category Nd). -/
def decimalZeros : List Nat :=
  [0x30, 0x660, 0x6f0, 0x7c0, 0x966, 0x9e6, 0xa66, 0xae6, 0xb66, 0xbe6, 0xc66,
    0xce6, 0xd66, 0xde6, 0xe50, 0xed0, 0xf20, 0x1040, 0x1090, 0x17e0, 0x1810,
    0x1946, 0x19d0, 0x1a80, 0x1a90, 0x1b50, 0x1bb0, 0x1c40, 0x1c50, 0xa620,
    0xa8d0, 0xa900, 0xa9d0, 0xa9f0, 0xaa50, 0xabf0, 0xff10, 0x104a0, 0x10d30,
    0x11066, 0x110f0, 0x11136, 0x111d0, 0x112f0, 0x11450, 0x114d0, 0x11650,
    0x116c0, 0x11730, 0x118e0, 0x11950, 0x11c50, 0x11d50, 0x11da0, 0x11f50,
    0x16a60, 0x16ac0, 0x16b50, 0x1d7ce, 0x1d7d8, 0x1d7e2, 0x1d7ec, 0x1d7f6,
    0x1e140, 0x1e2f0, 0x1e4f0, 0x1e950, 0x1fbf0]

/-- Characters that `str.isdigit` accepts although `int` does not. -/
def digitLikeRanges : List (Nat × Nat) :=
  [(0xb2, 0xb3), (0xb9, 0xb9), (0x1369, 0x1371), (0x19da, 0x19da),
    (0x2070, 0x2070), (0x2074, 0x2079), (0x2080, 0x2089), (0x2460, 0x2468),
    (0x2474, 0x247c), (0x2488, 0x2490), (0x24ea, 0x24ea), (0x24f5, 0x24fd),
    (0x24ff, 0x24ff), (0x2776, 0x277e), (0x2780, 0x2788), (0x278a, 0x2792),
    (0x10a40, 0x10a43), (0x10e60, 0x10e68), (0x11052, 0x1105a),
    (0x1f100, 0x1f10a)]

def digitValue (char : Char) : Option Nat :=
  (decimalZeros.find? fun first =>
      first ≤ char.toNat && char.toNat < first + 10).map
    fun first => char.toNat - first

def isDigitChar (char : Char) : Bool :=
  (digitValue char).isSome ||
    digitLikeRanges.any fun range =>
      range.1 ≤ char.toNat && char.toNat ≤ range.2

def isDigit (text : String) : Bool :=
  !text.toList.isEmpty && text.toList.all isDigitChar

/-- Decimal digits with single underscores between them. -/
def digitsValue : Nat → Bool → List Char → Option Nat
  | total, afterDigit, [] => if afterDigit then some total else none
  | total, afterDigit, char :: rest =>
      if char = '_' then
        if afterDigit then digitsValue total false rest else none
      else
        match digitValue char with
        | some digit => digitsValue (10 * total + digit) true rest
        | none => none

/-- `int(text)`, however long the text; `none` is `ValueError`. -/
def int? (text : String) : Option Int :=
  match stripChars text.toList with
  | '-' :: rest => (digitsValue 0 false rest).map fun value => -(value : Int)
  | '+' :: rest => (digitsValue 0 false rest).map fun value => (value : Int)
  | chars => (digitsValue 0 false chars).map fun value => (value : Int)

/-! ## Reading back what `str` wrote -/

theorem digitValue_of_asciiDigit {char : Char} (digit : char.isDigit = true) :
    digitValue char = some (char.toNat - '0'.toNat) := by
  have bounds : 48 ≤ char.toNat ∧ char.toNat ≤ 57 := by
    simpa [Char.isDigit, UInt32.le_iff_toNat_le] using digit
  have ascii : decimalZeros = 48 :: decimalZeros.tail := rfl
  rw [digitValue, ascii, List.find?_cons_of_pos]
  · rfl
  · simp only [Bool.and_eq_true, decide_eq_true_eq]
    omega

theorem isSpace_of_asciiDigit {char : Char} (digit : char.isDigit = true) :
    isSpace char = false := by
  have bounds : 48 ≤ char.toNat ∧ char.toNat ≤ 57 := by
    simpa [Char.isDigit, UInt32.le_iff_toNat_le] using digit
  simp only [isSpace, Bool.or_eq_false_iff, Bool.and_eq_false_imp,
    decide_eq_true_eq, decide_eq_false_iff_not, beq_eq_false_iff_ne]
  omega

theorem dropWhile_isSpace_of_head {char : Char} {rest : List Char}
    (visible : isSpace char = false) :
    (char :: rest).dropWhile isSpace = char :: rest := by
  rw [List.dropWhile_cons_of_neg (by simp [visible])]

theorem stripChars_of_no_space (chars : List Char)
    (visible : ∀ char ∈ chars, isSpace char = false) :
    stripChars chars = chars := by
  have keeps : ∀ list : List Char, (∀ char ∈ list, isSpace char = false) →
      list.dropWhile isSpace = list := by
    intro list listVisible
    cases list with
    | nil => rfl
    | cons char rest =>
        exact dropWhile_isSpace_of_head (listVisible char List.mem_cons_self)
  unfold stripChars
  rw [keeps chars visible, keeps chars.reverse, List.reverse_reverse]
  intro char member
  exact visible char (List.mem_reverse.mp member)

theorem strip_ne_empty {text : String} {char : Char} {rest : List Char}
    (begins : text.toList = char :: rest) (visible : isSpace char = false) : strip text ≠ "" := by
  intro empty
  have chars := congrArg String.toList empty
  have front : (char :: rest).dropWhile isSpace = char :: rest :=
    dropWhile_isSpace_of_head visible
  rw [strip, String.toList_ofList, begins, stripChars, front] at chars
  have all : (char :: rest).rdropWhile isSpace = [] := chars
  have blank := List.rdropWhile_eq_nil_iff.mp all char List.mem_cons_self
  rw [visible] at blank
  cases blank

theorem stripChars_between {first last : Char} {blanks : List Char} (body : List Char)
    (begins : isSpace first = false) (ends : isSpace last = false)
    (blank : ∀ char ∈ blanks, isSpace char = true) :
    stripChars (first :: (body ++ last :: blanks)) = first :: (body ++ [last]) := by
  have backwards : (first :: (body ++ last :: blanks)).reverse =
      blanks.reverse ++ (last :: (first :: body).reverse) := by
    simp
  have trailing : ∀ char ∈ blanks.reverse, isSpace char = true :=
    fun char member => blank char (List.mem_reverse.mp member)
  unfold stripChars
  rw [dropWhile_isSpace_of_head begins, backwards, List.dropWhile_append_of_pos trailing,
    dropWhile_isSpace_of_head ends]
  simp

theorem digitsValue_of_asciiDigits (chars : List Char) (total : Nat)
    (afterDigit : Bool) (digits : ∀ char ∈ chars, char.isDigit = true)
    (something : chars ≠ [] ∨ afterDigit = true) :
    digitsValue total afterDigit chars =
      some (Nat.ofDigitChars 10 chars total) := by
  induction chars generalizing total afterDigit with
  | nil =>
      have after : afterDigit = true := something.resolve_left (fun h => h rfl)
      simp [digitsValue, after]
  | cons char rest ih =>
      have digit := digits char List.mem_cons_self
      have notUnderscore : char ≠ '_' := by
        rintro rfl
        exact absurd digit (by decide)
      rw [digitsValue, if_neg notUnderscore, digitValue_of_asciiDigit digit]
      rw [Nat.ofDigitChars_cons]
      exact ih _ true (fun other member => digits other (List.mem_cons_of_mem _ member))
        (Or.inr rfl)

theorem toDigits_isDigit (number : Nat) :
    ∀ char ∈ Nat.toDigits 10 number, char.isDigit = true :=
  fun _ member => Nat.isDigit_of_mem_toDigits (by decide) (by decide) member

theorem toList_toString (number : Nat) : (toString number).toList = Nat.toDigits 10 number := by
  rw [Nat.toString_eq_ofList_toDigits, String.toList_ofList]

theorem stripChars_toDigits (number : Nat) :
    stripChars (Nat.toDigits 10 number) = Nat.toDigits 10 number :=
  stripChars_of_no_space _ fun char member =>
    isSpace_of_asciiDigit (toDigits_isDigit number char member)

theorem digitsValue_toDigits (number : Nat) :
    digitsValue 0 false (Nat.toDigits 10 number) = some number := by
  rw [digitsValue_of_asciiDigits _ _ _ (toDigits_isDigit number) (Or.inl Nat.toDigits_ne_nil),
    Nat.ofDigitChars_ten_toDigits]

theorem int?_toString (number : Nat) :
    int? (toString number) = some (number : Int) := by
  have digits := toDigits_isDigit number
  unfold int?
  rw [toList_toString, stripChars_toDigits]
  split
  · rename_i rest spelled
    exact absurd (digits '-' (by simp [spelled])) (by decide)
  · rename_i rest spelled
    exact absurd (digits '+' (by simp [spelled])) (by decide)
  · rw [digitsValue_toDigits]
    rfl

theorem int?_minus (number : Nat) :
    int? (String.ofList ('-' :: Nat.toDigits 10 number)) = some (-(number : Int)) := by
  have visible : ∀ char ∈ '-' :: Nat.toDigits 10 number, isSpace char = false := by
    intro char member
    rcases List.mem_cons.mp member with rfl | digit
    · decide
    · exact isSpace_of_asciiDigit (toDigits_isDigit number char digit)
  unfold int?
  rw [String.toList_ofList, stripChars_of_no_space _ visible]
  simp [digitsValue_toDigits]

theorem toString_ne_empty (number : Nat) : toString number ≠ "" := by
  intro empty
  have digits : Nat.toDigits 10 number = [] := by
    rw [← toList_toString, empty]
    rfl
  exact Nat.toDigits_ne_nil digits

theorem strip_toString (number : Nat) : strip (toString number) = toString number := by
  unfold strip
  rw [toList_toString, stripChars_toDigits, ← toList_toString, String.ofList_toList]

/-! ## Case mapping -/

def isAscii (text : String) : Prop := ∀ char ∈ text.toList, char.toNat < 128

theorem of_ascii (property : Char → Bool)
    (table : ∀ code < 128, property (Char.ofNat code) = true) {char : Char}
    (ascii : char.toNat < 128) : property char = true := by
  have entry := table char.toNat ascii
  rwa [Char.ofNat_toNat] at entry

theorem int?_of_isDigit {text : String} (digits : isDigit text = true) (ascii : isAscii text) :
    ∃ number : Nat, int? text = some (number : Int) := by
  simp only [isDigit, Bool.and_eq_true, Bool.not_eq_true', List.isEmpty_eq_false_iff,
    List.all_eq_true] at digits
  obtain ⟨something, digitChars⟩ := digits
  have plain : ∀ char ∈ text.toList, char.isDigit = true := by
    intro char member
    have entry := of_ascii (fun char => !isDigitChar char || char.isDigit) (by decide +kernel)
      (ascii char member)
    simpa [digitChars char member] using entry
  have visible := stripChars_of_no_space text.toList fun char member =>
    isSpace_of_asciiDigit (plain char member)
  refine ⟨Nat.ofDigitChars 10 text.toList 0, ?_⟩
  unfold int?
  rw [visible]
  split
  · rename_i rest spelled
    exact absurd (plain '-' (by simp [spelled])) (by decide)
  · rename_i rest spelled
    exact absurd (plain '+' (by simp [spelled])) (by decide)
  · rw [digitsValue_of_asciiDigits _ _ _ plain (Or.inl something)]
    rfl

def asciiLower (text : String) : String := String.ofList (text.toList.map Char.toLower)

def asciiUpper (text : String) : String := String.ofList (text.toList.map Char.toUpper)

/-- `str.lower`, `str.upper` and `str.isalpha` of one character. -/
class UnicodeTables where
  lower : String → String
  upper : String → String
  isAlpha : Char → Bool
  lower_ascii : ∀ text, isAscii text → lower text = asciiLower text
  upper_ascii : ∀ text, isAscii text → upper text = asciiUpper text
  isAlpha_ascii : ∀ char, char.toNat < 128 → isAlpha char = char.isAlpha

export UnicodeTables (lower upper isAlpha)

/-- Tables that know ASCII letters only, for evaluation on ASCII text. -/
@[reducible] def UnicodeTables.ascii : UnicodeTables where
  lower := asciiLower
  upper := asciiUpper
  isAlpha := Char.isAlpha
  lower_ascii := fun _ _ => rfl
  upper_ascii := fun _ _ => rfl
  isAlpha_ascii := fun _ _ => rfl

end PumoBioMetric.Py
