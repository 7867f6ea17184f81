import PumoBioMetric.Py.Json

/-!
# `loads` reads back what `dumps` wrote

A value is well formed when the keys of each `dict` differ and its floats are
literals.  Under any layout the scanner reads the text of such a value and stops
right behind it.
-/

set_option autoImplicit false

namespace PumoBioMetric.Py

/-- The `repr` of a float. -/
def floatLiteral (literal : String) : Prop :=
  isRealLiteral literal.toList = true ∧ (∀ char ∈ literal.toList, numberChar char = true) ∨
    literal = "NaN" ∨ literal = "Infinity" ∨ literal = "-Infinity"

mutual

def Json.WellFormed : Json → Prop
  | .null | .bool _ | .int _ | .str _ => True
  | .real literal => floatLiteral literal
  | .arr items => Json.AllWellFormed items
  | .obj members => (members.map Prod.fst).Nodup ∧ Json.MembersWellFormed members

def Json.AllWellFormed : List Json → Prop
  | [] => True
  | item :: items => item.WellFormed ∧ Json.AllWellFormed items

def Json.MembersWellFormed : List (String × Json) → Prop
  | [] => True
  | (_, value) :: members => value.WellFormed ∧ Json.MembersWellFormed members

end

/-! ## White space -/

theorem skipBlank_cons {char : Char} (visible : jsonBlank char = false) (rest : List Char) :
    skipBlank (char :: rest) = char :: rest :=
  List.dropWhile_cons_of_neg (by simp [visible])

theorem skipBlank_append {blanks : List Char} (blank : ∀ char ∈ blanks, jsonBlank char = true)
    (rest : List Char) : skipBlank (blanks ++ rest) = skipBlank rest := by
  induction blanks with
  | nil => rfl
  | cons char blanks ih =>
      have first : jsonBlank char = true := blank char List.mem_cons_self
      rw [List.cons_append, skipBlank, List.dropWhile_cons_of_pos first]
      exact ih fun other member => blank other (List.mem_cons_of_mem _ member)

/-! ## Strings -/

theorem hexValue_hexDigit : ∀ value < 16, hexValue (hexDigit value) = some value := by decide

def unitDigits (unit : Nat) : List Char :=
  [hexDigit (unit / 4096 % 16), hexDigit (unit / 256 % 16), hexDigit (unit / 16 % 16),
    hexDigit (unit % 16)]

theorem unitEscape_eq (unit : Nat) : unitEscape unit = '\\' :: 'u' :: unitDigits unit := rfl

theorem hexUnit_unitDigits {unit : Nat} (small : unit < 0x10000) (rest : List Char) :
    hexUnit (unitDigits unit ++ rest) = some (unit, rest) := by
  have digits : ∀ value, hexValue (hexDigit (value % 16)) = some (value % 16) :=
    fun value => hexValue_hexDigit _ (Nat.mod_lt _ (by decide))
  simp only [unitDigits, List.cons_append, List.nil_append, hexUnit, digits,
    Option.bind_some, Option.map_some]
  congr 2
  omega

theorem unicodeEscape_of_unit {unit : Nat} {text rest : List Char}
    (read : hexUnit text = some (unit, rest)) (single : unit < 0xd800 ∨ 0xe000 ≤ unit) :
    unicodeEscape text = some (Char.ofNat unit, rest) := by
  unfold unicodeEscape
  rw [read, Option.map_some]
  dsimp only
  rw [if_neg (by omega), if_neg (by omega)]

theorem unicodeEscape_of_pair {high low : Nat} {text more last rest : List Char}
    (read : hexUnit text = some (high, more)) (isHigh : 0xd800 ≤ high ∧ high < 0xdc00)
    (marked : expectWord ['\\', 'u'] more = some last)
    (readLow : hexUnit last = some (low, rest)) (isLow : 0xdc00 ≤ low ∧ low < 0xe000) :
    unicodeEscape text =
      some (Char.ofNat (0x10000 + (high - 0xd800) * 1024 + (low - 0xdc00)), rest) := by
  have paired : lowSurrogate more = some (low, rest) := by
    simp [lowSurrogate, marked, readLow, isLow]
  unfold unicodeEscape
  rw [read, Option.map_some]
  dsimp only
  rw [if_pos isHigh, paired]

theorem scanString_escape {fuel : Nat} {char : Char} {text rest : List Char}
    (decoded : unescape text = some (char, rest)) :
    scanString (fuel + 1) ('\\' :: text) =
      (scanString fuel rest).map fun (more, rest) => (char :: more, rest) := by
  simp [scanString, decoded]

theorem unescape_of_unicode {text : List Char} {found : Char × List Char}
    (read : unicodeEscape text = some found) : unescape ('u' :: text) = some found := by
  simp [unescape, read]

theorem shortEscapes_unescape :
    ∀ pair ∈ shortEscapes, ∀ rest, unescape (pair.2 :: rest) = some (pair.1, rest) := by
  have decoded : ∀ pair ∈ shortEscapes, pair.2 ≠ 'u' ∧ pair.2 ≠ '/' ∧
      shortEscapes.find? (fun other => other.2 = pair.2) = some pair := by decide
  intro pair member rest
  obtain ⟨notUnicode, notSlash, found⟩ := decoded pair member
  rw [unescape, if_neg notUnicode, if_neg notSlash, found]
  rfl

theorem shortEscapes_of_lookup {char letter : Char}
    (short : shortEscapes.lookup char = some letter) : (char, letter) ∈ shortEscapes := by
  obtain ⟨before, after, whole, _⟩ := List.lookup_eq_some_iff.mp short
  simp [whole]

theorem scanString_escapeChar (fuel : Nat) (char : Char) (rest : List Char) :
    scanString (fuel + 1) (escapeChar char ++ rest) =
      (scanString fuel rest).map fun (more, rest) => (char :: more, rest) := by
  have range : char.toNat < 0xd800 ∨ 0xdfff < char.toNat ∧ char.toNat < 0x110000 := char.valid
  unfold escapeChar
  cases short : shortEscapes.lookup char with
  | some letter =>
      exact scanString_escape (shortEscapes_unescape _ (shortEscapes_of_lookup short) rest)
  | none =>
      dsimp only
      by_cases printable : 0x20 ≤ char.toNat ∧ char.toNat ≤ 0x7e
      · have notQuote : char ≠ '"' := by
          rintro rfl
          exact absurd short (by decide)
        have notBackslash : char ≠ '\\' := by
          rintro rfl
          exact absurd short (by decide)
        rw [if_pos printable, List.singleton_append, scanString, if_neg notQuote,
          if_neg notBackslash, if_neg (by omega)]
      · rw [if_neg printable]
        by_cases oneUnit : char.toNat < 0x10000
        · rw [if_pos oneUnit, unitEscape_eq]
          have read := unicodeEscape_of_unit (hexUnit_unitDigits oneUnit rest) (by omega)
          rw [Char.ofNat_toNat] at read
          exact scanString_escape (unescape_of_unicode read)
        · -- Two units: the high surrogate carries the upper ten bits.
          rw [if_neg oneUnit, unitEscape_eq, unitEscape_eq, List.append_assoc]
          have highSmall : 0xd800 + (char.toNat - 0x10000) / 1024 < 0x10000 := by omega
          have lowSmall : 0xdc00 + (char.toNat - 0x10000) % 1024 < 0x10000 := by omega
          have read := unicodeEscape_of_pair
            (hexUnit_unitDigits highSmall
              ('\\' :: 'u' :: (unitDigits (0xdc00 + (char.toNat - 0x10000) % 1024) ++ rest)))
            (by omega) rfl (hexUnit_unitDigits lowSmall rest) (by omega)
          have joined : 0x10000 + (0xd800 + (char.toNat - 0x10000) / 1024 - 0xd800) * 1024 +
              (0xdc00 + (char.toNat - 0x10000) % 1024 - 0xdc00) = char.toNat := by omega
          rw [joined, Char.ofNat_toNat] at read
          exact scanString_escape (unescape_of_unicode read)

theorem escapeChar_ne_nil (char : Char) : 0 < (escapeChar char).length := by
  unfold escapeChar
  split
  · simp
  · split
    · simp
    · split <;> simp [unitEscape]

theorem scanString_quoted (text rest : List Char) (fuel : Nat)
    (enough : (text.flatMap escapeChar).length < fuel) :
    scanString fuel (text.flatMap escapeChar ++ '"' :: rest) = some (text, rest) := by
  induction text generalizing fuel with
  | nil =>
      obtain ⟨less, rfl⟩ := Nat.exists_eq_add_one_of_ne_zero (Nat.ne_zero_of_lt enough)
      rfl
  | cons char text ih =>
      obtain ⟨less, rfl⟩ := Nat.exists_eq_add_one_of_ne_zero (Nat.ne_zero_of_lt enough)
      have longer := escapeChar_ne_nil char
      rw [List.flatMap_cons, List.length_append] at enough
      rw [List.flatMap_cons, List.append_assoc, scanString_escapeChar, ih less (by omega)]
      rfl

/-! ## Numbers -/

def NumberEnds : List Char → Prop
  | [] => True
  | char :: _ => numberChar char = false

theorem parseNumber_append {token rest : List Char} {value : Json}
    (chars : ∀ char ∈ token, numberChar char = true) (read : number? token = some value)
    (ends : NumberEnds rest) : parseNumber (token ++ rest) = some (value, rest) := by
  have stops : rest.takeWhile numberChar = [] ∧ rest.dropWhile numberChar = rest := by
    cases rest with
    | nil => exact ⟨rfl, rfl⟩
    | cons char rest =>
        have last : ¬ numberChar char = true := Bool.eq_false_iff.mp ends
        exact ⟨List.takeWhile_cons_of_neg last, List.dropWhile_cons_of_neg last⟩
  unfold parseNumber
  rw [List.takeWhile_append_of_pos chars, List.dropWhile_append_of_pos chars, stops.1, stops.2,
    List.append_nil, read]
  rfl

theorem toDigits_head (number : Nat) :
    Nat.toDigits 10 number = ['0'] ∨
      ∃ first rest, Nat.toDigits 10 number = first :: rest ∧ first ≠ '0' := by
  have nonzero : ∀ digit < 10, digit ≠ 0 → digit.digitChar ≠ '0' := by decide
  induction number using Nat.strongRecOn with
  | ind number ih =>
      by_cases small : number < 10
      · rw [Nat.toDigits_of_lt_base small]
        by_cases zero : number = 0
        · exact Or.inl (by rw [zero]; rfl)
        · exact Or.inr ⟨_, _, rfl, nonzero number small zero⟩
      · rw [Nat.toDigits_of_base_le (by decide) (by omega)]
        rcases ih (number / 10) (by omega) with zero | ⟨first, rest, whole, nonzero⟩
        · -- Only zero is written as a zero.
          have value := congrArg (Nat.ofDigitChars 10 · 0) zero
          rw [Nat.ofDigitChars_ten_toDigits] at value
          have none : number / 10 = 0 := value
          omega
        · exact Or.inr ⟨first, rest ++ [(number % 10).digitChar], by rw [whole]; rfl, nonzero⟩

theorem isWhole_toDigits (number : Nat) : isWhole (Nat.toDigits 10 number) = true := by
  have digits := toDigits_isDigit number
  rcases toDigits_head number with zero | ⟨first, rest, whole, nonzero⟩
  · rw [zero]
    rfl
  · rw [whole] at digits ⊢
    rw [isWhole, if_neg nonzero]
    exact List.all_eq_true.mpr digits

theorem toDigits_numberChar (number : Nat) :
    ∀ char ∈ Nat.toDigits 10 number, numberChar char = true := by
  intro char member
  simp [numberChar, toDigits_isDigit number char member]

theorem unsigned_of_digits {chars : List Char} (digits : ∀ char ∈ chars, char.isDigit = true) :
    unsigned chars = chars := by
  cases chars with
  | nil => rfl
  | cons first rest =>
      refine if_neg ?_
      rintro rfl
      exact absurd (digits '-' List.mem_cons_self) (by decide)

theorem number?_int (value : Int) :
    (∀ char ∈ (toString value).toList, numberChar char = true) ∧
      number? (toString value).toList = some (.int value) := by
  cases value with
  | ofNat number =>
      have spelled : (toString (Int.ofNat number)).toList = Nat.toDigits 10 number :=
        toList_toString number
      have text : String.ofList (Nat.toDigits 10 number) = toString number :=
        Nat.toString_eq_ofList_toDigits.symm
      rw [spelled]
      refine ⟨toDigits_numberChar number, ?_⟩
      rw [number?, unsigned_of_digits (toDigits_isDigit number), if_pos (isWhole_toDigits number),
        text, int?_toString]
      rfl
  | negSucc number =>
      have spelled : (toString (Int.negSucc number)).toList =
          '-' :: Nat.toDigits 10 (number + 1) := by
        rw [← toList_toString]
        exact String.toList_append
      rw [spelled]
      refine ⟨?_, ?_⟩
      · intro char member
        rcases List.mem_cons.mp member with rfl | digit
        · decide
        · exact toDigits_numberChar _ _ digit
      · rw [number?, unsigned, if_pos rfl, if_pos (isWhole_toDigits _), int?_minus]
        rfl

theorem isWhole_digits {chars : List Char} (whole : isWhole chars = true) :
    ∀ char ∈ chars, char.isDigit = true := by
  cases chars with
  | nil => simp [isWhole] at whole
  | cons first rest =>
      by_cases zero : first = '0'
      · rw [isWhole, if_pos zero] at whole
        rw [List.isEmpty_iff.mp whole, zero]
        simp
      · rw [isWhole, if_neg zero] at whole
        exact List.all_eq_true.mp whole

theorem number?_real {literal : String} (real : isRealLiteral literal.toList = true) :
    number? literal.toList = some (.real literal) := by
  have fraction : isFraction ((unsigned literal.toList).dropWhile Char.isDigit) = true := by
    rw [isRealLiteral, Bool.and_eq_true] at real
    exact real.2
  have notWhole : ¬ isWhole (unsigned literal.toList) = true := by
    intro whole
    rw [List.dropWhile_eq_nil_iff.mpr (isWhole_digits whole)] at fraction
    exact absurd fraction (by decide)
  rw [number?, if_neg notWhole, if_pos real, String.ofList_toList]

theorem number?_head {token : List Char} {value : Json}
    (chars : ∀ char ∈ token, numberChar char = true) (read : number? token = some value) :
    ∃ first more, token = first :: more ∧ numberChar first = true := by
  cases token with
  | nil => simp [number?, unsigned, isWhole, isRealLiteral] at read
  | cons first more => exact ⟨first, more, rfl, chars first List.mem_cons_self⟩

theorem parseScalar_number {token rest : List Char} {value : Json}
    (chars : ∀ char ∈ token, numberChar char = true) (read : number? token = some value)
    (ends : NumberEnds rest) : parseScalar (token ++ rest) = some (value, rest) := by
  have number := parseNumber_append chars read ends
  have noSign : number? ['-'] = none := rfl
  obtain ⟨first, more, rfl, firstChar⟩ := number?_head chars read
  have secondChar : ∀ tail, more ++ rest = 'I' :: tail → first = '-' → False := by
    rintro tail whole rfl
    cases more with
    | nil => simp [noSign] at read
    | cons second _ =>
        have second_eq : second = 'I' := (List.cons.inj whole).1
        have digit := chars second (List.mem_cons_of_mem _ List.mem_cons_self)
        rw [second_eq] at digit
        exact absurd digit (by decide)
  rw [List.cons_append] at number ⊢
  unfold parseScalar
  split
  all_goals
    rename_i whole
    first
      | exact number
      | (cases whole; exact absurd firstChar (by decide))
      | exact absurd (List.cons.inj whole).1 (secondChar _ (List.cons.inj whole).2)

/-! ## Values -/

/-- The text of a value begins with a character that is no white space and closes
nothing. -/
def Begins (text : List Char) : Prop :=
  ∃ char rest, text = char :: rest ∧ jsonBlank char = false ∧ char ≠ ']'

theorem Begins.skipBlank {text : List Char} (begins : Begins text) (rest : List Char) :
    skipBlank (text ++ rest) = text ++ rest := by
  obtain ⟨char, more, rfl, visible, _⟩ := begins
  exact skipBlank_cons visible _

theorem Begins.expect_close {text : List Char} (begins : Begins text) (rest : List Char) :
    expect ']' (text ++ rest) = none := by
  obtain ⟨char, more, rfl, _, notClose⟩ := begins
  exact if_neg notClose

theorem Begins.length_pos {text : List Char} (begins : Begins text) : 0 < text.length := by
  obtain ⟨char, more, rfl, _⟩ := begins
  exact Nat.succ_pos _

theorem begins_number {token : List Char} {value : Json}
    (chars : ∀ char ∈ token, numberChar char = true) (read : number? token = some value) :
    Begins token := by
  obtain ⟨first, more, rfl, firstChar⟩ := number?_head chars read
  refine ⟨first, more, rfl, ?_, ?_⟩
  · refine Bool.eq_false_iff.mpr fun blank => ?_
    simp only [jsonBlank, Bool.or_eq_true, beq_iff_eq] at blank
    rcases blank with ((rfl | rfl) | rfl) | rfl
    all_goals exact absurd firstChar (by decide)
  · rintro rfl
    exact absurd firstChar (by decide)

theorem Json.begins_write (layout : Layout) (depth : Nat) {value : Json}
    (formed : value.WellFormed) : Begins (value.write layout depth) := by
  cases value with
  | null => exact ⟨_, _, rfl, rfl, by decide⟩
  | bool value => cases value <;> exact ⟨_, _, rfl, rfl, by decide⟩
  | int value =>
      obtain ⟨chars, read⟩ := number?_int value
      exact begins_number chars read
  | real literal =>
      rcases formed with ⟨real, chars⟩ | rfl | rfl | rfl
      · exact begins_number chars (number?_real real)
      all_goals exact ⟨_, _, rfl, rfl, by decide⟩
  | str text => exact ⟨_, _, rfl, rfl, by decide⟩
  | arr items => cases items <;> exact ⟨_, _, rfl, rfl, by decide⟩
  | obj members => cases members <;> exact ⟨_, _, rfl, rfl, by decide⟩

theorem begins_quote (text : List Char) : Begins (quote text) := ⟨_, _, rfl, rfl, by decide⟩

theorem afterItem_close {close : Char} (visible : jsonBlank close = false) {blanks : List Char}
    (blank : ∀ char ∈ blanks, jsonBlank char = true) (rest : List Char) :
    afterItem close (blanks ++ close :: rest) = some (true, rest) := by
  unfold afterItem
  rw [skipBlank_append blank, skipBlank_cons visible]
  exact if_pos rfl

theorem afterItem_comma {close : Char} (other : close ≠ ',') {blanks next : List Char}
    (blank : ∀ char ∈ blanks, jsonBlank char = true) (begins : Begins next) (rest : List Char) :
    afterItem close (',' :: (blanks ++ (next ++ rest))) = some (false, next ++ rest) := by
  unfold afterItem
  rw [skipBlank_cons (by decide)]
  dsimp only
  rw [if_neg (Ne.symm other), if_pos rfl, skipBlank_append blank, begins.skipBlank]

theorem parseScalar_of_head {char : Char} {rest : List Char} (fuel : Nat)
    (notQuote : char ≠ '"') (notBracket : char ≠ '[') (notBrace : char ≠ '{') :
    parseValue (fuel + 1) (char :: rest) = parseScalar (char :: rest) := by
  rw [parseValue, if_neg notQuote, if_neg notBracket, if_neg notBrace]

theorem parseValue_number {token rest : List Char} {value : Json} (fuel : Nat)
    (chars : ∀ char ∈ token, numberChar char = true) (read : number? token = some value)
    (ends : NumberEnds rest) : parseValue (fuel + 1) (token ++ rest) = some (value, rest) := by
  have scalar := parseScalar_number chars read ends
  obtain ⟨first, more, rfl, firstChar⟩ := number?_head chars read
  have others : ∀ other, numberChar other = false → first ≠ other := by
    rintro other none rfl
    exact absurd firstChar (Bool.eq_false_iff.mp none)
  rw [List.cons_append] at scalar ⊢
  rw [parseScalar_of_head fuel (others _ rfl) (others _ rfl) (others _ rfl), scalar]

theorem quote_append (text rest : List Char) :
    quote text ++ rest = '"' :: (text.flatMap escapeChar ++ '"' :: rest) := by
  simp [quote]

theorem scanString_quote (text rest : List Char) {fuel : Nat}
    (enough : (quote text).length ≤ fuel + 1) :
    scanString fuel (text.flatMap escapeChar ++ '"' :: rest) = some (text, rest) := by
  refine scanString_quoted text rest fuel ?_
  simp only [quote, List.cons_append, List.length_cons, List.length_append] at enough
  omega

theorem numberEnds_blank {close : Char} {blanks : List Char}
    (blank : ∀ char ∈ blanks, jsonBlank char = true) (closes : numberChar close = false)
    (rest : List Char) : NumberEnds (blanks ++ close :: rest) := by
  cases blanks with
  | nil => exact closes
  | cons char _ =>
      have space := blank char List.mem_cons_self
      simp only [jsonBlank, Bool.or_eq_true, beq_iff_eq] at space
      rcases space with ((rfl | rfl) | rfl) | rfl
      all_goals rfl

/-! ## Members -/

theorem Dict.set_new {Value : Type} {dict : Dict Value} {key : String} (value : Value)
    (new : key ∉ dict.map Prod.fst) : dict.set key value = dict ++ [(key, value)] := by
  induction dict with
  | nil => rfl
  | cons entry rest ih =>
      obtain ⟨held, old⟩ := entry
      simp only [List.map_cons, List.mem_cons, not_or] at new
      rw [Dict.set, if_neg (Ne.symm new.1), ih new.2]
      rfl

theorem toDict_of_nodup {pairs : List (String × Json)}
    (distinct : (pairs.map Prod.fst).Nodup) : toDict pairs = pairs := by
  have grows : ∀ (rest dict : List (String × Json)),
      ((dict ++ rest).map Prod.fst).Nodup →
      rest.foldl (fun dict pair => Dict.set dict pair.1 pair.2) dict = dict ++ rest := by
    intro rest
    induction rest with
    | nil =>
        intro dict _
        exact (List.append_nil dict).symm
    | cons pair rest ih =>
        intro dict apart
        have new : pair.1 ∉ dict.map Prod.fst := by
          rw [List.map_append, List.map_cons, List.nodup_middle, List.nodup_cons] at apart
          exact fun held => apart.1 (List.mem_append_left _ held)
        rw [List.foldl_cons, Dict.set_new _ new, ih, List.append_assoc, List.singleton_append]
        rwa [List.append_assoc, List.singleton_append]
  exact grows pairs [] distinct

theorem parseMembers_member (key : String) {fuel : Nat} {value : Json} {text after : List Char}
    (begins : Begins text) (enough : (quote key.toList).length ≤ fuel + 1)
    (read : parseValue fuel (text ++ after) = some (value, after)) :
    parseMembers (fuel + 1) (quote key.toList ++ (':' :: ' ' :: (text ++ after))) =
      (afterItem '}' after).bind fun (closed, rest) =>
        if closed then some ([(key, value)], rest)
        else (parseMembers fuel rest).map fun (members, rest) =>
          ((key, value) :: members, rest) := by
  have spaced : skipBlank (' ' :: (text ++ after)) = text ++ after := begins.skipBlank after
  rw [parseMembers, quote_append, expect, if_pos rfl, Option.bind_some,
    scanString_quote _ _ enough, Option.bind_some]
  dsimp only
  rw [skipBlank_cons (by decide), expect, if_pos rfl, Option.bind_some, spaced, read,
    Option.bind_some, String.ofList_toList]

/-! ## The round trip -/

section

variable (layout : Layout)

mutual

/-- With as much fuel as it has characters, the text of a value is read back. -/
theorem parseValue_write (depth : Nat) : ∀ (value : Json) (rest : List Char) (fuel : Nat),
    value.WellFormed → NumberEnds rest → (value.write layout depth).length ≤ fuel →
    parseValue fuel (value.write layout depth ++ rest) = some (value, rest)
  | value, _, 0, formed, _, enough =>
      absurd (Json.begins_write layout depth formed).length_pos (Nat.not_lt.mpr enough)
  | .null, _, _ + 1, _, _, _ => rfl
  | .bool true, _, _ + 1, _, _, _ => rfl
  | .bool false, _, _ + 1, _, _, _ => rfl
  | .int value, rest, fuel + 1, _, ends, _ => by
      obtain ⟨chars, read⟩ := number?_int value
      exact parseValue_number fuel chars read ends
  | .real literal, rest, fuel + 1, formed, ends, _ => by
      rcases formed with ⟨real, chars⟩ | rfl | rfl | rfl
      · exact parseValue_number fuel chars (number?_real real) ends
      all_goals rfl
  | .str text, rest, fuel + 1, _, _, enough => by
      rw [Json.write] at enough ⊢
      rw [quote_append, parseValue, if_pos rfl, scanString_quote _ _ enough]
      simp
  | .arr [], _, _ + 1, _, _, _ => rfl
  | .arr (item :: items), rest, fuel + 1, formed, _, enough => by
      have begins := Json.begins_write layout (depth + 1) formed.1
      have inner := parseItems_write (depth + 1) item items
        (layout.lineBreak depth) rest fuel formed.1 formed.2 (layout.blankBreak depth)
        (by
          simp only [Json.write, List.length_cons, List.length_append] at enough
          omega)
      rw [Json.write, List.cons_append, parseValue, if_neg (by decide), if_pos rfl]
      simp only [List.append_assoc, List.cons_append, List.nil_append]
      rw [skipBlank_append (layout.blankBreak _), begins.skipBlank, begins.expect_close, inner]
      rfl
  | .obj [], _, _ + 1, _, _, _ => rfl
  | .obj ((key, value) :: members), rest, fuel + 1, formed, _, enough => by
      have inner := parseMembers_write (depth + 1) key value members
        (layout.lineBreak depth) rest fuel formed.2.1 formed.2.2 (layout.blankBreak depth)
        (by
          simp only [Json.write, List.length_cons, List.length_append] at enough
          omega)
      rw [Json.write, List.cons_append, parseValue, if_neg (by decide), if_neg (by decide),
        if_pos rfl]
      simp only [List.append_assoc, List.cons_append, List.nil_append]
      rw [skipBlank_append (layout.blankBreak _), (begins_quote _).skipBlank, inner]
      rw [quote_append]
      dsimp only [expect]
      rw [if_neg (by decide)]
      simp only [Option.map_some, toDict_of_nodup formed.1]

theorem parseItems_write (depth : Nat) : ∀ (item : Json) (items : List Json)
    (blanks rest : List Char) (fuel : Nat), item.WellFormed → Json.AllWellFormed items →
    (∀ char ∈ blanks, jsonBlank char = true) →
    (item.write layout depth).length + (Json.writeItems layout depth items).length + 1 ≤ fuel →
    parseItems fuel (item.write layout depth ++ (Json.writeItems layout depth items ++
      (blanks ++ ']' :: rest))) = some (item :: items, rest)
  | _, _, _, _, 0, _, _, _, enough => absurd enough (Nat.not_succ_le_zero _)
  | item, [], blanks, rest, fuel + 1, formed, _, blank, enough => by
      have ends : NumberEnds (blanks ++ ']' :: rest) := numberEnds_blank blank rfl _
      have read := parseValue_write depth item _ fuel formed ends (by
        simp only [Json.writeItems, List.length_nil] at enough
        omega)
      rw [Json.writeItems, List.nil_append, parseItems, read, Option.bind_some]
      dsimp only
      rw [afterItem_close (by decide) blank]
      rfl
  | item, next :: items, blanks, rest, fuel + 1, formed, others, blank, enough => by
      simp only [Json.writeItems, List.length_cons, List.length_append] at enough
      have read := parseValue_write depth item
        (Json.writeItems layout depth (next :: items) ++ (blanks ++ ']' :: rest))
        fuel formed rfl (by omega)
      have tail := parseItems_write depth next items blanks rest fuel others.1 others.2 blank
        (by omega)
      have begins := Json.begins_write layout depth others.1
      rw [parseItems, read, Option.bind_some]
      dsimp only
      simp only [Json.writeItems, List.append_assoc, List.cons_append]
      rw [afterItem_comma (by decide) (layout.blankComma depth) begins, Option.bind_some]
      dsimp only
      rw [tail]
      rfl

theorem parseMembers_write (depth : Nat) : ∀ (key : String) (value : Json)
    (members : List (String × Json)) (blanks rest : List Char) (fuel : Nat),
    value.WellFormed → Json.MembersWellFormed members →
    (∀ char ∈ blanks, jsonBlank char = true) →
    (quote key.toList).length + (value.write layout depth).length +
      (Json.writeMembers layout depth members).length + 1 ≤ fuel →
    parseMembers fuel (quote key.toList ++ (':' :: ' ' :: (value.write layout depth ++
      (Json.writeMembers layout depth members ++ (blanks ++ '}' :: rest))))) =
        some ((key, value) :: members, rest)
  | _, _, _, _, _, 0, _, _, _, enough => absurd enough (Nat.not_succ_le_zero _)
  | key, value, [], blanks, rest, fuel + 1, formed, _, blank, enough => by
      have ends : NumberEnds (blanks ++ '}' :: rest) := numberEnds_blank blank rfl _
      simp only [Json.writeMembers, List.length_nil] at enough
      have read := parseValue_write depth value _ fuel formed ends (by omega)
      have begins := Json.begins_write layout depth formed
      rw [Json.writeMembers, List.nil_append, parseMembers_member key begins (by omega) read,
        afterItem_close (by decide) blank]
      rfl
  | key, value, (nextKey, next) :: members, blanks, rest, fuel + 1, formed, others, blank,
      enough => by
      simp only [Json.writeMembers, List.length_cons, List.length_append] at enough
      have read := parseValue_write depth value
        (Json.writeMembers layout depth ((nextKey, next) :: members) ++ (blanks ++ '}' :: rest))
        fuel formed rfl (by omega)
      have tail := parseMembers_write depth nextKey next members blanks rest fuel others.1
        others.2 blank (by omega)
      have begins := Json.begins_write layout depth formed
      rw [parseMembers_member key begins (by omega) read]
      simp only [Json.writeMembers, List.append_assoc, List.cons_append]
      rw [afterItem_comma (by decide) (layout.blankComma depth) (begins_quote _),
        Option.bind_some]
      dsimp only
      rw [tail]
      rfl

end

theorem skipBlank_write (depth : Nat) {value : Json} (formed : value.WellFormed) :
    skipBlank (value.write layout depth) = value.write layout depth := by
  simpa using (Json.begins_write layout depth formed).skipBlank []

/-- `loads` inverts the text of any layout. -/
theorem loads_write (depth : Nat) {value : Json} (formed : value.WellFormed) :
    loads (value.write layout depth) = some value := by
  have read := parseValue_write layout depth value [] _ formed trivial
    (Nat.le_succ (value.write layout depth).length)
  rw [List.append_nil] at read
  unfold loads
  rw [skipBlank_write layout depth formed, read]
  rfl

end

theorem loads_dumps {value : Json} (formed : value.WellFormed) :
    loads (dumps value) = some value := loads_write .compact 0 formed

/-! ## The default text is one line of printable ASCII -/

def Printable (char : Char) : Prop := 0x20 ≤ char.toNat ∧ char.toNat ≤ 0x7e

instance (char : Char) : Decidable (Printable char) :=
  inferInstanceAs (Decidable (0x20 ≤ char.toNat ∧ char.toNat ≤ 0x7e))

theorem hexDigit_printable : ∀ value < 16, Printable (hexDigit value) := by decide

theorem unitEscape_printable (unit : Nat) : ∀ char ∈ unitEscape unit, Printable char := by
  have digits : ∀ value, Printable (hexDigit (value % 16)) :=
    fun value => hexDigit_printable _ (Nat.mod_lt _ (by decide))
  have marks : Printable '\\' ∧ Printable 'u' := by decide
  simp only [unitEscape, List.forall_mem_cons]
  exact ⟨marks.1, marks.2, digits _, digits _, digits _, digits _, by simp⟩

theorem escapeChar_printable (char : Char) : ∀ other ∈ escapeChar char, Printable other := by
  have letters : ∀ pair ∈ shortEscapes, Printable pair.2 := by decide
  unfold escapeChar
  cases short : shortEscapes.lookup char with
  | some letter =>
      have plain := letters _ (shortEscapes_of_lookup short)
      simp only [List.forall_mem_cons]
      exact ⟨by decide, plain, by simp⟩
  | none =>
      dsimp only
      split
      · rename_i printable
        exact List.forall_mem_singleton.mpr printable
      · split
        · exact unitEscape_printable _
        · intro other member
          rcases List.mem_append.mp member with high | low
          · exact unitEscape_printable _ other high
          · exact unitEscape_printable _ other low

theorem quote_printable (text : List Char) : ∀ char ∈ quote text, Printable char := by
  have mark : Printable '"' := by decide
  intro char member
  simp only [quote, List.cons_append, List.mem_cons, List.mem_append, List.mem_flatMap,
    List.not_mem_nil, or_false] at member
  rcases member with rfl | ⟨source, _, escaped⟩ | rfl
  · exact mark
  · exact escapeChar_printable source char escaped
  · exact mark

theorem printable_of_numberChar {char : Char} (number : numberChar char = true) :
    Printable char := by
  simp only [numberChar, Bool.or_eq_true, beq_iff_eq] at number
  rcases number with ((((digit | rfl) | rfl) | rfl) | rfl) | rfl
  · have bounds : 48 ≤ char.toNat ∧ char.toNat ≤ 57 := by
      simpa [Char.isDigit, UInt32.le_iff_toNat_le] using digit
    exact ⟨by omega, by omega⟩
  all_goals decide

theorem floatLiteral.printable {literal : String} (float : floatLiteral literal) :
    ∀ char ∈ literal.toList, Printable char := by
  rcases float with ⟨_, chars⟩ | rfl | rfl | rfl
  · exact fun char member => printable_of_numberChar (chars char member)
  all_goals simp [Printable]

theorem words_printable : (∀ char ∈ "null".toList, Printable char) ∧
    (∀ char ∈ "true".toList, Printable char) ∧ ∀ char ∈ "false".toList, Printable char := by
  simp [Printable]

theorem brackets_printable :
    (∀ char ∈ ['[', ']'], Printable char) ∧ ∀ char ∈ ['{', '}'], Printable char := by
  simp [Printable]

mutual

theorem write_printable (depth : Nat) : ∀ value : Json, value.WellFormed →
    ∀ char ∈ value.write .compact depth, Printable char
  | .null, _ => words_printable.1
  | .bool true, _ => words_printable.2.1
  | .bool false, _ => words_printable.2.2
  | .int value, _ => fun char member => printable_of_numberChar ((number?_int value).1 char member)
  | .real _, float => float.printable
  | .str text, _ => quote_printable text.toList
  | .arr [], _ => brackets_printable.1
  | .arr (item :: items), formed => by
      have first := write_printable (depth + 1) item formed.1
      have others := writeItems_printable (depth + 1) items formed.2
      have brackets : Printable '[' ∧ Printable ']' := by decide
      simp only [Json.write, Layout.compact, List.nil_append, List.forall_mem_cons,
        List.forall_mem_append]
      exact ⟨brackets.1, first, others, brackets.2, by simp⟩
  | .obj [], _ => brackets_printable.2
  | .obj ((key, value) :: members), formed => by
      have name := quote_printable key.toList
      have first := write_printable (depth + 1) value formed.2.1
      have others := writeMembers_printable (depth + 1) members formed.2.2
      have marks : Printable '{' ∧ Printable '}' ∧ Printable ':' ∧ Printable ' ' := by decide
      simp only [Json.write, Layout.compact, List.nil_append, List.forall_mem_cons,
        List.forall_mem_append]
      exact ⟨marks.1, name, marks.2.2.1, marks.2.2.2, first, others, marks.2.1, by simp⟩

theorem writeItems_printable (depth : Nat) : ∀ items : List Json, Json.AllWellFormed items →
    ∀ char ∈ Json.writeItems .compact depth items, Printable char
  | [], _ => by simp [Json.writeItems]
  | item :: items, formed => by
      have first := write_printable depth item formed.1
      have others := writeItems_printable depth items formed.2
      have marks : Printable ',' ∧ Printable ' ' := by decide
      simp only [Json.writeItems, Layout.compact, List.forall_mem_cons, List.forall_mem_append,
        List.cons_append, List.nil_append]
      exact ⟨marks.1, marks.2, first, others⟩

theorem writeMembers_printable (depth : Nat) : ∀ members : List (String × Json),
    Json.MembersWellFormed members →
    ∀ char ∈ Json.writeMembers .compact depth members, Printable char
  | [], _ => by simp [Json.writeMembers]
  | (key, value) :: members, formed => by
      have name := quote_printable key.toList
      have first := write_printable depth value formed.1
      have others := writeMembers_printable depth members formed.2
      have marks : Printable ',' ∧ Printable ' ' ∧ Printable ':' := by decide
      simp only [Json.writeMembers, Layout.compact, List.forall_mem_cons,
        List.forall_mem_append, List.cons_append, List.nil_append]
      exact ⟨marks.1, marks.2.1, name, marks.2.2, marks.2.1, first, others⟩

end

theorem dumps_obj (members : List (String × Json)) :
    ∃ body, dumps (.obj members) = '{' :: (body ++ ['}']) := by
  rcases members with _ | ⟨⟨key, value⟩, members⟩
  · exact ⟨[], rfl⟩
  · unfold dumps
    rw [Json.write]
    simp only [← List.append_assoc, ← List.cons_append]
    exact ⟨_, rfl⟩

theorem dumps_printable {value : Json} (formed : value.WellFormed) :
    ∀ char ∈ dumps value, Printable char := write_printable 0 value formed

end PumoBioMetric.Py
