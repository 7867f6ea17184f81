import PumoBioMetric.Py.JsonText

/-!
# Text that was cut off

What the scanner has read it reads again when more text follows, unless it stopped in a
number.  An array or an object stops at its own bracket, so no proper prefix of its text
is a document.
-/

set_option autoImplicit false

namespace PumoBioMetric.Py

/-- What follows is there, and no number goes on with it. -/
def Stops (text : List Char) : Prop :=
  ∃ char rest, text = char :: rest ∧ numberChar char = false

def Bracketed (text : List Char) : Prop :=
  ∃ rest, text = '[' :: rest ∨ text = '{' :: rest

/-! ## The small scanners -/

theorem skipBlank_extend {text : List Char} (visible : skipBlank text ≠ []) (more : List Char) :
    skipBlank (text ++ more) = skipBlank text ++ more := by
  unfold skipBlank at visible ⊢
  rw [List.dropWhile_append, if_neg]
  simpa using visible

theorem expect_extend {char : Char} {text rest : List Char}
    (found : expect char text = some rest) (more : List Char) :
    expect char (text ++ more) = some (rest ++ more) := by
  cases text with
  | nil => cases found
  | cons next text =>
      rw [expect] at found
      split at found
      · rename_i same
        cases found
        exact if_pos same
      · cases found

theorem expect_none_extend {char : Char} {text : List Char} (present : text ≠ [])
    (missing : expect char text = none) (more : List Char) :
    expect char (text ++ more) = none := by
  cases text with
  | nil => contradiction
  | cons next text =>
      rw [expect] at missing
      split at missing
      · cases missing
      · rename_i other
        exact if_neg other

theorem expectWord_extend {word text rest : List Char}
    (found : expectWord word text = some rest) (more : List Char) :
    expectWord word (text ++ more) = some (rest ++ more) := by
  induction word generalizing text with
  | nil =>
      cases found
      rfl
  | cons char word ih =>
      obtain ⟨next, first, others⟩ := Option.bind_eq_some_iff.mp found
      rw [expectWord, expect_extend first, Option.bind_some]
      exact ih others

theorem hexUnit_shape {text rest : List Char} {unit : Nat}
    (found : hexUnit text = some (unit, rest)) :
    ∃ digits, text = digits ++ rest ∧ (∀ digit ∈ digits, hexValue digit ≠ none) ∧
      ∀ other, hexUnit (digits ++ other) = some (unit, other) := by
  rcases text with _ | ⟨first, _ | ⟨second, _ | ⟨third, _ | ⟨fourth, text⟩⟩⟩⟩
  · cases found
  · cases found
  · cases found
  · cases found
  · simp only [hexUnit, Option.bind_eq_some_iff, Option.map_eq_some_iff, Prod.mk.injEq] at found
    obtain ⟨a, readA, b, readB, c, readC, d, readD, rfl, rfl⟩ := found
    refine ⟨[first, second, third, fourth], rfl, ?_, ?_⟩
    · simp [readA, readB, readC, readD]
    · intro other
      simp [hexUnit, readA, readB, readC, readD]

theorem hexUnit_extend {text rest : List Char} {unit : Nat}
    (found : hexUnit text = some (unit, rest)) (more : List Char) :
    hexUnit (text ++ more) = some (unit, rest ++ more) := by
  obtain ⟨digits, rfl, _, read⟩ := hexUnit_shape found
  rw [List.append_assoc]
  exact read (rest ++ more)

theorem lowSurrogate_shape {text rest : List Char} {low : Nat}
    (found : lowSurrogate text = some (low, rest)) :
    ∃ half, text = half ++ rest ∧ '"' ∉ half ∧
      ∀ other, lowSurrogate (half ++ other) = some (low, other) := by
  obtain ⟨last, marked, found⟩ := Option.bind_eq_some_iff.mp found
  obtain ⟨⟨unit, tail⟩, readLow, paired⟩ := Option.bind_eq_some_iff.mp found
  obtain ⟨half, rfl⟩ : ∃ half, text = '\\' :: 'u' :: half := by
    rcases text with _ | ⟨mark, _ | ⟨letter, half⟩⟩
    · cases marked
    · by_cases slash : mark = '\\' <;> simp [expectWord, expect, slash] at marked
    · by_cases slash : mark = '\\'
      · by_cases unicode : letter = 'u'
        · exact ⟨half, by rw [slash, unicode]⟩
        · simp [expectWord, expect, slash, unicode] at marked
      · simp [expectWord, expect, slash] at marked
  have same : half = last := by simpa [expectWord, expect] using marked
  subst same
  obtain ⟨digits, rfl, hexadecimal, read⟩ := hexUnit_shape readLow
  dsimp only at paired
  split at paired
  · rename_i isLow
    obtain ⟨rfl, rfl⟩ := Prod.mk.inj (Option.some.inj paired)
    refine ⟨'\\' :: 'u' :: digits, rfl, ?_, ?_⟩
    · rw [List.mem_cons, List.mem_cons, not_or, not_or]
      exact ⟨by decide, by decide, fun quote => hexadecimal '"' quote (by decide)⟩
    · intro other
      simp [lowSurrogate, expectWord, expect, read, isLow]
  · cases paired

theorem lowSurrogate_extend {text rest : List Char} {low : Nat}
    (found : lowSurrogate text = some (low, rest)) (more : List Char) :
    lowSurrogate (text ++ more) = some (low, rest ++ more) := by
  obtain ⟨half, rfl, _, read⟩ := lowSurrogate_shape found
  rw [List.append_assoc]
  exact read (rest ++ more)

theorem lowSurrogate_none_extend {text : List Char} (closes : '"' ∈ text)
    (missing : lowSurrogate text = none) (more : List Char) :
    lowSurrogate (text ++ more) = none := by
  rw [Option.eq_none_iff_forall_ne_some]
  rintro ⟨low, rest⟩ found
  obtain ⟨half, whole, noQuote, read⟩ := lowSurrogate_shape found
  rcases List.append_eq_append_iff.mp whole with ⟨left, short, _⟩ | ⟨left, long, _⟩
  · exact noQuote (short ▸ List.mem_append_left _ closes)
  · rw [long, read] at missing
    cases missing

theorem unicodeEscape_extend {text rest : List Char} {char : Char}
    (found : unicodeEscape text = some (char, rest)) (closes : '"' ∈ rest) (more : List Char) :
    unicodeEscape (text ++ more) = some (char, rest ++ more) := by
  obtain ⟨⟨unit, after⟩, read, found⟩ := Option.map_eq_some_iff.mp found
  unfold unicodeEscape
  rw [hexUnit_extend read, Option.map_some]
  dsimp only at found ⊢
  split at found
  · rename_i high
    rw [if_pos high]
    cases paired : lowSurrogate after with
    | some pair =>
        obtain ⟨low, tail⟩ := pair
        rw [paired] at found
        obtain ⟨rfl, rfl⟩ := Prod.mk.inj found
        rw [lowSurrogate_extend paired]
    | none =>
        rw [paired] at found
        obtain ⟨rfl, rfl⟩ := Prod.mk.inj found
        rw [lowSurrogate_none_extend closes paired]
  · rename_i notHigh
    rw [if_neg notHigh]
    split at found
    · rename_i isLow
      obtain ⟨rfl, rfl⟩ := Prod.mk.inj found
      rw [if_pos isLow]
    · rename_i notLow
      obtain ⟨rfl, rfl⟩ := Prod.mk.inj found
      rw [if_neg notLow]

theorem unescape_extend {text rest : List Char} {char : Char}
    (found : unescape text = some (char, rest)) (closes : '"' ∈ rest) (more : List Char) :
    unescape (text ++ more) = some (char, rest ++ more) := by
  cases text with
  | nil => cases found
  | cons letter text =>
      rw [unescape] at found
      rw [List.cons_append, unescape]
      split at found
      · rename_i unicode
        rw [if_pos unicode]
        exact unicodeEscape_extend found closes more
      · rename_i notUnicode
        rw [if_neg notUnicode]
        split at found
        · rename_i slash
          cases found
          rw [if_pos slash]
        · rename_i notSlash
          obtain ⟨pair, short, same⟩ := Option.map_eq_some_iff.mp found
          cases same
          rw [if_neg notSlash, short]
          rfl

theorem hexUnit_suffix {text rest : List Char} {unit : Nat}
    (found : hexUnit text = some (unit, rest)) : rest <:+ text := by
  obtain ⟨digits, whole, _, _⟩ := hexUnit_shape found
  exact ⟨digits, whole.symm⟩

theorem unescape_suffix {text rest : List Char} {char : Char}
    (found : unescape text = some (char, rest)) : rest <:+ text := by
  cases text with
  | nil => cases found
  | cons letter text =>
      rw [unescape] at found
      apply List.IsSuffix.trans _ (List.suffix_cons letter text)
      split at found
      · obtain ⟨⟨unit, after⟩, read, found⟩ := Option.map_eq_some_iff.mp found
        refine List.IsSuffix.trans ?_ (hexUnit_suffix read)
        dsimp only at found
        split at found
        · cases paired : lowSurrogate after with
          | some pair =>
              obtain ⟨half, whole, _, _⟩ := lowSurrogate_shape paired
              rw [paired] at found
              obtain ⟨rfl, rfl⟩ := Prod.mk.inj found
              exact ⟨half, whole.symm⟩
          | none =>
              rw [paired] at found
              obtain ⟨rfl, rfl⟩ := Prod.mk.inj found
              exact List.suffix_refl _
        · split at found
          · obtain ⟨rfl, rfl⟩ := Prod.mk.inj found
            exact List.suffix_refl _
          · obtain ⟨rfl, rfl⟩ := Prod.mk.inj found
            exact List.suffix_refl _
      · split at found
        · obtain ⟨rfl, rfl⟩ := Prod.mk.inj (Option.some.inj found)
          exact List.suffix_refl _
        · obtain ⟨pair, _, same⟩ := Option.map_eq_some_iff.mp found
          obtain ⟨rfl, rfl⟩ := Prod.mk.inj same
          exact List.suffix_refl _

theorem quote_mem_of_scanString {fuel : Nat} {text chars rest : List Char}
    (found : scanString fuel text = some (chars, rest)) : '"' ∈ text := by
  induction fuel generalizing text chars rest with
  | zero => cases found
  | succ fuel ih =>
      cases text with
      | nil => cases found
      | cons char text =>
          rw [scanString] at found
          split at found
          · rename_i closes
            rw [closes]
            exact List.mem_cons_self
          · split at found
            · obtain ⟨⟨decoded, after⟩, read, found⟩ := Option.bind_eq_some_iff.mp found
              obtain ⟨⟨tail, last⟩, others, _⟩ := Option.map_eq_some_iff.mp found
              exact List.mem_cons_of_mem _ ((unescape_suffix read).subset (ih others))
            · split at found
              · cases found
              · obtain ⟨⟨tail, last⟩, others, _⟩ := Option.map_eq_some_iff.mp found
                exact List.mem_cons_of_mem _ (ih others)

theorem scanString_extend {fuel enough : Nat} {text chars rest : List Char}
    (found : scanString fuel text = some (chars, rest)) (le : fuel ≤ enough)
    (more : List Char) : scanString enough (text ++ more) = some (chars, rest ++ more) := by
  induction fuel generalizing enough text chars rest with
  | zero => cases found
  | succ fuel ih =>
      obtain ⟨enough, rfl⟩ := Nat.exists_eq_add_of_le' (Nat.le_trans (Nat.le_add_left 1 fuel) le)
      have less : fuel ≤ enough := Nat.le_of_succ_le_succ le
      cases text with
      | nil => cases found
      | cons char text =>
          rw [scanString] at found
          rw [List.cons_append, scanString]
          split at found
          · rename_i closes
            cases found
            rw [if_pos closes]
          · rename_i opens
            rw [if_neg opens]
            split at found
            · rename_i escaped
              obtain ⟨⟨decoded, after⟩, read, found⟩ := Option.bind_eq_some_iff.mp found
              obtain ⟨⟨tail, last⟩, others, same⟩ := Option.map_eq_some_iff.mp found
              cases same
              rw [if_pos escaped, unescape_extend read (quote_mem_of_scanString others),
                Option.bind_some]
              dsimp only
              rw [ih others less]
              rfl
            · rename_i plain
              rw [if_neg plain]
              split at found
              · cases found
              · rename_i visible
                obtain ⟨⟨tail, last⟩, others, same⟩ := Option.map_eq_some_iff.mp found
                cases same
                rw [if_neg visible, ih others less]
                rfl

theorem parseNumber_extend {text rest : List Char} {value : Json}
    (found : parseNumber text = some (value, rest)) (stops : Stops rest) (more : List Char) :
    parseNumber (text ++ more) = some (value, rest ++ more) := by
  obtain ⟨char, tail, whole, _⟩ := stops
  obtain ⟨read, value_eq, same⟩ := Option.map_eq_some_iff.mp found
  have left : text.dropWhile numberChar = rest := (Prod.mk.inj same).2
  cases (Prod.mk.inj same).1
  have notAll : ¬ (text.takeWhile numberChar).length = text.length := by
    intro all
    have parts := congrArg List.length (List.takeWhile_append_dropWhile (p := numberChar) (l := text))
    rw [left, whole, List.length_append, List.length_cons] at parts
    omega
  have notEmpty : ¬ (text.dropWhile numberChar).isEmpty = true := by
    rw [left, whole]
    exact Bool.false_ne_true
  unfold parseNumber
  rw [List.takeWhile_append, if_neg notAll, List.dropWhile_append, if_neg notEmpty, value_eq, left]
  rfl

theorem parseScalar_extend {text rest : List Char} {value : Json}
    (found : parseScalar text = some (value, rest)) (stops : Stops rest) (more : List Char) :
    parseScalar (text ++ more) = some (value, rest ++ more) := by
  have word : ∀ {word : String} {named : Json} {source : List Char},
      (expectWord word.toList source).map (fun rest => (named, rest)) = some (value, rest) →
      (expectWord word.toList (source ++ more)).map (fun rest => (named, rest)) =
        some (value, rest ++ more) := by
    intro word named source read
    obtain ⟨after, marked, same⟩ := Option.map_eq_some_iff.mp read
    cases same
    rw [expectWord_extend marked]
    rfl
  have noSign : parseNumber ['-'] = none := rfl
  unfold parseScalar at found
  split at found
  · exact word found
  · exact word found
  · exact word found
  · exact word found
  · exact word found
  · exact word found
  · -- A number: the second character cannot turn a sign into `-Infinity`.
    rename_i notN notT notF notNaN notInf notMinus
    have number := parseNumber_extend found stops more
    cases text with
    | nil => cases found
    | cons first text =>
        rw [List.cons_append] at number ⊢
        unfold parseScalar
        split
        · rename_i whole
          exact absurd (congrArg (· :: text) (List.cons.inj whole).1) (notN text)
        · rename_i whole
          exact absurd (congrArg (· :: text) (List.cons.inj whole).1) (notT text)
        · rename_i whole
          exact absurd (congrArg (· :: text) (List.cons.inj whole).1) (notF text)
        · rename_i whole
          exact absurd (congrArg (· :: text) (List.cons.inj whole).1) (notNaN text)
        · rename_i whole
          exact absurd (congrArg (· :: text) (List.cons.inj whole).1) (notInf text)
        · rename_i whole
          obtain ⟨sign, tail⟩ := List.cons.inj whole
          cases text with
          | nil =>
              rw [sign, noSign] at found
              cases found
          | cons second text =>
              have capital : second = 'I' := (List.cons.inj tail).1
              rw [sign, capital] at notMinus
              exact absurd rfl (notMinus text)
        · exact number

/-! ## After an item -/

theorem stops_of_skipBlank {text rest : List Char} {char : Char}
    (left : skipBlank text = char :: rest) (other : numberChar char = false) : Stops text := by
  cases text with
  | nil => cases left
  | cons first text =>
      by_cases blank : jsonBlank first = true
      · refine ⟨first, text, rfl, ?_⟩
        simp only [jsonBlank, Bool.or_eq_true, beq_iff_eq] at blank
        rcases blank with ((rfl | rfl) | rfl) | rfl
        all_goals rfl
      · rw [skipBlank_cons (Bool.eq_false_iff.mpr blank)] at left
        exact ⟨char, rest, left, other⟩

theorem afterItem_cases {close : Char} {text rest : List Char} {closed : Bool}
    (found : afterItem close text = some (closed, rest)) :
    (closed = true ∧ skipBlank text = close :: rest) ∨
      (closed = false ∧ close ≠ ',' ∧ ∃ next, skipBlank text = ',' :: next ∧ rest = skipBlank next) := by
  unfold afterItem at found
  split at found
  · cases found
  · rename_i char next left
    split at found
    · rename_i same
      cases found
      exact Or.inl ⟨rfl, by rw [left, same]⟩
    · rename_i notClose
      split at found
      · rename_i comma
        cases found
        rw [comma] at notClose left
        exact Or.inr ⟨rfl, Ne.symm notClose, next, left, rfl⟩
      · cases found

theorem afterItem_stops {close : Char} {text rest : List Char} {closed : Bool}
    (bracket : numberChar close = false) (found : afterItem close text = some (closed, rest)) :
    Stops text := by
  rcases afterItem_cases found with ⟨_, left⟩ | ⟨_, _, next, left, _⟩
  · exact stops_of_skipBlank left bracket
  · exact stops_of_skipBlank left rfl

theorem afterItem_extend {close : Char} {text rest : List Char} {closed : Bool}
    (found : afterItem close text = some (closed, rest)) (present : closed = true ∨ rest ≠ [])
    (more : List Char) : afterItem close (text ++ more) = some (closed, rest ++ more) := by
  rcases afterItem_cases found with ⟨rfl, left⟩ | ⟨rfl, other, next, left, rfl⟩
  · unfold afterItem
    rw [skipBlank_extend (by simp [left]), left]
    exact if_pos rfl
  · have visible : skipBlank next ≠ [] := by simpa using present
    unfold afterItem
    rw [skipBlank_extend (by simp [left]), left, List.cons_append]
    dsimp only
    rw [if_neg (Ne.symm other), if_pos rfl, skipBlank_extend visible]

/-! ## Values -/

theorem parseValue_ne_nil {fuel : Nat} {text rest : List Char} {value : Json}
    (found : parseValue fuel text = some (value, rest)) : text ≠ [] := by
  rintro rfl
  cases fuel <;> cases found

theorem parseItems_ne_nil {fuel : Nat} {text rest : List Char} {items : List Json}
    (found : parseItems fuel text = some (items, rest)) : text ≠ [] := by
  cases fuel with
  | zero => cases found
  | succ fuel =>
      obtain ⟨⟨item, after⟩, read, _⟩ := Option.bind_eq_some_iff.mp found
      exact parseValue_ne_nil read

theorem parseMembers_ne_nil {fuel : Nat} {text rest : List Char}
    {members : List (String × Json)}
    (found : parseMembers fuel text = some (members, rest)) : text ≠ [] := by
  rintro rfl
  cases fuel <;> cases found

mutual

/-- By induction on the fuel: the same value with more text behind it and more fuel. -/
theorem parseValue_extend : ∀ (fuel : Nat) {enough : Nat} {text rest : List Char} {value : Json},
    parseValue fuel text = some (value, rest) → Stops rest ∨ Bracketed text → fuel ≤ enough →
    ∀ more, parseValue enough (text ++ more) = some (value, rest ++ more)
  | 0, _, _, _, _, found, _, _, _ => by cases found
  | _ + 1, _, [], _, _, found, _, _, _ => by cases found
  | _ + 1, 0, _, _, _, _, _, le, _ => absurd le (Nat.not_succ_le_zero _)
  | fuel + 1, enough + 1, char :: text, rest, value, found, stops, le, more => by
      have less : fuel ≤ enough := Nat.le_of_succ_le_succ le
      rw [parseValue] at found
      rw [List.cons_append, parseValue]
      split at found
      · rename_i quoted
        obtain ⟨⟨chars, after⟩, read, same⟩ := Option.map_eq_some_iff.mp found
        cases same
        rw [if_pos quoted, scanString_extend read less]
        rfl
      · rename_i notQuote
        rw [if_neg notQuote]
        split at found
        · rename_i bracket
          rw [if_pos bracket]
          split at found
          · rename_i after closes
            cases found
            have visible : skipBlank text ≠ [] := by
              intro nothing
              rw [nothing] at closes
              cases closes
            rw [skipBlank_extend visible, expect_extend closes]
          · rename_i opens
            obtain ⟨⟨items, after⟩, read, same⟩ := Option.map_eq_some_iff.mp found
            cases same
            have visible := parseItems_ne_nil read
            rw [skipBlank_extend visible, expect_none_extend visible opens,
              parseItems_extend fuel read less more]
            rfl
        · rename_i notBracket
          rw [if_neg notBracket]
          split at found
          · rename_i brace
            rw [if_pos brace]
            split at found
            · rename_i after closes
              cases found
              have visible : skipBlank text ≠ [] := by
                intro nothing
                rw [nothing] at closes
                cases closes
              rw [skipBlank_extend visible, expect_extend closes]
            · rename_i opens
              obtain ⟨⟨members, after⟩, read, same⟩ := Option.map_eq_some_iff.mp found
              cases same
              have visible := parseMembers_ne_nil read
              rw [skipBlank_extend visible, expect_none_extend visible opens,
                parseMembers_extend fuel read less more]
              rfl
          · rename_i notBrace
            rw [if_neg notBrace]
            refine parseScalar_extend found (stops.resolve_right ?_) more
            rintro ⟨tail, bracket | brace⟩
            · exact notBracket (List.cons.inj bracket).1
            · exact notBrace (List.cons.inj brace).1

theorem parseItems_extend : ∀ (fuel : Nat) {enough : Nat} {text rest : List Char}
    {items : List Json}, parseItems fuel text = some (items, rest) → fuel ≤ enough →
    ∀ more, parseItems enough (text ++ more) = some (items, rest ++ more)
  | 0, _, _, _, _, found, _, _ => by cases found
  | _ + 1, 0, _, _, _, _, le, _ => absurd le (Nat.not_succ_le_zero _)
  | fuel + 1, enough + 1, text, rest, items, found, le, more => by
      have less : fuel ≤ enough := Nat.le_of_succ_le_succ le
      rw [parseItems] at found ⊢
      obtain ⟨⟨item, after⟩, read, found⟩ := Option.bind_eq_some_iff.mp found
      obtain ⟨⟨closed, next⟩, left, found⟩ := Option.bind_eq_some_iff.mp found
      have stops := afterItem_stops (by decide) left
      rw [parseValue_extend fuel read (Or.inl stops) less more, Option.bind_some]
      dsimp only at found ⊢
      split at found
      · rename_i closes
        cases found
        rw [afterItem_extend left (Or.inl closes), Option.bind_some]
        exact if_pos closes
      · rename_i goesOn
        obtain ⟨⟨others, last⟩, tail, same⟩ := Option.map_eq_some_iff.mp found
        cases same
        rw [afterItem_extend left (Or.inr (parseItems_ne_nil tail)), Option.bind_some]
        dsimp only
        rw [if_neg goesOn, parseItems_extend fuel tail less more]
        rfl

theorem parseMembers_extend : ∀ (fuel : Nat) {enough : Nat} {text rest : List Char}
    {members : List (String × Json)}, parseMembers fuel text = some (members, rest) →
    fuel ≤ enough → ∀ more, parseMembers enough (text ++ more) = some (members, rest ++ more)
  | 0, _, _, _, _, found, _, _ => by cases found
  | _ + 1, 0, _, _, _, _, le, _ => absurd le (Nat.not_succ_le_zero _)
  | fuel + 1, enough + 1, text, rest, members, found, le, more => by
      have less : fuel ≤ enough := Nat.le_of_succ_le_succ le
      rw [parseMembers] at found ⊢
      obtain ⟨inside, opens, found⟩ := Option.bind_eq_some_iff.mp found
      obtain ⟨⟨key, after⟩, name, found⟩ := Option.bind_eq_some_iff.mp found
      obtain ⟨valueText, colon, found⟩ := Option.bind_eq_some_iff.mp found
      obtain ⟨⟨value, tail⟩, read, found⟩ := Option.bind_eq_some_iff.mp found
      obtain ⟨⟨closed, next⟩, left, found⟩ := Option.bind_eq_some_iff.mp found
      have stops := afterItem_stops (by decide) left
      have colonThere : skipBlank after ≠ [] := by
        intro nothing
        rw [nothing] at colon
        cases colon
      have valueThere := parseValue_ne_nil read
      rw [expect_extend opens, Option.bind_some, scanString_extend name less, Option.bind_some]
      dsimp only
      rw [skipBlank_extend colonThere, expect_extend colon, Option.bind_some,
        skipBlank_extend valueThere, parseValue_extend fuel read (Or.inl stops) less more,
        Option.bind_some]
      dsimp only at found ⊢
      split at found
      · rename_i closes
        cases found
        rw [afterItem_extend left (Or.inl closes), Option.bind_some]
        exact if_pos closes
      · rename_i goesOn
        obtain ⟨⟨others, last⟩, rest, same⟩ := Option.map_eq_some_iff.mp found
        cases same
        rw [afterItem_extend left (Or.inr (parseMembers_ne_nil rest)), Option.bind_some]
        dsimp only
        rw [if_neg goesOn, parseMembers_extend fuel rest less more]
        rfl

end

/-! ## Documents cut off -/

theorem bracketed_write (layout : Layout) (depth : Nat) {value : Json}
    (compound : (∃ items, value = .arr items) ∨ ∃ members, value = .obj members) :
    Bracketed (value.write layout depth) := by
  rcases compound with ⟨items, rfl⟩ | ⟨members, rfl⟩
  · cases items <;> exact ⟨_, Or.inl rfl⟩
  · cases members <;> exact ⟨_, Or.inr rfl⟩

/-- No proper prefix of the text of an array or an object is a document. -/
theorem loads_cut (layout : Layout) {value : Json} (formed : value.WellFormed)
    (compound : (∃ items, value = .arr items) ∨ ∃ members, value = .obj members)
    {cut rest : List Char} (whole : cut ++ rest = value.write layout 0) (missing : rest ≠ []) :
    loads cut = none := by
  rw [Option.eq_none_iff_forall_not_mem]
  intro found accepted
  obtain ⟨⟨early, after⟩, read, ends⟩ := Option.bind_eq_some_iff.mp accepted
  cases cut with
  | nil => cases read
  | cons first cut =>
      obtain ⟨inside, opens⟩ := bracketed_write layout 0 compound
      have bracketed : Bracketed (first :: cut) ∧ jsonBlank first = false := by
        rw [← whole, List.cons_append] at opens
        rcases opens with bracket | brace
        · cases (List.cons.inj bracket).1
          exact ⟨⟨cut, Or.inl rfl⟩, rfl⟩
        · cases (List.cons.inj brace).1
          exact ⟨⟨cut, Or.inr rfl⟩, rfl⟩
      rw [skipBlank_cons bracketed.2] at read
      have le : (first :: cut).length + 1 ≤ (value.write layout 0).length + 1 := by
        rw [← whole, List.length_append]
        omega
      have again := parseValue_extend _ read (Or.inr bracketed.1) le rest
      have honest := parseValue_write layout 0 value [] _ formed trivial
        (Nat.le_succ (value.write layout 0).length)
      rw [whole] at again
      rw [List.append_nil, again] at honest
      have nothing : after ++ rest = [] := (Prod.mk.inj (Option.some.inj honest)).2
      exact missing (List.append_eq_nil_iff.mp nothing).2

end PumoBioMetric.Py
