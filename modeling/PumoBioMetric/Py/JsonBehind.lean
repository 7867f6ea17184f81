import PumoBioMetric.Py.JsonCut

/-!
# A document behind other text

Text with the text of an object at its end.  The scanner never stops inside the object: it
leaves the object behind what it has read, or it has read the object as a value of its own, or
it has closed a string at the quote that opens the first key.
-/

set_option autoImplicit false

namespace PumoBioMetric.Py

/-- No delimiter and no blank, so that nothing can go on with it after a string. -/
def Foreign (char : Char) : Prop :=
  jsonBlank char = false ∧ char ≠ ',' ∧ char ≠ ':' ∧ char ≠ ']' ∧ char ≠ '}'

/-- The text of an object and nothing after it. -/
structure WholeObject (object : List Char) : Prop where
  opens : ∃ letter rest, object = '{' :: '"' :: letter :: rest ∧ Foreign letter
  ends : ∀ {fuel value rest}, parseValue fuel object = some (value, rest) → rest = []

variable {object : List Char}

/-! ## What stands before the object -/

namespace WholeObject

theorem tail_of_cons (whole : WholeObject object) {char : Char} {rest : List Char}
    (behind : object <:+ char :: rest) (other : char ≠ '{') : object <:+ rest := by
  rcases List.suffix_cons_iff.mp behind with same | behind
  · obtain ⟨letter, body, text, _⟩ := whole.opens
    rw [text] at same
    exact absurd (List.cons.inj same).1.symm other
  · exact behind

theorem tail_of_append (whole : WholeObject object) {before rest : List Char}
    (plain : '{' ∉ before) (behind : object <:+ before ++ rest) : object <:+ rest := by
  induction before with
  | nil => exact behind
  | cons char before ih =>
      obtain ⟨other, plain⟩ := not_or.mp (mt List.mem_cons.mpr plain)
      exact ih plain (whole.tail_of_cons behind (Ne.symm other))

theorem dropWhile (whole : WholeObject object) {skips : Char → Bool} (stops : skips '{' = false)
    {text : List Char} (behind : object <:+ text) : object <:+ text.dropWhile skips := by
  induction text with
  | nil => exact behind
  | cons char rest ih =>
      rw [List.dropWhile_cons]
      split
      · rename_i skipped
        apply ih
        apply whole.tail_of_cons behind
        rintro rfl
        rw [stops] at skipped
        cases skipped
      · exact behind

theorem skipBlank (whole : WholeObject object) {text : List Char} (behind : object <:+ text) :
    object <:+ Py.skipBlank text :=
  whole.dropWhile rfl behind

theorem ne_nil (whole : WholeObject object) {text : List Char} (behind : object <:+ text) :
    text ≠ [] := by
  rintro rfl
  obtain ⟨letter, body, text, _⟩ := whole.opens
  rw [text, List.suffix_nil] at behind
  cases behind

theorem skipBlank_foreign (whole : WholeObject object) :
    ∃ letter rest, Py.skipBlank (object.drop 2) = letter :: rest ∧ Foreign letter := by
  obtain ⟨letter, rest, text, foreign⟩ := whole.opens
  refine ⟨letter, rest, ?_, foreign⟩
  rw [text]
  exact skipBlank_cons foreign.1 rest

/-! ## The small scanners -/

theorem expect (whole : WholeObject object) {char : Char} (other : char ≠ '{')
    {text rest : List Char} (found : Py.expect char text = some rest) (behind : object <:+ text) :
    object <:+ rest := by
  cases text with
  | nil => cases found
  | cons next text =>
      rw [Py.expect] at found
      split at found
      · rename_i same
        cases found
        exact whole.tail_of_cons behind (same ▸ other)
      · cases found

theorem expectWord (whole : WholeObject object) {word text rest : List Char}
    (plain : '{' ∉ word) (found : Py.expectWord word text = some rest)
    (behind : object <:+ text) : object <:+ rest := by
  induction word generalizing text with
  | nil =>
      cases found
      exact behind
  | cons char word ih =>
      obtain ⟨other, plain⟩ := not_or.mp (mt List.mem_cons.mpr plain)
      obtain ⟨next, first, others⟩ := Option.bind_eq_some_iff.mp found
      exact ih plain others (whole.expect (Ne.symm other) first behind)

theorem hexUnit (whole : WholeObject object) {text rest : List Char} {unit : Nat}
    (found : Py.hexUnit text = some (unit, rest)) (behind : object <:+ text) :
    object <:+ rest := by
  obtain ⟨digits, rfl, hexadecimal, _⟩ := hexUnit_shape found
  exact whole.tail_of_append (fun opens => hexadecimal '{' opens (by decide)) behind

theorem lowSurrogate (whole : WholeObject object) {text rest : List Char} {low : Nat}
    (found : Py.lowSurrogate text = some (low, rest)) (behind : object <:+ text) :
    object <:+ rest := by
  obtain ⟨last, marked, found⟩ := Option.bind_eq_some_iff.mp found
  obtain ⟨⟨unit, tail⟩, read, found⟩ := Option.bind_eq_some_iff.mp found
  dsimp only at found
  split at found
  · cases found
    exact whole.hexUnit read (whole.expectWord (by decide) marked behind)
  · cases found

theorem unicodeEscape (whole : WholeObject object) {text rest : List Char} {char : Char}
    (found : Py.unicodeEscape text = some (char, rest)) (behind : object <:+ text) :
    object <:+ rest := by
  obtain ⟨⟨unit, after⟩, read, found⟩ := Option.map_eq_some_iff.mp found
  have left := whole.hexUnit read behind
  dsimp only at found
  split at found
  · cases paired : Py.lowSurrogate after with
    | none =>
        rw [paired] at found
        cases found
        exact left
    | some pair =>
        rw [paired] at found
        obtain ⟨rfl, rfl⟩ := Prod.mk.inj found
        exact whole.lowSurrogate paired left
  · split at found
    · cases found
      exact left
    · cases found
      exact left

theorem unescape (whole : WholeObject object) {text rest : List Char} {char : Char}
    (found : Py.unescape text = some (char, rest)) (behind : object <:+ text) :
    object <:+ rest := by
  cases text with
  | nil => cases found
  | cons letter text =>
      rw [Py.unescape] at found
      have noEscape : shortEscapes.find? (fun pair => pair.2 = '{') = none := by decide
      have other : letter ≠ '{' := by
        rintro rfl
        rw [if_neg (by decide), if_neg (by decide), noEscape] at found
        cases found
      have left := whole.tail_of_cons behind other
      split at found
      · exact whole.unicodeEscape found left
      · split at found
        · cases found
          exact left
        · obtain ⟨pair, _, same⟩ := Option.map_eq_some_iff.mp found
          cases same
          exact left

theorem scanString (whole : WholeObject object) {fuel : Nat} {text chars rest : List Char}
    (found : Py.scanString fuel text = some (chars, rest)) (behind : object <:+ text) :
    object <:+ rest ∨ rest = object.drop 2 := by
  induction fuel generalizing text chars with
  | zero => cases found
  | succ fuel ih =>
      cases text with
      | nil => cases found
      | cons char text =>
          rw [Py.scanString] at found
          split at found
          · rename_i quote
            cases found
            exact .inl (whole.tail_of_cons behind (by rw [quote]; decide))
          · split at found
            · rename_i slash
              obtain ⟨⟨decoded, after⟩, escaped, found⟩ := Option.bind_eq_some_iff.mp found
              obtain ⟨⟨more, last⟩, scanned, same⟩ := Option.map_eq_some_iff.mp found
              cases same
              exact ih scanned
                (whole.unescape escaped (whole.tail_of_cons behind (by rw [slash]; decide)))
            · split at found
              · cases found
              · obtain ⟨⟨more, last⟩, scanned, same⟩ := Option.map_eq_some_iff.mp found
                cases same
                rcases List.suffix_cons_iff.mp behind with same | behind
                · obtain ⟨letter, body, whole, _⟩ := whole.opens
                  rw [whole] at same
                  cases same
                  cases fuel with
                  | zero => cases scanned
                  | succ fuel =>
                      cases scanned
                      exact .inr (by rw [whole]; rfl)
                · exact ih scanned behind

theorem parseScalar (whole : WholeObject object) {text rest : List Char} {value : Json}
    (found : Py.parseScalar text = some (value, rest)) (behind : object <:+ text) :
    object <:+ rest := by
  have word : ∀ {word : String} {named : Json}, '{' ∉ word.toList →
      (Py.expectWord word.toList text).map (fun rest => (named, rest)) = some (value, rest) →
      object <:+ rest := by
    intro word named plain read
    obtain ⟨after, marked, same⟩ := Option.map_eq_some_iff.mp read
    cases same
    exact whole.expectWord plain marked behind
  unfold Py.parseScalar at found
  split at found
  · exact word (by decide) found
  · exact word (by decide) found
  · exact word (by decide) found
  · exact word (by decide) found
  · exact word (by decide) found
  · exact word (by decide) found
  · obtain ⟨number, _, same⟩ := Option.map_eq_some_iff.mp found
    cases same
    exact whole.dropWhile rfl behind

theorem afterItem (whole : WholeObject object) {close : Char} (other : close ≠ '{')
    {text rest : List Char} {closed : Bool}
    (found : Py.afterItem close text = some (closed, rest)) (behind : object <:+ text) :
    object <:+ rest := by
  have visible := whole.skipBlank behind
  rcases afterItem_cases found with ⟨_, left⟩ | ⟨_, _, next, left, rfl⟩
  · rw [left] at visible
    exact whole.tail_of_cons visible other
  · rw [left] at visible
    exact whole.skipBlank (whole.tail_of_cons visible (by decide))

/-! ## Values -/

/-- What follows a value that was read: nothing after the object itself, else the object, or
what follows its first quote. -/
def Leaves (object text rest : List Char) : Prop :=
  (text = object ∧ rest = []) ∨ object <:+ rest ∨ rest = object.drop 2

theorem behind_of_afterItem (whole : WholeObject object) {close : Char}
    (bracket : close = ']' ∨ close = '}') {text after rest : List Char} {closed : Bool}
    (leaves : Leaves object text after)
    (found : Py.afterItem close after = some (closed, rest)) : object <:+ rest := by
  have other : close ≠ '{' := by rcases bracket with rfl | rfl <;> decide
  rcases leaves with ⟨_, rfl⟩ | behind | rfl
  · cases found
  · exact whole.afterItem other found behind
  · obtain ⟨letter, body, left, foreign⟩ := whole.skipBlank_foreign
    rcases afterItem_cases found with ⟨_, closes⟩ | ⟨_, _, next, comma, _⟩
    · rw [left] at closes
      cases closes
      rcases bracket with rfl | rfl
      · exact absurd rfl foreign.2.2.2.1
      · exact absurd rfl foreign.2.2.2.2
    · rw [left] at comma
      cases comma
      exact absurd rfl foreign.2.1

theorem behind_of_key (whole : WholeObject object) {fuel : Nat} {text key after rest : List Char}
    (name : Py.scanString fuel text = some (key, after))
    (colon : Py.expect ':' (Py.skipBlank after) = some rest) (behind : object <:+ text) :
    object <:+ rest := by
  rcases whole.scanString name behind with behind | rfl
  · exact whole.expect (by decide) colon (whole.skipBlank behind)
  · obtain ⟨letter, body, left, foreign⟩ := whole.skipBlank_foreign
    rw [left, Py.expect, if_neg foreign.2.2.1] at colon
    cases colon

mutual

/-- By induction on the fuel, the object behind the text. -/
theorem parseValue (whole : WholeObject object) : ∀ (fuel : Nat) {text rest : List Char}
    {value : Json}, Py.parseValue fuel text = some (value, rest) → object <:+ text →
    Leaves object text rest
  | 0, _, _, _, found, _ => by cases found
  | _ + 1, [], _, _, found, _ => by cases found
  | fuel + 1, char :: text, rest, value, found, behind => by
      rcases List.suffix_cons_iff.mp behind with same | inside
      · rw [← same] at found
        exact .inl ⟨same.symm, whole.ends found⟩
      · right
        rw [Py.parseValue] at found
        split at found
        · obtain ⟨⟨chars, after⟩, read, same⟩ := Option.map_eq_some_iff.mp found
          cases same
          exact whole.scanString read inside
        · split at found
          · split at found
            · rename_i after closes
              cases found
              exact .inl (whole.expect (by decide) closes (whole.skipBlank inside))
            · obtain ⟨⟨items, after⟩, read, same⟩ := Option.map_eq_some_iff.mp found
              cases same
              exact .inl (whole.parseItems fuel read (whole.skipBlank inside))
          · split at found
            · split at found
              · rename_i after closes
                cases found
                exact .inl (whole.expect (by decide) closes (whole.skipBlank inside))
              · obtain ⟨⟨members, after⟩, read, same⟩ := Option.map_eq_some_iff.mp found
                cases same
                exact .inl (whole.parseMembers fuel read (whole.skipBlank inside))
            · exact .inl (whole.parseScalar found behind)

theorem parseItems (whole : WholeObject object) : ∀ (fuel : Nat) {text rest : List Char}
    {items : List Json}, Py.parseItems fuel text = some (items, rest) → object <:+ text →
    object <:+ rest
  | 0, _, _, _, found, _ => by cases found
  | fuel + 1, text, rest, items, found, behind => by
      rw [Py.parseItems] at found
      obtain ⟨⟨item, after⟩, read, found⟩ := Option.bind_eq_some_iff.mp found
      obtain ⟨⟨closed, next⟩, left, found⟩ := Option.bind_eq_some_iff.mp found
      have later := whole.behind_of_afterItem (.inl rfl) (whole.parseValue fuel read behind) left
      dsimp only at found
      split at found
      · cases found
        exact later
      · obtain ⟨⟨others, last⟩, tail, same⟩ := Option.map_eq_some_iff.mp found
        cases same
        exact whole.parseItems fuel tail later

theorem parseMembers (whole : WholeObject object) : ∀ (fuel : Nat) {text rest : List Char}
    {members : List (String × Json)}, Py.parseMembers fuel text = some (members, rest) →
    object <:+ text → object <:+ rest
  | 0, _, _, _, found, _ => by cases found
  | fuel + 1, text, rest, members, found, behind => by
      rw [Py.parseMembers] at found
      obtain ⟨inside, opens, found⟩ := Option.bind_eq_some_iff.mp found
      obtain ⟨⟨key, after⟩, name, found⟩ := Option.bind_eq_some_iff.mp found
      obtain ⟨valueText, colon, found⟩ := Option.bind_eq_some_iff.mp found
      obtain ⟨⟨value, tail⟩, read, found⟩ := Option.bind_eq_some_iff.mp found
      obtain ⟨⟨closed, next⟩, left, found⟩ := Option.bind_eq_some_iff.mp found
      have named := whole.behind_of_key name colon (whole.expect (by decide) opens behind)
      have later := whole.behind_of_afterItem (.inr rfl)
        (whole.parseValue fuel read (whole.skipBlank named)) left
      dsimp only at found
      split at found
      · cases found
        exact later
      · obtain ⟨⟨others, last⟩, rest, same⟩ := Option.map_eq_some_iff.mp found
        cases same
        exact whole.parseMembers fuel rest later

end

/-- Text in front of the object and the object together are no document. -/
theorem loads_eq_none (whole : WholeObject object) {text : List Char} (behind : object <:+ text)
    (other : Py.skipBlank text ≠ object) : loads text = none := by
  rw [Option.eq_none_iff_forall_not_mem]
  intro value accepted
  obtain ⟨⟨found, after⟩, read, ends⟩ := Option.bind_eq_some_iff.mp accepted
  dsimp only at ends
  split at ends
  · rename_i nothing
    rcases whole.parseValue _ read (whole.skipBlank behind) with ⟨same, _⟩ | left | rfl
    · exact other same
    · exact whole.ne_nil (whole.skipBlank left) nothing
    · obtain ⟨letter, body, visible, _⟩ := whole.skipBlank_foreign
      rw [visible] at nothing
      cases nothing
  · cases ends

end WholeObject

theorem wholeObject_write (layout : Layout) {value : Json} (formed : value.WellFormed)
    (opens : ∃ letter rest, value.write layout 0 = '{' :: '"' :: letter :: rest ∧ Foreign letter) :
    WholeObject (value.write layout 0) where
  opens := opens
  ends := by
    intro fuel found rest read
    obtain ⟨letter, body, text, _⟩ := opens
    have enough : fuel ≤ fuel + (value.write layout 0).length := Nat.le_add_right _ _
    have again := parseValue_extend _ read (.inr ⟨_, .inr text⟩) enough []
    have honest := parseValue_write layout 0 value [] _ formed trivial
      (Nat.le_add_left (value.write layout 0).length fuel)
    rw [again] at honest
    simpa using (Prod.mk.inj (Option.some.inj honest)).2

end PumoBioMetric.Py
