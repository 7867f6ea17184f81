import PumoBioMetric.Library.Cuts
import PumoBioMetric.Py.Strftime

/-!
# The ways a format cuts a text

A way of matching a whole text is a cut of it, with one piece for each directive.  The cuts
are stated without the order in which `re` tries them; `strptime` takes the longest of them.
-/

set_option autoImplicit false

namespace PumoBioMetric.Py

def Directive.Fits (directive : Directive) (piece : List Char) : Prop :=
  match directive with
  | .space => piece ≠ [] ∧ ∀ char ∈ piece, isSpace char = true
  | directive => ∃ classes ∈ directive.alternatives,
      List.Forall₂ (fun accepts char => accepts char = true) classes piece

theorem Directive.fits_iff {directive : Directive} (solid : directive ≠ .space)
    {piece : List Char} :
    directive.Fits piece ↔ ∃ classes ∈ directive.alternatives,
      List.Forall₂ (fun accepts char => accepts char = true) classes piece := by
  cases directive <;> first | rfl | contradiction

def Directive.value (directive : Directive) (piece : List Char) : Nat :=
  match directive with
  | .space => 0
  | _ => numberOf piece

abbrev FormatCut (format : List Directive) (text : List Char) := Cut Directive.Fits format text

def fieldsOf : List Directive → List (List Char) → Fields → Fields
  | directive :: format, piece :: pieces, fields =>
      fieldsOf format pieces (fields.set (directive.value piece) directive)
  | _, _, fields => fields

def FormatCut.time? {format : List Directive} {text : List Char} (cut : FormatCut format text) :
    Option Naive :=
  let fields := fieldsOf format cut.pieces {}
  Naive.new? fields.year fields.month fields.day fields.hour fields.minute fields.second 0

/-! ## What the matcher finds -/

theorem matchClasses_eq_some_iff {classes : List (Char → Bool)} {text piece rest : List Char} :
    matchClasses classes text = some (piece, rest) ↔
      List.Forall₂ (fun accepts char => accepts char = true) classes piece ∧
        text = piece ++ rest := by
  induction classes generalizing text piece with
  | nil =>
      rw [matchClasses, List.forall₂_nil_left_iff, Option.some.injEq, Prod.mk.injEq]
      constructor
      · rintro ⟨rfl, rfl⟩
        exact ⟨rfl, rfl⟩
      · rintro ⟨rfl, rfl⟩
        exact ⟨rfl, rfl⟩
  | cons accepts classes ih =>
      cases text with
      | nil =>
          refine iff_of_false (by simp [matchClasses]) ?_
          rintro ⟨fits, whole⟩
          cases fits
          cases whole
      | cons char text =>
          rw [matchClasses]
          constructor
          · intro matched
            split at matched
            · rename_i accepted
              obtain ⟨found, inner, same⟩ := Option.map_eq_some_iff.mp matched
              cases same
              obtain ⟨fits, rfl⟩ := ih.mp inner
              exact ⟨.cons accepted fits, rfl⟩
            · cases matched
          · rintro ⟨fits, whole⟩
            cases fits with
            | cons accepted fits =>
            obtain ⟨rfl, tail⟩ := List.cons.inj whole
            rw [if_pos accepted, ih.mpr ⟨fits, tail⟩]
            rfl

theorem mem_spaceMatches_iff {text rest : List Char} :
    rest ∈ spaceMatches text ↔
      ∃ piece, piece ≠ [] ∧ (∀ char ∈ piece, isSpace char = true) ∧ text = piece ++ rest := by
  simp only [spaceMatches, List.mem_map, List.mem_reverse, List.mem_range]
  constructor
  · rintro ⟨shorter, inside, rfl⟩
    refine ⟨text.take (shorter + 1), ?_, ?_, (List.take_append_drop _ _).symm⟩
    · intro empty
      have length := congrArg List.length empty
      have fits := (List.takeWhile_prefix (p := isSpace) (l := text)).length_le
      simp only [List.length_take, List.length_nil] at length
      omega
    · intro char member
      have front : text.take (shorter + 1) <+: text.takeWhile isSpace :=
        List.prefix_of_prefix_length_le (List.take_prefix _ _) (List.takeWhile_prefix _)
          ((List.length_take_le _ _).trans inside)
      exact List.mem_takeWhile_imp (front.subset member)
  · rintro ⟨piece, something, blank, rfl⟩
    have positive : 1 ≤ piece.length := List.length_pos_iff.mpr something
    refine ⟨piece.length - 1, ?_, ?_⟩
    · rw [List.takeWhile_append_of_pos blank, List.length_append]
      omega
    · rw [Nat.sub_add_cancel positive, List.drop_left]

theorem mem_matches_iff {directive : Directive} {text rest : List Char} {value : Nat} :
    (value, rest) ∈ directive.matches text ↔
      ∃ piece, directive.Fits piece ∧ value = directive.value piece ∧ text = piece ++ rest := by
  by_cases blank : directive = .space
  · subst blank
    simp only [Directive.matches, List.mem_map, Prod.mk.injEq]
    constructor
    · rintro ⟨behind, member, rfl, rfl⟩
      obtain ⟨piece, something, blank, whole⟩ := mem_spaceMatches_iff.mp member
      exact ⟨piece, ⟨something, blank⟩, rfl, whole⟩
    · rintro ⟨piece, ⟨something, blank⟩, rfl, whole⟩
      exact ⟨rest, mem_spaceMatches_iff.mpr ⟨piece, something, blank, whole⟩, rfl, rfl⟩
  · have found : directive.matches text = directive.alternatives.filterMap fun classes =>
        (matchClasses classes text).map fun found => (numberOf found.1, found.2) := by
      cases directive <;> first | rfl | contradiction
    have number : ∀ piece, directive.value piece = numberOf piece := by
      cases directive <;> first | exact fun _ => rfl | contradiction
    simp only [found, List.mem_filterMap, number, Directive.fits_iff blank]
    constructor
    · rintro ⟨classes, member, matched⟩
      obtain ⟨⟨piece, behind⟩, taken, same⟩ := Option.map_eq_some_iff.mp matched
      cases same
      obtain ⟨accepted, whole⟩ := matchClasses_eq_some_iff.mp taken
      exact ⟨piece, ⟨classes, member, accepted⟩, rfl, whole⟩
    · rintro ⟨piece, ⟨classes, member, accepted⟩, rfl, whole⟩
      refine ⟨classes, member, ?_⟩
      rw [matchClasses_eq_some_iff.mpr ⟨accepted, whole⟩]
      rfl

/-! ## The order of the ways -/

/-- Of two alternatives that both match the first takes more. -/
def Outdoes (longer shorter : List (Char → Bool)) : Prop :=
  shorter.length < longer.length ∨
    ∀ text found, matchClasses longer text = some found → matchClasses shorter text = none

theorem outdoes_of_first {char : Char} {accepts : Char → Bool} (other : accepts char = false)
    (longer shorter : List (Char → Bool)) :
    Outdoes ((· == char) :: longer) (accepts :: shorter) := by
  right
  intro text found matched
  cases text with
  | nil => rfl
  | cons head text =>
      rw [matchClasses] at matched
      split at matched
      · rename_i same
        rw [eq_of_beq same, matchClasses, if_neg (by simp [other])]
      · cases matched

theorem outdoes_of_second {char : Char} {accepts : Char → Bool} (other : accepts char = false)
    (longer shorter : List (Char → Bool)) :
    Outdoes (accepts :: longer) ((· == char) :: shorter) := by
  right
  intro text found matched
  cases text with
  | nil => rfl
  | cons head text =>
      rw [matchClasses] at matched
      split at matched
      · rename_i accepted
        have differs : (head == char) = false := by
          rw [beq_eq_false_iff_ne]
          rintro rfl
          rw [other] at accepted
          cases accepted
        rw [matchClasses, if_neg (by simp [differs])]
      · cases matched

theorem alternatives_outdo (directive : Directive) : directive.alternatives.Pairwise Outdoes := by
  have shorter : ∀ longer shorter : List (Char → Bool), shorter.length < longer.length →
      Outdoes longer shorter := fun _ _ => Or.inl
  cases directive <;>
    simp only [Directive.alternatives, List.pairwise_cons, List.mem_cons, List.not_mem_nil,
      or_false, forall_eq_or_imp, forall_eq, false_imp_iff, implies_true, List.Pairwise.nil,
      and_true]
  case month =>
    exact ⟨⟨outdoes_of_first rfl _ _, shorter _ _ (by decide)⟩, shorter _ _ (by decide)⟩
  case day =>
    -- Only the padded day comes after a shorter alternative.
    exact ⟨⟨outdoes_of_first rfl _ _, outdoes_of_first rfl _ _, shorter _ _ (by decide),
        outdoes_of_first rfl _ _⟩,
      ⟨outdoes_of_second rfl _ _, shorter _ _ (by decide), outdoes_of_second rfl _ _⟩,
      ⟨shorter _ _ (by decide), outdoes_of_second rfl _ _⟩, outdoes_of_second rfl _ _⟩
  case hour =>
    exact ⟨⟨outdoes_of_first rfl _ _, shorter _ _ (by decide)⟩, shorter _ _ (by decide)⟩
  case minute => exact shorter _ _ (by decide)
  case second =>
    exact ⟨⟨outdoes_of_first rfl _ _, shorter _ _ (by decide)⟩, shorter _ _ (by decide)⟩

theorem matches_longest_first (directive : Directive) (text : List Char) :
    (directive.matches text).Pairwise fun earlier later =>
      earlier.2.length < later.2.length := by
  unfold Directive.matches
  split
  · rw [List.pairwise_map, spaceMatches, List.pairwise_map, List.pairwise_reverse]
    refine List.pairwise_lt_range.imp_of_mem ?_
    intro shorter longer _ inside ordered
    have run := (List.takeWhile_prefix (p := isSpace) (l := text)).length_le
    rw [List.mem_range] at inside
    simp only [List.length_drop]
    omega
  · rw [List.pairwise_filterMap]
    refine (alternatives_outdo directive).imp ?_
    intro longer shorter outdoes found taken other otherTaken
    obtain ⟨⟨piece, rest⟩, matched, rfl⟩ := Option.map_eq_some_iff.mp taken
    obtain ⟨⟨otherPiece, otherRest⟩, otherMatched, rfl⟩ := Option.map_eq_some_iff.mp otherTaken
    rcases outdoes with fewer | apart
    · obtain ⟨fits, whole⟩ := matchClasses_eq_some_iff.mp matched
      obtain ⟨otherFits, otherWhole⟩ := matchClasses_eq_some_iff.mp otherMatched
      have lengths := congrArg List.length (whole.symm.trans otherWhole)
      rw [List.length_append, List.length_append, ← fits.length_eq,
        ← otherFits.length_eq] at lengths
      change rest.length < otherRest.length
      omega
    · rw [apart text _ matched] at otherMatched
      cases otherMatched

/-! ## Whole formats -/

/-- The matches of a format are the cuts of what they consume. -/
theorem mem_formatMatches_iff {format : List Directive} {text rest : List Char}
    {fields found : Fields} :
    (found, rest) ∈ formatMatches format text fields ↔
      ∃ pieces, List.Forall₂ Directive.Fits format pieces ∧
        found = fieldsOf format pieces fields ∧ text = pieces.flatten ++ rest := by
  induction format generalizing text fields with
  | nil =>
      simp only [formatMatches, List.mem_singleton, Prod.mk.injEq, List.forall₂_nil_left_iff]
      constructor
      · rintro ⟨rfl, rfl⟩
        exact ⟨[], rfl, rfl, rfl⟩
      · rintro ⟨pieces, rfl, same, whole⟩
        exact ⟨same, whole.symm⟩
  | cons directive format ih =>
      rw [formatMatches, List.mem_flatMap]
      constructor
      · rintro ⟨⟨value, behind⟩, first, later⟩
        obtain ⟨piece, fits, rfl, rfl⟩ := mem_matches_iff.mp first
        obtain ⟨pieces, restFits, rfl, rfl⟩ := ih.mp later
        exact ⟨piece :: pieces, .cons fits restFits, rfl, by simp⟩
      · rintro ⟨_, fits, rfl, rfl⟩
        cases fits with
        | @cons _ piece _ pieces fits restFits =>
        refine ⟨(directive.value piece, pieces.flatten ++ rest), ?_, ?_⟩
        · exact mem_matches_iff.mpr ⟨piece, fits, rfl, by simp⟩
        · exact ih.mpr ⟨pieces, restFits, rfl, rfl⟩

theorem exists_cut_of_match {format : List Directive} {text : List Char} {fields : Fields}
    (matched : (fields, []) ∈ formatMatches format text {}) :
    ∃ cut : FormatCut format text,
      cut.time? = Naive.new? fields.year fields.month fields.day fields.hour fields.minute
        fields.second 0 := by
  obtain ⟨pieces, fits, rfl, whole⟩ := mem_formatMatches_iff.mp matched
  exact ⟨⟨pieces, fits, by simpa using whole.symm⟩, rfl⟩

/-- Of two lists of pieces the first is the longer in the first piece of another length. -/
def LongerFirst (pieces others : List (List Char)) : Prop :=
  List.Lex (· < ·) (others.map List.length) (pieces.map List.length)

theorem formatMatches_longest_first {format : List Directive} {text rest : List Char}
    {fields found : Fields}
    (first : (formatMatches format text fields).head? = some (found, rest)) :
    ∃ pieces, List.Forall₂ Directive.Fits format pieces ∧
      found = fieldsOf format pieces fields ∧ text = pieces.flatten ++ rest ∧
      ∀ others behind, List.Forall₂ Directive.Fits format others →
        text = others.flatten ++ behind → others = pieces ∨ LongerFirst pieces others := by
  induction format generalizing text fields with
  | nil =>
      cases first
      refine ⟨[], .nil, rfl, rfl, ?_⟩
      intro others behind fits _
      cases fits
      exact Or.inl rfl
  | cons directive format ih =>
      rw [formatMatches, List.head?_flatMap] at first
      obtain ⟨before, ⟨value, left⟩, after, ways, here, failed⟩ :=
        List.findSome?_eq_some_iff.mp first
      have taken : (value, left) ∈ directive.matches text := by
        rw [ways]
        exact List.mem_append_right _ List.mem_cons_self
      obtain ⟨piece, fits, rfl, whole⟩ := mem_matches_iff.mp taken
      obtain ⟨pieces, restFits, rfl, restWhole, longest⟩ := ih here
      have behindPiece : left = pieces.flatten ++ rest := restWhole
      refine ⟨piece :: pieces, .cons fits restFits, rfl, by simp [whole, behindPiece], ?_⟩
      intro others behind othersFit othersWhole
      cases othersFit with
      | @cons _ other _ others otherFits othersFit =>
      have otherWhole : text = other ++ (others.flatten ++ behind) := by simp [othersWhole]
      have otherTaken : (directive.value other, others.flatten ++ behind) ∈
          directive.matches text := mem_matches_iff.mpr ⟨other, otherFits, rfl, otherWhole⟩
      have ordered := matches_longest_first directive text
      rw [ways] at otherTaken ordered
      obtain ⟨_, laterOrdered, _⟩ := List.pairwise_append.mp ordered
      have total := congrArg List.length (whole.symm.trans otherWhole)
      rw [List.length_append, List.length_append] at total
      rcases List.mem_append.mp otherTaken with earlier | later
      · -- An earlier way of the directive has no match behind it.
        have none := List.head?_eq_none_iff.mp (failed _ earlier)
        have found : (fieldsOf format others (fields.set (directive.value other) directive),
            behind) ∈ formatMatches format (others.flatten ++ behind)
              (fields.set (directive.value other) directive) :=
          mem_formatMatches_iff.mpr ⟨others, othersFit, rfl, rfl⟩
        rw [none] at found
        cases found
      · rcases List.mem_cons.mp later with same | later
        · obtain ⟨_, rfl⟩ := Prod.mk.inj same
          obtain rfl : other = piece :=
            List.append_cancel_right (otherWhole.symm.trans whole)
          rcases longest others behind othersFit rfl with rfl | longer
          · exact Or.inl rfl
          · exact Or.inr (.cons longer)
        · have more := (List.pairwise_cons.mp laterOrdered).1 _ later
          change left.length < (others.flatten ++ behind).length at more
          exact Or.inr (.rel (by omega))

/-- What `strptime` returns is said by a cut of the text, the longest one first. -/
theorem strptime_cut {text : String} {format : List Directive} {time : Naive}
    (parsed : strptime text format = some time) :
    ∃ stored : FormatCut format text.toList, stored.time? = some time ∧
      ∀ cut : FormatCut format text.toList,
        cut = stored ∨ LongerFirst stored.pieces cut.pieces := by
  unfold strptime at parsed
  split at parsed
  · rename_i fields first
    obtain ⟨pieces, fits, rfl, whole, longest⟩ := formatMatches_longest_first first
    refine ⟨⟨pieces, fits, by simpa using whole.symm⟩, parsed, ?_⟩
    intro cut
    rcases longest cut.pieces [] cut.fits (by simp [cut.whole]) with same | longer
    · exact Or.inl (Cut.ext same)
    · exact Or.inr longer
  · cases parsed

/-! ## The characters of a piece -/

theorem isSpace_of_anyDigit {char : Char} (digit : anyDigit char = true) :
    isSpace char = false := by
  have table : ∀ first ∈ decimalZeros, ∀ offset < 10,
      isSpace (Char.ofNat (first + offset)) = false := by decide +kernel
  obtain ⟨value, found⟩ := Option.isSome_iff_exists.mp digit
  obtain ⟨first, least, rfl⟩ := Option.map_eq_some_iff.mp found
  have member := List.mem_of_find?_eq_some least
  have block := List.find?_some least
  simp only [Bool.and_eq_true, decide_eq_true_eq] at block
  have entry := table first member (char.toNat - first) (by omega)
  rwa [Nat.add_sub_cancel' block.1, Char.ofNat_toNat] at entry

theorem Directive.Fits.digits {directive : Directive} {piece : List Char}
    (fits : directive.Fits piece) (solid : directive ≠ .space)
    (numeric : ∀ char, directive ≠ .literal char) :
    ∃ head tail, piece = head :: tail ∧
      (anyDigit head = true ∨ directive = .day ∧ head = ' ' ∧ tail ≠ []) ∧
      ∀ char ∈ tail, anyDigit char = true := by
  obtain ⟨classes, member, accepted⟩ := (Directive.fits_iff solid).mp fits
  obtain ⟨first, others, rfl, front, back⟩ := alternatives_digits numeric classes member
  cases accepted with
  | @cons _ head _ tail here rest =>
  refine ⟨head, tail, rfl, ?_, ?_⟩
  · rcases front with digit | ⟨day, rfl, something⟩
    · exact Or.inl (digit head here)
    · refine Or.inr ⟨day, eq_of_beq here, ?_⟩
      rintro rfl
      cases rest
      exact something rfl
  · intro char inside
    clear here front member fits
    induction rest with
    | nil => cases inside
    | @cons accepts _ classes _ here _ ih =>
        rcases List.mem_cons.mp inside with rfl | later
        · exact back accepts List.mem_cons_self _ here
        · exact ih (fun other listed => back other (List.mem_cons_of_mem _ listed)) later

@[simp] theorem Directive.fits_literal {char : Char} {piece : List Char} :
    (Directive.literal char).Fits piece ↔ piece = [char] := by
  rw [Directive.fits_iff (by simp)]
  simp [Directive.alternatives, List.forall₂_cons_left_iff]

/-- The greatest length of a piece; white space has none. -/
def Directive.widest : Directive → Nat
  | .year => 4
  | .literal _ => 1
  | _ => 2

def Directive.narrowest : Directive → Nat
  | .year => 4
  | _ => 1

theorem Directive.Fits.width {directive : Directive} {piece : List Char}
    (fits : directive.Fits piece) (solid : directive ≠ .space) :
    directive.narrowest ≤ piece.length ∧ piece.length ≤ directive.widest := by
  have bounds : ∀ classes ∈ directive.alternatives,
      directive.narrowest ≤ classes.length ∧ classes.length ≤ directive.widest := by
    cases directive <;>
      simp [Directive.alternatives, Directive.narrowest, Directive.widest]
  obtain ⟨classes, member, accepted⟩ := (Directive.fits_iff solid).mp fits
  rw [← accepted.length_eq]
  exact bounds classes member

theorem Directive.Fits.padded_day {piece : List Char} (fits : Directive.day.Fits piece)
    (blank : ' ' ∈ piece) : ∃ last, piece = [' ', last] := by
  obtain ⟨head, tail, rfl, front, back⟩ := fits.digits (by simp) (by simp)
  have notDigit : ∀ char, anyDigit char = true → ' ' ≠ char := by
    rintro char digit rfl
    revert digit
    decide
  obtain rfl : ' ' = head := by
    rcases List.mem_cons.mp blank with same | inside
    · exact same
    · exact absurd rfl (notDigit _ (back _ inside))
  obtain ⟨_, _, something⟩ := front.resolve_left fun digit => notDigit _ digit rfl
  obtain ⟨last, more, rfl⟩ := List.exists_cons_of_ne_nil something
  have width := (fits.width (by simp)).2
  obtain rfl : more = [] := by
    rw [← List.length_eq_zero_iff]
    simp only [List.length_cons, Directive.widest] at width
    omega
  exact ⟨last, rfl⟩

/-! ## Formats with one cut -/

/-- A number before a mark or white space, white space before a number that is not padded
with it, and a mark before anything. -/
def Directive.endsBefore : Directive → Directive → Bool
  | .literal _, _ => true
  | .space, next => [.year, .month, .hour, .minute, .second].contains next
  | _, .literal char => !anyDigit char
  | _, next => next == .space

theorem Directive.Fits.cons {directive : Directive} {piece : List Char}
    (fits : directive.Fits piece) : ∃ head tail, piece = head :: tail := by
  by_cases mark : ∃ char, directive = .literal char
  · obtain ⟨char, rfl⟩ := mark
    exact ⟨char, [], Directive.fits_literal.mp fits⟩
  · by_cases blank : directive = .space
    · subst blank
      exact List.exists_cons_of_ne_nil fits.1
    · obtain ⟨head, tail, whole, _⟩ := fits.digits blank fun char same => mark ⟨char, same⟩
      exact ⟨head, tail, whole⟩

theorem Directive.Fits.all_digits {directive : Directive} {piece : List Char}
    (fits : directive.Fits piece)
    (listed : directive ∈ [Directive.year, .month, .hour, .minute, .second]) :
    ∀ char ∈ piece, anyDigit char = true := by
  have solid : directive ≠ .space := by rintro rfl; revert listed; decide
  have unpadded : directive ≠ .day := by rintro rfl; revert listed; decide
  have numeric : ∀ char, directive ≠ .literal char := by
    rintro char rfl
    simp only [List.mem_cons, reduceCtorEq, List.not_mem_nil, or_self] at listed
  obtain ⟨head, tail, rfl, front, back⟩ := fits.digits solid numeric
  intro char member
  rcases List.mem_cons.mp member with rfl | inside
  · exact front.resolve_right fun padded => unpadded padded.1
  · exact back char inside

theorem Directive.Fits.tail_digits {directive : Directive} {piece : List Char}
    (fits : directive.Fits piece) (solid : directive ≠ .space)
    (numeric : ∀ char, directive ≠ .literal char) :
    ∃ head tail, piece = head :: tail ∧ ∀ char ∈ tail, anyDigit char = true := by
  obtain ⟨head, tail, whole, _, digits⟩ := fits.digits solid numeric
  exact ⟨head, tail, whole, digits⟩

theorem Directive.endsBefore_number {directive next : Directive} (solid : directive ≠ .space)
    (numeric : ∀ char, directive ≠ .literal char) (ends : directive.endsBefore next = true) :
    next = .space ∨ ∃ mark, next = .literal mark ∧ anyDigit mark = false := by
  have rule : directive.endsBefore next =
      match next with
      | .literal mark => !anyDigit mark
      | next => next == .space := by
    cases directive with
    | space => exact absurd rfl solid
    | literal char => exact absurd rfl (numeric char)
    | _ => cases next <;> rfl
  rw [rule] at ends
  cases next with
  | space => exact Or.inl rfl
  | literal mark => exact Or.inr ⟨mark, rfl, by simpa using ends⟩
  | _ => cases ends

theorem stops_of_endsBefore {directive next : Directive}
    (ends : directive.endsBefore next = true) : Cut.Stops Directive.Fits directive next := by
  by_cases isMark : ∃ char, directive = .literal char
  · obtain ⟨mark, rfl⟩ := isMark
    refine ⟨fun _ => True, fun piece fits => ?_, fun piece fits => ?_⟩
    · exact ⟨mark, [], Directive.fits_literal.mp fits, by simp⟩
    · obtain ⟨head, tail, whole⟩ := fits.cons
      exact ⟨head, tail, whole, trivial⟩
  have numeric : ∀ char, directive ≠ .literal char := fun char same => isMark ⟨char, same⟩
  by_cases blank : directive = .space
  · subst blank
    have listed : next ∈ [Directive.year, .month, .hour, .minute, .second] :=
      List.contains_iff_mem.mp ends
    refine ⟨fun char => anyDigit char = true, fun piece fits => ?_, fun piece fits => ?_⟩
    · obtain ⟨head, tail, rfl⟩ := fits.cons
      refine ⟨head, tail, rfl, fun char inside digit => ?_⟩
      have visible := isSpace_of_anyDigit digit
      rw [fits.2 char (List.mem_cons_of_mem _ inside)] at visible
      cases visible
    · obtain ⟨head, tail, rfl⟩ := fits.cons
      exact ⟨head, tail, rfl, fits.all_digits listed head List.mem_cons_self⟩
  · rcases Directive.endsBefore_number blank numeric ends with rfl | ⟨mark, rfl, other⟩
    · refine ⟨fun char => isSpace char = true, fun piece fits => ?_, fun piece fits => ?_⟩
      · obtain ⟨head, tail, whole, digits⟩ := fits.tail_digits blank numeric
        refine ⟨head, tail, whole, fun char inside space => ?_⟩
        have visible := isSpace_of_anyDigit (digits char inside)
        exact Bool.false_ne_true (visible.symm.trans space)
      · obtain ⟨head, tail, rfl⟩ := fits.cons
        exact ⟨head, tail, rfl, fits.2 head List.mem_cons_self⟩
    · refine ⟨fun char => char = mark, fun piece fits => ?_, fun piece fits => ?_⟩
      · obtain ⟨head, tail, whole, digits⟩ := fits.tail_digits blank numeric
        refine ⟨head, tail, whole, fun char inside same => ?_⟩
        rw [← same, digits char inside] at other
        cases other
      · exact ⟨mark, [], Directive.fits_literal.mp fits, rfl⟩

/-- A format whose numbers are set apart cuts a text in one way. -/
theorem cut_unique_of_separated {format : List Directive}
    (separated : format.IsChain fun directive next => directive.endsBefore next = true)
    {text : List Char} (cut other : FormatCut format text) : cut = other :=
  Cut.unique_of_stops (separated.imp fun _ _ => stops_of_endsBefore) cut other

/-- So does one whose numbers all have their least or all their greatest length. -/
theorem cut_unique_of_width {format : List Directive} (solid : .space ∉ format)
    {text : List Char}
    (extreme : text.length = (format.map Directive.narrowest).sum ∨
      text.length = (format.map Directive.widest).sum)
    (cut other : FormatCut format text) : cut = other := by
  have bounds : ∀ directive ∈ format, ∀ piece, directive.Fits piece →
      directive.narrowest ≤ piece.length ∧ piece.length ≤ directive.widest :=
    fun directive member piece fits => fits.width fun blank => solid (blank ▸ member)
  exact Cut.unique_of_length (fun directive member piece fits => (bounds _ member _ fits).1)
    (fun directive member piece fits => (bounds _ member _ fits).2) extreme cut other

end PumoBioMetric.Py
