import PumoBioMetric.Py.JsonBehind
import PumoBioMetric.Sync.SpoolBytes

/-!
# Adding to a spool of any bytes

`add` appends its lines to whatever the file ends with.  Behind a line that was cut off, the
first new record and the rest of that line are one line, which is no document.
-/

set_option autoImplicit false

namespace PumoBioMetric.Sync

open PumoBioMetric.Py PumoBioMetric.Router

/-! ## Lines of joined text -/

theorem splitOnP_joined {Item : Type} {separates : Item → Bool} {text more : List Item}
    {front rest : List (List Item)} {last first : List Item}
    (split : text.splitOnP separates = front ++ [last])
    (next : more.splitOnP separates = first :: rest) :
    (text ++ more).splitOnP separates = front ++ (last ++ first) :: rest := by
  induction text generalizing front last with
  | nil =>
      obtain ⟨rfl, same⟩ : front = [] ∧ last = [] := by
        cases front <;> simp_all
      simp [same, next]
  | cons item text ih =>
      rw [List.splitOnP_cons_eq_if_modifyHead] at split
      rw [List.cons_append, List.splitOnP_cons_eq_if_modifyHead]
      have some_line : text.splitOnP separates ≠ [] := List.splitOnP_ne_nil _ _
      obtain ⟨line, lines, pieces⟩ := List.exists_cons_of_ne_nil some_line
      rw [pieces] at split
      by_cases mark : separates item = true
      · rw [if_pos mark] at split ⊢
        cases front with
        | nil => simp at split
        | cons empty front =>
            obtain ⟨rfl, others⟩ := List.cons.inj split
            rw [ih (pieces.trans others)]
            rfl
      · rw [if_neg mark] at split ⊢
        cases front with
        | nil =>
            obtain ⟨rfl, rfl⟩ := List.cons.inj split
            have joined : (text ++ more).splitOnP separates = [] ++ (line ++ first) :: rest :=
              ih pieces
            rw [joined]
            rfl
        | cons head front =>
            obtain ⟨rfl, rfl⟩ := List.cons.inj split
            have joined : (text ++ more).splitOnP separates =
                line :: front ++ (last ++ first) :: rest :=
              ih pieces
            rw [joined]
            rfl

theorem shown_append (lines more : List (List Char)) :
    shown (lines ++ more) = shown lines ++ shown more := by
  simp [shown]

def lastLine (text : List Char) : List Char := ((text.splitOnP endsTextLine).getLast?).getD []

theorem visibleLines_joined (text : List Char) :
    ∃ front, visibleLines text = shown front ++ shown [lastLine text] ∧
      ∀ line rest, (∀ char ∈ line, endsTextLine char = false) →
        visibleLines (text ++ (line ++ '\n' :: rest)) =
          shown front ++ shown [lastLine text ++ line] ++ visibleLines rest := by
  have some_line : text.splitOnP endsTextLine ≠ [] := List.splitOnP_ne_nil _ _
  have split : text.splitOnP endsTextLine =
      (text.splitOnP endsTextLine).dropLast ++ [lastLine text] := by
    rw [lastLine, List.getLast?_eq_some_getLast some_line, Option.getD_some,
      List.dropLast_append_getLast]
  refine ⟨(text.splitOnP endsTextLine).dropLast, ?_, ?_⟩
  · rw [visibleLines_eq_shown, split, shown_append, ← split]
  · intro line rest inside
    have next : (line ++ '\n' :: rest).splitOnP endsTextLine =
        line :: rest.splitOnP endsTextLine :=
      List.splitOnP_append_cons_of_forall_mem inside '\n' rfl rest
    rw [visibleLines_eq_shown, visibleLines_eq_shown, splitOnP_joined split next,
      List.append_cons, shown_append, shown_append]

/-! ## A record behind a line -/

theorem foreign_letter : Foreign 'd' := by
  refine ⟨rfl, ?_, ?_, ?_, ?_⟩ <;> decide

theorem wholeObject_toJson {punch : SpooledPunch} (whole : punch.Whole) :
    WholeObject punch.toJson :=
  wholeObject_write .compact whole.1 ⟨'d', _, rfl, foreign_letter⟩

theorem stripChars_eq_nil_iff (line : List Char) :
    stripChars line = [] ↔ line.dropWhile isSpace = [] := by
  constructor
  · intro blank
    by_contra visible
    have all : ∀ char ∈ line.dropWhile isSpace, isSpace char = true := by
      simpa [stripChars, List.dropWhile_eq_nil_iff] using blank
    have head := List.head_dropWhile_not isSpace visible
    rw [all _ (List.head_mem visible)] at head
    cases head
  · intro blank
    rw [stripChars, blank]
    rfl

theorem stripChars_append_toJson (line : List Char) (punch : SpooledPunch) :
    stripChars (line ++ punch.toJson) = line.dropWhile isSpace ++ punch.toJson := by
  obtain ⟨body, text⟩ := dumps_obj _
  have object : punch.toJson = '{' :: (body ++ ['}']) := text
  have front : (line ++ punch.toJson).dropWhile isSpace =
      line.dropWhile isSpace ++ punch.toJson := by
    rw [List.dropWhile_append]
    split
    · rename_i blank
      rw [List.isEmpty_iff.mp blank, object, dropWhile_isSpace_of_head (by decide)]
      rfl
    · rfl
  have backwards : (line.dropWhile isSpace ++ punch.toJson).reverse =
      '}' :: (line.dropWhile isSpace ++ '{' :: body).reverse := by
    simp [object]
  rw [stripChars, front, backwards, dropWhile_isSpace_of_head (by decide), ← backwards,
    List.reverse_reverse]

theorem shown_toJson_behind (line : List Char) (punch : SpooledPunch) :
    shown [line ++ punch.toJson] = [line.dropWhile isSpace ++ punch.toJson] := by
  rw [shown_cons, stripChars_append_toJson, if_neg]
  · rfl
  · exact fun empty => toJson_ne_nil punch (List.append_eq_nil_iff.mp empty).2

theorem shown_blank {line : List Char} (blank : stripChars line = []) (punch : SpooledPunch) :
    shown [line ++ punch.toJson] = [punch.toJson] := by
  rw [shown_toJson_behind, (stripChars_eq_nil_iff line).mp blank, List.nil_append]

/-- Behind another line, what is shown is no document. -/
theorem shown_torn {line : List Char} (visible : stripChars line ≠ []) {punch : SpooledPunch}
    (whole : punch.Whole) :
    ∃ torn, shown [line ++ punch.toJson] = [torn] ∧ loads torn = none := by
  refine ⟨_, shown_toJson_behind line punch, ?_⟩
  have present := mt (stripChars_eq_nil_iff line).mpr visible
  obtain ⟨char, rest, front⟩ := List.exists_cons_of_ne_nil present
  have shows : isSpace char = false := by
    have head := List.head_dropWhile_not isSpace present
    simpa [front] using head
  have unblank : jsonBlank char = false := by
    by_contra blank
    simp only [jsonBlank, Bool.not_eq_false, Bool.or_eq_true, beq_iff_eq] at blank
    rcases blank with ((rfl | rfl) | rfl) | rfl <;> cases shows
  apply (wholeObject_toJson whole).loads_eq_none (List.suffix_append _ _)
  rw [front, List.cons_append, skipBlank_cons unblank]
  intro same
  have lengths := congrArg List.length same
  rw [List.length_cons, List.length_append] at lengths
  omega

/-! ## Reading on -/

section

variable [ValueTables] {limits : Limits}

theorem readLines_append_eq_ok_iff {lines more : List (List Char)} {punches : List SpooledPunch} :
    readLines limits (lines ++ more) = .ok punches ↔
      ∃ first later, readLines limits lines = .ok first ∧ readLines limits more = .ok later ∧
        punches = first ++ later := by
  simp only [readLines_eq_ok_iff, List.forall_mem_append, List.filterMap_append]
  constructor
  · rintro ⟨⟨calm, calmMore⟩, same⟩
    exact ⟨_, _, ⟨calm, rfl⟩, ⟨calmMore, rfl⟩, same⟩
  · rintro ⟨first, later, ⟨calm, rfl⟩, ⟨calmMore, rfl⟩, same⟩
    exact ⟨⟨calm, calmMore⟩, same⟩

theorem length_readLines {lines : List (List Char)} {punches : List SpooledPunch}
    (read : readLines limits lines = .ok punches) : punches.length ≤ lines.length := by
  rw [(readLines_eq_ok_iff.mp read).2]
  exact List.length_filterMap_le _ _

theorem readLines_toJson_iff {punches : List SpooledPunch}
    (whole : ∀ punch ∈ punches, punch.Whole) :
    readLines limits (punches.map SpooledPunch.toJson) = .ok punches ↔
      ∀ punch ∈ punches, limits punch.toJson = none := by
  induction punches with
  | nil => simp [readLines]
  | cons punch punches ih =>
      have first := fromJson_toJson (whole punch List.mem_cons_self)
      have later := ih fun other member => whole other (List.mem_cons_of_mem _ member)
      rw [List.map_cons, readLines, List.forall_mem_cons, readLine, first]
      cases met : limits punch.toJson with
      | none =>
          rw [← later]
          cases readLines limits (punches.map SpooledPunch.toJson) <;>
            simp [Except.mapError, Except.map]
      | some limit =>
          cases limit with
          | recursion => simp [DrainError.dropped]
          | digits =>
              have short : readLines limits (punches.map SpooledPunch.toJson) ≠
                  .ok (punch :: punches) := by
                intro read
                have bound := length_readLines read
                rw [List.length_map, List.length_cons] at bound
                omega
              simpa [DrainError.dropped] using short

theorem readLine_torn {torn : List Char} (noDocument : loads torn = none)
    {punches : List SpooledPunch} (read : readLines limits [torn] = .ok punches) :
    punches = [] := by
  have bad : fromJson torn = .error .valueError := by
    unfold fromJson
    rw [noDocument]
  have unread : (readLine limits torn).toOption = none := by
    rw [readLine, bad]
    cases limits torn with
    | none => rfl
    | some limit => cases limit <;> rfl
  rw [(readLines_eq_ok_iff.mp read).2]
  simp [unread]

/-! ## `add` and `drain` -/

def SpoolBytes.add (file : SpoolBytes) (punches : List SpooledPunch) : SpoolBytes :=
  if punches.isEmpty then file else some (file.getD [] ++ encodeUtf8 (encode punches))

def SpoolBytes.EndsBlank (file : SpoolBytes) : Prop :=
  ∀ text, file.getD [] = encodeUtf8 text → stripChars (lastLine text) = []

omit [ValueTables] in
theorem endsBlank_iff {file : SpoolBytes} {text : List Char}
    (isText : file.getD [] = encodeUtf8 text) :
    file.EndsBlank ↔ stripChars (lastLine text) = [] := by
  constructor
  · intro ends
    exact ends text isText
  · intro blank other same
    have decoded := decodeUtf8_encodeUtf8 other
    rw [← same, isText, decodeUtf8_encodeUtf8] at decoded
    rw [← Option.some.inj decoded]
    exact blank

theorem drain_of_text {file : SpoolBytes} {text : List Char}
    (isText : file.getD [] = encodeUtf8 text) :
    (file.drain limits).1 = readLines limits (visibleLines text) := by
  cases file with
  | none =>
      have decoded := decodeUtf8_encodeUtf8 text
      rw [← isText, Option.getD_none] at decoded
      rw [← Option.some.inj decoded]
      rfl
  | some bytes =>
      rw [Option.getD_some] at isText
      rw [isText, drain_text]

/-- What is read after an `add`: the lines before the last, the last line with the first record,
and the other records. -/
theorem drain_add {file : SpoolBytes} {text : List Char} (isText : file.getD [] = encodeUtf8 text)
    {front : List (List Char)} {punch : SpooledPunch} {punches : List SpooledPunch}
    (whole : ∀ other ∈ punch :: punches, other.Whole)
    (joined : ∀ line rest, (∀ char ∈ line, endsTextLine char = false) →
      visibleLines (text ++ (line ++ '\n' :: rest)) =
        shown front ++ shown [lastLine text ++ line] ++ visibleLines rest) :
    ((file.add (punch :: punches)).drain limits).1 =
      readLines limits (shown front ++ shown [lastLine text ++ punch.toJson] ++
        punches.map SpooledPunch.toJson) := by
  have inside : ∀ char ∈ punch.toJson, endsTextLine char = false := by
    intro char member
    rw [Bool.eq_false_iff, ne_eq, endsTextLine_iff]
    have plain := toJson_plain (whole punch List.mem_cons_self)
    rintro (rfl | rfl)
    · exact plain.1 member
    · exact plain.2 member
  have lines : encode (punch :: punches) = punch.toJson ++ '\n' :: encode punches := by
    simp [encode]
  have written : (file.add (punch :: punches)).getD [] =
      encodeUtf8 (text ++ (punch.toJson ++ '\n' :: encode punches)) := by
    rw [SpoolBytes.add, ← lines, isText, encodeUtf8, encodeUtf8, encodeUtf8, List.flatMap_append]
    rfl
  rw [drain_of_text written, joined _ _ inside,
    visibleLines_encode fun other member => whole other (List.mem_cons_of_mem _ member)]

section

variable {file : SpoolBytes} {text : List Char} {held : List SpooledPunch} {punch : SpooledPunch}
  {punches : List SpooledPunch}

/-- Behind a blank line the new records are read as they were written. -/
theorem drain_add_blank_iff (whole : ∀ other ∈ punch :: punches, other.Whole)
    (isText : file.getD [] = encodeUtf8 text) (blank : stripChars (lastLine text) = [])
    (drained : (file.drain limits).1 = .ok held) :
    ((file.add (punch :: punches)).drain limits).1 = .ok (held ++ punch :: punches) ↔
      ∀ other ∈ punch :: punches, limits other.toJson = none := by
  obtain ⟨front, lines, joined⟩ := visibleLines_joined text
  rw [drain_of_text isText, lines] at drained
  obtain ⟨before, last, readFront, readLast, rfl⟩ := readLines_append_eq_ok_iff.mp drained
  have nothing : last = [] := by
    rw [shown_cons, if_pos blank] at readLast
    exact (Except.ok.inj readLast).symm
  have records : shown front ++ [punch.toJson] ++ punches.map SpooledPunch.toJson =
      shown front ++ (punch :: punches).map SpooledPunch.toJson := by
    simp
  rw [drain_add isText whole joined, shown_blank blank, records, readLines_append_eq_ok_iff,
    nothing, List.append_nil, ← readLines_toJson_iff whole]
  constructor
  · rintro ⟨again, added, readAgain, readAdded, same⟩
    rw [readFront] at readAgain
    rw [← Except.ok.inj readAgain] at same
    rw [← List.append_cancel_left same] at readAdded
    exact readAdded
  · intro readAdded
    exact ⟨before, _, readFront, readAdded, rfl⟩

/-- Behind a line that was cut off the first new record is lost. -/
theorem drain_add_torn (whole : ∀ other ∈ punch :: punches, other.Whole)
    (isText : file.getD [] = encodeUtf8 text) (torn : stripChars (lastLine text) ≠ [])
    (drained : (file.drain limits).1 = .ok held) :
    ((file.add (punch :: punches)).drain limits).1 ≠ .ok (held ++ punch :: punches) := by
  obtain ⟨front, lines, joined⟩ := visibleLines_joined text
  obtain ⟨merged, shows, noDocument⟩ := shown_torn torn (whole _ List.mem_cons_self)
  rw [drain_of_text isText, lines] at drained
  obtain ⟨before, last, readFront, readLast, rfl⟩ := readLines_append_eq_ok_iff.mp drained
  rw [drain_add isText whole joined, shows]
  intro returned
  obtain ⟨joinedFront, others, readJoined, readOthers, same⟩ :=
    readLines_append_eq_ok_iff.mp returned
  obtain ⟨again, unread, readAgain, readMerged, rfl⟩ := readLines_append_eq_ok_iff.mp readJoined
  have bound := length_readLines readOthers
  have lengths := congrArg List.length same
  rw [readFront] at readAgain
  rw [← Except.ok.inj readAgain, readLine_torn noDocument readMerged] at lengths
  simp only [List.length_append, List.length_cons, List.length_map, List.length_nil]
    at lengths bound
  omega

end

omit [ValueTables] in
theorem held_whole_of_accepted {punches : List Punch}
    (accepted : ∀ punch ∈ punches, ∃ record, toPunch record = some punch) :
    ∀ punch ∈ punches.map Punch.held, punch.Whole := by
  apply held_all_whole
  intro punch member
  obtain ⟨record, took⟩ := accepted punch member
  exact toPunch_whole took

/-- Punches that are added to a file are drained after what the file held exactly where the file
does not end in a line that was cut off, and no limit is met at their records. -/
theorem add_after_torn_iff {file : SpoolBytes} {held : List SpooledPunch} {punches : List Punch}
    (accepted : ∀ punch ∈ punches, ∃ record, toPunch record = some punch)
    (drained : (file.drain limits).1 = .ok held) :
    ((file.add (punches.map Punch.held)).drain limits).1 = .ok (held ++ punches.map Punch.held) ↔
      punches = [] ∨
        (file.EndsBlank ∧ ∀ punch ∈ punches, limits punch.held.toJson = none) := by
  have whole := held_whole_of_accepted accepted
  cases punches with
  | nil => simp [SpoolBytes.add, drained]
  | cons punch punches =>
      obtain ⟨⟨text, isText, _⟩, _⟩ := drain_eq_ok_iff.mp drained
      rw [List.map_cons] at whole ⊢
      rw [endsBlank_iff isText]
      by_cases blank : stripChars (lastLine text) = []
      · rw [drain_add_blank_iff whole isText blank drained]
        simp [blank]
      · refine iff_of_false (drain_add_torn whole isText blank drained) ?_
        simp [blank]

end

theorem oddPunch_accepted : ∀ punch ∈ [oddPunch], ∃ record, toPunch record = some punch := by
  intro punch member
  rw [List.mem_singleton.mp member]
  exact ⟨oddRecord, by decide⟩

def oneRecord : SpoolBytes := SpoolBytes.add none ([oddPunch].map Punch.held)

theorem drain_oneRecord :
    (@SpoolBytes.drain .scalars (fun _ => none) oneRecord).1 = .ok ([oddPunch].map Punch.held) := by
  have holds : SpoolText.Holds (some (encode ([oddPunch].map Punch.held))) [oddPunch] :=
    ⟨rfl, fun punch member => by rw [List.mem_singleton.mp member]; rfl⟩
  have drained := @drain_encodeUtf8 .scalars (fun _ => none)
    (encode ([oddPunch].map Punch.held)) fun _ => rfl
  rw [@SpoolText.Holds.drain .scalars _ _ holds] at drained
  exact drained

theorem add_after_torn_iff_second_record :
    (@SpoolBytes.drain .scalars (fun _ => none)
      (oneRecord.add ([oddPunch].map Punch.held))).1 =
        .ok ([oddPunch].map Punch.held ++ [oddPunch].map Punch.held) := by
  have isText : oneRecord.getD [] = encodeUtf8 (encode [oddPunch.held]) := rfl
  have blank : stripChars (lastLine (encode [oddPunch.held])) = [] := by decide +kernel
  exact (@add_after_torn_iff .scalars (fun _ => none) oneRecord _ [oddPunch] oddPunch_accepted
    drain_oneRecord).mpr (.inr ⟨(endsBlank_iff isText).mpr blank, fun _ _ => rfl⟩)

def tornFile : SpoolBytes := some (encodeUtf8 ['{'])

theorem torn_line_loses_added :
    (∀ punch ∈ [oddPunch], ∃ record, toPunch record = some punch) ∧
      (@SpoolBytes.drain .scalars (fun _ => none) tornFile).1 = .ok [] ∧
        (@SpoolBytes.drain .scalars (fun _ => none)
          (tornFile.add ([oddPunch].map Punch.held))).1 ≠
            .ok ([] ++ [oddPunch].map Punch.held) := by
  have isText : tornFile.getD [] = encodeUtf8 ['{'] := rfl
  have drained : (@SpoolBytes.drain .scalars (fun _ => none) tornFile).1 = .ok [] := by
    rw [@drain_of_text .scalars _ _ _ isText]
    rfl
  refine ⟨oddPunch_accepted, drained, ?_⟩
  have torn : stripChars (lastLine ['{']) ≠ [] := by decide
  exact @drain_add_torn .scalars _ _ _ _ _ _ (held_whole_of_accepted oddPunch_accepted) isText
    torn drained

end PumoBioMetric.Sync
