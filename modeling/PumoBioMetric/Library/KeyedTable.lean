import Mathlib.Data.List.Nodup

/-!
# Tables with a unique key

`insertIgnore` adds a row unless its key is taken; `insertAll` offers a batch in
order.  Offering a row again changes nothing, which is what makes re-delivery
free.  `upsert` puts a row in the place of the rows with its key, so that of a batch
the last row under each key stays.
-/

set_option autoImplicit false

namespace KeyedTable

universe u v

variable {Row : Type u} {Key : Type v} [DecidableEq Key] (key : Row → Key)

def insertIgnore (table : List Row) (row : Row) : List Row :=
  if key row ∈ table.map key then table else table ++ [row]

def insertAll (table rows : List Row) : List Row :=
  rows.foldl (insertIgnore key) table

theorem insertAll_nil (table : List Row) : insertAll key table [] = table := rfl

theorem insertAll_cons (table : List Row) (row : Row) (rows : List Row) :
    insertAll key table (row :: rows) =
      insertAll key (insertIgnore key table row) rows := rfl

theorem mem_keys_insertIgnore (table : List Row) (row : Row) (wanted : Key) :
    wanted ∈ (insertIgnore key table row).map key ↔
      wanted ∈ table.map key ∨ wanted = key row := by
  unfold insertIgnore
  split
  · rename_i taken
    constructor
    · exact Or.inl
    · rintro (held | rfl)
      · exact held
      · exact taken
  · simp

omit [DecidableEq Key] in
theorem nodup_append_row (table : List Row) (row : Row) (distinct : (table.map key).Nodup)
    (free : key row ∉ table.map key) : ((table ++ [row]).map key).Nodup := by
  rw [List.map_append, List.nodup_append]
  refine ⟨distinct, by simp, ?_⟩
  intro held heldMem other otherMem
  rw [List.map_singleton, List.mem_singleton] at otherMem
  rintro rfl
  exact free (otherMem ▸ heldMem)

theorem filter_key_eq (table : List Row) {row : Row} (distinct : (table.map key).Nodup)
    (member : row ∈ table) : (table.filter fun other => key other == key row) = [row] := by
  induction table with
  | nil => cases member
  | cons first rest ih =>
      obtain ⟨unlisted, distinctRest⟩ := List.nodup_cons.mp distinct
      rcases List.mem_cons.mp member with rfl | later
      · rw [List.filter_cons_of_pos (by simp), List.cons.injEq, List.filter_eq_nil_iff]
        refine ⟨rfl, ?_⟩
        intro other held same
        exact unlisted (List.mem_map.mpr ⟨other, held, by simpa using same⟩)
      · have apart : key first ≠ key row :=
          fun same => unlisted (same ▸ List.mem_map.mpr ⟨row, later, rfl⟩)
        rw [List.filter_cons_of_neg (by simpa using apart)]
        exact ih distinctRest later

theorem nodup_insertIgnore (table : List Row) (row : Row)
    (distinct : (table.map key).Nodup) :
    ((insertIgnore key table row).map key).Nodup := by
  unfold insertIgnore
  split
  · exact distinct
  · rename_i free
    exact nodup_append_row key table row distinct free

theorem mem_keys_insertAll (table rows : List Row) (wanted : Key) :
    wanted ∈ (insertAll key table rows).map key ↔
      wanted ∈ table.map key ∨ wanted ∈ rows.map key := by
  induction rows generalizing table with
  | nil => simp [insertAll_nil]
  | cons row rows ih =>
      rw [insertAll_cons, ih, mem_keys_insertIgnore, List.map_cons, List.mem_cons]
      exact or_assoc

theorem nodup_insertAll (table rows : List Row)
    (distinct : (table.map key).Nodup) :
    ((insertAll key table rows).map key).Nodup := by
  induction rows generalizing table with
  | nil => exact distinct
  | cons row rows ih =>
      rw [insertAll_cons]
      exact ih _ (nodup_insertIgnore key table row distinct)

/-- Rows already stored are never changed, moved or removed. -/
theorem prefix_insertAll (table rows : List Row) :
    table <+: insertAll key table rows := by
  induction rows generalizing table with
  | nil => exact List.prefix_refl table
  | cons row rows ih =>
      rw [insertAll_cons]
      refine List.IsPrefix.trans ?_ (ih _)
      unfold insertIgnore
      split
      · exact List.prefix_refl table
      · exact List.prefix_append table [row]

/-! ## Rows that were not seen -/

/-- Of the rows those whose key was not seen, each key once. -/
def unseen (seen : List Key) : List Row → List Row
  | [] => []
  | row :: rest =>
      if key row ∈ seen then unseen seen rest else row :: unseen (seen ++ [key row]) rest

theorem mem_of_unseen {seen : List Key} {rows : List Row} {row : Row}
    (found : row ∈ unseen key seen rows) : row ∈ rows ∧ key row ∉ seen := by
  induction rows generalizing seen with
  | nil => cases found
  | cons first rest ih =>
      rw [unseen] at found
      split at found
      · obtain ⟨later, free⟩ := ih found
        exact ⟨List.mem_cons_of_mem _ later, free⟩
      · rename_i free
        rcases List.mem_cons.mp found with rfl | later
        · exact ⟨List.mem_cons_self, free⟩
        · obtain ⟨listed, apart⟩ := ih later
          refine ⟨List.mem_cons_of_mem _ listed, fun held => apart ?_⟩
          exact List.mem_append_left _ held

theorem seen_or_unseen (seen : List Key) {rows : List Row} {row : Row} (member : row ∈ rows) :
    key row ∈ seen ∨ key row ∈ (unseen key seen rows).map key := by
  induction rows generalizing seen with
  | nil => cases member
  | cons first rest ih =>
      rw [unseen]
      split
      · rename_i held
        rcases List.mem_cons.mp member with rfl | later
        · exact .inl held
        · exact ih seen later
      · rcases List.mem_cons.mp member with rfl | later
        · exact .inr (List.mem_cons_self ..)
        · rcases ih (seen ++ [key first]) later with held | found
          · rcases List.mem_append.mp held with before | own
            · exact .inl before
            · rw [List.mem_singleton.mp own]
              exact .inr (List.mem_cons_self ..)
          · exact .inr (List.mem_cons_of_mem _ found)

theorem unseen_eq_nil_iff (seen : List Key) (rows : List Row) :
    unseen key seen rows = [] ↔ ∀ row ∈ rows, key row ∈ seen := by
  constructor
  · intro none row member
    have either := seen_or_unseen key seen member
    rw [none] at either
    exact either.resolve_right List.not_mem_nil
  · intro held
    rw [List.eq_nil_iff_forall_not_mem]
    intro row found
    obtain ⟨member, free⟩ := mem_of_unseen key found
    exact free (held row member)

theorem nodup_unseen (seen : List Key) (rows : List Row) :
    ((unseen key seen rows).map key).Nodup := by
  induction rows generalizing seen with
  | nil => exact List.nodup_nil
  | cons first rest ih =>
      rw [unseen]
      split
      · exact ih seen
      · refine List.nodup_cons.mpr ⟨fun again => ?_, ih (seen ++ [key first])⟩
        obtain ⟨row, found, same⟩ := List.mem_map.mp again
        have free := (mem_of_unseen key found).2
        rw [same] at free
        exact free (List.mem_append_right _ (List.mem_singleton_self _))

/-! ## Rows that replace those with their key -/

def upsert (table : List Row) (row : Row) : List Row :=
  (table.filter fun stored => key stored ≠ key row) ++ [row]

def upsertAll (table rows : List Row) : List Row := rows.foldl (upsert key) table

def LastOf : List Row → Row → Prop
  | [], _ => False
  | first :: rest, row => LastOf rest row ∨ (row = first ∧ key row ∉ rest.map key)

theorem mem_upsertAll (table rows : List Row) (row : Row) :
    row ∈ upsertAll key table rows ↔
      LastOf key rows row ∨ (row ∈ table ∧ key row ∉ rows.map key) := by
  induction rows generalizing table with
  | nil => simp [upsertAll, LastOf]
  | cons first rest ih =>
      have step : upsertAll key table (first :: rest) = upsertAll key (upsert key table first) rest :=
        rfl
      rw [step, ih]
      simp only [LastOf, upsert, List.mem_append, List.mem_filter, decide_eq_true_eq,
        List.map_cons, List.mem_cons, not_or]
      tauto

omit [DecidableEq Key] in
theorem LastOf.mem {rows : List Row} {row : Row} (last : LastOf key rows row) : row ∈ rows := by
  induction rows with
  | nil => exact last.elim
  | cons first rest ih =>
      rcases last with later | ⟨rfl, _⟩
      · exact List.mem_cons_of_mem _ (ih later)
      · exact List.mem_cons_self

omit [DecidableEq Key] in
theorem LastOf.unique {rows : List Row} {left right : Row} (lastLeft : LastOf key rows left)
    (lastRight : LastOf key rows right) (same : key left = key right) : left = right := by
  induction rows with
  | nil => exact lastLeft.elim
  | cons first rest ih =>
      rcases lastLeft with left | ⟨rfl, newLeft⟩
      · rcases lastRight with right | ⟨rfl, newRight⟩
        · exact ih left right
        · exact absurd (List.mem_map.mpr ⟨_, left.mem, same⟩) newRight
      · rcases lastRight with right | ⟨rfl, _⟩
        · exact absurd (List.mem_map.mpr ⟨_, right.mem, same.symm⟩) newLeft
        · rfl

omit [DecidableEq Key] in
theorem exists_lastOf {rows : List Row} {row : Row} (member : row ∈ rows) :
    ∃ last, LastOf key rows last ∧ key last = key row := by
  induction rows generalizing row with
  | nil => cases member
  | cons first rest ih =>
      rcases List.mem_cons.mp member with rfl | later
      · by_cases again : key row ∈ rest.map key
        · obtain ⟨other, listed, same⟩ := List.mem_map.mp again
          obtain ⟨last, lastOf, equal⟩ := ih listed
          exact ⟨last, Or.inl lastOf, equal.trans same⟩
        · exact ⟨row, Or.inr ⟨rfl, again⟩, rfl⟩
      · obtain ⟨last, lastOf, same⟩ := ih later
        exact ⟨last, Or.inl lastOf, same⟩

/-- The batch is what is stored if and only if it gives no key two rows and leaves no row of
the table in place. -/
theorem mem_upsertAll_iff_mem (table rows : List Row) :
    (∀ row, row ∈ upsertAll key table rows ↔ row ∈ rows) ↔
      (∀ left ∈ rows, ∀ right ∈ rows, key left = key right → left = right) ∧
        ∀ row ∈ table, key row ∈ rows.map key := by
  simp only [mem_upsertAll]
  constructor
  · intro stored
    have last : ∀ row ∈ rows, LastOf key rows row := by
      intro row member
      rcases (stored row).mpr member with last | ⟨_, free⟩
      · exact last
      · exact absurd (List.mem_map.mpr ⟨row, member, rfl⟩) free
    refine ⟨fun left leftIn right rightIn => (last left leftIn).unique key (last right rightIn), ?_⟩
    intro row held
    by_contra free
    exact free (List.mem_map.mpr ⟨row, (stored row).mp (Or.inr ⟨held, free⟩), rfl⟩)
  · rintro ⟨distinct, covered⟩ row
    constructor
    · rintro (last | ⟨held, free⟩)
      · exact last.mem
      · exact absurd (covered row held) free
    · intro member
      obtain ⟨last, lastOf, same⟩ := exists_lastOf key member
      cases distinct last lastOf.mem row member same
      exact Or.inl lastOf

end KeyedTable
