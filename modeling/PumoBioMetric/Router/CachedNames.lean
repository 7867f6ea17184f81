import PumoBioMetric.Router.AttlogPieces

/-!
# Cached names that are not texts

The entries of `user_names.json` are taken as they are, and `get_user_info` asks a cached name
whether it starts with `User ` once the name counts as true.  Only a text can answer; with any
other value `parse_attlog` raises.
-/

set_option autoImplicit false

namespace PumoBioMetric.Router

open Py

/-- What a cache entry holds: a text, or a value of another type. -/
inductive CachedValue (Other : Type) where
  | text (text : String)
  | other (value : Other)
deriving DecidableEq, Repr

/-- A cache entry; `none` is a key that the entry does not have. -/
structure CachedRecord (Other : Type) where
  name : Option (CachedValue Other)
  role : Option (CachedValue Other)
deriving DecidableEq, Repr

structure CachedPunch (Other : Type) where
  id : String
  sn : String
  userId : String
  userName : CachedValue Other
  userRole : CachedValue Other
  timestamp : String
  status : String
  verifyType : String
  workCode : String
  raw : String
  receivedAt : String
deriving DecidableEq, Repr

section

variable {Other : Type} (isTrue : Other → Bool)

namespace CachedRecord

/-- The name is true and not a placeholder; `none` where `startswith` raises. -/
def isNamed? (record : CachedRecord Other) : Option Bool :=
  match record.name with
  | none => some false
  | some (.text name) => some (name != "" && !startsWith name "User ")
  | some (.other value) => if isTrue value then none else some false

def ofInfo (info : UserInfo) : CachedRecord Other := ⟨info.name.map .text, info.role.map .text⟩

def nameFor (record : CachedRecord Other) (pin : String) : CachedValue Other :=
  record.name.getD (.text ("User " ++ pin))

def roleOrNormal (record : CachedRecord Other) : CachedValue Other :=
  record.role.getD (.text "Normal User")

end CachedRecord

def queryCached (lms : LmsNames) (cache : Dict (CachedRecord Other)) (uId : String) :
    CachedRecord Other × Dict (CachedRecord Other) :=
  match lms uId with
  | some info => (.ofInfo info, cache.set uId (.ofInfo info))
  | none => ((cache.get? uId).getD (.ofInfo ⟨some ("User " ++ uId), some "Normal User"⟩), cache)

/-- `get_user_info` and the cache after it; `none` where it raises. -/
def getCachedInfo (lms : LmsNames) (cache : Dict (CachedRecord Other)) (userId : String) :
    Option (CachedRecord Other × Dict (CachedRecord Other)) :=
  let uId := strip userId
  match cache.get? uId with
  | some cached =>
      (cached.isNamed? isTrue).map fun named =>
        if named then (cached, cache) else queryCached lms cache uId
  | none => some (queryCached lms cache uId)

def cachedPunch (sn : String) (record : CachedRecord Other) (arrival : Arrival) (row : AttRow) :
    CachedPunch Other where
  id := arrival.id
  sn := if sn = "" then "UNKNOWN" else sn
  userId := row.userId
  userName := record.nameFor row.userId
  userRole := record.roleOrNormal
  timestamp := row.timestamp
  status := row.status
  verifyType := row.verifyType
  workCode := row.workCode
  raw := row.raw
  receivedAt := arrival.receivedAt

def cachedRows (lms : LmsNames) (sn : String) (arrivals : Nat → Arrival) :
    Nat → Dict (CachedRecord Other) → List AttRow →
      Option (List (CachedPunch Other) × Dict (CachedRecord Other))
  | _, cache, [] => some ([], cache)
  | index, cache, row :: rest => do
      let (record, found) ← getCachedInfo isTrue lms cache row.userId
      let (records, final) ← cachedRows lms sn arrivals (index + 1) found rest
      return (cachedPunch sn record (arrivals index) row :: records, final)

/-- `parse_attlog` and the cache after it, over any cache; `none` where it raises. -/
def parseCached [UnicodeTables] (lms : LmsNames) (arrivals : Nat → Arrival)
    (cache : Dict (CachedRecord Other)) (bodyStr sn : String) :
    Option (List (CachedPunch Other) × Dict (CachedRecord Other)) :=
  cachedRows isTrue lms sn arrivals 0 cache
    (attlogRows (fun index => (arrivals index).nowText) bodyStr)

end

/-! ## Caches of texts -/

section

variable {Other : Type}

def ofTexts (cache : UserCache) : Dict (CachedRecord Other) :=
  cache.map fun entry => (entry.1, .ofInfo entry.2)

def CachedPunch.ofRecord (record : PunchRecord) : CachedPunch Other where
  id := record.id
  sn := record.sn
  userId := record.userId
  userName := .text record.userName
  userRole := .text record.userRole
  timestamp := record.timestamp
  status := record.status
  verifyType := record.verifyType
  workCode := record.workCode
  raw := record.raw
  receivedAt := record.receivedAt

theorem ofTexts_set (cache : UserCache) (pin : String) (info : UserInfo) :
    (ofTexts (cache.set pin info) : Dict (CachedRecord Other)) =
      (ofTexts cache).set pin (.ofInfo info) := by
  induction cache with
  | nil => rfl
  | cons head rest ih =>
      obtain ⟨held, old⟩ := head
      simp only [ofTexts, Dict.set, List.map_cons] at ih ⊢
      split
      · rfl
      · rw [List.map_cons, ih]

theorem get?_ofTexts (cache : UserCache) (pin : String) :
    (ofTexts cache : Dict (CachedRecord Other)).get? pin = (cache.get? pin).map .ofInfo :=
  Dict.get?_map _ cache pin

theorem queryCached_ofTexts (lms : LmsNames) (cache : UserCache) (uId : String) :
    queryCached lms (ofTexts cache : Dict (CachedRecord Other)) uId =
      (.ofInfo (queryUserInfo lms cache uId).1, ofTexts (queryUserInfo lms cache uId).2) := by
  unfold queryCached queryUserInfo
  cases lms uId with
  | some info => simp [ofTexts_set]
  | none =>
      rw [get?_ofTexts]
      cases cache.get? uId <;> rfl

theorem getCachedInfo_ofTexts (isTrue : Other → Bool) (lms : LmsNames) (cache : UserCache)
    (userId : String) :
    getCachedInfo isTrue lms (ofTexts cache) userId =
      some (.ofInfo (getUserInfo lms cache userId).1,
        ofTexts (getUserInfo lms cache userId).2) := by
  simp only [getCachedInfo, getUserInfo, get?_ofTexts]
  cases cache.get? (strip userId) with
  | none => exact congrArg some (queryCached_ofTexts lms cache _)
  | some cached =>
      have named : (CachedRecord.ofInfo cached : CachedRecord Other).isNamed? isTrue =
          some cached.isNamed := by
        obtain ⟨name, role⟩ := cached
        cases name <;> rfl
      simp only [Option.map_some, named]
      split
      · rfl
      · exact congrArg some (queryCached_ofTexts lms cache _)

theorem cachedPunch_ofInfo (sn : String) (info : UserInfo) (arrival : Arrival) (row : AttRow) :
    (cachedPunch sn (.ofInfo info) arrival row : CachedPunch Other) =
      .ofRecord (recordOf sn info arrival row) := by
  obtain ⟨name, role⟩ := info
  cases name <;> cases role <;> rfl

theorem cachedRows_ofTexts (isTrue : Other → Bool) (lms : LmsNames) (sn : String)
    (arrivals : Nat → Arrival) (index : Nat) (cache : UserCache) (rows : List AttRow) :
    cachedRows isTrue lms sn arrivals index (ofTexts cache) rows =
      some ((recordRows lms sn arrivals index cache rows).1.map .ofRecord,
        ofTexts (recordRows lms sn arrivals index cache rows).2) := by
  induction rows generalizing index cache with
  | nil => rfl
  | cons row rest ih =>
      rw [cachedRows, getCachedInfo_ofTexts, Option.bind_eq_bind, Option.bind_some]
      simp only [ih, Option.bind_eq_bind, Option.bind_some, recordRows, List.map_cons,
        cachedPunch_ofInfo]
      rfl

/-- Over a cache of texts this is `parse_attlog` as the other modules have it. -/
theorem parseCached_ofTexts [UnicodeTables] (isTrue : Other → Bool) (lms : LmsNames)
    (arrivals : Nat → Arrival) (cache : UserCache) (bodyStr sn : String) :
    parseCached isTrue lms arrivals (ofTexts cache) bodyStr sn =
      some ((parseAttlog lms arrivals cache bodyStr sn).1.map .ofRecord,
        ofTexts (parseAttlog lms arrivals cache bodyStr sn).2) :=
  cachedRows_ofTexts isTrue lms sn arrivals 0 cache _

end

/-! ## When it raises -/

section

variable {Other : Type} {isTrue : Other → Bool} {lms : LmsNames} {sn : String}
  {arrivals : Nat → Arrival} {cache : Dict (CachedRecord Other)}

/-- The cached name of the PIN counts as true and is not a text. -/
def Unreadable (isTrue : Other → Bool) (cache : Dict (CachedRecord Other)) (pin : String) : Prop :=
  ∃ record value, cache.get? pin = some record ∧ record.name = some (.other value) ∧
    isTrue value = true

theorem isNamed?_eq_none_iff (record : CachedRecord Other) :
    record.isNamed? isTrue = none ↔
      ∃ value, record.name = some (.other value) ∧ isTrue value = true := by
  unfold CachedRecord.isNamed?
  rcases record.name with _ | text | value <;> simp

theorem getCachedInfo_eq_none_iff (userId : String) :
    getCachedInfo isTrue lms cache userId = none ↔ Unreadable isTrue cache (strip userId) := by
  simp only [getCachedInfo, Unreadable]
  cases held : cache.get? (strip userId) with
  | none => simp
  | some cached => simp [isNamed?_eq_none_iff]

theorem queryCached_snd (uId : String) :
    (queryCached lms cache uId).2 = cache ∨
      ∃ info, (queryCached lms cache uId).2 = cache.set uId (.ofInfo info) := by
  unfold queryCached
  cases lms uId with
  | none => exact .inl rfl
  | some info => exact .inr ⟨info, rfl⟩

theorem getCachedInfo_snd {userId : String} {record : CachedRecord Other}
    {after : Dict (CachedRecord Other)}
    (found : getCachedInfo isTrue lms cache userId = some (record, after)) :
    after = cache ∨ ∃ info, after = cache.set (strip userId) (.ofInfo info) := by
  have queried : (queryCached lms cache (strip userId)).2 = cache ∨
      ∃ info, (queryCached lms cache (strip userId)).2 = cache.set (strip userId) (.ofInfo info) :=
    queryCached_snd (strip userId)
  simp only [getCachedInfo] at found
  split at found
  · obtain ⟨named, _, same⟩ := Option.map_eq_some_iff.mp found
    split at same
    · cases same
      exact .inl rfl
    · rw [same] at queried
      exact queried
  · rw [Option.some.inj found] at queried
    exact queried

/-- A lookup that returns makes no name unreadable, nor readable. -/
theorem unreadable_getCachedInfo {userId : String} {record : CachedRecord Other}
    {after : Dict (CachedRecord Other)}
    (found : getCachedInfo isTrue lms cache userId = some (record, after)) (pin : String) :
    Unreadable isTrue after pin ↔ Unreadable isTrue cache pin := by
  have returned : ¬ Unreadable isTrue cache (strip userId) := by
    intro unreadable
    rw [(getCachedInfo_eq_none_iff userId).mpr unreadable] at found
    cases found
  rcases getCachedInfo_snd found with rfl | ⟨info, rfl⟩
  · rfl
  · by_cases same : pin = strip userId
    · subst same
      refine iff_of_false ?_ returned
      rintro ⟨held, value, here, other, _⟩
      rw [Dict.get?_set, if_pos rfl] at here
      cases here
      obtain ⟨name, role⟩ := info
      cases name <;> cases other
    · simp only [Unreadable, Dict.get?_set, if_neg same]

theorem cachedRows_eq_none_iff (index : Nat) (rows : List AttRow) :
    cachedRows isTrue lms sn arrivals index cache rows = none ↔
      ∃ row ∈ rows, Unreadable isTrue cache (strip row.userId) := by
  induction rows generalizing index cache with
  | nil => simp [cachedRows]
  | cons row rest ih =>
      rw [cachedRows, List.exists_mem_cons_iff]
      cases found : getCachedInfo isTrue lms cache row.userId with
      | none => simp [(getCachedInfo_eq_none_iff row.userId).mp found]
      | some known =>
          obtain ⟨record, after⟩ := known
          have here : ¬ Unreadable isTrue cache (strip row.userId) := by
            intro unreadable
            rw [(getCachedInfo_eq_none_iff row.userId).mpr unreadable] at found
            cases found
          have later := @ih after (index + 1)
          simp only [unreadable_getCachedInfo found] at later
          rw [← later]
          simp only [here, false_or, Option.bind_eq_bind, Option.bind_some]
          cases cachedRows isTrue lms sn arrivals (index + 1) after rest <;> simp

structure RecordOfPiece (sn piece : String) (record : CachedPunch Other) : Prop where
  raw : record.raw = strip piece
  serial : record.sn = if sn = "" then "UNKNOWN" else sn
  userId : record.userId ≠ ""

theorem cachedRows_forall₂ {kept : List String} {rows : List AttRow}
    (own : List.Forall₂ (fun piece row => RowOfLine (strip piece) row) kept rows) {index : Nat}
    {records : List (CachedPunch Other)} {final : Dict (CachedRecord Other)}
    (parsed : cachedRows isTrue lms sn arrivals index cache rows = some (records, final)) :
    List.Forall₂ (RecordOfPiece sn) kept records := by
  induction own generalizing index cache records with
  | nil =>
      cases parsed
      exact .nil
  | cons head _ ih =>
      rw [cachedRows] at parsed
      obtain ⟨⟨record, after⟩, _, parsed⟩ := Option.bind_eq_some_iff.mp parsed
      obtain ⟨⟨later, last⟩, rest, parsed⟩ := Option.bind_eq_some_iff.mp parsed
      cases parsed
      exact .cons ⟨head.raw, rfl, head.userId⟩ (ih rest)

/-- `parse_attlog` raises for a PIN whose cached name is true and not a text, and for no other
reason; else every piece that is neither blank nor a header gives one record, in order. -/
theorem parseCached_one_per_piece [UnicodeTables] (isTrue : Other → Bool) (lms : LmsNames)
    (arrivals : Nat → Arrival) (cache : Dict (CachedRecord Other)) (bodyStr sn : String) :
    (parseCached isTrue lms arrivals cache bodyStr sn = none ↔
      ∃ row ∈ attlogRows (fun index => (arrivals index).nowText) bodyStr,
        Unreadable isTrue cache (strip row.userId)) ∧
    ∀ records final, parseCached isTrue lms arrivals cache bodyStr sn = some (records, final) →
      List.Forall₂ (RecordOfPiece sn) ((pieces bodyStr).filter isPunchPiece) records := by
  rw [parseCached]
  have own := attlogRows_ofLine (fun index => (arrivals index).nowText) bodyStr
  generalize attlogRows (fun index => (arrivals index).nowText) bodyStr = rows at own ⊢
  exact ⟨cachedRows_eq_none_iff 0 rows, fun _ _ parsed => cachedRows_forall₂ own parsed⟩

end

def numberedName : Dict (CachedRecord Int) := [("7", ⟨some (.other 5), none⟩)]

def nineOClock : Arrival := ⟨"1786770000000-a1b2c3", "2026-08-15T09:00:00", "2026-08-15 09:00:00"⟩

theorem parseCached_raises_for_number :
    @parseCached Int (· != 0) .ascii (fun _ => none) (fun _ => nineOClock) numberedName
      "7\t2026-08-15 09:00:00" "ZK1" = none := by
  decide +kernel

end PumoBioMetric.Router
