import PumoBioMetric.Router.DeviceUsers
import PumoBioMetric.Router.Userinfo
import PumoBioMetric.Sync.SyncTwice

/-!
# Names that one reader pushes

`parse_userinfo` puts every user of the list into the cache, into the mirror and into all
punches with the PIN.  Only the mirror's row carries the serial of the reader, and
`get_user_info` reads it for every reader.
-/

set_option autoImplicit false

namespace PumoBioMetric.Sync

open PumoBioMetric.Py PumoBioMetric.Router

/-! ## `parse_userinfo` -/

section

variable [UnicodeTables]

structure NamesState where
  dashboard : Dashboard
  users : DeviceUserTable

def learnUser (takes : DeviceUserRow → Bool) (sn : String) (state : NamesState)
    (entry : String × UserInfo) : NamesState where
  dashboard :=
    { state.dashboard with
      cache := state.dashboard.cache.set entry.1 entry.2
      logs := renameRows entry.1 entry.2 state.dashboard.logs }
  users :=
    saveDeviceUserDb takes sn entry.1 (entry.2.name.getD "") (entry.2.role.getD "") state.users

/-- `parse_userinfo`, with the rows that the database takes. -/
def parseUserinfo (takes : DeviceUserRow → Bool) (bodyStr sn : String) (state : NamesState) :
    NamesState :=
  (learnedUsers bodyStr).foldl (learnUser takes sn) state

/-! ## What a list of users leaves -/

def renamedPunch (entries : List (String × UserInfo)) (punch : PunchRecord) : PunchRecord :=
  (lastInfo entries (strip punch.userId)).elim punch (withInfo punch)

def lastSaved (takes : DeviceUserRow → Bool) (sn : String) (entries : List (String × UserInfo))
    (pin : String) : Option DeviceUserRow :=
  (entries.reverse.filter fun entry => strip entry.1 == pin).findSome? fun entry =>
    deviceUserRow takes sn entry.1 (entry.2.name.getD "") (entry.2.role.getD "")

variable (takes : DeviceUserRow → Bool) (sn : String)

theorem lastSaved_snoc (entries : List (String × UserInfo)) (entry : String × UserInfo)
    (pin : String) :
    lastSaved takes sn (entries ++ [entry]) pin =
      if strip entry.1 = pin then
        (deviceUserRow takes sn entry.1 (entry.2.name.getD "") (entry.2.role.getD "")).or
          (lastSaved takes sn entries pin)
      else lastSaved takes sn entries pin := by
  rw [lastSaved, List.reverse_append, List.reverse_singleton, List.singleton_append,
    List.filter_cons]
  by_cases own : strip entry.1 = pin
  · rw [if_pos (by simpa using own), if_pos own, List.findSome?_cons, lastSaved]
    cases deviceUserRow takes sn entry.1 (entry.2.name.getD "") (entry.2.role.getD "") <;> rfl
  · rw [if_neg (by simpa using own), if_neg own, lastSaved]

omit [UnicodeTables] in
theorem lastInfo_snoc (entries : List (String × UserInfo)) (entry : String × UserInfo)
    (pin : String) :
    lastInfo (entries ++ [entry]) pin =
      if pin = entry.1 then some entry.2 else lastInfo entries pin := by
  induction entries with
  | nil =>
      rw [List.nil_append, lastInfo]
      simp only [lastInfo, Option.none_or]
      exact if_congr eq_comm rfl rfl
  | cons head rest ih =>
      rw [List.cons_append, lastInfo, ih, lastInfo]
      split <;> rfl

omit [UnicodeTables] in
theorem renamedPunch_userId (entries : List (String × UserInfo)) (punch : PunchRecord) :
    (renamedPunch entries punch).userId = punch.userId := by
  rw [renamedPunch]
  cases lastInfo entries (strip punch.userId) <;> rfl

omit [UnicodeTables] in
theorem renamedPunch_snoc (entries : List (String × UserInfo)) (entry : String × UserInfo)
    (logs : List PunchRecord) :
    renameRows entry.1 entry.2 (logs.map (renamedPunch entries)) =
      logs.map (renamedPunch (entries ++ [entry])) := by
  rw [renameRows, List.map_map]
  apply List.map_congr_left
  intro punch _
  rw [Function.comp_apply, renamedPunch_userId]
  by_cases own : strip punch.userId = entry.1
  · have last : renamedPunch (entries ++ [entry]) punch = withInfo punch entry.2 := by
      rw [renamedPunch, lastInfo_snoc, if_pos own, Option.elim_some]
    rw [if_pos own, last, renamedPunch]
    cases lastInfo entries (strip punch.userId) <;> rfl
  · have before : renamedPunch (entries ++ [entry]) punch = renamedPunch entries punch := by
      rw [renamedPunch, lastInfo_snoc, if_neg own, renamedPunch]
    rw [if_neg own, before]

structure Taught (entries : List (String × UserInfo)) (before after : NamesState) : Prop where
  cache : ∀ pin, after.dashboard.cache.get? pin =
    (lastInfo entries pin).or (before.dashboard.cache.get? pin)
  logs : after.dashboard.logs = before.dashboard.logs.map (renamedPunch entries)
  logsFile : after.dashboard.logsFile = before.dashboard.logsFile
  users : ∀ pin, queryDeviceUsers after.users pin =
    ((lastSaved takes sn entries pin).map DeviceUserRow.info).or
      (queryDeviceUsers before.users pin)

theorem taught (entries : List (String × UserInfo)) (state : NamesState) :
    Taught takes sn entries state (entries.foldl (learnUser takes sn) state) := by
  induction entries using List.reverseRecOn with
  | nil =>
      refine ⟨fun _ => rfl, ?_, rfl, fun _ => rfl⟩
      exact (List.map_id'' (fun _ => rfl) _).symm
  | append_singleton entries entry ih =>
      rw [List.foldl_append, List.foldl_cons, List.foldl_nil]
      constructor
      · intro pin
        rw [learnUser, Dict.get?_set, lastInfo_snoc, ih.cache]
        split <;> rfl
      · rw [learnUser, ih.logs, renamedPunch_snoc]
      · exact ih.logsFile
      · intro pin
        rw [learnUser, queryDeviceUsers_save, lastSaved_snoc, ih.users]
        split
        · cases deviceUserRow takes sn entry.1 (entry.2.name.getD "") (entry.2.role.getD "") <;> rfl
        · rfl

/-! ## Names and the pushes of other readers -/

def recordedSn (sn : String) : String := if sn = "" then "UNKNOWN" else sn

/-- The list leaves the names and roles of other readers' punches alone, and the names that
their later pushes get. -/
def NamesSpared (answers : String → Bool) (staff : LmsNames) (sn : String)
    (before after : NamesState) : Prop :=
  List.Forall₂ (fun held punch : PunchRecord => held.sn ≠ recordedSn sn →
      punch.userName = held.userName ∧ punch.userRole = held.userRole)
    before.dashboard.logs after.dashboard.logs ∧
  ∀ arrivals bodyStr other, other ≠ sn →
    (parseAttlog (lmsNames answers staff after.users) arrivals after.dashboard.cache bodyStr
        other).1.map PunchRecord.userName =
      (parseAttlog (lmsNames answers staff before.users) arrivals before.dashboard.cache bodyStr
        other).1.map PunchRecord.userName

def Pushable (pin : String) : Prop :=
  ∃ nowText bodyStr, ∃ row ∈ attlogRows nowText bodyStr, row.userId = pin

/-- The name that `parse_attlog` attaches to a PIN. -/
def attachedName (lms : LmsNames) (cache : UserCache) (pin : String) : String :=
  (getUserInfo lms cache pin).1.nameFor pin

/-- The name that a lookup finds because of the list: the cache has it, or the cache has no
name and the mirror has it. -/
def newName (answers : String → Bool) (entries : List (String × UserInfo)) (cache : UserCache)
    (pin : String) : Option String :=
  match lastInfo entries pin with
  | some info => info.name
  | none =>
      if (cache.get? pin).any UserInfo.isNamed || !answers pin then none
      else (lastSaved takes sn entries pin).bind DeviceUserRow.name

/-- Where the list names a PIN of another reader's punch, or one that a push can carry, it has
the name that is there already. -/
structure NamesMatch (answers : String → Bool) (staff : LmsNames)
    (entries : List (String × UserInfo)) (state : NamesState) : Prop where
  punches : ∀ punch ∈ state.dashboard.logs, punch.sn ≠ recordedSn sn →
    ∀ info, lastInfo entries (strip punch.userId) = some info →
      info = ⟨some punch.userName, some punch.userRole⟩
  lookups : ∀ pin, Pushable pin →
    ∀ name, newName takes sn answers entries state.dashboard.cache (strip pin) = some name →
      attachedName (lmsNames answers staff state.users) state.dashboard.cache pin = name

omit [UnicodeTables] in
theorem recordRows_names (lms : LmsNames) (serial : String) (arrivals : Nat → Arrival)
    (index : Nat) (cache : UserCache) (rows : List AttRow) :
    (recordRows lms serial arrivals index cache rows).1.map PunchRecord.userName =
      rows.map fun row => attachedName lms cache row.userId := by
  induction rows generalizing index cache with
  | nil => rfl
  | cons row rest ih =>
      rw [recordRows, List.map_cons, List.map_cons, ih]
      congr 1
      apply List.map_congr_left
      intro later _
      rw [attachedName, attachedName, getUserInfo_fst, getUserInfo_fst]
      congr 2
      apply settledEntry_again
      rw [get?_getUserInfo]
      split
      · exact Or.inr rfl
      · exact Or.inl rfl

theorem lastSaved_name {entries : List (String × UserInfo)} {pin : String} {row : DeviceUserRow}
    (saved : lastSaved takes sn entries pin = some row) : ∃ name, row.name = some (strip name) := by
  obtain ⟨entry, _, found⟩ := List.exists_of_findSome?_eq_some saved
  exact ⟨_, (deviceUserRow_name found).2.1⟩

/-- A lookup after the list finds its name, or the one that was attached before. -/
theorem attachedName_taught {entries : List (String × UserInfo)} {before after : NamesState}
    (named : ∀ pin info, (pin, info) ∈ entries →
      info.isNamed = true ∧ ∃ name role, info = ⟨some name, some role⟩)
    (learned : Taught takes sn entries before after) (answers : String → Bool) (staff : LmsNames)
    (pin : String) :
    attachedName (lmsNames answers staff after.users) after.dashboard.cache pin =
      (newName takes sn answers entries before.dashboard.cache (strip pin)).getD
        (attachedName (lmsNames answers staff before.users) before.dashboard.cache pin) := by
  have entry := learned.cache (strip pin)
  rw [attachedName, attachedName, getUserInfo_fst, getUserInfo_fst, newName]
  cases last : lastInfo entries (strip pin) with
  | some info =>
      obtain ⟨isNamed, name, role, rfl⟩ := named _ info (mem_of_lastInfo last)
      rw [last, Option.some_or] at entry
      simp [settledEntry, entry, isNamed, UserInfo.nameFor]
  | none =>
      rw [last, Option.none_or] at entry
      dsimp only
      by_cases known : (before.dashboard.cache.get? (strip pin)).any UserInfo.isNamed = true
      · simp [settledEntry, entry, known]
      · by_cases answered : answers (strip pin) = true
        · have mirror := learned.users (strip pin)
          cases saved : lastSaved takes sn entries (strip pin) with
          | none =>
              rw [saved, Option.map_none, Option.none_or] at mirror
              simp [settledEntry, entry, known, lmsNames, answered, mirror]
          | some row =>
              obtain ⟨name, same⟩ := lastSaved_name takes sn saved
              rw [saved, Option.map_some, Option.some_or] at mirror
              simp [settledEntry, entry, known, lmsNames, answered, mirror, same,
                DeviceUserRow.info, UserInfo.nameFor, strip_strip]
        · simp [settledEntry, entry, known, lmsNames, answered]

theorem pushes_same_iff {answers : String → Bool} {staff : LmsNames} {before after : NamesState} :
    (∀ arrivals bodyStr other, other ≠ sn →
      (parseAttlog (lmsNames answers staff after.users) arrivals after.dashboard.cache bodyStr
          other).1.map PunchRecord.userName =
        (parseAttlog (lmsNames answers staff before.users) arrivals before.dashboard.cache bodyStr
          other).1.map PunchRecord.userName) ↔
    ∀ pin, Pushable pin →
      attachedName (lmsNames answers staff after.users) after.dashboard.cache pin =
        attachedName (lmsNames answers staff before.users) before.dashboard.cache pin := by
  constructor
  · rintro same pin ⟨nowText, bodyStr, row, listed, rfl⟩
    have apart : sn ++ "-" ≠ sn := by
      intro equal
      have lengths := congrArg String.length equal
      simp at lengths
    have names := same (fun index => ⟨"", "", nowText index⟩) bodyStr (sn ++ "-") apart
    rw [parseAttlog, parseAttlog, recordRows_names, recordRows_names] at names
    exact List.map_inj_left.mp names row listed
  · intro same arrivals bodyStr other _
    rw [parseAttlog, parseAttlog, recordRows_names, recordRows_names]
    exact List.map_inj_left.mpr fun row listed => same row.userId ⟨_, bodyStr, row, listed, rfl⟩

omit [UnicodeTables] in
theorem withInfo_keeps_iff {info : UserInfo} (full : ∃ name role, info = ⟨some name, some role⟩)
    (punch : PunchRecord) :
    ((withInfo punch info).userName = punch.userName ∧
        (withInfo punch info).userRole = punch.userRole) ↔
      info = ⟨some punch.userName, some punch.userRole⟩ := by
  obtain ⟨name, role, rfl⟩ := full
  simp [withInfo]

theorem parseUserinfo_spares_iff (answers : String → Bool) (staff : LmsNames) (bodyStr : String)
    (state : NamesState) :
    NamesSpared answers staff sn state (parseUserinfo takes bodyStr sn state) ↔
      NamesMatch takes sn answers staff (learnedUsers bodyStr) state := by
  have learned := taught takes sn (learnedUsers bodyStr) state
  have lookups := attachedName_taught takes sn (fun _ _ => learnedUsers_named) learned answers staff
  rw [parseUserinfo, NamesSpared, learned.logs, pushes_same_iff, List.forall₂_map_right_iff,
    List.forall₂_same]
  constructor
  · rintro ⟨held, same⟩
    constructor
    · intro punch member foreign info last
      have kept := held punch member foreign
      rw [renamedPunch, last, Option.elim_some] at kept
      exact (withInfo_keeps_iff (learnedUsers_named (mem_of_lastInfo last)).2 punch).mp kept
    · intro pin pushable name new
      have unchanged := same pin pushable
      rw [lookups, new, Option.getD_some] at unchanged
      exact unchanged.symm
  · rintro ⟨punches, names⟩
    constructor
    · intro punch member foreign
      rw [renamedPunch]
      cases last : lastInfo (learnedUsers bodyStr) (strip punch.userId) with
      | none => exact ⟨rfl, rfl⟩
      | some info =>
          exact (withInfo_keeps_iff (learnedUsers_named (mem_of_lastInfo last)).2 punch).mpr
            (punches punch member foreign info last)
    · intro pin pushable
      rw [lookups]
      cases new : newName takes sn answers (learnedUsers bodyStr) state.dashboard.cache
          (strip pin) with
      | none => rfl
      | some name => exact (names pin pushable name new).symm

end

/-! ## Two people with one PIN -/

def annPunch : PunchRecord :=
  { id := "1", sn := "ZKA", userId := "5", userName := "Ann", userRole := "Normal User"
    timestamp := "2026-08-15 09:00:00", status := "0", verifyType := "1", workCode := "0"
    raw := "5", receivedAt := "" }

/-- The second reader's list names Bob, who has PIN 5 there. -/
theorem parseUserinfo_renames_ann :
    ¬ @NamesSpared .ascii (fun _ => true) (fun _ => none) "ZKB"
      ⟨⟨[annPunch], some [annPunch], []⟩, []⟩
      (@parseUserinfo .ascii (fun _ => true) "PIN=5\tName=Bob\tPri=0" "ZKB"
        ⟨⟨[annPunch], some [annPunch], []⟩, []⟩) := by
  have shown : (@parseUserinfo .ascii (fun _ => true) "PIN=5\tName=Bob\tPri=0" "ZKB"
      ⟨⟨[annPunch], some [annPunch], []⟩, []⟩).dashboard.logs =
        [{ annPunch with userName := "Bob" }] := by decide +kernel
  rintro ⟨held, _⟩
  rw [shown] at held
  have kept := (List.forall₂_cons.mp held).1 (by decide)
  exact absurd kept.1 (by decide)

end PumoBioMetric.Sync
