import PumoBioMetric.Py.Dict
import PumoBioMetric.Py.Text

/-!
# User names

`get_user_info` of `iclock.py`: the cached name of a PIN unless it is missing or a
placeholder, else the name that the LMS has, which is then cached.
-/

set_option autoImplicit false

namespace PumoBioMetric.Router

open Py

/-- A cache entry as the service writes it, of texts; `none` is a key that the entry does not have.
Entries of `user_names.json` with other values are in `CachedNames`. -/
structure UserInfo where
  name : Option String
  role : Option String
deriving DecidableEq, Repr

/-- `DEVICE_USER_CACHE`. -/
abbrev UserCache := Dict UserInfo

/-- What the two LMS queries give for a PIN; `none` where neither has a name or one raises. -/
abbrev LmsNames := String → Option UserInfo

namespace UserInfo

def isNamed (info : UserInfo) : Bool :=
  info.name.any fun name => name != "" && !startsWith name "User "

def nameFor (info : UserInfo) (pin : String) : String := info.name.getD ("User " ++ pin)

def roleOrNormal (info : UserInfo) : String := info.role.getD "Normal User"

end UserInfo

/-- The LMS part of `get_user_info`. -/
def queryUserInfo (lms : LmsNames) (cache : UserCache) (uId : String) : UserInfo × UserCache :=
  match lms uId with
  | some info => (info, cache.set uId info)
  | none => ((cache.get? uId).getD ⟨some ("User " ++ uId), some "Normal User"⟩, cache)

/-- `get_user_info` and the cache after it. -/
def getUserInfo (lms : LmsNames) (cache : UserCache) (userId : String) : UserInfo × UserCache :=
  let uId := strip userId
  match cache.get? uId with
  | some cached => if cached.isNamed then (cached, cache) else queryUserInfo lms cache uId
  | none => queryUserInfo lms cache uId

/-! ## The entry that `get_user_info` leaves -/

/-- The cached entry where it has a name, else the LMS's where it has one. -/
def settledEntry (lms : LmsNames) (cache : UserCache) (pin : String) : Option UserInfo :=
  if (cache.get? pin).any UserInfo.isNamed then cache.get? pin else (lms pin).or (cache.get? pin)

theorem getUserInfo_eq (lms : LmsNames) (cache : UserCache) (userId : String) :
    getUserInfo lms cache userId =
      if (cache.get? (strip userId)).any UserInfo.isNamed then
        ((settledEntry lms cache (strip userId)).getD
          ⟨some ("User " ++ strip userId), some "Normal User"⟩, cache)
      else queryUserInfo lms cache (strip userId) := by
  rw [getUserInfo, settledEntry]
  cases held : cache.get? (strip userId) with
  | none => rfl
  | some cached =>
      rw [Option.any_some]
      cases named : cached.isNamed with
      | true => simp [named]
      | false => simp [named]

theorem getUserInfo_fst (lms : LmsNames) (cache : UserCache) (userId : String) :
    (getUserInfo lms cache userId).1 =
      (settledEntry lms cache (strip userId)).getD
        ⟨some ("User " ++ strip userId), some "Normal User"⟩ := by
  rw [getUserInfo_eq]
  split
  · rfl
  · rename_i unnamed
    rw [settledEntry, if_neg unnamed, queryUserInfo]
    cases lms (strip userId) <;> rfl

theorem get?_getUserInfo (lms : LmsNames) (cache : UserCache) (userId pin : String) :
    (getUserInfo lms cache userId).2.get? pin =
      if pin = strip userId then settledEntry lms cache pin else cache.get? pin := by
  rw [getUserInfo_eq]
  by_cases same : pin = strip userId
  · subst same
    rw [if_pos rfl]
    split
    · rename_i named
      rw [settledEntry, if_pos named]
    · rename_i unnamed
      rw [settledEntry, if_neg unnamed, queryUserInfo]
      cases lms (strip userId) with
      | none => rfl
      | some info => simp [Dict.get?_set]
  · rw [if_neg same]
    split
    · rfl
    · rw [queryUserInfo]
      cases lms (strip userId) with
      | none => rfl
      | some info => rw [Dict.get?_set, if_neg same]

theorem settledEntry_again {lms : LmsNames} {cache after : UserCache} {pin : String}
    (entry : after.get? pin = cache.get? pin ∨ after.get? pin = settledEntry lms cache pin) :
    settledEntry lms after pin = settledEntry lms cache pin := by
  rcases entry with same | settled
  · rw [settledEntry, same, settledEntry]
  · rw [settledEntry, settled, settledEntry]
    split
    · rfl
    · rename_i unnamed
      cases lms pin with
      | none => simp [unnamed]
      | some info => simp

end PumoBioMetric.Router
