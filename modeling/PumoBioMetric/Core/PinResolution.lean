import PumoBioMetric.Core.Simulator

/-!
# `resolve_target_pin`

The PIN an employee is to have on another reader: the preferred one where it is free
or held by somebody of the same name, trimmed and ignoring case, else the next free
number.
-/

set_option autoImplicit false

namespace PumoBioMetric.Core

open Py

/-- An entry of `existing_users`. -/
structure ListedUser where
  userId : String
  name : String
deriving DecidableEq, Repr

def ListedUser.hasId (userId : String) (user : ListedUser) : Bool := user.userId == userId

def SimUser.listed (user : SimUser) : ListedUser := ⟨user.userId, user.name⟩

structure PinCheck where
  ok : Bool
  device : String
  preferredPin : String
  targetPin : String
  isMapped : Bool
  reason : String
deriving DecidableEq, Repr

section

variable [UnicodeTables]

/-- `user_name and match["name"].strip().lower() == user_name.strip().lower()`. -/
def isSameUser (userName : Option String) (holderName : String) : Bool :=
  userName.any fun name => name != "" && lower (strip holderName) == lower (strip name)

/-- The decision over the users read from the target; `none` is a `ValueError`. -/
def choosePin (targetSn preferredPin : String) (userName : Option String)
    (existingUsers : List ListedUser) : Option PinCheck :=
  let prefStr := strip preferredPin
  match existingUsers.find? (ListedUser.hasId prefStr) with
  | none =>
      some ⟨true, targetSn, prefStr, prefStr, false, "PIN is free on target device"⟩
  | some holder =>
    if isSameUser userName holder.name then
      some ⟨true, targetSn, prefStr, prefStr, false,
        "PIN matches existing employee '" ++ holder.name ++ "' on target device"⟩
    else
      (nextFreePin prefStr (existingUsers.map ListedUser.userId)).map fun mappedPin =>
        ⟨true, targetSn, prefStr, mappedPin, true,
          "PIN '" ++ prefStr ++ "' was occupied by '" ++ holder.name ++
            "'. Auto-mapped to free PIN '" ++ mappedPin ++ "'"⟩

variable (registry : Registry)

/-- `existing_users` of a simulated target; an unknown device has none. -/
def simulatedUsers (devices : SimDevices) (targetId : String) : List SimUser :=
  match simulatedDevice registry targetId with
  | none => []
  | some device => devices.users device

def resolveTargetPinSimulated (devices : SimDevices) (targetId preferredPin : String)
    (userName : Option String) : Option PinCheck :=
  choosePin (resolveDevice registry targetId 4370).sn preferredPin userName
    ((simulatedUsers registry devices targetId).map SimUser.listed)

/-! ## What the decision can be -/

inductive PinChosen (existingUsers : List ListedUser) (preferredPin : String)
    (userName : Option String) : PinCheck → Prop where
  | free {check : PinCheck} :
      existingUsers.find? (ListedUser.hasId (strip preferredPin)) = none →
      check.targetPin = strip preferredPin → check.isMapped = false →
        PinChosen existingUsers preferredPin userName check
  | sameUser {check : PinCheck} {holder : ListedUser} :
      existingUsers.find? (ListedUser.hasId (strip preferredPin)) = some holder →
      isSameUser userName holder.name = true →
      check.targetPin = strip preferredPin → check.isMapped = false →
        PinChosen existingUsers preferredPin userName check
  | mapped {check : PinCheck} {holder : ListedUser} :
      existingUsers.find? (ListedUser.hasId (strip preferredPin)) = some holder →
      isSameUser userName holder.name = false →
      nextFreePin (strip preferredPin) (existingUsers.map ListedUser.userId) =
        some check.targetPin → check.isMapped = true →
        PinChosen existingUsers preferredPin userName check

theorem pinChosen_of_choosePin {targetSn preferredPin : String} {userName : Option String}
    {existingUsers : List ListedUser} {check : PinCheck}
    (chosen : choosePin targetSn preferredPin userName existingUsers = some check) :
    PinChosen existingUsers preferredPin userName check := by
  simp only [choosePin] at chosen
  split at chosen
  · rename_i missing
    cases chosen
    exact .free missing rfl rfl
  · rename_i holder first
    split at chosen
    · rename_i same
      cases chosen
      exact .sameUser first same rfl rfl
    · rename_i differs
      obtain ⟨mappedPin, found, same⟩ := Option.map_eq_some_iff.mp chosen
      cases same
      exact .mapped first (by simpa using differs) found rfl

theorem unreadable_of_choosePin {targetSn preferredPin : String} {userName : Option String}
    {existingUsers : List ListedUser}
    (raised : choosePin targetSn preferredPin userName existingUsers = none) :
    ∃ holder, existingUsers.find? (ListedUser.hasId (strip preferredPin)) = some holder ∧
      isSameUser userName holder.name = false ∧ Unreadable (strip preferredPin) := by
  simp only [choosePin] at raised
  split at raised
  · cases raised
  · rename_i holder first
    split at raised
    · cases raised
    · rename_i differs
      exact ⟨holder, first, by simpa using differs,
        nextFreePin_eq_none_iff.mp (Option.map_eq_none_iff.mp raised)⟩

theorem PinChosen.strip_targetPin {existingUsers : List ListedUser} {preferredPin : String}
    {userName : Option String} {check : PinCheck}
    (chosen : PinChosen existingUsers preferredPin userName check) :
    strip check.targetPin = check.targetPin := by
  cases chosen with
  | free _ target _ => rw [target, strip_strip]
  | sameUser _ _ target _ => rw [target, strip_strip]
  | mapped _ _ found _ => exact nextFreePin_strip found

end

theorem find?_listed (users : List SimUser) (pin : String) :
    (users.map SimUser.listed).find? (ListedUser.hasId pin) =
      (users.find? (SimUser.hasId pin)).map SimUser.listed := by
  rw [List.find?_map]
  rfl

theorem userIds_listed (users : List SimUser) :
    (users.map SimUser.listed).map ListedUser.userId = users.map SimUser.userId := by
  rw [List.map_map]
  rfl

end PumoBioMetric.Core
