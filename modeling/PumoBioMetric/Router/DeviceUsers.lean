import PumoBioMetric.Py.Split
import PumoBioMetric.Router.UserCache

/-!
# `biometric_device_users`

The LMS's mirror of the user lists of all readers, one row for each serial and PIN, in the
order of `updated_at` with the newest row first.  `get_user_info` takes the newest row with
the PIN, whichever reader it came from.
-/

set_option autoImplicit false

namespace PumoBioMetric.Router

open Py

/-- A row; `none` is NULL. -/
structure DeviceUserRow where
  deviceSerial : Option String
  deviceUserId : String
  name : Option String
  role : Option String
deriving DecidableEq, Repr

abbrev DeviceUserTable := List DeviceUserRow

namespace DeviceUserRow

/-- `device_serial = %s AND device_user_id = %s`. -/
def isFor (serial pin : String) (row : DeviceUserRow) : Bool :=
  row.deviceSerial == some serial && row.deviceUserId == pin

/-- The unique constraint on serial and PIN, which a NULL never meets. -/
def conflicts (fresh row : DeviceUserRow) : Bool :=
  fresh.deviceSerial.any fun serial => row.isFor serial fresh.deviceUserId

def info (row : DeviceUserRow) : UserInfo :=
  ⟨row.name.map strip, some (firstTruthy [row.role] "Normal User")⟩

theorem conflicts_pin {fresh row : DeviceUserRow} (same : fresh.conflicts row = true) :
    row.deviceUserId = fresh.deviceUserId := by
  rw [conflicts] at same
  cases serial : fresh.deviceSerial with
  | none =>
      rw [serial] at same
      cases same
  | some serial' =>
      rw [serial, Option.any_some, isFor, Bool.and_eq_true, beq_iff_eq, beq_iff_eq] at same
      exact same.2

end DeviceUserRow

namespace DeviceUserTable

/-- `INSERT ... ON CONFLICT (device_serial, device_user_id) DO UPDATE`, with what the update
sets. -/
def upsert (table : DeviceUserTable) (fresh : DeviceUserRow)
    (update : DeviceUserRow → DeviceUserRow) : DeviceUserTable :=
  ((table.find? fresh.conflicts).elim fresh update) ::
    table.filter fun row => !fresh.conflicts row

def newest? (table : DeviceUserTable) (pin : String) : Option DeviceUserRow :=
  table.find? fun row => row.deviceUserId == pin

theorem newest?_upsert (table : DeviceUserTable) (fresh : DeviceUserRow)
    (update : DeviceUserRow → DeviceUserRow)
    (keeps : ∀ row, (update row).deviceUserId = row.deviceUserId) (pin : String) :
    newest? (upsert table fresh update) pin =
      if fresh.deviceUserId = pin then some ((table.find? fresh.conflicts).elim fresh update)
      else newest? table pin := by
  have head : ((table.find? fresh.conflicts).elim fresh update).deviceUserId =
      fresh.deviceUserId := by
    cases found : table.find? fresh.conflicts with
    | none => rfl
    | some row => exact (keeps row).trans (DeviceUserRow.conflicts_pin (List.find?_some found))
  rw [newest?, upsert]
  by_cases own : fresh.deviceUserId = pin
  · rw [if_pos own, List.find?_cons_of_pos (by simpa [head] using own)]
  · rw [if_neg own, List.find?_cons_of_neg (by simpa [head] using own), List.find?_filter, newest?]
    congr 1
    funext row
    by_cases wanted : row.deviceUserId = pin
    · have spared : fresh.conflicts row = false := by
        by_contra met
        exact own ((DeviceUserRow.conflicts_pin (by simpa using met)).symm.trans wanted)
      simp [spared, wanted]
    · simp [wanted]

end DeviceUserTable

/-! ## Names out of the LMS -/

/-- The first query of `get_user_info`. -/
def queryDeviceUsers (table : DeviceUserTable) (pin : String) : Option UserInfo :=
  (table.newest? pin).bind fun row => if row.name.getD "" = "" then none else some row.info

def lmsNames (answers : String → Bool) (staff : LmsNames) (table : DeviceUserTable) : LmsNames :=
  fun pin => if answers pin then (queryDeviceUsers table pin).or (staff pin) else none

/-! ## `save_device_user_db` -/

section

variable [UnicodeTables]

/-- The row that is saved where the database takes it; `none` where PIN or name is missing or
the name is a placeholder. -/
def deviceUserRow (takes : DeviceUserRow → Bool) (sn pin name role : String) :
    Option DeviceUserRow :=
  let cleanPin := strip pin
  let cleanName := strip name
  if cleanPin = "" ∨ cleanName = "" ∨ startsWith cleanName "User " then none
  else
    (some {
      deviceSerial := some (upper (strip (if sn = "" then "UNKNOWN" else sn)))
      deviceUserId := cleanPin
      name := some cleanName
      role := some (strip (if role = "" then "Normal User" else role)) }).filter takes

def saveDeviceUserDb (takes : DeviceUserRow → Bool) (sn pin name role : String)
    (table : DeviceUserTable) : DeviceUserTable :=
  match deviceUserRow takes sn pin name role with
  | none => table
  | some row => table.upsert row fun held => { held with name := row.name, role := row.role }

theorem deviceUserRow_name {takes : DeviceUserRow → Bool} {sn pin name role : String}
    {row : DeviceUserRow} (saved : deviceUserRow takes sn pin name role = some row) :
    row.deviceUserId = strip pin ∧ row.name = some (strip name) ∧ strip name ≠ "" := by
  simp only [deviceUserRow] at saved
  split at saved
  · cases saved
  · rename_i named
    obtain ⟨_, present, _⟩ := not_or.mp named |>.imp_right not_or.mp
    rw [← Option.some.inj (Option.filter_eq_some_iff.mp saved).1]
    exact ⟨rfl, rfl, present⟩

/-- What the mirror knows of a PIN after a save: the row that was saved under it, else what it
knew. -/
theorem queryDeviceUsers_save (takes : DeviceUserRow → Bool) (sn pin name role : String)
    (table : DeviceUserTable) (wanted : String) :
    queryDeviceUsers (saveDeviceUserDb takes sn pin name role table) wanted =
      if strip pin = wanted then
        ((deviceUserRow takes sn pin name role).map DeviceUserRow.info).or
          (queryDeviceUsers table wanted)
      else queryDeviceUsers table wanted := by
  rw [saveDeviceUserDb]
  cases saved : deviceUserRow takes sn pin name role with
  | none => simp
  | some row =>
      obtain ⟨own, named, present⟩ := deviceUserRow_name saved
      dsimp only
      have newest := table.newest?_upsert row
        (fun held => { held with name := row.name, role := row.role }) (fun _ => rfl) wanted
      rw [queryDeviceUsers, newest, own]
      split
      · cases table.find? row.conflicts with
        | none => simp [named, present, DeviceUserRow.info]
        | some held => simp [named, present, DeviceUserRow.info]
      · rfl

end

end PumoBioMetric.Router
