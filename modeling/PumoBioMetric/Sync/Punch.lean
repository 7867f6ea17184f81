import PumoBioMetric.Library.KeyedTable
import PumoBioMetric.Py.Strptime
import PumoBioMetric.Router.PunchRecord

/-!
# Punches, the LMS punch table and `to_punch`

A punch is stored once for each `(device_serial, device_user_id, device_time)`.
`toPunch` is the gate between what a reader sent and what the LMS path keeps.
-/

set_option autoImplicit false

namespace PumoBioMetric.Sync

open PumoBioMetric.Py PumoBioMetric.Router

structure Punch where
  deviceSerial : String
  deviceUserId : String
  deviceTime : Naive
  punchState : Int := 0
  verifyMode : Option Int := none
  workCode : Option String := none
  deviceUserName : Option String := none
  deviceId : Option Int := none
  rawPayload : Option String := none
  deriving DecidableEq

abbrev PunchKey := String × String × Naive

def Punch.key (punch : Punch) : PunchKey :=
  (punch.deviceSerial, punch.deviceUserId, punch.deviceTime)

/-! ## The table -/

def keys (table : List Punch) : List PunchKey := table.map Punch.key

/-- The table after `save_punches` committed: every row offered, conflicts ignored. -/
def savePunches (table punches : List Punch) : List Punch :=
  KeyedTable.insertAll Punch.key table punches

theorem mem_keys_savePunches (table punches : List Punch) (wanted : PunchKey) :
    wanted ∈ keys (savePunches table punches) ↔
      wanted ∈ keys table ∨ ∃ punch ∈ punches, punch.key = wanted := by
  have offered : wanted ∈ punches.map Punch.key ↔ ∃ punch ∈ punches, punch.key = wanted :=
    List.mem_map
  rw [keys, savePunches, KeyedTable.mem_keys_insertAll, offered]
  rfl

theorem nodup_keys_savePunches (table punches : List Punch)
    (distinct : (keys table).Nodup) : (keys (savePunches table punches)).Nodup :=
  KeyedTable.nodup_insertAll Punch.key table punches distinct

theorem prefix_savePunches (table punches : List Punch) :
    table <+: savePunches table punches :=
  KeyedTable.prefix_insertAll Punch.key table punches

/-! ## `to_punch` -/

def ymd (separator : Char) : List Directive :=
  [.year, .literal separator, .month, .literal separator, .day]

def hms : List Directive :=
  [.hour, .literal ':', .minute, .literal ':', .second]

def timeFormats : List (List Directive) :=
  [ymd '-' ++ .space :: hms,
    ymd '/' ++ .space :: hms,
    ymd '-' ++ [.space, .hour, .literal ':', .minute],
    [.day, .literal '-', .month, .literal '-', .year, .space] ++ hms,
    [.year, .month, .day, .hour, .minute, .second]]

def parseTime (raw : String) : Option Naive :=
  let value := strip raw
  if value = "" then none else timeFormats.findSome? (strptime value)

def asInt (raw : String) (default : Option Int) : Option Int :=
  (int? (strip raw)).or default

/-- Turn one parsed row into a punch, or `none` if it is unusable. -/
def toPunch (record : PunchRecord) : Option Punch :=
  let pin := strip record.userId
  match parseTime record.timestamp with
  | none => none
  | some time =>
      if pin = "" then none
      else
        let serial := strip record.sn
        some {
          deviceSerial := if serial = "" then "UNKNOWN" else serial
          deviceUserId := pin
          deviceTime := time
          punchState := (asInt record.status (some 0)).getD 0
          verifyMode := asInt record.verifyType none
          workCode := some (if record.workCode = "" then "0" else record.workCode)
          -- "User 102" is the router's placeholder, not a name.
          deviceUserName :=
            if startsWith record.userName "User " then none else some record.userName
          rawPayload := if record.raw = "" then none else some record.raw }

/-- What one `ingest` call keeps of its records. -/
def usable (records : List PunchRecord) : List Punch := records.filterMap toPunch

def sampleTime : Naive := ⟨2026, 8, 15, 22, 12, 5, 0, by decide⟩

def sampleRecord : PunchRecord :=
  { id := "1", sn := "ZK1", userId := "102", userName := "User 102",
    userRole := "Normal User", timestamp := "2026-08-15 22:12:05", status := "0",
    verifyType := "1", workCode := "0", raw := "102", receivedAt := "" }

example : (toPunch sampleRecord).map (fun punch => (punch.deviceUserId, punch.deviceTime)) =
    some ("102", sampleTime) := by decide

/-- Where the fields of a stored punch come from. -/
theorem toPunch_origin {record : PunchRecord} {punch : Punch}
    (accepted : toPunch record = some punch) :
    parseTime record.timestamp = some punch.deviceTime ∧
      punch.deviceUserId = strip record.userId ∧ strip record.userId ≠ "" ∧
      punch.deviceSerial = (if strip record.sn = "" then "UNKNOWN" else strip record.sn) ∧
      punch.rawPayload = if record.raw = "" then none else some record.raw := by
  unfold toPunch at accepted
  cases parsed : parseTime record.timestamp with
  | none => simp [parsed] at accepted
  | some time =>
      simp only [parsed] at accepted
      split at accepted
      · contradiction
      · rename_i present
        cases Option.some.inj accepted
        exact ⟨rfl, rfl, present, rfl, rfl⟩

theorem toPunch_accepts {record : PunchRecord} {time : Naive}
    (parsed : parseTime record.timestamp = some time) (pin : strip record.userId ≠ "") :
    ∃ punch, toPunch record = some punch ∧ punch.deviceTime = time := by
  simp only [toPunch, parsed, pin, if_false]
  exact ⟨_, rfl, rfl⟩

end PumoBioMetric.Sync
