import PumoBioMetric.Py.JsonText
import PumoBioMetric.Py.Strftime
import PumoBioMetric.Sync.Punch

/-!
# `Punch.to_json` and `Punch.from_json`

`from_json` converts three of the nine fields and keeps whatever JSON value stands in
the others, so what it returns is a punch with untyped fields.
-/

set_option autoImplicit false

namespace PumoBioMetric.Sync

open PumoBioMetric.Py PumoBioMetric.Router

inductive Raised where
  | valueError
  | keyError
  | typeError
  | overflowError
  deriving DecidableEq

/-- `str` of a JSON value that is no string, and `int` of a float. -/
class ValueTables where
  strOf : Json → String
  intOfFloat : String → Except Raised Int

/-- Tables that know the scalars and no float. -/
@[reducible] def ValueTables.scalars : ValueTables where
  strOf
    | .null => "None"
    | .bool true => "True"
    | .bool false => "False"
    | .int value => toString value
    | value => String.ofList (dumps value)
  intOfFloat _ := .error .valueError

/-- A `Punch` as `from_json` builds it. -/
structure SpooledPunch where
  deviceSerial : Json
  deviceUserId : String
  deviceTime : Naive
  punchState : Int
  verifyMode : Json
  workCode : Json
  deviceUserName : Json
  deviceId : Json
  rawPayload : Json

def optional {Value : Type} (wrap : Value → Json) : Option Value → Json
  | none => .null
  | some value => wrap value

def Punch.held (punch : Punch) : SpooledPunch where
  deviceSerial := .str punch.deviceSerial
  deviceUserId := punch.deviceUserId
  deviceTime := punch.deviceTime
  punchState := punch.punchState
  verifyMode := optional .int punch.verifyMode
  workCode := optional .str punch.workCode
  deviceUserName := optional .str punch.deviceUserName
  deviceId := optional .int punch.deviceId
  rawPayload := optional .str punch.rawPayload

/-- `to_json` before `json.dumps`. -/
def SpooledPunch.record (punch : SpooledPunch) : Json :=
  .obj [("device_serial", punch.deviceSerial),
    ("device_user_id", .str punch.deviceUserId),
    ("device_time", .str (strftime punch.deviceTime standardFormat)),
    ("punch_state", .int punch.punchState),
    ("verify_mode", punch.verifyMode),
    ("work_code", punch.workCode),
    ("device_user_name", punch.deviceUserName),
    ("device_id", punch.deviceId),
    ("raw_payload", punch.rawPayload)]

def SpooledPunch.toJson (punch : SpooledPunch) : List Char := dumps punch.record

/-- `raw[key]` -/
def Json.item (raw : Json) (key : String) : Except Raised Json :=
  match raw with
  | .obj members =>
      match members.lookup key with
      | some value => .ok value
      | none => .error .keyError
  | .null | .bool _ | .int _ | .real _ | .str _ | .arr _ => .error .typeError

/-- What `json.dumps` can write and `strftime` does not cut off. -/
def SpooledPunch.Whole (punch : SpooledPunch) : Prop :=
  punch.record.WellFormed ∧ punch.deviceTime.microsecond = 0

theorem held_whole {punch : Punch} (whole : punch.deviceTime.microsecond = 0) :
    punch.held.Whole := by
  have distinct : ["device_serial", "device_user_id", "device_time", "punch_state",
      "verify_mode", "work_code", "device_user_name", "device_id", "raw_payload"].Nodup := by
    decide
  have numbers : ∀ value, (optional Json.int value).WellFormed := by
    intro value
    cases value <;> trivial
  have texts : ∀ value, (optional Json.str value).WellFormed := by
    intro value
    cases value <;> trivial
  exact ⟨⟨distinct, trivial, trivial, trivial, trivial, numbers _, texts _, texts _, numbers _,
    texts _, trivial⟩, whole⟩

section

variable [ValueTables]

def strOf : Json → String
  | .str text => text
  | value => ValueTables.strOf value

/-- `int(value or 0)`; a float zero is left to `int`. -/
def intOrZero : Json → Except Raised Int
  | .null => .ok 0
  | .bool value => .ok (if value then 1 else 0)
  | .int value => .ok value
  | .real literal => ValueTables.intOfFloat literal
  | .str text =>
      if text = "" then .ok 0
      else match int? text with
        | some value => .ok value
        | none => .error .valueError
  | .arr items => if items.isEmpty then .ok 0 else .error .typeError
  | .obj members => if members.isEmpty then .ok 0 else .error .typeError

/-- `datetime.strptime(value, "%Y-%m-%d %H:%M:%S")` -/
def timeOf : Json → Except Raised Naive
  | .str text =>
      match strptime text standardFormat with
      | some time => .ok time
      | none => .error .valueError
  | .null | .bool _ | .int _ | .real _ | .arr _ | .obj _ => .error .typeError

def fromJson (line : List Char) : Except Raised SpooledPunch :=
  match loads line with
  | none => .error .valueError
  | some raw => do
      let get key := (raw.get? key).getD .null
      let deviceSerial ← Json.item raw "device_serial"
      let deviceUserId ← Json.item raw "device_user_id"
      let deviceTime ← Json.item raw "device_time"
      let time ← timeOf deviceTime
      let punchState ← intOrZero (get "punch_state")
      pure {
        deviceSerial := deviceSerial
        deviceUserId := strOf deviceUserId
        deviceTime := time
        punchState := punchState
        verifyMode := get "verify_mode"
        workCode := get "work_code"
        deviceUserName := get "device_user_name"
        deviceId := get "device_id"
        rawPayload := get "raw_payload" }

/-- A punch that went to disk comes back identical. -/
theorem fromJson_toJson {punch : SpooledPunch} (whole : punch.Whole) :
    fromJson punch.toJson = .ok punch := by
  have time : timeOf (.str (strftime punch.deviceTime standardFormat)) = .ok punch.deviceTime := by
    rw [timeOf, strptime_strftime _ whole.2]
  unfold fromJson SpooledPunch.toJson
  rw [loads_dumps whole.1]
  simp [SpooledPunch.record, Json.item, Json.get?, List.lookup_cons, bind, Except.bind, pure,
    Except.pure, time, intOrZero, strOf]

end

end PumoBioMetric.Sync
