import PumoBioMetric.Core.ReaderCalls
import PumoBioMetric.Router.Contact
import PumoBioMetric.Sync.IngestExits

/-!
# `sync_device_punches`

The attendance records of one reader are read over TCP, compared with the dashboard's log
by user id and timestamp, and those that are new there are broadcast and handed to `ingest`
one by one.
-/

set_option autoImplicit false

namespace PumoBioMetric.Sync

open PumoBioMetric.Py PumoBioMetric.Router

/-! ## The reader -/

/-- `zk.attendance.Attendance`: the protocol has whole seconds. -/
structure Attendance where
  userId : String
  timestamp : Naive
  whole : timestamp.microsecond = 0
  status : Int
  punch : Option Int
deriving DecidableEq

/-- `str(r.timestamp)`. -/
def Attendance.text (record : Attendance) : String := strftime record.timestamp standardFormat

/-- What the lock and the calls of one session over TCP give. -/
structure TcpSession where
  busy : Bool
  connect : Except String Unit
  getUsers : Except String (List Core.ZkUser)
  getAttendance : Except String (List Attendance)

/-- `_sync`: the records and the users, or the error. -/
def TcpSession.download (session : TcpSession) :
    Except String (List Attendance × List Core.ZkUser) :=
  if session.busy then .error "Device TCP port 4370 is currently busy"
  else
    match session.connect with
    | .error error => .error error
    | .ok () =>
        -- An exception of `get_users` is passed over.
        session.getAttendance.map fun records => (records, session.getUsers.toOption.getD [])

/-! ## The request -/

/-- A value that `or` keeps; a number is read off its digits, whatever its exponent. -/
def isTruthy : Json → Bool
  | .null => false
  | .bool value => value
  | .int value => value != 0
  | .real literal =>
      (literal.toList.takeWhile fun char => char != 'e' && char != 'E').any fun char =>
        char.isDigit && char != '0'
  | .str text => text != ""
  | .arr items => !items.isEmpty
  | .obj members => !members.isEmpty

structure SyncTarget where
  sn : String
  ip : String
  port : Int
deriving DecidableEq, Repr

section

variable [ValueTables]

def intOf : Json → Except Raised Int
  | .null => .error .typeError
  | .bool value => .ok (if value then 1 else 0)
  | .int value => .ok value
  | .real literal => ValueTables.intOfFloat literal
  | .str text =>
      match int? text with
      | some value => .ok value
      | none => .error .valueError
  | .arr _ => .error .typeError
  | .obj _ => .error .typeError

/-- `str(value or default)` of a field, stripped. -/
def fieldText (data : Dict Json) (key default : String) : String :=
  match data.get? key with
  | none => strip default
  | some value => if isTruthy value then strip (strOf value) else strip default

/-- The reader that the body of the request asks for; `none` where an exception leaves. -/
def syncTarget (registry : Dict ContactEntry) (data : Dict Json) : Option SyncTarget :=
  let sn := fieldText data "sn" "NFZ8254900401"
  let targetIp := fieldText data "ip" ""
  match intOf ((data.get? "port").getD (.int 4370)) with
  | .error _ => none
  | .ok port =>
      if targetIp ≠ "" then some ⟨sn, targetIp, port⟩
      else
        match registry.get? sn with
        | none => some ⟨sn, "192.168.0.210", 4370⟩
        | some devInfo => some ⟨sn, devInfo.ip, devInfo.port⟩

end

/-- `data`: an empty dictionary where the body is no JSON, `none` where it is no object. -/
def requestData : Option Json → Option (Dict Json)
  | none => some []
  | some (.obj members) => some members
  | some _ => none

/-! ## Names found on the reader -/

def namedUsers (devUsers : List Core.ZkUser) : List (String × UserInfo) :=
  devUsers.filterMap fun user =>
    if strip user.userId = "" ∨ strip user.name = "" then none
    else some (strip user.userId, ⟨some (strip user.name), some (Core.roleLabel user.privilege)⟩)

def renameRows (pin : String) (info : UserInfo) (logs : List PunchRecord) : List PunchRecord :=
  logs.map fun punch =>
    if strip punch.userId = pin then
      { punch with userName := info.name.getD "", userRole := info.role.getD "" }
    else punch

def isUnnamed (cache : UserCache) (pin : String) : Bool :=
  !(cache.get? pin).any UserInfo.isNamed

/-- The loop over the users of the reader: `names_updated`, the cache and the log. -/
def discoverNames : Nat → UserCache → List PunchRecord → List (String × UserInfo) →
    Nat × UserCache × List PunchRecord
  | updated, cache, logs, [] => (updated, cache, logs)
  | updated, cache, logs, (pin, info) :: rest =>
      if isUnnamed cache pin then
        discoverNames (updated + 1) (cache.set pin info) (renameRows pin info logs) rest
      else discoverNames updated cache logs rest

/-! ## One new record -/

abbrev CacheKey := String × String

def Attendance.cacheKey (record : Attendance) : CacheKey := (record.userId, record.text)

def existingKeys (logs : List PunchRecord) : List CacheKey :=
  logs.map fun punch => (punch.userId, punch.timestamp)

def punchObj (sn : String) (info : UserInfo) (arrival : Arrival) (record : Attendance) :
    PunchRecord where
  id := arrival.id
  sn := sn
  userId := record.userId
  userName := info.nameFor record.userId
  userRole := info.roleOrNormal
  timestamp := record.text
  status := toString record.status
  verifyType := toString (record.punch.getD 1)
  workCode := "0"
  raw := record.userId ++ "\t" ++ record.text ++ "\t" ++ toString record.status ++ "\t" ++
    (match record.punch with
      | none => "None"
      | some punch => toString punch) ++ "\t0"
  receivedAt := arrival.receivedAt
  statusLabel := some ((punchStatusMap.get? (toString record.status)).getD "Check-In")
  verifyLabel := some ((verifyModes.get? (toString (record.punch.getD 1))).getD "Fingerprint")

/-- What surrounds one call: the LMS names, ids and times of the new records, the clock and
the log file at each broadcast and at the end, the log file after names were found, and the
database. -/
structure SyncSurroundings where
  lms : LmsNames
  arrivals : Nat → Arrival
  clock : Nat → Int
  writable : Nat → Bool
  namesWritable : Bool
  enabled : Bool
  configured : Bool
  saves : FaultyCalls.Faults SaveError

structure SyncState where
  dashboard : Dashboard
  database : FaultyCalls.Session Store SaveEvent

section

variable [IsoFormat] (around : SyncSurroundings) (sn : String)

/-- The broadcast of a record that is new on the dashboard. -/
def offerRecord (index : Nat) (dashboard : Dashboard) (record : Attendance) :
    Option PunchRecord × Dashboard :=
  let known := getUserInfo around.lms dashboard.cache record.userId
  broadcastPunch around.lms (around.clock index) (around.writable index)
    { dashboard with cache := known.2 } (punchObj sn known.1 (around.arrivals index) record)

/-- Such a record: the punch as it was broadcast, `none` where an exception leaves. -/
def syncRecord (index : Nat) (state : SyncState) (record : Attendance) :
    Option PunchRecord × SyncState :=
  match offerRecord around sn index state.dashboard record with
  | (none, dashboard) => (none, { state with dashboard := dashboard })
  | (some announced, dashboard) =>
      (some announced,
        ⟨dashboard,
          (ingest around.enabled around.configured [announced] around.saves state.database).2⟩)

/-- The loop: `new_added` (`none` where an exception leaves), the broadcasts and the state. -/
structure SyncLoop where
  newAdded : Option Nat
  announced : List PunchRecord
  state : SyncState

def syncEach : Nat → List CacheKey → SyncState → List Attendance → SyncLoop
  | index, _, state, [] => ⟨some index, [], state⟩
  | index, existing, state, record :: rest =>
      if record.cacheKey ∈ existing then syncEach index existing state rest
      else
        match syncRecord around sn index state record with
        | (none, after) => ⟨none, [], after⟩
        | (some announced, after) =>
            let loop := syncEach (index + 1) (existing ++ [record.cacheKey]) after rest
            { loop with announced := announced :: loop.announced }

/-! ## The call -/

/-- The end of a call with new records: the log is pruned once more while its file is open. -/
def finalPrune (newAdded : Nat) (dashboard : Dashboard) : Dashboard :=
  if newAdded = 0 then dashboard
  else if around.writable newAdded then
    match prunePunchLogs (around.clock newAdded) dashboard.logs with
    | none => { dashboard with logsFile := none }
    | some logs => { dashboard with logs := logs, logsFile := some logs }
  else { dashboard with logsFile := none }

inductive SyncReply where
  /-- Status 400. -/
  | failed (error : String)
  | synced (message : String) (newPunches totalOnDevice totalStored usersDiscovered : Nat)
deriving DecidableEq, Repr

def SyncReply.ok : SyncReply → Bool
  | failed _ => false
  | synced .. => true

/-- The answer (`none` where an exception leaves), the broadcasts and the state. -/
structure DeviceSynced where
  answer : Option SyncReply
  announced : List PunchRecord
  state : SyncState

def learnNames (dashboard : Dashboard) (devUsers : List Core.ZkUser) : Nat × Dashboard :=
  let (updated, cache, logs) := discoverNames 0 dashboard.cache dashboard.logs (namedUsers devUsers)
  (updated,
    { logs := logs
      logsFile :=
        if updated = 0 then dashboard.logsFile
        else if around.namesWritable then some logs else none
      cache := cache })

def syncDownloaded (target : SyncTarget) (state : SyncState) (records : List Attendance)
    (devUsers : List Core.ZkUser) : DeviceSynced :=
  let (namesUpdated, dashboard) := learnNames around state.dashboard devUsers
  let loop := syncEach around target.sn 0 (existingKeys dashboard.logs)
    { state with dashboard := dashboard } records
  match loop.newAdded with
  | none => ⟨none, loop.announced, loop.state⟩
  | some newAdded =>
      let final := finalPrune around newAdded loop.state.dashboard
      ⟨some (.synced
          ("Successfully synced " ++ toString newAdded ++ " new punches from " ++ target.sn ++ " (" ++
            target.ip ++ ":" ++ toString target.port ++ ")")
          newAdded records.length final.logs.length namesUpdated),
        loop.announced, { loop.state with dashboard := final }⟩

def syncDevicePunches [ValueTables] (hasPyzk : Bool) (registry : Dict ContactEntry)
    (tcp : String → Int → TcpSession) (state : SyncState) (body : Option Json) : DeviceSynced :=
  match (requestData body).bind (syncTarget registry) with
  | none => ⟨none, [], state⟩
  | some target =>
      if hasPyzk then
        match (tcp target.ip target.port).download with
        | .error error =>
            ⟨some (.failed ("Failed to connect to " ++ target.ip ++ ":" ++ toString target.port ++
              " - " ++ error)), [], state⟩
        | .ok (records, devUsers) => syncDownloaded around target state records devUsers
      else ⟨some (.failed "pyzk library not installed"), [], state⟩

end

end PumoBioMetric.Sync
