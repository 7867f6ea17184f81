import PumoBioMetric.Router.CommandDelivery
import PumoBioMetric.Router.Contact
import PumoBioMetric.Sync.SavedLog

/-!
# The iClock endpoints

Every route that a reader calls, and the dashboard's routes that touch the same state.  A
reader is told something only by `getrequest`: all other calls leave commands where they are, or
queue one more.
-/

set_option autoImplicit false

namespace PumoBioMetric.Router

open Py Sync

/-! ## The registry at import -/

/-- `DEVICE_REGISTRY` before its file is read. -/
def iclockRegistry : Dict ContactEntry :=
  [("NFZ8254900401",
      ⟨"NFZ8254900401", "192.168.1.209", 4370, "eSSL SilkBio-101TC (NFZ8254900401)", none⟩),
    ("UFZ9876543210",
      ⟨"UFZ9876543210", "192.168.1.210", 4370, "eSSL uFace 202 (UFZ9876543210)", none⟩),
    ("ZK1", ⟨"ZK1", "192.168.1.209", 4370, "eSSL Terminal (ZK1)", none⟩)]

def loadedRegistry (file : Option (Dict ContactEntry)) : Dict ContactEntry :=
  (file.getD []).foldl (fun current entry => current.set entry.1 entry.2) iclockRegistry

def Contacts.started (file : Option (Dict ContactEntry)) : Contacts :=
  ⟨[], loadedRegistry file, file, ⟨[], []⟩⟩

section

variable [UnicodeTables]

structure IclockServer where
  contacts : Contacts
  log : LogState

/-- What surrounds a body: the LMS names, ids and times of its rows, the clock at each broadcast,
whether the log file can be written, and the rows of users that the database takes. -/
structure CdataSurroundings where
  lms : LmsNames
  arrivals : Nat → Arrival
  clock : Nat → Int
  writable : Bool
  takes : DeviceUserRow → Bool

inductive IclockCall where
  /-- A GET of `cdata_handler`. -/
  | handshake (request : Request)
  /-- A POST of `cdata_handler`. -/
  | cdata (request : Request) (bodyStr : String) (around : CdataSurroundings)
  | getrequest (request : Request)
  | devicecmd (request : Request)
  | fdata (request : Request)
  | ping (request : Request)
  | triggerQueryUsers (sn : Option String)
  /-- An endpoint of another router that queues a command. -/
  | queueCommand (sn cmdBody : String)
  | autoSyncDeviceUsersBg (sn : String) (clientIp : Option String) (now : Int) (hasPyzk : Bool)
      (tcp : String → TcpSession)
  | syncDevicePunches (around : SyncSurroundings) (hasPyzk : Bool)
      (tcp : String → Int → TcpSession) (body : Option Json)
  | setUserName (takes : DeviceUserRow → Bool) (body : Option Json)
  | clearPunches

/-- The answer to a reader, `none` where an exception leaves or nobody waits, the lists that
`ingest` was called with, and the state. -/
structure Served where
  answer : Option String
  ingested : List (List PunchRecord)
  server : IclockServer

/-! ## The handlers -/

def cdataSn (request : Request) : String := firstTruthy [getQueryParamCi request "SN"] "DEFAULT"

def configResponse (sn : String) : String :=
  "\n".intercalate
    ["GET OPTION FROM: " ++ sn, "Stamp=0", "OpStamp=0", "PhotoStamp=0", "ErrorDelay=10", "Delay=5",
      "TransTimes=00:00;14:05", "TransInterval=1", "TransFlag=1111000000", "Realtime=1",
      "RealTime=1", "Encrypt=0", "ServerVersion=3.0.1", "PushVersion=3.2.1", "PushOptionsFlag=1",
      "PushProtVer=3.2.1"]

/-- `parse_oplog`: the name of each operator is looked up for the log line. -/
def parseOplog (lms : LmsNames) (cache : UserCache) (bodyStr : String) : UserCache :=
  (attlogLines bodyStr).foldl
    (fun cache line =>
      match splitChar '\t' line with
      | operatorPin :: _ :: _ :: _ => (getUserInfo lms cache (strip operatorPin)).2
      | _ => cache)
    cache

def withCommand (log : LogState) (sn cmdBody : String) : LogState :=
  { log with commands := (queueDeviceCmd log.commands sn cmdBody).2 }

def withNames (log : LogState) (names : NamesState) : LogState :=
  { log.withDashboard names.dashboard with users := names.users }

def withRouter (log : LogState) (state : RouterState) : LogState :=
  { log.withDashboard state.dashboard with commands := state.commands }

namespace IclockServer

variable (config : SyncConfig) (moment : ContactMoment) (server : IclockServer)

/-- The GET branch of `cdata_handler`; the user sync that it starts is a call of its own. -/
def handleHandshake (request : Request) : Served where
  answer := some (configResponse (cdataSn request))
  ingested := []
  server :=
    { contacts :=
        markSeen config moment server.contacts (some (cdataSn request)) request.client true
      log := withCommand server.log (cdataSn request) "DATA QUERY USERINFO" }

def noteContact (request : Request) : Served where
  answer := some "OK"
  ingested := []
  server :=
    { server with
      contacts := markSeen config moment server.contacts (getQueryParamCi request "SN")
        request.client false }

def handleDevicecmd (request : Request) : Served := noteContact config moment server request

def handleFdata (request : Request) : Served := noteContact config moment server request

def handlePing (request : Request) : Served := noteContact config moment server request

variable [IsoFormat]

/-- The POST branch of `cdata_handler`. -/
def handleCdata (request : Request) (bodyStr : String) (around : CdataSurroundings) : Served :=
  let sn := cdataSn request
  let table := upper ((getQueryParamCi request "table").getD "")
  let seen := markSeen config moment server.contacts (some sn) request.client false
  let effective := effectiveTable table bodyStr
  if operations : (contains effective "OPERLOG" || contains effective "OPLOG") = true then
    let dashboard := server.log.dashboard
    let learned :=
      { dashboard with cache := parseOplog around.lms dashboard.cache bodyStr }
    { answer := some "OK"
      ingested := []
      server :=
        { contacts := seen
          log := withCommand (server.log.withDashboard learned) sn "DATA QUERY USERINFO" } }
  else if users : (contains effective "USERINFO" || contains effective "USER") = true then
    let names := parseUserinfo around.takes bodyStr sn ⟨server.log.dashboard, server.log.users⟩
    { answer := some "OK"
      ingested := []
      server := { contacts := seen, log := withNames server.log names } }
  else
    let handled := handleAttendance ⟨server.log.dashboard, server.log.commands⟩
      { sn := sn
        table := table
        bodyStr := bodyStr
        routed := by
          rw [Bool.not_eq_true] at operations users
          rw [routedToAttendance, operations, users]
          rfl
        synced := id
        lms := around.lms
        arrivals := around.arrivals
        clock := around.clock
        writable := around.writable }
    { answer := handled.answer
      ingested := handled.ingested
      server := { contacts := seen, log := withRouter server.log handled.state } }

variable [ValueTables]

def serve : IclockCall → Served
  | .handshake request => handleHandshake config moment server request
  | .cdata request bodyStr around => handleCdata config moment server request bodyStr around
  | .getrequest request =>
      let (answer, contacts, commands) :=
        handleGetrequest config moment server.contacts server.log.commands request
      ⟨some answer, [], ⟨contacts, { server.log with commands := commands }⟩⟩
  | .devicecmd request => handleDevicecmd config moment server request
  | .fdata request => handleFdata config moment server request
  | .ping request => handlePing config moment server request
  | .triggerQueryUsers sn =>
      ⟨none, [], { server with
        log := withCommand server.log (sn.getD "NFZ8254900401") "DATA QUERY USERINFO" }⟩
  | .queueCommand sn cmdBody =>
      ⟨none, [], { server with log := withCommand server.log sn cmdBody }⟩
  | .autoSyncDeviceUsersBg sn clientIp now hasPyzk tcp =>
      let call : UserSyncCall := ⟨sn, clientIp, now, hasPyzk, server.contacts.registry, tcp⟩
      ⟨none, [], { server with log := Sync.autoSyncDeviceUsersBg call server.log }⟩
  | .syncDevicePunches around hasPyzk tcp body =>
      let synced := Sync.syncDevicePunches around hasPyzk server.contacts.registry tcp
        server.log.sync body
      ⟨none, [], { server with log := { server.log with sync := synced.state } }⟩
  | .setUserName takes body =>
      ⟨none, [], { server with log := Sync.setUserName takes body server.log }⟩
  | .clearPunches =>
      ⟨none, [],
        { server with log := server.log.withDashboard (Sync.clearPunches server.log.dashboard) }⟩

def serveAll (server : IclockServer) :
    List (ContactMoment × IclockCall) → List (IclockCall × Option String) × IclockServer
  | [] => ([], server)
  | (moment, call) :: rest =>
      let served := server.serve config moment call
      let (history, final) := serveAll served.server rest
      ((call, served.answer) :: history, final)

end IclockServer

/-! ## What a call can do -/

/-- The `SN`, the client and whether the LMS is told at once, where a call notes a contact. -/
def IclockCall.contact : IclockCall → Option (Option String × Option String × Bool)
  | .handshake request => some (some (cdataSn request), request.client, true)
  | .cdata request _ _ => some (some (cdataSn request), request.client, false)
  | .getrequest request | .devicecmd request | .fdata request | .ping request =>
      some (getQueryParamCi request "SN", request.client, false)
  | _ => none

def IclockCall.poll : IclockCall → Option (Option String)
  | .getrequest request => some (getQueryParamCi request "SN")
  | _ => none

section

variable [IsoFormat]

omit [UnicodeTables] [IsoFormat] in
theorem commands_withNames (log : LogState) (names : NamesState) :
    (withNames log names).commands = log.commands := rfl

omit [UnicodeTables] [IsoFormat] in
theorem commands_withRouter (log : LogState) (state : RouterState) :
    (withRouter log state).commands = state.commands := rfl

theorem commands_handleAttendance (state : RouterState) (post : AttendancePost) :
    (handleAttendance state post).state.commands = state.commands ∨
      (handleAttendance state post).state.commands =
        (queueDeviceCmd state.commands post.sn "DATA QUERY USERINFO").2 := by
  unfold handleAttendance
  dsimp only
  split
  · exact .inl rfl
  · generalize hasUnknown _ _ = unknown
    cases unknown <;> split <;> simp

variable [ValueTables] (config : SyncConfig) (moment : ContactMoment) (server : IclockServer)

theorem serve_contacts (call : IclockCall) :
    (server.serve config moment call).server.contacts =
      match call.contact with
      | none => server.contacts
      | some (sn, client, force) => markSeen config moment server.contacts sn client force := by
  cases call with
  | cdata request bodyStr around =>
      rw [IclockServer.serve, IclockServer.handleCdata]
      dsimp only
      split
      · rfl
      · split <;> rfl
  | _ => rfl

/-- A call polls, or queues a command, or leaves the commands as they are. -/
theorem serve_commands (call : IclockCall) :
    (∃ sn, call.poll = some sn ∧
      (server.serve config moment call).answer = some (pollCommand server.log.commands sn).1 ∧
      (server.serve config moment call).server.log.commands =
        (pollCommand server.log.commands sn).2) ∨
    call.poll = none ∧
      ((server.serve config moment call).server.log.commands = server.log.commands ∨
        ∃ sn cmdBody, (server.serve config moment call).server.log.commands =
          (queueDeviceCmd server.log.commands sn cmdBody).2) := by
  cases call with
  | getrequest request => exact .inl ⟨_, rfl, rfl, rfl⟩
  | handshake request => exact .inr ⟨rfl, .inr ⟨_, _, rfl⟩⟩
  | triggerQueryUsers sn => exact .inr ⟨rfl, .inr ⟨_, _, rfl⟩⟩
  | queueCommand sn cmdBody => exact .inr ⟨rfl, .inr ⟨_, _, rfl⟩⟩
  | devicecmd request => exact .inr ⟨rfl, .inl rfl⟩
  | fdata request => exact .inr ⟨rfl, .inl rfl⟩
  | ping request => exact .inr ⟨rfl, .inl rfl⟩
  | clearPunches => exact .inr ⟨rfl, .inl rfl⟩
  | syncDevicePunches around hasPyzk tcp body => exact .inr ⟨rfl, .inl rfl⟩
  | setUserName takes body =>
      refine .inr ⟨rfl, .inl ?_⟩
      rw [IclockServer.serve]
      unfold Sync.setUserName
      dsimp only
      split
      · split <;> rfl
      · rfl
  | autoSyncDeviceUsersBg sn clientIp now hasPyzk tcp =>
      refine .inr ⟨rfl, ?_⟩
      rw [IclockServer.serve]
      unfold Sync.autoSyncDeviceUsersBg
      dsimp only
      split
      · exact .inl rfl
      · split
        · exact .inl rfl
        · split
          · exact .inr ⟨_, _, rfl⟩
          · exact .inl rfl
  | cdata request bodyStr around =>
      refine .inr ⟨rfl, ?_⟩
      rw [IclockServer.serve, IclockServer.handleCdata]
      dsimp only
      split
      · exact .inr ⟨cdataSn request, "DATA QUERY USERINFO", rfl⟩
      · split
        · exact .inl (commands_withNames server.log _)
        · generalize AttendancePost.mk _ _ _ _ _ _ _ _ _ = post
          dsimp only
          rw [commands_withRouter]
          rcases commands_handleAttendance ⟨server.log.dashboard, server.log.commands⟩ post with
            same | queued
          · exact .inl same
          · exact .inr ⟨post.sn, "DATA QUERY USERINFO", queued⟩

end

end

end PumoBioMetric.Router
