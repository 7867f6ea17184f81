import PumoBioMetric.Router.Attlog
import PumoBioMetric.Router.CommandQueue
import PumoBioMetric.Router.PunchLog

/-!
# The attendance branch of `cdata_handler`

A POST is routed by its table; the attendance branch parses the body, shows every punch
on the dashboard and then hands all of them to `ingest`.
-/

set_option autoImplicit false

namespace PumoBioMetric.Router

open Py

section

variable [UnicodeTables]

/-! ## Routing -/

/-- `effective_table`, given the upper-cased query parameter. -/
def effectiveTable (table bodyStr : String) : String :=
  if table ≠ "" then table
  else
    let firstLine := upper (strip ((splitChar '\n' bodyStr).head?.getD ""))
    if contains firstLine "ATTLOG" then "ATTLOG"
    else if contains firstLine "OPERLOG" || contains firstLine "OPLOG" then "OPERLOG"
    else if contains firstLine "RTLOG" then "RTLOG"
    else "ATTLOG"

def routedToAttendance (table bodyStr : String) : Bool :=
  let effective := effectiveTable table bodyStr
  !(contains effective "OPERLOG" || contains effective "OPLOG") &&
    !(contains effective "USERINFO" || contains effective "USER")

/-- A POST that reaches the attendance branch, with what its surroundings give: what the
background user sync made of the names since the POST before (`synced`), the LMS names, ids
and times of the rows, the clock at each broadcast, and whether the log file can be
written. -/
structure AttendancePost where
  sn : String
  table : String
  bodyStr : String
  routed : routedToAttendance table bodyStr = true
  synced : UserCache → UserCache
  lms : LmsNames
  arrivals : Nat → Arrival
  clock : Nat → Int
  writable : Bool

structure RouterState where
  dashboard : Dashboard
  commands : CommandQueue

def RouterState.withEmptyLog (logsFile : Option (List PunchRecord)) (cache : UserCache)
    (commands : CommandQueue) : RouterState :=
  ⟨⟨[], logsFile, cache⟩, commands⟩

namespace AttendancePost

variable (post : AttendancePost)

def rows : List AttRow := attlogRows (fun index => (post.arrivals index).nowText) post.bodyStr

/-- `new_punches` and the cache after `parse_attlog`. -/
def newPunches (cache : UserCache) : List PunchRecord × UserCache :=
  parseAttlog post.lms post.arrivals (post.synced cache) post.bodyStr post.sn

end AttendancePost

/-! ## The branch -/

def hasUnknown (cache : UserCache) (newPunches : List PunchRecord) : Bool :=
  newPunches.any fun punch =>
    match cache.get? (strip punch.userId) with
    | none => true
    | some info => startsWith (info.name.getD "") "User "

section

variable [IsoFormat]

/-- The loop of banner and broadcast: the punches as they are now, `none` where an
exception leaves it. -/
def announceAll (post : AttendancePost) :
    Nat → Dashboard → List PunchRecord → Option (List PunchRecord) × Dashboard
  | _, dashboard, [] => (some [], dashboard)
  | index, dashboard, punch :: rest =>
      -- `format_punch_banner` looks the name up once more.
      let named := { dashboard with
        cache := (getUserInfo post.lms dashboard.cache (strip punch.userId)).2 }
      match broadcastPunch post.lms (post.clock index) post.writable named punch with
      | (none, after) => (none, after)
      | (some announced, after) =>
          let (others, final) := announceAll post (index + 1) after rest
          (others.map fun handed => announced :: handed, final)

/-- The answer (`none` where an exception leaves), the lists `ingest` was called with, and
the state. -/
structure Handled where
  answer : Option String
  ingested : List (List PunchRecord)
  state : RouterState

def handleAttendance (state : RouterState) (post : AttendancePost) : Handled :=
  let (punches, cache) := post.newPunches state.dashboard.cache
  let parsed := { state.dashboard with cache := cache }
  if punches.isEmpty then
    { answer := some "OK", ingested := [], state := { state with dashboard := parsed } }
  else
    let commands :=
      if hasUnknown cache punches then
        (queueDeviceCmd state.commands post.sn "DATA QUERY USERINFO").2
      else state.commands
    match announceAll post 0 parsed punches with
    | (none, dashboard) => { answer := none, ingested := [], state := ⟨dashboard, commands⟩ }
    | (some handed, dashboard) =>
        { answer := some "OK", ingested := [handed], state := ⟨dashboard, commands⟩ }

def afterPosts (start : RouterState) (posts : List AttendancePost) : RouterState :=
  posts.foldl (fun state post => (handleAttendance state post).state) start

end

end

end PumoBioMetric.Router
