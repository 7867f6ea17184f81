import PumoBioMetric.Router.CdataHandler
import PumoBioMetric.Sync.Liveness

/-!
# A reader calls in

`mark_seen` of `iclock.py` notes the time of the call, the registry entry and, through
`liveness.py`, the LMS heartbeat.  `cdata_handler` and `getrequest_handler` call it with
the `SN` of the request before anything else.
-/

set_option autoImplicit false

namespace PumoBioMetric.Router

open Py Sync

/-! ## Requests -/

/-- The query parameters (the last value of each key) and the address of the client. -/
structure Request where
  queryParams : Dict String
  client : Option String
deriving DecidableEq, Repr

def getQueryParamCi [UnicodeTables] (request : Request) (key : String) : Option String :=
  (request.queryParams.find? fun param => lower param.1 == lower key).map Prod.snd

/-! ## The registry of this service -/

structure ContactEntry where
  sn : String
  ip : String
  port : Nat
  name : String
  lastSeen : Option String
deriving DecidableEq, Repr

/-- `LAST_SYNC_TIMES`, `DEVICE_REGISTRY`, what its file decodes to, and the contacts on
their way to the LMS. -/
structure Contacts where
  lastSyncTimes : Dict Int
  registry : Dict ContactEntry
  registryFile : Option (Dict ContactEntry)
  liveness : Liveness
deriving DecidableEq, Repr

/-- The clocks during one call, and whether the registry file can be written. -/
structure ContactMoment where
  time : Int
  monotonic : Int
  isoNow : String
  writable : Bool
deriving DecidableEq, Repr

def contactEntry (moment : ContactMoment) (cleanSn clientIp : String) :
    Option ContactEntry → ContactEntry
  | none =>
      { sn := cleanSn
        ip := if clientIp = "" then "127.0.0.1" else clientIp
        port := 4370
        name := "eSSL Reader (" ++ cleanSn ++ ")"
        lastSeen := some moment.isoNow }
  | some entry =>
      { entry with
        ip := if clientIp = "" then entry.ip else clientIp
        lastSeen := some moment.isoNow }

section

variable [UnicodeTables]

/-- `mark_seen` of `iclock.py`. -/
def markSeen (config : SyncConfig) (moment : ContactMoment) (contacts : Contacts)
    (sn : Option String) (client : Option String) (force : Bool) : Contacts :=
  match sn with
  | none => contacts
  | some sn =>
      if sn = "" then contacts
      else
        let cleanSn := upper (strip sn)
        let registry :=
          if cleanSn = "" then contacts.registry
          else contacts.registry.set cleanSn
            (contactEntry moment cleanSn (client.getD "") (contacts.registry.get? cleanSn))
        { lastSyncTimes := contacts.lastSyncTimes.set cleanSn moment.time
          registry := registry
          registryFile :=
            if cleanSn = "" then contacts.registryFile
            else if moment.writable then some registry else none
          liveness :=
            recordContact config moment.monotonic contacts.liveness cleanSn client force }

def handleGetrequest (config : SyncConfig) (moment : ContactMoment) (contacts : Contacts)
    (queue : CommandQueue) (request : Request) : String × Contacts × CommandQueue :=
  let sn := getQueryParamCi request "SN"
  let (answer, after) := pollCommand queue sn
  (answer, markSeen config moment contacts sn request.client false, after)

structure CdataPost where
  request : Request
  post : AttendancePost
  sn_eq : post.sn = firstTruthy [getQueryParamCi request "SN"] "DEFAULT"
  table_eq : post.table = upper ((getQueryParamCi request "table").getD "")

def handleCdataPost [IsoFormat] (config : SyncConfig) (moment : ContactMoment)
    (contacts : Contacts) (state : RouterState) (push : CdataPost) : Contacts × Handled :=
  (markSeen config moment contacts (some push.post.sn) push.request.client false,
    handleAttendance state push.post)

end

end PumoBioMetric.Router
