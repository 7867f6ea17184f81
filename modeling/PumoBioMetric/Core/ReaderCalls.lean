import PumoBioMetric.Core.HardwareMigration
import PumoBioMetric.Router.CommandQueue
import PumoBioMetric.Sync.PunchJson

/-!
# The functions that open one reader

`probe_device_connection`, `fetch_device_users`, `create_device_user`,
`delete_device_user_real` and `delete_batch_device_users` with a real reader, each with
its own `try`, `except` and `finally`.  What they do to name caches and to the mirror of
the device's users is under a `try` that swallows everything and is left out.
-/

set_option autoImplicit false

namespace PumoBioMetric.Core

open Py FirstMatch FaultyCalls Router

section

variable {Net : Type} [Network Net]

/-- `if conn: try: conn.disconnect()`. -/
def disconnectAll : List Connection → ReaderProgram Net Unit
  | [] => pure ()
  | connection :: rest => do
      Program.attempt connection.disconnect fun _ => pure ()
      disconnectAll rest

def orElse {Result : Type} (call : ReaderProgram Net Result) (default : Result) :
    ReaderProgram Net Result :=
  Program.attempt call fun _ => pure default

def readerAt (ip : String) (port : Int) : Connection := ⟨.reader, ⟨ip, port⟩⟩

/-- `ip_override if ip_override and "." in ip_override else resolved["ip"]`. -/
def chosenIp (ipOverride : Option String) (resolved : ResolvedDevice) : String :=
  match ipOverride with
  | none => resolved.ip
  | some ip => if ip.toList.contains '.' then ip else resolved.ip

def notInstalled : String := "The 'pyzk' package is not installed."

/-- `text or default`. -/
def textOr (text default : String) : String := if text = "" then default else text

/-! ## `probe_device_connection` -/

inductive ProbeReply where
  | connected (ip : String) (port : Int) (deviceName serialNumber : String)
      (userCount fingerCount : Nat) (fpVersion : Int) (platform : String)
  | failed (ip : String) (port : Int) (error : String)
  | missing (ip : String) (port : Int) (serialNumber error : String)

def probeAnswers (conn : Connection) (resolved : ResolvedDevice) :
    ReaderProgram Net ProbeReply := do
  let deviceName ← orElse (do
    let name ← conn.getDeviceName
    pure (textOr name resolved.name)) resolved.name
  let sn ← orElse (do
    let sn ← conn.getSerialnumber
    pure (textOr sn resolved.sn)) resolved.sn
  let fpVersion ← orElse conn.getFpVersion 10
  let platform ← orElse (do
    let platform ← conn.getPlatform
    pure (textOr platform "Unknown")) "N/A"
  let userCount ← orElse (do
    let users ← conn.getUsers
    pure users.length) 0
  let fingerCount ← orElse (do
    let templates ← conn.getTemplates
    pure templates.length) 0
  pure (.connected resolved.ip resolved.port deviceName sn userCount fingerCount fpVersion
    platform)

def tryProbe (resolved : ResolvedDevice) : ReaderProgram Net ProbeReply :=
  Program.attempt
    (do
      let conn ← connectZkDevice (readerAt resolved.ip resolved.port)
      conn.disableDevice
      let reply ← probeAnswers conn resolved
      conn.enableDevice
      pure reply)
    fun error =>
      pure (.failed resolved.ip resolved.port
        ("Failed to connect to " ++ resolved.ip ++ ":" ++ toString resolved.port ++ " - " ++ error))

section

variable [UnicodeTables]

def probeDeviceConnection (hasPyzk : Bool) (registry : Registry) (deviceId : String)
    (port : Int) : ReaderProgram Net ProbeReply :=
  let resolved := resolveDevice registry deviceId port
  if hasPyzk then do
    let reply ← tryProbe resolved
    let opened ← Program.look Site.opened
    disconnectAll opened
    pure reply
  else pure (.missing resolved.ip resolved.port resolved.sn notInstalled)

end

/-! ## `fetch_device_users` -/

structure FetchedUser where
  uid : Int
  userId : String
  name : String
  privilege : Int
  roleLabel : String
  card : Int
  fingerFids : List Nat
deriving DecidableEq, Repr

inductive FetchReply where
  | fetched (serialNumber ip : String) (users : List FetchedUser)
  | failed (error : String)

def roleLabel (privilege : Int) : String :=
  if privilege = 14 then "Super Admin" else if privilege = 2 then "Manager" else "Normal User"

section

variable [Sync.ValueTables]

/-- `get_employee_info(user_id)["name"]` over what `user_names.json` decodes to, as far as
`startswith` can use it; the error is that of a record without a name. -/
def employeeName (userNames : Option Json) (userId : String) : Except String String :=
  let uId := strip userId
  match userNames.bind (Json.get? uId) with
  | none => .ok ("User " ++ uId)
  | some (.obj info) =>
      match info.lookup "name" with
      | some (.str name) => .ok name
      | some _ => .error "object has no attribute 'startswith'"
      | none => .error "'name'"
  | some value => .ok (Sync.strOf value)

def fetchedUser (userNames : Option Json) (templates : List ZkFinger) (user : ZkUser) :
    Except String FetchedUser :=
  (employeeName userNames user.userId).map fun known =>
    { uid := user.uid
      userId := user.userId
      name := if startsWith known "User " then textOr user.name ("User " ++ user.userId) else known
      privilege := user.privilege
      roleLabel := roleLabel user.privilege
      card := user.card
      fingerFids := (templates.filter fun finger => finger.uid == user.uid).map ZkFinger.fid }

def fetchedUsers (userNames : Option Json) (templates : List ZkFinger) :
    List ZkUser → Except String (List FetchedUser)
  | [] => .ok []
  | user :: users =>
      match fetchedUser userNames templates user with
      | .error error => .error error
      | .ok first => (fetchedUsers userNames templates users).map fun others => first :: others

def tryFetch (userNames : Option Json) (resolved : ResolvedDevice) :
    ReaderProgram Net FetchReply :=
  Program.attempt
    (do
      let conn ← connectZkDevice (readerAt resolved.ip resolved.port)
      conn.disableDevice
      let users ← conn.getUsers
      let templates ← orElse conn.getTemplates []
      match fetchedUsers userNames templates users with
      | .error error => Program.raise error
      | .ok usersList => do
          conn.enableDevice
          pure (.fetched resolved.sn resolved.ip usersList))
    fun error =>
      pure (.failed ("Failed to fetch users from " ++ resolved.sn ++ " (" ++ resolved.ip ++ ":" ++
        toString resolved.port ++ "): " ++ error))

/-- The `finally` closes the connection and does not enable the reader. -/
def fetchDeviceUsers [UnicodeTables] (hasPyzk : Bool) (userNames : Option Json)
    (registry : Registry) (deviceId : String) (port : Int) : ReaderProgram Net FetchReply :=
  let resolved := resolveDevice registry deviceId port
  if hasPyzk then do
    let reply ← tryFetch userNames resolved
    let opened ← Program.look Site.opened
    disconnectAll opened
    pure reply
  else pure (.failed notInstalled)

end

/-! ## `create_device_user` -/

structure NewUser where
  userId : String
  name : String
  privilege : Int
  password : String
  card : Int
deriving DecidableEq, Repr

def NewUser.pin (user : NewUser) : String := strip user.userId

def NewUser.cleanName (user : NewUser) : String := strip user.name

/-- `normalized_privilege` -/
def NewUser.role (user : NewUser) : Int := if user.privilege = 14 then 14 else 0

inductive CreateReply where
  | refused (error : String)
  | created (device userId : String) (uid : Int) (name : String)
  | queued (device userId name command : String)
deriving DecidableEq, Repr

/-- `max((int(u.uid) for u in users), default=0) + 1`. -/
def nextReaderUid (users : List ZkUser) : Int := (users.map ZkUser.uid).max?.getD 0 + 1

def NewUser.profile (user : NewUser) (uid : Int) : ZkUser :=
  ⟨uid, user.cleanName, user.role, user.password, "1", user.pin, user.card⟩

def createOnReader (user : NewUser) (sn ip : String) (port : Int) :
    ReaderProgram Net CreateReply := do
  let conn ← connectZkDevice (readerAt ip port)
  conn.disableDevice
  let users ← conn.getUsers
  if users.any (ZkUser.hasId user.pin) then
    pure (.refused ("User " ++ user.pin ++ " already exists on device " ++ sn ++ "."))
  else do
    conn.setUser (user.profile (nextReaderUid users))
    conn.refreshData
    let listed ← conn.getUsers
    match listed.find? (ZkUser.hasId user.pin) with
    | none =>
        Program.raise
          "Device accepted the command but the user profile was not found during verification"
    | some created => pure (.created sn user.pin created.uid (strip (textOr created.name user.cleanName)))

section

variable [UnicodeTables]

def creationCommand (user : NewUser) : String :=
  "DATA UPDATE USERINFO PIN=" ++ user.pin ++ "\tName=" ++ user.cleanName ++ "\tPri=" ++
    toString user.role ++ "\tPasswd=" ++ user.password ++ "\tCard=" ++ toString user.card ++
    "\tGrp=1"

def queueCreation (queue : CommandQueue) (user : NewUser) (sn : String) :
    CreateReply × CommandQueue :=
  let (command, after) := queueDeviceCmd queue sn (creationCommand user)
  (.queued sn user.pin user.cleanName command, after)

def createDeviceUser (hasPyzk : Bool) (registry : Registry) (queue : CommandQueue)
    (deviceId : String) (user : NewUser) (port : Int) (ipOverride : Option String) :
    ReaderProgram Net (CreateReply × CommandQueue) :=
  let resolved := resolveDevice registry deviceId port
  if user.pin = "" ∨ user.cleanName = "" then
    pure (.refused "User ID / PIN and employee name are required.", queue)
  else if 24 < user.pin.length then
    pure (.refused "User ID / PIN must be at most 24 characters.", queue)
  else if hasPyzk then do
    let reply ← Program.attempt
      (do
        let reply ← createOnReader user resolved.sn (chosenIp ipOverride resolved) resolved.port
        pure (reply, queue))
      fun _ => pure (queueCreation queue user resolved.sn)
    let opened ← Program.look Site.opened
    closeConnections opened
    pure reply
  else pure (.refused notInstalled, queue)

end

/-! ## `delete_device_user_real` -/

inductive DeletionReply where
  | missing (error : String)
  | notFound (device userId : String)
  | templatesDeleted (device userId : String) (count : Nat)
  | deleted (device userId : String)
  | queued (device userId : String) (biometricsOnly : Bool) (commands : List String)
deriving DecidableEq, Repr

/-- `pack('<24sB', str(user_id).encode('ascii', errors='ignore'), fid)` keeps so much. -/
def packedId (userId : String) : String :=
  String.ofList ((userId.toList.filter fun char => char.toNat < 128).take 24)

/-- One finger: by uid, then by the raw command where that did nothing. -/
def deleteFinger (conn : Connection) (user : ZkUser) (userId : String) (fid : Nat) :
    ReaderProgram Net Bool := do
  let success ← orElse (conn.deleteUserTemplate user.uid fid "") false
  if success then pure true else orElse (conn.deleteTemplateCommand (packedId userId) fid) false

def deleteFingers (conn : Connection) (user : ZkUser) (userId : String) :
    List Nat → ReaderProgram Net Nat
  | [] => pure 0
  | fid :: rest => do
      let success ← deleteFinger conn user userId fid
      let others ← deleteFingers conn user userId rest
      pure ((if success then 1 else 0) + others)

def wipeTemplates (conn : Connection) (user : ZkUser) (sn userId : String) :
    ReaderProgram Net DeletionReply := do
  let count ← deleteFingers conn user userId (List.range 10)
  conn.refreshData
  conn.enableDevice
  pure (.templatesDeleted sn userId count)

def deleteProfile (conn : Connection) (user : ZkUser) (sn userId : String) :
    ReaderProgram Net DeletionReply := do
  conn.deleteUser user.uid userId
  conn.refreshData
  let remaining ← conn.getUsers
  if remaining.any (ZkUser.hasId userId) then
    Program.raise "Device still reports the user profile after CMD_DELETE_USER"
  else do
    conn.enableDevice
    pure (.deleted sn userId)

def deleteOnReader (sn ip : String) (port : Int) (userId : String)
    (deleteBiometricsOnly : Bool) : ReaderProgram Net DeletionReply := do
  let conn ← connectZkDevice (readerAt ip port)
  conn.disableDevice
  let users ← conn.getUsers
  match users.find? (ZkUser.hasId userId) with
  | none => do
      conn.enableDevice
      pure (.notFound sn userId)
  | some user =>
      if deleteBiometricsOnly then wipeTemplates conn user sn userId
      else deleteProfile conn user sn userId

section

variable [UnicodeTables]

def queueAll (queue : CommandQueue) (sn : String) : List String → List String × CommandQueue
  | [] => ([], queue)
  | body :: bodies =>
      let (command, after) := queueDeviceCmd queue sn body
      let (commands, final) := queueAll after sn bodies
      (command :: commands, final)

def deletionCommands (userId : String) (deleteBiometricsOnly : Bool) : List String :=
  let pin := strip userId
  if deleteBiometricsOnly then
    ["DATA DELETE FINGERTMP PIN=" ++ pin, "DATA DELETE BIOPHOTO PIN=" ++ pin]
  else
    ["DATA DELETE USERINFO PIN=" ++ pin, "DATA DELETE USER PIN=" ++ pin,
      "DATA DELETE FINGERTMP PIN=" ++ pin, "DATA DELETE BIOPHOTO PIN=" ++ pin]

def queueDeletion (queue : CommandQueue) (sn userId : String) (deleteBiometricsOnly : Bool) :
    DeletionReply × CommandQueue :=
  let (commands, after) := queueAll queue sn (deletionCommands userId deleteBiometricsOnly)
  (.queued sn (strip userId) deleteBiometricsOnly commands, after)

def deleteDeviceUserReal (hasPyzk : Bool) (registry : Registry) (queue : CommandQueue)
    (deviceId userId : String) (port : Int) (deleteBiometricsOnly : Bool)
    (ipOverride : Option String) : ReaderProgram Net (DeletionReply × CommandQueue) :=
  let resolved := resolveDevice registry deviceId port
  if hasPyzk then do
    let reply ← Program.attempt
      (do
        let reply ← deleteOnReader resolved.sn (chosenIp ipOverride resolved) resolved.port userId
          deleteBiometricsOnly
        pure (reply, queue))
      fun _ => pure (queueDeletion queue resolved.sn userId deleteBiometricsOnly)
    let opened ← Program.look Site.opened
    closeConnections opened
    pure reply
  else pure (.missing notInstalled, queue)

end

/-! ## `delete_batch_device_users` -/

structure BatchItem where
  ok : Bool
  deleted : Bool
  userId : String
  error : Option String
deriving DecidableEq, Repr

inductive BatchReply where
  | empty
  | missing (error : String)
  | done (device : String) (results : List BatchItem)
  | failed (device error : String) (results : List BatchItem)
deriving DecidableEq, Repr

/-- `sum(1 for r in results if r.get("deleted"))`. -/
def deletedCount (results : List BatchItem) : Nat := results.countP BatchItem.deleted

/-- `user_map.get(u_str)`: the last user with the id. -/
def lastWithId (users : List ZkUser) (userId : String) : Option ZkUser :=
  users.reverse.find? (ZkUser.hasId userId)

/-- The ten fingers, with no look at what the calls say. -/
def clearFingers (conn : Connection) (user : ZkUser) (userId : String) :
    List Nat → ReaderProgram Net Unit
  | [] => pure ()
  | fid :: rest => do
      let _ ← orElse (conn.deleteUserTemplate user.uid fid userId) false
      clearFingers conn user userId rest

def deleteItem (conn : Connection) (users : List ZkUser) (deleteBiometricsOnly : Bool)
    (userId : String) : ReaderProgram Net BatchItem :=
  match lastWithId users userId with
  | none => pure ⟨true, false, userId, none⟩
  | some user =>
      Program.attempt
        (do
          if deleteBiometricsOnly then clearFingers conn user userId (List.range 10)
          else conn.deleteUser user.uid userId
          pure ⟨true, true, userId, none⟩)
        fun error => pure ⟨false, false, userId, some error⟩

def deleteItems (conn : Connection) (users : List ZkUser) (deleteBiometricsOnly : Bool) :
    List String → ReaderProgram Net (List BatchItem)
  | [] => pure []
  | userId :: userIds => do
      let item ← deleteItem conn users deleteBiometricsOnly (strip userId)
      let items ← deleteItems conn users deleteBiometricsOnly userIds
      pure (item :: items)

def verifyItem (remaining : List ZkUser) (deleteBiometricsOnly : Bool) (item : BatchItem) :
    BatchItem :=
  if deleteBiometricsOnly || !item.deleted then item
  else if remaining.any (ZkUser.hasId item.userId) then
    { item with
      ok := false
      deleted := false
      error := some "Device still reports the user profile after CMD_DELETE_USER" }
  else item

/-- From the results of the loop to the answer; what raises later finds them updated. -/
def finishBatch (conn : Connection) (sn : String) (deleteBiometricsOnly : Bool)
    (results : List BatchItem) : ReaderProgram Net BatchReply :=
  Program.attempt
    (do
      conn.refreshData
      let remaining ← conn.getUsers
      let checked := results.map (verifyItem remaining deleteBiometricsOnly)
      Program.attempt
        (do
          conn.enableDevice
          pure (.done sn checked))
        fun error => pure (.failed sn error checked))
    fun error => pure (.failed sn error results)

def tryBatch (sn ip : String) (port : Int) (userIds : List String)
    (deleteBiometricsOnly : Bool) : ReaderProgram Net BatchReply :=
  Program.attempt
    (do
      let conn ← connectZkDevice (readerAt ip port)
      conn.disableDevice
      let users ← conn.getUsers
      let results ← deleteItems conn users deleteBiometricsOnly userIds
      finishBatch conn sn deleteBiometricsOnly results)
    fun error => pure (.failed sn error [])

def deleteBatchDeviceUsers [UnicodeTables] (hasPyzk : Bool) (registry : Registry)
    (deviceId : String) (userIds : List String) (port : Int) (deleteBiometricsOnly : Bool)
    (ipOverride : Option String) : ReaderProgram Net BatchReply :=
  let resolved := resolveDevice registry deviceId port
  if userIds.isEmpty then pure .empty
  else if hasPyzk then do
    let reply ← tryBatch resolved.sn (chosenIp ipOverride resolved) resolved.port userIds
      deleteBiometricsOnly
    let opened ← Program.look Site.opened
    closeConnections opened
    pure reply
  else pure (.missing notInstalled)

end

end PumoBioMetric.Core
