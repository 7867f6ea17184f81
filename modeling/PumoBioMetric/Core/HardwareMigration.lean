import PumoBioMetric.Core.Pyzk
import PumoBioMetric.Core.Simulator

/-!
# `migrate_single_user_real`

The migration between two readers over `pyzk`, in the order of the source: read the user
and the fingerprints, choose a slot on the target, write, read the user list back, and
delete from the source where the mode is a move.
-/

set_option autoImplicit false

namespace PumoBioMetric.Core

open Py FirstMatch FaultyCalls

section

variable {Net : Type} [Network Net]

/-! ## Reading the source -/

def findSourceUser (source : Connection) (userId : String) :
    ReaderProgram Net (Connection × Option ZkUser) := do
  let srcConn ← connectZkDevice source
  srcConn.disableDevice
  let srcUsers ← srcConn.getUsers
  pure (srcConn, srcUsers.find? (ZkUser.hasId userId))

/-- The scan finger by finger: a read that raises, finds nothing or finds an empty
template is passed over. -/
def scanFingers (srcConn : Connection) (uid : Int) (userId : String) :
    List Nat → ReaderProgram Net (List ZkFinger)
  | [] => pure []
  | fid :: rest => do
      let found ← Program.attempt (srcConn.getUserTemplate uid fid userId) fun _ => pure none
      let others ← scanFingers srcConn uid userId rest
      pure ((found.filter fun finger => !finger.template.isEmpty).toList ++ others)

/-- The bulk read; no templates where it raises. -/
def bulkFingers (srcConn : Connection) (uid : Int) : ReaderProgram Net (List ZkFinger) :=
  Program.attempt
    (do
      let allTemplates ← srcConn.getTemplates
      pure (allTemplates.filter fun finger => finger.uid == uid))
    fun _ => pure []

def readFingers (srcConn : Connection) (uid : Int) (userId : String) :
    ReaderProgram Net (List ZkFinger) := do
  let userFingers ← bulkFingers srcConn uid
  if userFingers.isEmpty then scanFingers srcConn uid userId (List.range 10)
  else pure userFingers

/-! ## The slot on the target -/

structure Slot where
  uid : Int
  userId : String
deriving DecidableEq, Repr

/-- The least uid from 1 that no user of the target has. -/
def nextFreeUid (tgtUsers : List ZkUser) : Int :=
  FreeNumber.firstFree (tgtUsers.map ZkUser.uid) 1

section

variable [UnicodeTables]

/-- The holder of the PIN has a name, and another one. -/
def occupiedByOther (holder : ZkUser) (userName : String) : Bool :=
  holder.name != "" && lower (strip holder.name) != lower (strip userName)

/-- The uid and PIN to write; `none` is the `ValueError` of `int`. -/
def chooseSlot (tgtUsers : List ZkUser) (userName destUserId : String) : Option Slot :=
  match tgtUsers.find? (ZkUser.hasId destUserId) with
  | none => some ⟨nextFreeUid tgtUsers, destUserId⟩
  | some holder =>
    if occupiedByOther holder userName then
      (nextFreePin destUserId (tgtUsers.map ZkUser.userId)).map fun mapped =>
        ⟨nextFreeUid tgtUsers, mapped⟩
    else some ⟨holder.uid, destUserId⟩

/-- `str(e)` of `int` on digit-like text. -/
def intError (text : String) : String :=
  "invalid literal for int() with base 10: '" ++ text ++ "'"

/-! ## Writing the target -/

/-- `target_src_user.name or f"User {user_id}"`. -/
def migratedName (user : ZkUser) (userId : String) : String :=
  if user.name = "" then "User " ++ userId else user.name

def profileAt (slot : Slot) (userName : String) (user : ZkUser) : ZkUser :=
  { user with uid := slot.uid, name := userName, userId := slot.userId }

def fingersAt (slot : Slot) (userFingers : List ZkFinger) : List ZkFinger :=
  userFingers.map fun finger => { finger with uid := slot.uid }

/-- Both version reads; an exception of either is passed over. -/
def checkFpVersions (srcConn tgtConn : Connection) : ReaderProgram Net Unit :=
  Program.attempt
    (do
      let _ ← srcConn.getFpVersion
      let _ ← tgtConn.getFpVersion
      pure ())
    fun _ => pure ()

def openTarget (srcConn target : Connection) : ReaderProgram Net (Connection × List ZkUser) := do
  let tgtConn ← connectZkDevice target
  tgtConn.disableDevice
  checkFpVersions srcConn tgtConn
  let tgtUsers ← tgtConn.getUsers
  pure (tgtConn, tgtUsers)

/-- The templates are written only where some were read. -/
def writeFingers (tgtConn : Connection) (profile : ZkUser) (fingers : List ZkFinger) :
    ReaderProgram Net Unit :=
  if fingers.isEmpty then pure () else tgtConn.saveUserTemplate profile fingers

/-- Profile, templates and the user list read back: whether it holds the PIN. -/
def writeTarget (tgtConn : Connection) (profile : ZkUser) (fingers : List ZkFinger) :
    ReaderProgram Net Bool := do
  tgtConn.setUser profile
  writeFingers tgtConn profile fingers
  tgtConn.refreshData
  let verifiedTgtUsers ← tgtConn.getUsers
  pure (verifiedTgtUsers.any (ZkUser.hasId profile.userId))

def deleteFromSource (srcConn : Connection) (mode userId : String) (user : ZkUser) :
    ReaderProgram Net Unit :=
  if lower mode = "move" then do
    srcConn.deleteUser user.uid userId
    srcConn.refreshData
  else pure ()

/-! ## The migration -/

structure Endpoints where
  source : ResolvedDevice
  target : ResolvedDevice
deriving DecidableEq, Repr

namespace Endpoints

def srcConnection (endpoints : Endpoints) : Connection :=
  ⟨.source, endpoints.source.ip, endpoints.source.port⟩

def tgtConnection (endpoints : Endpoints) : Connection :=
  ⟨.target, endpoints.target.ip, endpoints.target.port⟩

end Endpoints

def endpoints (registry : Registry) (request : MigrationRequest) (sourcePort targetPort : Int) :
    Endpoints :=
  ⟨resolveDevice registry request.srcIdentifier sourcePort,
    resolveDevice registry request.tgtIdentifier targetPort⟩

section

variable (ends : Endpoints) (request : MigrationRequest)

def failedMigration (userName targetUserId error : String) : MigrationResult :=
  ⟨false, request.mode, request.userId, userName, ends.source.ip, ends.target.ip, targetUserId, 0,
    some error⟩

def finishMigration (srcConn tgtConn : Connection) (user : ZkUser) (userName : String)
    (userFingers : List ZkFinger) (slot : Slot) : ReaderProgram Net MigrationResult := do
  let verified ← writeTarget tgtConn (profileAt slot userName user) (fingersAt slot userFingers)
  if verified then
    deleteFromSource srcConn request.mode request.userId user
    pure ⟨true, request.mode, request.userId, userName, ends.source.ip, ends.target.ip,
      slot.userId, userFingers.length, none⟩
  else
    pure (failedMigration ends request userName slot.userId "Verification failed on target device")

def migrateFound (srcConn : Connection) (user : ZkUser) (userName : String) :
    ReaderProgram Net MigrationResult := do
  let userFingers ← readFingers srcConn user.uid request.userId
  let (tgtConn, tgtUsers) ← openTarget srcConn ends.tgtConnection
  match chooseSlot tgtUsers userName request.destUserId with
  | none => Program.raise (intError request.destUserId)
  | some slot => finishMigration ends request srcConn tgtConn user userName userFingers slot

/-- The `try` with its handler, which reports the name found so far. -/
def tryMigration : ReaderProgram Net MigrationResult :=
  Program.attempt
    (do
      let (srcConn, found) ← findSourceUser ends.srcConnection request.userId
      match found with
      | none =>
          pure (failedMigration ends request "N/A" request.userId
            ("User ID " ++ request.userId ++ " not found on source device."))
      | some user =>
          let userName := migratedName user request.userId
          Program.attempt (migrateFound ends request srcConn user userName) fun error =>
            pure (failedMigration ends request userName request.userId error))
    fun error =>
      pure (failedMigration ends request ("User " ++ request.userId) request.userId error)

end

/-- The `finally`: every open connection is enabled and closed, whatever raises. -/
def closeConnections : List Connection → ReaderProgram Net Unit
  | [] => pure ()
  | connection :: rest => do
      Program.attempt connection.enableDevice fun _ => pure ()
      Program.attempt connection.disconnect fun _ => pure ()
      closeConnections rest

/-- `migrate_single_user_real` on any network. -/
def Network.migrateSingleUserReal (hasPyzk : Bool) (registry : Registry)
    (request : MigrationRequest) (sourcePort targetPort : Int) :
    ReaderProgram Net MigrationResult :=
  let ends := endpoints registry request sourcePort targetPort
  if hasPyzk then do
    let result ← tryMigration ends request
    let opened ← Program.look Site.opened
    closeConnections opened
    pure result
  else
    pure ⟨false, request.mode, request.userId, "N/A", ends.source.sn, ends.target.sn,
      request.userId, 0, some "The 'pyzk' package is not installed."⟩

end

end

/-- `migrate_single_user_real` between readers that do what each call says. -/
def migrateSingleUserReal [UnicodeTables] (hasPyzk : Bool) (registry : Registry)
    (request : MigrationRequest) (sourcePort targetPort : Int) : ZkProgram MigrationResult :=
  Network.migrateSingleUserReal hasPyzk registry request sourcePort targetPort

end PumoBioMetric.Core
