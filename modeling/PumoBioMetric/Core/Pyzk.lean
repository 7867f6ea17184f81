import PumoBioMetric.Library.FaultyCalls
import PumoBioMetric.Library.FirstMatch
import PumoBioMetric.Core.Devices

/-!
# Readers behind `pyzk`

The calls of a `pyzk` connection on a network of devices.  What a device shows when it is
asked, and what a write leaves, is up to the network; among the networks are readers that
hold users and fingerprint templates and do what each call says.  A call that raises has
no effect.
-/

set_option autoImplicit false

namespace PumoBioMetric.Core

open Py FirstMatch FaultyCalls

/-- `zk.user.User`. -/
structure ZkUser where
  uid : Int
  name : String
  privilege : Int
  password : String
  groupId : String
  userId : String
  card : Int
deriving DecidableEq, Repr

/-- `zk.finger.Finger`. -/
structure ZkFinger where
  uid : Int
  fid : Nat
  valid : Int
  template : List UInt8
deriving DecidableEq, Repr

def ZkUser.hasUid (uid : Int) (user : ZkUser) : Bool := user.uid == uid

def ZkUser.hasId (userId : String) (user : ZkUser) : Bool := user.userId == userId

def ZkFinger.isAt (uid : Int) (fid : Nat) (finger : ZkFinger) : Bool :=
  finger.uid == uid && finger.fid == fid

structure Reader where
  users : List ZkUser
  templates : List ZkFinger
  fpVersion : Int
deriving DecidableEq, Repr

namespace Reader

/-- The record with the user's uid, or a new one. -/
def putUser (reader : Reader) (user : ZkUser) : Reader :=
  { reader with
    users :=
      match reader.users.find? (ZkUser.hasUid user.uid) with
      | some _ => updateFirst (ZkUser.hasUid user.uid) (fun _ => user) reader.users
      | none => reader.users ++ [user] }

def putTemplate (reader : Reader) (finger : ZkFinger) : Reader :=
  { reader with
    templates :=
      reader.templates.filter (fun stored => !stored.isAt finger.uid finger.fid) ++ [finger] }

def dropTemplate (reader : Reader) (uid : Int) (fid : Nat) : Reader :=
  { reader with templates := reader.templates.filter fun finger => !finger.isAt uid fid }

/-- The user with all its templates. -/
def dropUser (reader : Reader) (uid : Int) : Reader :=
  { reader with
    users := reader.users.filter fun user => !user.hasUid uid
    templates := reader.templates.filter fun finger => finger.uid != uid }

end Reader

/-! ## Connections and events -/

structure Address where
  ip : String
  port : Int
deriving DecidableEq, Repr

/-- Which variable holds the connection. -/
inductive Role where
  | source
  | target
  /-- `conn`, in the functions with one connection. -/
  | reader
deriving DecidableEq, Repr

structure Connection where
  role : Role
  address : Address
deriving DecidableEq, Repr

inductive Call where
  | connect
  | disableDevice
  | enableDevice
  | disconnect
  | getUsers
  | getTemplates
  | getUserTemplate (uid : Int) (tempId : Nat) (userId : String)
  | getFpVersion
  | setUser (user : ZkUser)
  | saveUserTemplate (user : ZkUser) (fingers : List ZkFinger)
  | refreshData
  | deleteUser (uid : Int) (userId : String)
  | deleteUserTemplate (uid : Int) (tempId : Nat) (userId : String)
  /-- `_ZK__send_command(134, pack('<24sB', user_id, fid))`. -/
  | deleteTemplateCommand (userId : String) (fid : Nat)
  | getDeviceName
  | getSerialnumber
  | getPlatform
deriving DecidableEq, Repr

inductive Answer where
  | done
  | users (users : List ZkUser)
  | templates (templates : List ZkFinger)
  | template (template : Option ZkFinger)
  | version (version : Int)
  | status (done : Bool)
  | text (text : String)
deriving DecidableEq, Repr

/-- A call on a connection and its answer; `none` is a call that raised. -/
structure CallEvent where
  role : Role
  call : Call
  answer : Option Answer
deriving DecidableEq, Repr

structure Site (Net : Type) where
  readers : Net
  opened : List Connection

/-- What the device at an address shows to a call that reads it, what it answers to a call
for a text, and what a call that writes leaves. -/
class Network (Net : Type) where
  ask : Net → Address → Call → Reader × Net
  text : Net → Address → Call → String
  tell : Net → Address → Call → (Reader → Reader) → Net

/-- Readers that do what each call says; they have no name of their own. -/
instance : Network (Address → Reader) where
  ask readers address _ := (readers address, readers)
  text _ _ _ := ""
  tell readers address _ change := fun other =>
    if other = address then change (readers address) else readers other

abbrev ReaderProgram (Net Result : Type) := Program (Site Net) CallEvent String Result

abbrev ReaderSession (Net : Type) := Session (Site Net) CallEvent

def ReaderSession.fresh {Net : Type} (readers : Net) : ReaderSession Net := ⟨⟨readers, []⟩, []⟩

abbrev ZkProgram (Result : Type) := ReaderProgram (Address → Reader) Result

abbrev ZkSession := ReaderSession (Address → Reader)

def ZkSession.fresh (readers : Address → Reader) : ZkSession := ReaderSession.fresh readers

/-! ## The calls -/

section

variable {Net : Type} [Network Net]

def connectZkDevice (connection : Connection) : ReaderProgram Net Connection :=
  Program.issue
    (fun site => (connection, { site with opened := site.opened ++ [connection] }))
    fun reply => ⟨connection.role, .connect, reply.map fun _ => .done⟩

namespace Connection

variable (connection : Connection)

def ask {Result : Type} (call : Call) (view : Reader → Result) (answer : Result → Answer) :
    ReaderProgram Net Result :=
  Program.issue
    (fun site =>
      (view (Network.ask site.readers connection.address call).1,
        { site with readers := (Network.ask site.readers connection.address call).2 }))
    fun reply => ⟨connection.role, call, reply.map answer⟩

def tell (call : Call) (change : Reader → Reader) : ReaderProgram Net Unit :=
  Program.issue
    (fun site =>
      ((), { site with readers := Network.tell site.readers connection.address call change }))
    fun reply => ⟨connection.role, call, reply.map fun _ => .done⟩

/-- A call that writes to the device and returns whether there was something to do. -/
def attemptTell (call : Call) (applies : Reader → Bool) (change : Reader → Reader) :
    ReaderProgram Net Bool :=
  Program.issue
    (fun site =>
      (applies (Network.ask site.readers connection.address call).1,
        { site with
          readers := Network.tell (Network.ask site.readers connection.address call).2
            connection.address call change }))
    fun reply => ⟨connection.role, call, reply.map .status⟩

def askText (call : Call) : ReaderProgram Net String :=
  Program.issue (fun site => (Network.text site.readers connection.address call, site))
    fun reply => ⟨connection.role, call, reply.map .text⟩

def disableDevice : ReaderProgram Net Unit := connection.ask .disableDevice (fun _ => ()) fun _ => .done

def enableDevice : ReaderProgram Net Unit := connection.ask .enableDevice (fun _ => ()) fun _ => .done

def disconnect : ReaderProgram Net Unit := connection.ask .disconnect (fun _ => ()) fun _ => .done

def refreshData : ReaderProgram Net Unit := connection.ask .refreshData (fun _ => ()) fun _ => .done

def getUsers : ReaderProgram Net (List ZkUser) := connection.ask .getUsers Reader.users .users

def getTemplates : ReaderProgram Net (List ZkFinger) :=
  connection.ask .getTemplates Reader.templates .templates

def getUserTemplate (uid : Int) (tempId : Nat) (userId : String) :
    ReaderProgram Net (Option ZkFinger) :=
  connection.ask (.getUserTemplate uid tempId userId)
    (fun reader => reader.templates.find? (ZkFinger.isAt uid tempId)) .template

def getFpVersion : ReaderProgram Net Int := connection.ask .getFpVersion Reader.fpVersion .version

def setUser (user : ZkUser) : ReaderProgram Net Unit :=
  connection.tell (.setUser user) fun reader => reader.putUser user

def saveUserTemplate (user : ZkUser) (fingers : List ZkFinger) : ReaderProgram Net Unit :=
  connection.tell (.saveUserTemplate user fingers) fun reader =>
    fingers.foldl Reader.putTemplate (reader.putUser user)

def deleteUser (uid : Int) (userId : String) : ReaderProgram Net Unit :=
  connection.tell (.deleteUser uid userId) fun reader => reader.dropUser uid

def deleteUserTemplate (uid : Int) (tempId : Nat) (userId : String) : ReaderProgram Net Bool :=
  connection.attemptTell (.deleteUserTemplate uid tempId userId)
    (fun reader => reader.templates.any (ZkFinger.isAt uid tempId))
    fun reader => reader.dropTemplate uid tempId

/-- The raw command addresses the user by PIN. -/
def deleteTemplateCommand (userId : String) (fid : Nat) : ReaderProgram Net Bool :=
  connection.attemptTell (.deleteTemplateCommand userId fid)
    (fun reader => (reader.users.find? (ZkUser.hasId userId)).any fun user =>
      reader.templates.any (ZkFinger.isAt user.uid fid))
    fun reader =>
      match reader.users.find? (ZkUser.hasId userId) with
      | some user => reader.dropTemplate user.uid fid
      | none => reader

def getDeviceName : ReaderProgram Net String := connection.askText .getDeviceName

def getSerialnumber : ReaderProgram Net String := connection.askText .getSerialnumber

def getPlatform : ReaderProgram Net String := connection.askText .getPlatform

end Connection

end

end PumoBioMetric.Core
