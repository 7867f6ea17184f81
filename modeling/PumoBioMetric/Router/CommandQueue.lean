import PumoBioMetric.Py.Dict
import PumoBioMetric.Py.Text

/-!
# Commands queued for readers

`queue_device_cmd`: a command gets the next number and waits under the normalised serial.
A poll of `getrequest_handler` is answered with the oldest one.
-/

set_option autoImplicit false

namespace PumoBioMetric.Router

open Py

/-- `_DEVICE_CMD_COUNTER` and `DEVICE_COMMAND_QUEUE`. -/
structure CommandQueue where
  counter : Nat
  pending : Dict (List String)
deriving DecidableEq, Repr

def CommandQueue.initial : CommandQueue := ⟨1000, []⟩

def queueDeviceCmd [UnicodeTables] (queue : CommandQueue) (sn cmdBody : String) :
    String × CommandQueue :=
  let cleanSn := upper (strip sn)
  let cmdStr := "C:" ++ toString (queue.counter + 1) ++ ":" ++ strip cmdBody
  (cmdStr,
    { counter := queue.counter + 1
      pending := queue.pending.set cleanSn ((queue.pending.get? cleanSn).getD [] ++ [cmdStr]) })

/-- The oldest command under a key leaves the queue; `OK` where there is none. -/
def CommandQueue.serve (queue : CommandQueue) (cleanSn : String) : String × CommandQueue :=
  match queue.pending.get? cleanSn with
  | some (cmd :: rest) => (cmd, { queue with pending := queue.pending.set cleanSn rest })
  | _ => ("OK", queue)

/-- The answer of `getrequest_handler` to a poll with this `SN`. -/
def pollCommand [UnicodeTables] (queue : CommandQueue) (sn : Option String) :
    String × CommandQueue :=
  let cleanSn := upper (strip (sn.getD ""))
  if cleanSn = "" then ("OK", queue) else queue.serve cleanSn

end PumoBioMetric.Router
