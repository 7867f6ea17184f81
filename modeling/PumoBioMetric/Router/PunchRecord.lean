/-!
# One parsed iClock row

The dictionary `parse_attlog` builds for a row, which the dashboard keeps in
`PUNCH_LOGS` and `ingest` turns into a punch.  The two labels are absent until
`broadcast_punch` sets them.
-/

set_option autoImplicit false

namespace PumoBioMetric.Router

structure PunchRecord where
  id : String
  sn : String
  userId : String
  userName : String
  userRole : String
  timestamp : String
  status : String
  verifyType : String
  workCode : String
  raw : String
  receivedAt : String
  statusLabel : Option String := none
  verifyLabel : Option String := none
  deriving DecidableEq, Repr

end PumoBioMetric.Router
