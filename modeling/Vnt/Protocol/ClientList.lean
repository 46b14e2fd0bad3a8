/-
This file holds the messages of the client-list protocol: the ping a client sends with the
version of its list, and the two replies of the server, the list of changed clients and the
echo of the ping that stands for no change.
-/

import Vnt.Ipv4

namespace Vnt

/-- `ClientSimpleInfo`. -/
structure ClientSimpleInfo where
  ip : Ipv4Addr
  online : Bool
  deriving DecidableEq, Repr

/-- `ClientSimpleInfoList`; its version is a `u64` on the wire. -/
structure ClientSimpleInfoList where
  dataVersion : Nat
  list : List ClientSimpleInfo
  isAll : Bool
  time : Int
  deriving DecidableEq, Repr

/-- The payload of a `PingTurn` with a version, a `u64` on the wire. -/
structure PingTurn where
  time : Int
  dataVersion : Nat
  deriving DecidableEq, Repr

/-- The reply to a `PingTurn`: `PushClientIps`, or `PongTurn` with the payload of the ping. -/
inductive PingReply where
  | pushClientIps (list : ClientSimpleInfoList)
  | pongTurn (ping : PingTurn)
  deriving DecidableEq, Repr

end Vnt
