/-
This file holds the addresses of sockets. The tables below use them as keys, and some functions
tell the two versions of IP apart.
-/

import Vnt.Ipv4

namespace Vnt

/-- `IpAddr`; an address of version 6 has 128 bits. -/
inductive IpAddr where
  | v4 (ip : Ipv4Addr)
  | v6 (ip : BitVec 128)
  deriving DecidableEq, Repr

/-- `SocketAddr`. -/
inductive SocketAddr where
  | v4 (ip : Ipv4Addr) (port : UInt16)
  | v6 (ip : BitVec 128) (port : UInt16) (flowinfo scopeId : UInt32)
  deriving DecidableEq, Repr

end Vnt
