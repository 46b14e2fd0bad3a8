/-
This file embeds the last step of a packet into a client: its payload goes to the device, to the
network stack that stands in for it, or to the endpoint of `Quic`. The step reads the first byte
of the payload without a look at its length, and counts the bytes that were received.
-/

import Vnt.Base.Map
import Vnt.Server.Icmp
import Vnt.Tunnel.Outbound

namespace Vnt.Tunnel

open Vnt.Base Vnt.Fec Vnt.Server

/-- `AllowSubnetExternalRoute::allow`. -/
def allowSubnet (routes : List Ipv4Net) (ip : Ipv4Addr) : Bool :=
  routes.any fun net => net.contains ip

/-- `is_multicast`. -/
def isMulticast (ip : Ipv4Addr) : Bool := ip >>> 28 == 0xE

/-- `EnhancedTunInbound`, with the subnets that are let in. -/
inductive EnhancedTunInbound where
  | tun (allowed : List Ipv4Net)
  | nat (allowed : List Ipv4Net)
  deriving DecidableEq, Repr

/-- `EnhancedInbound`, without its counters. The network stack is there when it is configured. -/
structure EnhancedInbound where
  tunDataInbound : EnhancedTunInbound
  internalNatInbound : Option (List Ipv4Net)
  deriving DecidableEq, Repr

/-- What is handed on. -/
inductive Sent where
  | tun (data : List UInt8)
  | nat (data : List UInt8)
  | quic (payload : List UInt8) (src : Ipv4Addr)
  deriving DecidableEq, Repr

/-- A counter of 64 bits. -/
abbrev Counters : Type := Map Ipv4Addr Nat

/-- Add to the counter of a client; an overflow is a panic. -/
def Counters.add (counters : Counters) (ip : Ipv4Addr) (amount : Nat) : Except Fault Counters :=
  let count := (counters.lookup ip).getD 0 + amount
  if count < 2 ^ 64 then .ok (counters.insert ip count) else .error .panics

/-- The part that `TunDataInbound::send` and `InternalNatInbound::send` share: whether the data are
handed on. The first byte is read although there may be none. -/
def letsIn (allowed : List Ipv4Net) (data : List UInt8) (net : NetworkAddr) : Except Fault Bool :=
  match data with
  | [] => .error .panics
  | first :: _ =>
    if first >>> 4 ≠ 4 then .ok false
    else
      match ipv4Destination data with
      | none => .ok false
      | some dest =>
        .ok (net.network.contains dest || dest == net.broadcast || dest == Ipv4Addr.broadcast ||
          isMulticast dest || allowSubnet allowed dest)

/-- `InternalNatInbound::send`. -/
def sendNat (allowed : List Ipv4Net) (data : List UInt8) (net : NetworkAddr) :
    Except Fault (List Sent) :=
  (letsIn allowed data net).map fun isIn => if isIn then [.nat data] else []

/-- `EnhancedTunInbound::inbound`. -/
def EnhancedTunInbound.inbound (tunDataInbound : EnhancedTunInbound) (data : List UInt8)
    (net : NetworkAddr) : Except Fault (List Sent) :=
  match tunDataInbound with
  | .tun allowed => (letsIn allowed data net).map fun isIn => if isIn then [.tun data] else []
  | .nat allowed => sendNat allowed data net

/-- `EnhancedInbound::inbound`, after the bytes are counted. -/
def EnhancedInbound.deliver (enhanced : EnhancedInbound) (net : NetworkAddr) (msgType : MsgType)
    (src : Ipv4Addr) (data : List UInt8) : Except Fault (List Sent) :=
  match msgType with
  | .turn =>
    match enhanced.internalNatInbound with
    | none => enhanced.tunDataInbound.inbound data net
    | some allowed =>
      match ipv4Destination data with
      | none => .error (.error "EnhancedInbound not ipv4")
      | some dest =>
        if dest ≠ net.ip ∧ net.network.contains dest = false then sendNat allowed data net
        else enhanced.tunDataInbound.inbound data net
  | .broadcast => enhanced.tunDataInbound.inbound data net
  | .excludeBroadcast => enhanced.tunDataInbound.inbound data net
  | .quic => .ok [.quic data src]
  | _ => .ok []

/-- `EnhancedInbound::inbound`. -/
def EnhancedInbound.inbound (enhanced : EnhancedInbound) (traffic : Counters) (net : NetworkAddr)
    (msgType : MsgType) (src : Ipv4Addr) (packet : NetPacket) :
    Counters × Except Fault (List Sent) :=
  match traffic.add src (headLength + packet.payload.length) with
  | .error fault => (traffic, .error fault)
  | .ok counted => (counted, enhanced.deliver net msgType src packet.payload)

end Vnt.Tunnel
