/-
This file gives what a client tells another one before they open a direct connection: the kind of
its network address translation, its public addresses and ports, and its local ones. The message
carries each port as a 32-bit number; what is read is refused when one of them is no port. The
addresses that a client set by hand are not sent, and its first local address is not sent twice. It
also gives the message that a stream between two clients starts with, which says what the stream is
for.
-/

import Mathlib.Logic.Equiv.Option
import Vnt.Base.MessageFormat
import Vnt.Ipv4

namespace Vnt.Proto

open Vnt.Base.Protobuf Vnt.Base.Protobuf.Format

structure NatInfo where
  natType : Int32
  publicIps : List UInt32
  publicUdpPorts : List UInt32
  publicPortRange : UInt32
  localIpv4s : List UInt32
  ipv6 : Option (List UInt8)
  localUdpPorts : List UInt32
  localTcpPort : UInt32
  publicTcpPort : UInt32
  deriving DecidableEq, Repr

def NatInfo.format : Format NatInfo :=
  (implicit 1 (.refl true) .int32 0)
    |>.both (packed 2 (.refl true) .fixed32) (.refl true)
    |>.both (packed 3 (.refl true) .uint32) (.refl true)
    |>.both (implicit 4 (.refl true) .uint32 0) (.refl true)
    |>.both (packed 5 (.refl true) .fixed32) (.refl true)
    |>.both (optional 6 (.refl true) .bytes) (.refl true)
    |>.both (packed 7 (.refl true) .uint32) (.refl true)
    |>.both (implicit 8 (.refl true) .uint32 0) (.refl true)
    |>.both (implicit 9 (.refl true) .uint32 0) (.refl true)
    |>.ofEquiv {
      toFun := fun info => ((((((((info.natType, info.publicIps), info.publicUdpPorts),
        info.publicPortRange), info.localIpv4s), info.ipv6), info.localUdpPorts),
        info.localTcpPort), info.publicTcpPort)
      invFun := fun ((((((((natType, publicIps), publicUdpPorts), publicPortRange), localIpv4s),
        ipv6), localUdpPorts), localTcpPort), publicTcpPort) =>
          ⟨natType, publicIps, publicUdpPorts, publicPortRange, localIpv4s, ipv6, localUdpPorts,
            localTcpPort, publicTcpPort⟩
      left_inv := fun _ => rfl
      right_inv := fun _ => rfl }

structure PunchInfo where
  natInfo : Option NatInfo
  deriving DecidableEq, Repr

def PunchInfo.format : Format PunchInfo :=
  (message 1 (.refl true) NatInfo.format).ofEquiv
    ⟨PunchInfo.natInfo, PunchInfo.mk, fun _ => rfl, fun _ => rfl⟩

/-! ### The start of a proxied stream -/

structure TcpProxyHandshake where
  srcIp : UInt32
  srcPort : UInt32
  dstIp : UInt32
  dstPort : UInt32
  deriving DecidableEq, Repr

def TcpProxyHandshake.format : Format TcpProxyHandshake :=
  (implicit 1 (.refl true) .fixed32 0)
    |>.both (implicit 2 (.refl true) .uint32 0) (.refl true)
    |>.both (implicit 3 (.refl true) .fixed32 0) (.refl true)
    |>.both (implicit 4 (.refl true) .uint32 0) (.refl true)
    |>.ofEquiv {
      toFun := fun handshake => (((handshake.srcIp, handshake.srcPort), handshake.dstIp),
        handshake.dstPort)
      invFun := fun (((srcIp, srcPort), dstIp), dstPort) => ⟨srcIp, srcPort, dstIp, dstPort⟩
      left_inv := fun _ => rfl
      right_inv := fun _ => rfl }

structure PortProxyHandshake where
  srcIp : String
  srcPort : UInt32
  dstHost : String
  dstPort : UInt32
  deriving DecidableEq, Repr

def PortProxyHandshake.format : Format PortProxyHandshake :=
  (implicit 1 (.refl true) .string "")
    |>.both (implicit 2 (.refl true) .uint32 0) (.refl true)
    |>.both (implicit 3 (.refl true) .string "") (.refl true)
    |>.both (implicit 4 (.refl true) .uint32 0) (.refl true)
    |>.ofEquiv {
      toFun := fun handshake => (((handshake.srcIp, handshake.srcPort), handshake.dstHost),
        handshake.dstPort)
      invFun := fun (((srcIp, srcPort), dstHost), dstPort) => ⟨srcIp, srcPort, dstHost, dstPort⟩
      left_inv := fun _ => rfl
      right_inv := fun _ => rfl }

structure IpProxyHandshake where
  ipNextHeaderProtocol : UInt32
  srcIp : UInt32
  dstIp : UInt32
  deriving DecidableEq, Repr

def IpProxyHandshake.format : Format IpProxyHandshake :=
  (implicit 1 (.refl true) .uint32 0)
    |>.both (implicit 2 (.refl true) .fixed32 0) (.refl true)
    |>.both (implicit 3 (.refl true) .fixed32 0) (.refl true)
    |>.ofEquiv {
      toFun := fun handshake => ((handshake.ipNextHeaderProtocol, handshake.srcIp),
        handshake.dstIp)
      invFun := fun ((ipNextHeaderProtocol, srcIp), dstIp) =>
        ⟨ipNextHeaderProtocol, srcIp, dstIp⟩
      left_inv := fun _ => rfl
      right_inv := fun _ => rfl }

/-- `quic_proxy_handshake::Handshake`. -/
inductive Handshake where
  | tcp (handshake : TcpProxyHandshake)
  | ip (handshake : IpProxyHandshake)
  | tcpPortMapping (handshake : PortProxyHandshake)
  | udpPortMapping (handshake : PortProxyHandshake)
  deriving DecidableEq, Repr

def Handshake.parts : Handshake ≃
    ((TcpProxyHandshake ⊕ IpProxyHandshake) ⊕ PortProxyHandshake) ⊕ PortProxyHandshake where
  toFun
    | .tcp handshake => .inl (.inl (.inl handshake))
    | .ip handshake => .inl (.inl (.inr handshake))
    | .tcpPortMapping handshake => .inl (.inr handshake)
    | .udpPortMapping handshake => .inr handshake
  invFun
    | .inl (.inl (.inl handshake)) => .tcp handshake
    | .inl (.inl (.inr handshake)) => .ip handshake
    | .inl (.inr handshake) => .tcpPortMapping handshake
    | .inr handshake => .udpPortMapping handshake
  left_inv handshake := by cases handshake <;> rfl
  right_inv part := by rcases part with ((_ | _) | _) | _ <;> rfl

structure QuicProxyHandshake where
  handshake : Option Handshake
  deriving DecidableEq, Repr

def QuicProxyHandshake.format : Format QuicProxyHandshake :=
  (message 1 (.refl true) TcpProxyHandshake.format)
    |>.either (message 2 (.refl true) IpProxyHandshake.format) (.refl true) rfl rfl
    |>.either (message 3 (.refl true) PortProxyHandshake.format) (.refl true) rfl rfl
    |>.either (message 4 (.refl true) PortProxyHandshake.format) (.refl true) rfl rfl
    |>.ofEquiv (Equiv.optionCongr Handshake.parts)
    |>.ofEquiv ⟨QuicProxyHandshake.handshake, QuicProxyHandshake.mk, fun _ => rfl, fun _ => rfl⟩

end Vnt.Proto
