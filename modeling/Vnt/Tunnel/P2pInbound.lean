/-
This file embeds what a client does with a packet that another client sent it directly. A packet
for somebody else is passed on over a route, as long as it may live. A packet for the client
itself, or for everybody, passes the layers as one that came over a server does.
-/

import Vnt.Client.RouteTable
import Vnt.Tunnel.Inbound
import Vnt.Tunnel.Outbound

namespace Vnt.Tunnel

open Vnt.Base Vnt.Client Vnt.Fec

/-- What comes of one packet: the deliveries and how it ended, and the packet that was passed
on. -/
structure P2pHandled where
  handled : Handled
  forwarded : Option (RouteKey × List UInt8)

/-- `P2pInboundHandler`, next to the layers: the network of the client and its routes. -/
structure P2pNetwork where
  network : Option NetworkAddr
  routeTable : RouteTable

namespace InboundHandler

/-- The handling ended without a delivery. -/
def ended (handler : InboundHandler) (outcome : Except String Unit) : Handled :=
  ⟨handler, [], outcome⟩

/-- `next_handle_impl` for a packet that is for the client itself. -/
def nextHandleOwn (code : ErasureCode UInt8) (codec : FecCodec) (handler : InboundHandler)
    (now : Instant) (packet : NetPacket) (msgType : MsgType) : Handled :=
  let deliver : NetPacket → Delivery := Delivery.mk msgType packet.header.srcId
    packet.header.destId
  if msgType = .quic then
    if packet.isFec = true then
      handler.handleDecoded ⟨none⟩ deliver (handler.fecDecoder.receive code codec now packet)
    else ⟨handler, [deliver packet], .ok ()⟩
  else
    match handler.packetCrypto.decryptInPlace packet with
    | .error message => handler.ended (.error message)
    | .ok packet =>
      if packet.isFec = true then
        handler.handleDecoded handler.packetCompression deliver
          (handler.fecDecoder.receive code codec now packet)
      else
        let delivered := deliverAll handler.packetCompression deliver [packet]
        ⟨handler, delivered.1, delivered.2⟩

/-- `next_handle_impl`. -/
def nextHandle (code : ErasureCode UInt8) (codec : FecCodec) (p2p : P2pNetwork)
    (handler : InboundHandler) (now : Instant) (buf : List UInt8) : P2pHandled :=
  match NetPacket.new (.ofBytes buf) with
  | .error message => ⟨handler.ended (.error message), none⟩
  | .ok packet =>
    match packet.msgType with
    | .error message => ⟨handler.ended (.error message), none⟩
    | .ok msgType =>
      if packet.header.srcId = packet.header.destId then ⟨handler.ended (.ok ()), none⟩
      else
        let packet := packet.decrTtl
        if packet.header.maxTtl ≤ packet.header.currTtl then ⟨handler.ended (.ok ()), none⟩
        else
          match p2p.network with
          | none => ⟨handler.ended (.error "未找到自身IP"), none⟩
          | some net =>
            let dest := packet.header.destId
            if net.ip ≠ dest ∧ dest ≠ Ipv4Addr.broadcast ∧ dest ≠ 0 ∧ dest ≠ net.broadcast then
              let forwarded :=
                if packet.header.currTtl ≥ 1 then
                  (p2p.routeTable.getRouteById dest).map fun route =>
                    (route.routeKey, packet.intoBytes)
                else none
              ⟨handler.ended (.ok ()), forwarded⟩
            else ⟨handler.nextHandleOwn code codec now packet msgType, none⟩

end InboundHandler

end Vnt.Tunnel
