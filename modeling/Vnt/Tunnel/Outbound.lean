/-
This file embeds the outgoing data path. An IP packet of the device gets a header in the room in
front of it and a destination from the routes, and then passes the three optional layers in
this order: it is compressed, wrapped for forward error correction, and encrypted. A broadcast
passes the first and the last.
-/

import Vnt.Compression.PacketCompression
import Vnt.Crypto.PacketCrypto
import Vnt.Fec.Encoder

namespace Vnt.Tunnel

open Vnt.Base Vnt.Fec

/-- `NetworkAddr`. -/
structure NetworkAddr where
  gateway : Ipv4Addr
  broadcast : Ipv4Addr
  ip : Ipv4Addr
  prefixLen : Fin 33
  deriving DecidableEq, Repr

def NetworkAddr.network (net : NetworkAddr) : Ipv4Net := ⟨net.ip, net.prefixLen⟩

/-- `NetInput`. -/
structure NetInput where
  net : Ipv4Net
  targetIp : Ipv4Addr
  deriving DecidableEq, Repr

/-- `SubnetExternalRoute::route`. -/
def routeOf (routes : List NetInput) (ip : Ipv4Addr) : Option Ipv4Addr :=
  (routes.find? fun input => input.net.contains ip).map NetInput.targetIp

/-- `Ipv4Packet::new` and `get_destination`: the destination of a packet that holds an IPv4
header. -/
def ipv4Destination (data : List UInt8) : Option Ipv4Addr :=
  if 20 ≤ data.length then some (ofWordBytes ((data.drop 16).take 4)) else none

/-- `HybridOutbound`, with the parts of `BasicOutbound` that a packet passes. -/
structure HybridOutbound where
  packetCrypto : PacketCrypto
  packetCompression : PacketCompression
  externalRoute : List NetInput
  fecEncoder : Option FecEncoder

namespace HybridOutbound

/-- The destination a packet is sent to. -/
def destinationOf (outbound : HybridOutbound) (net : NetworkAddr) (dest : Ipv4Addr) :
    Option Ipv4Addr :=
  if net.network.contains dest = true then some dest else routeOf outbound.externalRoute dest

/-- The packet with its header, before the layers. -/
def address (net : NetworkAddr) (msgType : MsgType) (dest : Ipv4Addr) (data : TransmissionBytes) :
    Except String NetPacket := do
  let data ← data.retreatHead headLength
  let packet ← NetPacket.new data
  return (((packet.setMsgType msgType).setSrcId net.ip).setTtl 5).setDestId dest

/-- The wrapping for forward error correction, when it is on. -/
def wrap (codec : FecCodec) (outbound : HybridOutbound) (now : Instant) (packet : NetPacket) :
    Except String (HybridOutbound × NetPacket) :=
  match outbound.fecEncoder with
  | none => .ok (outbound, packet)
  | some fecEncoder =>
    (fecEncoder.encode codec now packet).map fun encoded =>
      ({ outbound with fecEncoder := some encoded.1 }, encoded.2)

/-- `ipv4_outbound` up to the encryption: the packet handed to `send_encrypted_packet` with its
destination. -/
def ipv4Prepared (codec : FecCodec) (outbound : HybridOutbound) (now : Instant)
    (net : NetworkAddr) (data : TransmissionBytes) :
    Except String (HybridOutbound × Option (Ipv4Addr × NetPacket)) := do
  match ipv4Destination data.data with
  | none => return (outbound, none)
  | some dest =>
    match outbound.destinationOf net dest with
    | none =>
      -- the room for the header is taken before the route is looked up
      let _ ← address net .turn dest data
      return (outbound, none)
    | some dest =>
      let packet ← address net .turn dest data
      let packet ← outbound.packetCompression.compress packet outbound.packetCrypto.encryptReserve
      let wrapped ← outbound.wrap codec now packet
      return (wrapped.1, some (dest, wrapped.2))

/-- `ipv4_outbound`: the encrypted packet with its destination. -/
def ipv4Outbound (codec : FecCodec) (outbound : HybridOutbound) (now : Instant)
    (net : NetworkAddr) (data : TransmissionBytes) :
    HybridOutbound × Except String (Option (Ipv4Addr × NetPacket)) :=
  match outbound.ipv4Prepared codec now net data with
  | .error message => (outbound, .error message)
  | .ok (next, none) => (next, .ok none)
  | .ok (next, some (dest, packet)) =>
    (next, (next.packetCrypto.encryptInPlace packet).map fun encrypted => some (dest, encrypted))

/-- `ipv4_broadcast_outbound` up to the encryption. -/
def broadcastPrepared (outbound : HybridOutbound) (net : NetworkAddr) (data : TransmissionBytes) :
    Except String NetPacket := do
  let packet ← address net .broadcast Ipv4Addr.broadcast data
  outbound.packetCompression.compress packet outbound.packetCrypto.encryptReserve

end HybridOutbound

/-! ### The header -/

/-- The header of an outgoing packet. -/
def outgoingHeader (net : NetworkAddr) (msgType : MsgType) (dest : Ipv4Addr) : NetHeader where
  typeByte := (msgType.toByte &&& 0x7F) ||| 0x80
  ttlByte := 0x55
  flagsByte := 0
  reserved := 0
  seq := 0
  srcId := net.ip
  destId := dest

/-- A packet with zeroed room in front of it gets a header of which only the type, the time to
live and the two addresses are set. -/
theorem address_eq {net : NetworkAddr} {dest : Ipv4Addr} (msgType : MsgType)
    (front data tailRoom : List UInt8) :
    HybridOutbound.address net msgType dest
        ⟨front ++ List.replicate headLength 0, data, tailRoom⟩ =
      .ok ⟨front, outgoingHeader net msgType dest, data, tailRoom⟩ := by
  unfold HybridOutbound.address
  have room : (List.replicate headLength (0 : UInt8)).length = headLength := List.length_replicate
  have retreated := TransmissionBytes.retreatHead_append front (List.replicate headLength 0) data
    tailRoom
  rw [room] at retreated
  rw [retreated]
  dsimp only [bind, Except.bind]
  rw [← NetHeader.toBytes_zero]
  have split := NetPacket.new_intoBuffer ⟨front, .zero, data, tailRoom⟩
  unfold NetPacket.intoBuffer at split
  rw [split]
  rfl

end Vnt.Tunnel
