/-
This file embeds the way of a packet to its receiver. A relay takes one from the time to live
and sends the packet on. The receiver undoes the layers in the opposite order: it decrypts,
takes the packet through the decoder of forward error correction when its flag is set, and
decompresses everything that comes out of it.
-/

import Vnt.Compression.PacketCompression
import Vnt.Crypto.PacketCrypto
import Vnt.Fec.Decoder

namespace Vnt.Tunnel

open Vnt.Base Vnt.Fec

/-- A relay between the two ends: it only decrements the time to live. -/
def relay (wire : List UInt8) : List UInt8 :=
  match NetPacket.new (.ofBytes wire) with
  | .ok packet => packet.decrTtl.intoBytes
  | .error _ => wire

theorem relay_of_new {wire : List UInt8} {packet : NetPacket}
    (outcome : NetPacket.new (.ofBytes wire) = .ok packet) :
    relay wire = packet.decrTtl.intoBytes := by
  unfold relay
  rw [outcome]

/-- A packet handed to `process_decompressed_packet`, or for `Quic` to the enhanced inbound. -/
structure Delivery where
  msgType : MsgType
  src : Ipv4Addr
  dest : Ipv4Addr
  packet : NetPacket
  deriving DecidableEq, Repr

/-- `ServerTurnInboundHandler`: the parts a packet of a client passes. -/
structure InboundHandler where
  packetCrypto : PacketCrypto
  packetCompression : PacketCompression
  fecDecoder : FecDecoder

/-- What comes of one packet: the deliveries that were made, and how it ended. -/
structure Handled where
  handler : InboundHandler
  delivered : List Delivery
  outcome : Except String Unit

namespace InboundHandler

/-- Decompress packets and deliver them, up to the first that fails. -/
def deliverAll (packetCompression : PacketCompression) (deliver : NetPacket → Delivery) :
    List NetPacket → List Delivery × Except String Unit
  | [] => ([], .ok ())
  | packet :: rest =>
    match packetCompression.decompress packet with
    | .error message => ([], .error message)
    | .ok packet =>
      let later := deliverAll packetCompression deliver rest
      (deliver packet :: later.1, later.2)

/-- What is done with the packets that the decoder gives out. -/
def handleDecoded (handler : InboundHandler) (packetCompression : PacketCompression)
    (deliver : NetPacket → Delivery)
    (received : FecDecoder × Except String (Option (List NetPacket))) : Handled :=
  let handler := { handler with fecDecoder := received.1 }
  match received.2 with
  | .error message => ⟨handler, [], .error message⟩
  | .ok packets =>
    let delivered := deliverAll packetCompression deliver (packets.getD [])
    ⟨handler, delivered.1, delivered.2⟩

/-- `handle_client_data`. -/
def handleClientData (code : ErasureCode UInt8) (codec : FecCodec) (handler : InboundHandler)
    (now : Instant) (data : List UInt8) : Handled :=
  match NetPacket.new (.ofBytes data) with
  | .error message => ⟨handler, [], .error message⟩
  | .ok packet =>
    match packet.msgType with
    | .error message => ⟨handler, [], .error message⟩
    | .ok msgType =>
      let deliver : NetPacket → Delivery := Delivery.mk msgType packet.header.srcId
        packet.header.destId
      if msgType = .quic then
        -- neither encrypted nor compressed
        if packet.isFec = true then
          handler.handleDecoded ⟨none⟩ deliver
            (handler.fecDecoder.receive code codec now packet)
        else ⟨handler, [deliver packet], .ok ()⟩
      else
        match handler.packetCrypto.decryptInPlace packet with
        | .error _ => ⟨handler, [], .ok ()⟩
        | .ok packet =>
          if packet.isFec = true then
            handler.handleDecoded handler.packetCompression deliver
              (handler.fecDecoder.receive code codec now packet)
          else
            let delivered := deliverAll handler.packetCompression deliver [packet]
            ⟨handler, delivered.1, delivered.2⟩

end InboundHandler

end Vnt.Tunnel
