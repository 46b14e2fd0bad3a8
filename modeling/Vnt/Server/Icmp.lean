/-
This file embeds the answer of the gateway to an echo request. The request is read through the
views of the packet library: a view needs a least length, and the payload of an IPv4 packet is
cut to its total length. The reply is the request with its addresses swapped, its type set to an
echo reply and both checksums renewed. Two slices of the reply are taken by lengths the packet
names, so a packet that names wrong ones ends in a panic.
-/

import Vnt.Protocol.NetPacket

namespace Vnt.Server

open Vnt.Base

/-- How a handler can end other than by returning: with an error for its caller, or by a
panic. -/
inductive Fault where
  | error (message : String)
  | panics
  deriving DecidableEq, Repr

namespace Icmp

def byteAt (bytes : List UInt8) (index : Nat) : Nat := (bytes.getD index 0).toNat

/-- `get_header_length`, in words of four bytes. -/
def headerLength (packet : List UInt8) : Nat := byteAt packet 0 % 16

def totalLength (packet : List UInt8) : Nat := byteAt packet 2 * 256 + byteAt packet 3

def nextLevelProtocol (packet : List UInt8) : Nat := byteAt packet 9

/-- `IpNextHeaderProtocols::Icmp`. -/
def icmpProtocol : Nat := 1

/-- `IcmpTypes::EchoRequest`. -/
def echoRequest : Nat := 8

/-- The payload of an IPv4 packet. -/
def ipv4Payload (packet : List UInt8) : List UInt8 :=
  let start := 20 + (headerLength packet * 4 - 20)
  let length := totalLength packet - headerLength packet * 4
  if packet.length ≤ start then []
  else (packet.take (min (start + length) packet.length)).drop start

/-- Overwrite the bytes from an offset on. -/
def splice (bytes : List UInt8) (offset : Nat) (new : List UInt8) : List UInt8 :=
  bytes.take offset ++ new ++ bytes.drop (offset + new.length)

/-- The sum of the 16-bit words but one, an odd last byte being the high byte of a word. -/
def sumWords (skipWord : Nat) : Nat → List UInt8 → Nat
  | index, high :: low :: rest =>
    (if index = skipWord then 0 else high.toNat * 256 + low.toNat) +
      sumWords skipWord (index + 1) rest
  | index, [high] => if index = skipWord then 0 else high.toNat * 256
  | _, [] => 0

/-- One fold of the carries into 16 bits; two are enough for a 32-bit sum. -/
def foldCarry (sum : Nat) : Nat := sum / 65536 + sum % 65536

/-- The checksum over the words but one. -/
def checksum (bytes : List UInt8) (skipWord : Nat) : List UInt8 :=
  if bytes = [] then [0, 0]
  else bigEndian 2 (65535 - foldCarry (foldCarry (sumWords skipWord 0 bytes)))

/-- `ipv4::checksum`, over the header. -/
def ipv4Checksum (packet : List UInt8) : List UInt8 :=
  checksum (packet.take (min (max (headerLength packet * 4) 20) packet.length)) 5

/-- Swap source and destination and renew the checksum of the header. -/
def swapAddresses (request reply : List UInt8) : List UInt8 :=
  let source := (request.drop 12).take 4
  let destination := (request.drop 16).take 4
  let swapped := splice (splice reply 12 destination) 16 source
  splice swapped 10 (ipv4Checksum swapped)

/-- Turn the message into an echo reply and renew its checksum. -/
def echoReply (message : List UInt8) : List UInt8 :=
  let typed := splice message 0 [0, 0]
  splice typed 2 (checksum typed 1)

end Icmp

/-- The header of a reply of the gateway. -/
def gatewayHeader (msgType : MsgType) (seq : UInt32) : NetHeader :=
  { ((NetHeader.zero.setMsgType msgType.toByte).setTtl 1 1).setFlag gatewayMask true with
    seq := seq }

/-- A packet of the gateway. -/
def gatewayPacket (msgType : MsgType) (seq : UInt32) (payload : List UInt8) : List UInt8 :=
  (gatewayHeader msgType seq).toBytes ++ payload

open Icmp in
/-- `handle_icmp_ping`. -/
def handleIcmpPing (packet : NetPacket) : Except Fault (Option (List UInt8)) :=
  let payload := packet.payload
  let icmp := ipv4Payload payload
  if payload.length < 20 ∨ nextLevelProtocol payload ≠ icmpProtocol then .ok none
  else if icmp.length < 8 ∨ byteAt icmp 0 ≠ echoRequest then .ok none
  else if payload.length < totalLength payload then .error .panics
  else if totalLength payload < 20 then .ok none
  else if totalLength payload < headerLength payload * 4 then .error .panics
  else
    let reply := swapAddresses payload (payload.take (totalLength payload))
    let message := reply.drop (headerLength payload * 4)
    if message.length < 4 then .ok none
    else
      .ok (some (gatewayPacket .turn packet.header.seq
        (reply.take (headerLength payload * 4) ++ echoReply message)))

end Vnt.Server
