/-
This file embeds the message that forward error correction wraps a payload in, and the split of
a batch into data and parity. The codec of the message is generated from its description, and
only that it decodes what it encoded, at a bounded length, is used of it.
-/

import Vnt.Base.Bytes

namespace Vnt.Fec

open Vnt.Base

/-- `ParityData`. -/
structure ParityData where
  dataShards : UInt32
  parityShards : UInt32
  deriving DecidableEq, Repr

/-- `FecPacket`. -/
structure FecPacket where
  groupId : UInt64
  packetIndex : UInt32
  payload : List UInt8
  parityData : Option ParityData
  deriving DecidableEq, Repr

/-- `FecPacket::encode_to_vec` and `FecPacket::decode`. The fields around the payload take less
than 128 bytes. -/
structure FecCodec where
  encodeToVec : FecPacket → List UInt8
  decode : List UInt8 → Except String FecPacket
  length_encodeToVec : ∀ packet, (encodeToVec packet).length ≤ packet.payload.length + 128
  decode_encodeToVec : ∀ packet, packet.payload.length < 2 ^ 32 →
    decode (encodeToVec packet) = .ok packet

/-- `BATCH_SIZE`. -/
def batchSize : Nat := 10

/-- `MIN_PARITY`. -/
def minParity : Nat := 1

/-- `MAX_NUM`. -/
def maxNum : Nat := 50

/-- The number of parity shards of a batch, a fifth rounded up. The source multiplies by
`REDUNDANCY_RATE` in single precision, which is exact for the multiples of five up to
`BATCH_SIZE`. -/
def parityShards (dataShards : Nat) : Nat := max ((dataShards + 4) / 5) minParity

/-- The data a shard is made of: the type, the flags and the length of the payload in front
of it. -/
def shardOf (typeByte flagsByte : UInt8) (payload : List UInt8) : List UInt8 :=
  typeByte :: flagsByte :: (bigEndian 2 payload.length ++ payload)

@[simp] theorem length_shardOf (typeByte flagsByte : UInt8) (payload : List UInt8) :
    (shardOf typeByte flagsByte payload).length = 4 + payload.length := by
  simp only [shardOf, List.length_cons, List.length_append, length_bigEndian]
  omega

example : (List.range 11).map parityShards = [1, 1, 1, 1, 1, 1, 2, 2, 2, 2, 2] := by decide

end Vnt.Fec
