/-
This file embeds the sending side of forward error correction. Every packet is wrapped and goes
out at once; what a shard needs of it is kept in the batch of its destination. A batch is closed
when it is full or when its deadline has passed, and its parity shards go out as packets of
their own, padded to the longest shard of the batch.
-/

import Vnt.Base.ErasureCode
import Vnt.Base.Map
import Vnt.Fec.FecPacket
import Vnt.Ipv4
import Vnt.Protocol.NetPacket

namespace Vnt.Fec

open Vnt.Base

/-- `Instant`, in milliseconds. -/
abbrev Instant : Type := Nat

/-- `BATCH_TIMEOUT_MS`. -/
def batchTimeoutMs : Nat := 20

/-- `BATCH_CHANNEL_SIZE`. -/
def batchChannelSize : Nat := 1024

/-- `DestBatchState`; an open batch is never full. -/
structure DestBatchState where
  groupId : UInt64
  currentBatch : List (List UInt8)
  deadline : Instant
  srcIp : Ipv4Addr
  short : currentBatch.length < batchSize

/-- A batch that was closed, as it is handed to the worker. -/
structure ClosedBatch where
  src : Ipv4Addr
  dest : Ipv4Addr
  groupId : UInt64
  items : List (List UInt8)

/-- `FecEncoder`, with the batches the worker has not taken from the channel yet. -/
structure FecEncoder where
  batchStates : Map Ipv4Addr DestBatchState
  batchTx : List ClosedBatch

/-- The batch state of a destination that has none yet. -/
def DestBatchState.new (now : Instant) (srcIp : Ipv4Addr) : DestBatchState :=
  ⟨0, [], now + batchTimeoutMs, srcIp, by decide⟩

/-- The state after its batch was closed. -/
def DestBatchState.renewed (state : DestBatchState) (now : Instant) : DestBatchState :=
  { groupId := state.groupId + 1
    currentBatch := []
    deadline := now + batchTimeoutMs
    srcIp := state.srcIp
    short := by decide }

namespace FecEncoder

/-- The state a packet to a destination finds. -/
def stateFor (encoder : FecEncoder) (now : Instant) (srcIp dest : Ipv4Addr) : DestBatchState :=
  (encoder.batchStates.lookup dest).getD (.new now srcIp)

/-- Add an item to a batch, closing the batch when it is full. -/
def push (encoder : FecEncoder) (now : Instant) (srcIp dest : Ipv4Addr) (item : List UInt8) :
    FecEncoder :=
  let state := encoder.stateFor now srcIp dest
  if full : (state.currentBatch ++ [item]).length < batchSize then
    { encoder with
      batchStates := encoder.batchStates.insert dest
        { groupId := state.groupId
          currentBatch := state.currentBatch ++ [item]
          deadline := state.deadline
          srcIp := state.srcIp
          short := full } }
  else
    { batchStates := encoder.batchStates.insert dest (state.renewed now)
      batchTx :=
        if encoder.batchTx.length < batchChannelSize then
          encoder.batchTx ++ [⟨srcIp, dest, state.groupId, state.currentBatch ++ [item]⟩]
        else encoder.batchTx }

/-- `FecEncoder::encode`. -/
def encode (codec : FecCodec) (encoder : FecEncoder) (now : Instant) (packet : NetPacket) :
    Except String (FecEncoder × NetPacket) := do
  let srcIp := packet.header.srcId
  let dest := packet.header.destId
  if packet.payload.length > 65535 then
    throw "Payload too big"
  let state := encoder.stateFor now srcIp dest
  let fecPayload := codec.encodeToVec
    { groupId := state.groupId
      packetIndex := UInt32.ofNat state.currentBatch.length
      payload := packet.payload
      parityData := none }
  let wrapped ← (packet.resize fecPayload.length).setPayload fecPayload
  return (encoder.push now srcIp dest
    (shardOf packet.header.typeByte packet.header.flagsByte packet.payload),
      wrapped.setFecFlag true)

/-- A payload that fits is wrapped with the number and the place it gets in its batch; the
header only gets the flag. -/
theorem encode_eq (codec : FecCodec) (encoder : FecEncoder) (now : Instant) {packet : NetPacket}
    (fits : packet.payload.length ≤ 65535) :
    encoder.encode codec now packet = .ok
      (encoder.push now packet.header.srcId packet.header.destId
          (shardOf packet.header.typeByte packet.header.flagsByte packet.payload),
        { headRoom := packet.headRoom
          header := packet.header.setFlag fecMask true
          payload := codec.encodeToVec
            { groupId := (encoder.stateFor now packet.header.srcId packet.header.destId).groupId
              packetIndex := UInt32.ofNat
                (encoder.stateFor now packet.header.srcId packet.header.destId).currentBatch.length
              payload := packet.payload
              parityData := none }
          tailRoom := [] }) := by
  unfold encode
  rw [if_neg (Nat.not_lt_of_le fits)]
  dsimp only [bind, Except.bind, pure, Except.pure]
  rw [NetPacket.setPayload_of_length _ (NetPacket.length_payload_resize _ _)]
  rfl

/-- The worker takes a full batch from the channel. -/
def takeFull (encoder : FecEncoder) : Option (FecEncoder × ClosedBatch) :=
  match encoder.batchTx with
  | batch :: rest => some ({ encoder with batchTx := rest }, batch)
  | [] => none

/-- The batch a timer tick closes for a destination. -/
def timedOut (now : Instant) (dest : Ipv4Addr) (state : DestBatchState) : Option ClosedBatch :=
  if state.currentBatch ≠ [] ∧ now ≥ state.deadline then
    some ⟨state.srcIp, dest, state.groupId, state.currentBatch⟩
  else none

/-- The worker's timer tick: the batches whose deadline has passed. -/
def takeTimedOut (encoder : FecEncoder) (now : Instant) : FecEncoder × List ClosedBatch :=
  let closed := encoder.batchStates.entries.filterMap fun entry => timedOut now entry.1 entry.2
  ({ encoder with
      batchStates := closed.foldl
        (fun states batch => match states.lookup batch.dest with
          | some state => states.insert batch.dest (state.renewed now)
          | none => states)
        encoder.batchStates },
    closed)

end FecEncoder

/-- The packet that carries one parity shard. -/
def parityPacket (codec : FecCodec) (batch : ClosedBatch) (parityShards index : Nat)
    (shard : List UInt8) : Except String NetPacket := do
  let fecPayload := codec.encodeToVec
    { groupId := batch.groupId
      packetIndex := UInt32.ofNat (batch.items.length + index)
      payload := shard
      parityData := some
        ⟨UInt32.ofNat batch.items.length, UInt32.ofNat parityShards⟩ }
  let blank ← NetPacket.new (.zeroed (headLength + fecPayload.length))
  let packet := (((blank.setMsgType .turn).setSrcId batch.src).setDestId batch.dest).setTtl 5
  let packet ← packet.setPayload fecPayload
  return packet.setFecFlag true

/-- The length of the longest item. -/
def maxLen (items : List (List UInt8)) : Nat := (items.map List.length).max?.getD 0

/-- An item filled up with zeros. -/
def padded (length : Nat) (item : List UInt8) : List UInt8 :=
  item ++ List.replicate (length - item.length) 0

/-- `encode_and_send_parity`: the packets it hands to the sender, in order. -/
def encodeAndSendParity (code : ErasureCode UInt8) (codec : FecCodec) (batch : ClosedBatch) :
    Except String (List NetPacket) :=
  if batch.items = [] ∨ maxLen batch.items = 0 then .ok []
  else
    match code.encode (parityShards batch.items.length)
        (batch.items.map (padded (maxLen batch.items))) with
    | none => .error "reed solomon"
    | some parity =>
      (parity.zipIdx).mapM fun shard =>
        parityPacket codec batch (parityShards batch.items.length) shard.2 shard.1

end Vnt.Fec
