/-
This file embeds the receiving side of forward error correction. A data packet is unwrapped and
delivered as it arrives, and its shard is kept for the group. The first parity packet tells how
many shards the group has; from then on, when as many shards are there as the group has data,
the missing data are completed and delivered, and the group is done. An error in between leaves
what was stored, and drops the packet that was about to be delivered.
-/

import Mathlib.Data.List.Sort
import Vnt.Fec.Encoder

namespace Vnt.Fec

open Vnt.Base

/-- `GROUP_TIMEOUT`. -/
def groupTimeout : Nat := 3000

/-- `MAX_GROUPS`. -/
def maxGroups : Nat := 1000

/-- `FecGroup`. -/
structure FecGroup where
  dataShards : Nat
  parityShards : Nat
  receivedOriginalCount : Nat
  receivedShards : List (Option (List UInt8))
  lastUpdate : Instant

/-- The key of a group: the source and the number of the group. -/
abbrev GroupKey : Type := Ipv4Addr × UInt64

/-- `FecDecoder`. -/
structure FecDecoder where
  groups : Map GroupKey FecGroup
  lastCleanup : Instant

/-- `FecDecoder::new`. -/
def FecDecoder.new (now : Instant) : FecDecoder := ⟨∅, now⟩

/-- A list made at least as long as asked. -/
def grow (shards : List (Option (List UInt8))) (length : Nat) : List (Option (List UInt8)) :=
  shards ++ List.replicate (length - shards.length) none

namespace FecGroup

/-- `FecGroup::default`. -/
def default (now : Instant) : FecGroup := ⟨0, 0, 0, [], now⟩

def isDone (group : FecGroup) : Bool :=
  decide (group.dataShards ≠ 0 ∧ group.receivedOriginalCount = group.dataShards)

def done (group : FecGroup) : FecGroup :=
  { group with receivedOriginalCount := group.dataShards, receivedShards := [] }

/-- The shard at an index, when it is there. -/
def shard (group : FecGroup) (index : Nat) : Option (List UInt8) :=
  group.receivedShards.getD index none

/-- The part of `receive` that stores a parity shard. -/
def storeParity (group : FecGroup) (now : Instant) (srcIp : Ipv4Addr) (index : Nat)
    (parityData : ParityData) (payload : List UInt8) : Except String FecGroup :=
  let dataShards := parityData.dataShards.toNat
  let parityShards := parityData.parityShards.toNat
  if dataShards > maxNum then .error s!"data_shards overflow {Ipv4Addr.display srcIp}"
  else if parityShards > maxNum then .error s!"parity_shards overflow {Ipv4Addr.display srcIp}"
  else if dataShards + parityShards ≤ index then
    .error s!"packet_index overflow {Ipv4Addr.display srcIp}"
  else if group.dataShards ≠ 0 ∧ group.dataShards ≠ dataShards then
    .error s!"group data_shards!=data_shards {Ipv4Addr.display srcIp}"
  else if group.parityShards ≠ 0 ∧ group.parityShards ≠ parityShards then
    .error s!"group parity_shards!=parity_shards {Ipv4Addr.display srcIp}"
  else
    .ok
      { dataShards := dataShards
        parityShards := parityShards
        receivedOriginalCount := group.receivedOriginalCount
        receivedShards :=
          (grow group.receivedShards (dataShards + parityShards)).set index (some payload)
        lastUpdate := now }

/-- The part of `receive` that stores a data shard, with the flags as they arrived. -/
def storeData (group : FecGroup) (now : Instant) (index : Nat) (packet : NetPacket)
    (payload : List UInt8) : FecGroup :=
  { group with
    receivedOriginalCount := group.receivedOriginalCount + 1
    receivedShards := (grow group.receivedShards (index + 1)).set index
      (some (shardOf packet.header.typeByte packet.header.flagsByte payload))
    lastUpdate := now }

/-- `rebuild_net_packet`. -/
def rebuildNetPacket (currentPacket : NetPacket) (recovered : List UInt8) :
    Except String NetPacket := do
  if recovered.length < 4 then
    throw "recovered_data too short"
  let payloadLen := ofBigEndian ((recovered.drop 2).take 2)
  if payloadLen + 4 > recovered.length then
    throw "invalid payload_len in recovered_data"
  let payload := (recovered.drop 4).take payloadLen
  let blank ← NetPacket.new (.zeroed (headLength + payload.length))
  let marked := { blank with
    header := { blank.header with
      typeByte := recovered.getD 0 0
      flagsByte := recovered.getD 1 0 } }
  let addressed := ((marked.setSrcId currentPacket.header.srcId).setDestId
    currentPacket.header.destId).setTtl currentPacket.ttl
  (addressed.setFecFlag false).setPayload payload

/-- `decode_with_rs`. The group after an error is the one the error left behind. -/
def decodeWithRs (code : ErasureCode UInt8) (group : FecGroup) (key : GroupKey)
    (packet : NetPacket) : FecGroup × Except String (Option (List NetPacket)) :=
  if group.receivedShards.length ≠ group.dataShards + group.parityShards then
    (group, .error (s!"received_shards.len()({group.receivedShards.length}) != " ++
      s!"data_shards({group.dataShards})+parity_shards({group.parityShards}) " ++
        s!"src_ip={Ipv4Addr.display key.1},group_id={key.2}"))
  else
    match code.reconstruct group.dataShards group.parityShards group.receivedShards with
    | none => (group, .error "reed solomon")
    | some shards =>
      match ((List.range group.dataShards).filter fun index => (group.shard index).isNone).mapM
          fun index => rebuildNetPacket packet (shards.getD index []) with
      | .error message => ({ group with receivedShards := shards.map some }, .error message)
      | .ok result => (group.done, .ok (some result))

/-- `try_decode`. -/
def tryDecode (code : ErasureCode UInt8) (group : FecGroup) (key : GroupKey)
    (packet : NetPacket) : FecGroup × Except String (Option (List NetPacket)) :=
  if group.dataShards = 0 then (group, .ok none)
  else if group.receivedOriginalCount = group.dataShards then (group, .ok none)
  else if (group.receivedShards.filterMap id).length < group.dataShards then (group, .ok none)
  else group.decodeWithRs code key packet

end FecGroup

/-- The packet a data packet carries: its head with the flag cleared, and the payload. -/
def unwrap (packet : NetPacket) (payload : List UInt8) : Except String NetPacket := do
  let blank ← NetPacket.new (.zeroed (headLength + payload.length))
  ({ blank with header := packet.header }.setFecFlag false).setPayload payload

theorem unwrap_eq (packet : NetPacket) (payload : List UInt8) :
    unwrap packet payload = .ok ⟨[], packet.header.setFlag fecMask false, payload, []⟩ := by
  unfold unwrap
  rw [NetPacket.new_zeroed]
  exact NetPacket.setPayload_blank _ _ _ _

/-- What is delivered of a packet: what was completed, and then the packet itself. -/
def deliver : Option NetPacket → Option (List NetPacket) → Option (List NetPacket)
  | some packet, some result => some (result ++ [packet])
  | some packet, none => some [packet]
  | none, result => result

namespace FecGroup

/-- Whether a shard is of use: the group is not done, and the shard is not there yet. -/
def accepts (group : FecGroup) (index : Nat) : Bool :=
  !group.isDone && (group.shard index).isNone

/-- The part of `receive` that stores the shard of a packet and unwraps it. -/
def store (group : FecGroup) (now : Instant) (fecPacket : FecPacket) (packet : NetPacket) :
    Except String (FecGroup × Option NetPacket) :=
  match fecPacket.parityData with
  | some parityData =>
    (group.storeParity now packet.header.srcId fecPacket.packetIndex.toNat parityData
      fecPacket.payload).map fun group => (group, none)
  | none =>
    (unwrap packet fecPacket.payload).map fun result =>
      (group.storeData now fecPacket.packetIndex.toNat packet fecPacket.payload, some result)

/-- The part of `receive` on a group that accepts the shard. -/
def receive (code : ErasureCode UInt8) (group : FecGroup) (now : Instant) (fecPacket : FecPacket)
    (packet : NetPacket) : FecGroup × Except String (Option (List NetPacket)) :=
  match group.store now fecPacket packet with
  | .error message => (group, .error message)
  | .ok (stored, delivered) =>
    if stored.isDone = true then (stored.done, .ok (deliver delivered none))
    else
      match stored.tryDecode code (packet.header.srcId, fecPacket.groupId) packet with
      | (decoded, .error message) => (decoded, .error message)
      | (decoded, .ok result) => (decoded, .ok (deliver delivered result))

theorem receive_of_store (code : ErasureCode UInt8) {group stored : FecGroup} {now : Instant}
    {fecPacket : FecPacket} {packet : NetPacket} {unwrapped : Option NetPacket}
    (outcome : group.store now fecPacket packet = .ok (stored, unwrapped)) :
    group.receive code now fecPacket packet =
      if stored.isDone = true then (stored.done, .ok (deliver unwrapped none))
      else
        match stored.tryDecode code (packet.header.srcId, fecPacket.groupId) packet with
        | (decoded, .error message) => (decoded, .error message)
        | (decoded, .ok result) => (decoded, .ok (deliver unwrapped result)) := by
  unfold receive
  rw [outcome]

end FecGroup

namespace FecDecoder

/-- Write a group back. -/
def putGroup (decoder : FecDecoder) (key : GroupKey) (group : FecGroup) : FecDecoder :=
  { decoder with groups := decoder.groups.insert key group }

/-- `cleanup_old_groups`. -/
def cleanupOldGroups (groups : Map GroupKey FecGroup) (now : Instant) : Map GroupKey FecGroup :=
  let stale := (groups.entries.filter fun entry =>
    decide (¬now - entry.2.lastUpdate < groupTimeout)).map fun entry => entry.1
  let kept := Map.eraseAll groups stale
  if kept.entries.length > maxGroups then
    let oldest := (kept.entries.map fun entry => (entry.1, entry.2.lastUpdate)).mergeSort
      fun first second => decide (first.2 ≤ second.2)
    kept.eraseAll ((oldest.take (kept.entries.length - maxGroups)).map Prod.fst)
  else kept

/-- The cleanup that `receive` makes once a second. -/
def cleanup (decoder : FecDecoder) (now : Instant) : FecDecoder :=
  if now - decoder.lastCleanup > 1000 then
    { groups := cleanupOldGroups decoder.groups now, lastCleanup := now }
  else decoder

/-- `FecDecoder::receive`. The decoder after an error is the one the error left behind. -/
def receive (code : ErasureCode UInt8) (codec : FecCodec) (decoder : FecDecoder) (now : Instant)
    (packet : NetPacket) : FecDecoder × Except String (Option (List NetPacket)) :=
  match codec.decode packet.payload with
  | .error message => (decoder, .error message)
  | .ok fecPacket =>
    let key := (packet.header.srcId, fecPacket.groupId)
    let index := fecPacket.packetIndex.toNat
    if index > maxNum then
      (decoder, .error s!"packet_index overflow {Ipv4Addr.display packet.header.srcId}")
    else
      let group := (decoder.groups.lookup key).getD (.default now)
      let entered := decoder.putGroup key group
      if group.accepts index = false then (entered, .ok none)
      else
        match group.receive code now fecPacket packet with
        | (next, .error message) => (entered.putGroup key next, .error message)
        | (next, .ok packets) => ((entered.putGroup key next).cleanup now, .ok packets)

variable {code : ErasureCode UInt8} {codec : FecCodec} {decoder : FecDecoder} {packet : NetPacket}
  {fecPacket : FecPacket}

/-- A packet with a readable message goes to its group. -/
theorem receive_eq (code : ErasureCode UInt8) (now : Instant)
    (decodes : codec.decode packet.payload = .ok fecPacket)
    (inside : fecPacket.packetIndex.toNat ≤ maxNum) {group : FecGroup}
    (isGroup : (decoder.groups.lookup (packet.header.srcId, fecPacket.groupId)).getD
      (.default now) = group) :
    decoder.receive code codec now packet =
      if group.accepts fecPacket.packetIndex.toNat = false then
        (decoder.putGroup (packet.header.srcId, fecPacket.groupId) group, .ok none)
      else
        match group.receive code now fecPacket packet with
        | (next, .error message) =>
          ((decoder.putGroup (packet.header.srcId, fecPacket.groupId) group).putGroup
            (packet.header.srcId, fecPacket.groupId) next, .error message)
        | (next, .ok packets) =>
          (((decoder.putGroup (packet.header.srcId, fecPacket.groupId) group).putGroup
            (packet.header.srcId, fecPacket.groupId) next).cleanup now, .ok packets) := by
  unfold receive
  simp only [decodes, isGroup]
  rw [if_neg (Nat.not_lt_of_le inside)]

/-- What a packet with a readable message gives is what its group gives. -/
theorem receive_snd (code : ErasureCode UInt8) (now : Instant)
    (decodes : codec.decode packet.payload = .ok fecPacket)
    (inside : fecPacket.packetIndex.toNat ≤ maxNum) {group : FecGroup}
    (isGroup : (decoder.groups.lookup (packet.header.srcId, fecPacket.groupId)).getD
      (.default now) = group) :
    (decoder.receive code codec now packet).2 =
      if group.accepts fecPacket.packetIndex.toNat = false then .ok none
      else (group.receive code now fecPacket packet).2 := by
  rw [receive_eq code now decodes inside isGroup]
  split
  · rfl
  · cases outcome : group.receive code now fecPacket packet with
    | mk next result => cases result <;> rfl

/-- The first data packet of a group is delivered. -/
theorem receive_first (code : ErasureCode UInt8) (now : Instant)
    (decodes : codec.decode packet.payload = .ok fecPacket)
    (inside : fecPacket.packetIndex.toNat ≤ maxNum) (isData : fecPacket.parityData = none)
    (fresh : decoder.groups.lookup (packet.header.srcId, fecPacket.groupId) = none) :
    (decoder.receive code codec now packet).2 =
      .ok (some [⟨[], packet.header.setFlag fecMask false, fecPacket.payload, []⟩]) := by
  rw [receive_snd code now decodes inside (congrArg (fun group => group.getD (.default now)) fresh)]
  rw [if_neg (by simp [FecGroup.accepts, FecGroup.isDone, FecGroup.shard, FecGroup.default])]
  unfold FecGroup.receive FecGroup.store
  simp only [isData, unwrap_eq, Except.map]
  rw [if_neg (by simp [FecGroup.isDone, FecGroup.storeData, FecGroup.default])]
  rfl

end FecDecoder

end Vnt.Fec
