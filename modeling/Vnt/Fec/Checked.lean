/-
This file shows that the decoder of forward error correction reaches into no list beyond its end.
The steps of the decoder that read or write by an index or a range are embedded once more, each
access a panic where it leaves its list. The tests that come before the accesses keep them inside,
whatever a packet holds and whatever was received before, so the two embeddings agree.
-/

import Vnt.Base.Indexing
import Vnt.Fec.Decoder
import Vnt.Server.Icmp

namespace Vnt.Fec

open Vnt.Base Vnt.Server

/-! ### The decoder with its accesses -/

/-- An access that leaves its list is a panic. -/
def orPanics {Value : Type} : Option Value → Except Fault Value
  | some value => .ok value
  | none => .error .panics

/-- The shard of an original, as it is put together. -/
def batchData (typeByte flagsByte : UInt8) (payload : List UInt8) : Option (List UInt8) := do
  let typed ← writeAt (List.replicate (4 + payload.length) 0) 0 typeByte
  let flagged ← writeAt typed 1 flagsByte
  let sized ← copyAt flagged 2 4 (bigEndian 2 payload.length)
  copyAt sized 4 (4 + payload.length) payload

/-- `rebuild_net_packet`. -/
def rebuildChecked (currentPacket : NetPacket) (recovered : List UInt8) :
    Except Fault NetPacket :=
  if recovered.length < 4 then .error (.error "recovered_data too short")
  else do
    let typeByte ← orPanics recovered[0]?
    let flagsByte ← orPanics recovered[1]?
    let high ← orPanics recovered[2]?
    let low ← orPanics recovered[3]?
    let payloadLen := ofBigEndian [high, low]
    if payloadLen + 4 > recovered.length then
      .error (.error "invalid payload_len in recovered_data")
    else do
      let payload ← orPanics (slice recovered 4 (4 + payloadLen))
      let rebuilt : Except String NetPacket := do
        let blank ← NetPacket.new (.zeroed (headLength + payload.length))
        let marked := { blank with
          header := { blank.header with
            typeByte := typeByte
            flagsByte := flagsByte } }
        let addressed := ((marked.setSrcId currentPacket.header.srcId).setDestId
          currentPacket.header.destId).setTtl currentPacket.ttl
        (addressed.setFecFlag false).setPayload payload
      rebuilt.mapError .error

/-- Rebuild the packets of shards that were not delivered, counting from an index. -/
def rebuildMissing (packet : NetPacket) (delivered : List Bool) :
    List (List UInt8) → Nat → Except Fault (List NetPacket)
  | [], _ => .ok []
  | shard :: rest, index => do
    let isDelivered ← orPanics delivered[index]?
    if isDelivered = true then rebuildMissing packet delivered rest (index + 1)
    else
      let rebuilt ← rebuildChecked packet shard
      let later ← rebuildMissing packet delivered rest (index + 1)
      return rebuilt :: later

namespace FecGroup

/-- The part of `receive` that stores the shard of a packet and unwraps it. -/
def storeChecked (group : FecGroup) (now : Instant) (fecPacket : FecPacket) (packet : NetPacket) :
    Except Fault (FecGroup × Option NetPacket) :=
  let index := fecPacket.packetIndex.toNat
  match fecPacket.parityData with
  | some parityData => do
    let stored ← (group.storeParity now packet.header.srcId index parityData
      fecPacket.payload).mapError .error
    let shards ← orPanics (writeAt (grow group.receivedShards
      (parityData.dataShards.toNat + parityData.parityShards.toNat)) index
        (some fecPacket.payload))
    return ({ stored with receivedShards := shards }, none)
  | none => do
    let result ← (unwrap packet fecPacket.payload).mapError .error
    let shard ← orPanics (batchData packet.header.typeByte packet.header.flagsByte
      fecPacket.payload)
    let shards ← orPanics (writeAt (grow group.receivedShards (index + 1)) index (some shard))
    return ({ group with
      receivedOriginalCount := group.receivedOriginalCount + 1
      receivedShards := shards
      lastUpdate := now }, some result)

/-- `decode_with_rs`. -/
def decodeWithRsChecked (code : ErasureCode UInt8) (group : FecGroup) (key : GroupKey)
    (packet : NetPacket) : FecGroup × Except Fault (Option (List NetPacket)) :=
  if group.receivedShards.length ≠ group.dataShards + group.parityShards then
    (group, .error (.error (s!"received_shards.len()({group.receivedShards.length}) != " ++
      s!"data_shards({group.dataShards})+parity_shards({group.parityShards}) " ++
        s!"src_ip={Ipv4Addr.display key.1},group_id={key.2}")))
  else
    match (slice group.receivedShards 0 group.dataShards).bind fun data =>
        markAll Option.isSome data 0 (List.replicate group.dataShards false) with
    | none => (group, .error .panics)
    | some delivered =>
      match code.reconstruct group.dataShards group.parityShards group.receivedShards with
      | none => (group, .error (.error "reed solomon"))
      | some shards =>
        match rebuildMissing packet delivered (shards.take group.dataShards) 0 with
        | .error fault => ({ group with receivedShards := shards.map some }, .error fault)
        | .ok result => (group.done, .ok (some result))

/-- `try_decode`. -/
def tryDecodeChecked (code : ErasureCode UInt8) (group : FecGroup) (key : GroupKey)
    (packet : NetPacket) : FecGroup × Except Fault (Option (List NetPacket)) :=
  if group.dataShards = 0 then (group, .ok none)
  else if group.receivedOriginalCount = group.dataShards then (group, .ok none)
  else if (group.receivedShards.filterMap id).length < group.dataShards then (group, .ok none)
  else group.decodeWithRsChecked code key packet

/-- The part of `receive` on a group that accepts the shard. -/
def receiveChecked (code : ErasureCode UInt8) (group : FecGroup) (now : Instant)
    (fecPacket : FecPacket) (packet : NetPacket) :
    FecGroup × Except Fault (Option (List NetPacket)) :=
  match group.storeChecked now fecPacket packet with
  | .error fault => (group, .error fault)
  | .ok (stored, delivered) =>
    if stored.isDone = true then (stored.done, .ok (deliver delivered none))
    else
      match stored.tryDecodeChecked code (packet.header.srcId, fecPacket.groupId) packet with
      | (decoded, .error fault) => (decoded, .error fault)
      | (decoded, .ok result) => (decoded, .ok (deliver delivered result))

end FecGroup

/-- `FecDecoder::receive`. -/
def FecDecoder.receiveChecked (code : ErasureCode UInt8) (codec : FecCodec) (decoder : FecDecoder)
    (now : Instant) (packet : NetPacket) : FecDecoder × Except Fault (Option (List NetPacket)) :=
  match codec.decode packet.payload with
  | .error message => (decoder, .error (.error message))
  | .ok fecPacket =>
    let key := (packet.header.srcId, fecPacket.groupId)
    let index := fecPacket.packetIndex.toNat
    if index > maxNum then
      (decoder, .error (.error s!"packet_index overflow {Ipv4Addr.display packet.header.srcId}"))
    else
      let group := (decoder.groups.lookup key).getD (.default now)
      let entered := decoder.putGroup key group
      if group.accepts index = false then (entered, .ok none)
      else
        match group.receiveChecked code now fecPacket packet with
        | (next, .error fault) => (entered.putGroup key next, .error fault)
        | (next, .ok packets) => ((entered.putGroup key next).cleanup now, .ok packets)

/-! ### No access leaves its list -/

theorem batchData_eq (typeByte flagsByte : UInt8) (payload : List UInt8) :
    batchData typeByte flagsByte payload = some (shardOf typeByte flagsByte payload) := by
  have blank : List.replicate (4 + payload.length) (0 : UInt8) =
      0 :: 0 :: 0 :: 0 :: List.replicate payload.length 0 := by
    rw [Nat.add_comm]
    rfl
  have sized := copyAt_append [typeByte, flagsByte] [0, 0] (List.replicate payload.length 0)
    (bigEndian 2 payload.length) (length_bigEndian 2 _)
  have filled := copyAt_append ([typeByte, flagsByte] ++ bigEndian 2 payload.length)
    (List.replicate payload.length 0) [] payload List.length_replicate.symm
  rw [List.append_nil, List.append_nil, List.length_append, length_bigEndian] at filled
  rw [length_bigEndian] at sized
  unfold batchData
  rw [blank]
  dsimp only [bind]
  rw [writeAt_of_lt (by simp), Option.bind_some, writeAt_of_lt (by simp), Option.bind_some]
  change (copyAt ([typeByte, flagsByte] ++ ([0, 0] ++ List.replicate payload.length 0)) 2 4
    (bigEndian 2 payload.length)).bind _ = _
  change copyAt _ 2 4 _ = _ at sized
  rw [sized, Option.bind_some, ← List.append_assoc]
  exact filled

theorem rebuildChecked_eq (packet : NetPacket) (recovered : List UInt8) :
    rebuildChecked packet recovered =
      (FecGroup.rebuildNetPacket packet recovered).mapError .error := by
  unfold rebuildChecked FecGroup.rebuildNetPacket
  by_cases short : recovered.length < 4
  · rw [if_pos short, if_pos short]
    rfl
  · rw [if_neg short, if_neg short]
    rcases recovered with _ | ⟨typeByte, _ | ⟨flagsByte, _ | ⟨high, _ | ⟨low, rest⟩⟩⟩⟩
    · exact absurd (by simp) short
    · exact absurd (by simp) short
    · exact absurd (by simp) short
    · exact absurd (by simp) short
    · change (if ofBigEndian [high, low] + 4 > _ then _ else
        (orPanics (slice _ 4 (4 + ofBigEndian [high, low]))).bind _) = Except.mapError _
          (if ofBigEndian [high, low] + 4 > _ then _ else _)
      split
      · rfl
      · next told =>
        rw [slice_of_le (Nat.le_add_right _ _) (by omega), List.drop_take, Nat.add_sub_cancel_left]
        rfl

/-- The packets that are rebuilt are those of the shards that were missing. -/
theorem rebuildMissing_eq (packet : NetPacket) (delivered : List Bool)
    {whole : List (List UInt8)} (long : delivered.length ≤ whole.length) {index count : Nat}
    (inside : index + count = delivered.length) :
    rebuildMissing packet delivered ((whole.take delivered.length).drop index) index =
      (((List.range' index count).filter fun index => !delivered.getD index false).mapM
        fun index => FecGroup.rebuildNetPacket packet (whole.getD index [])).mapError .error := by
  induction count generalizing index with
  | zero =>
    rw [List.drop_eq_nil_of_le (by rw [List.length_take]; omega)]
    rfl
  | succ count inductionHypothesis =>
    have isIndex : index < (whole.take delivered.length).length := by
      rw [List.length_take]
      omega
    have shard : (whole.take delivered.length)[index] = whole.getD index [] := by
      rw [List.getElem_take, List.getD_eq_getElem?_getD, List.getElem?_eq_getElem (by omega)]
      rfl
    have isMark : delivered[index]? = some (delivered.getD index false) := by
      rw [List.getD_eq_getElem?_getD, List.getElem?_eq_getElem (by omega)]
      rfl
    have next : index + 1 + count = delivered.length := by omega
    have later := inductionHypothesis next
    rw [List.drop_eq_getElem_cons isIndex, List.range'_succ, List.filter_cons]
    unfold rebuildMissing
    rw [isMark]
    change (if delivered.getD index false = true then _ else _) = _
    cases mark : delivered.getD index false with
    | true =>
      rw [if_pos rfl, if_neg (by decide)]
      exact later
    | false =>
      rw [if_neg Bool.false_ne_true, if_pos (by decide), List.mapM_cons, shard, rebuildChecked_eq,
        later]
      cases FecGroup.rebuildNetPacket packet (whole.getD index []) with
      | error message => rfl
      | ok rebuilt =>
        dsimp only [bind, Except.bind, Except.mapError]
        cases ((List.range' (index + 1) count).filter fun index =>
            !delivered.getD index false).mapM fun index =>
              FecGroup.rebuildNetPacket packet (whole.getD index []) <;> rfl

namespace FecGroup

variable {code : ErasureCode UInt8} {group : FecGroup} {now : Instant} {fecPacket : FecPacket}
  {packet : NetPacket} {key : GroupKey}

theorem storeChecked_eq :
    group.storeChecked now fecPacket packet =
      (group.store now fecPacket packet).mapError .error := by
  unfold storeChecked store
  cases fecPacket.parityData with
  | some parityData =>
    dsimp only
    unfold storeParity
    dsimp only
    split
    · rfl
    · split
      · rfl
      · split
        · rfl
        · next placed =>
          split
          · rfl
          · split
            · rfl
            · dsimp only [Except.mapError, bind, Except.bind]
              rw [writeAt_of_lt
                (by unfold grow; rw [List.length_append, List.length_replicate]; omega)]
              rfl
  | none =>
    dsimp only
    rw [unwrap_eq]
    dsimp only [Except.mapError, bind, Except.bind]
    rw [batchData_eq]
    dsimp only [orPanics]
    rw [writeAt_of_lt (by unfold grow; rw [List.length_append, List.length_replicate]; omega)]
    rfl

theorem decodeWithRsChecked_eq :
    group.decodeWithRsChecked code key packet = ((group.decodeWithRs code key packet).1,
      (group.decodeWithRs code key packet).2.mapError .error) := by
  unfold decodeWithRsChecked decodeWithRs
  by_cases total : group.receivedShards.length = group.dataShards + group.parityShards
  · rw [if_neg (not_not.mpr total), if_neg (not_not.mpr total)]
    have data : (group.receivedShards.take group.dataShards).length = group.dataShards := by
      rw [List.length_take]
      omega
    have marked := markAll_replicate Option.isSome (group.receivedShards.take group.dataShards) []
    rw [List.nil_append, List.nil_append, data, List.length_nil] at marked
    rw [slice_of_le (Nat.zero_le _) (by omega), Option.bind_some, List.drop_zero, marked]
    dsimp only
    cases outcome : code.reconstruct group.dataShards group.parityShards group.receivedShards with
    | none => rfl
    | some whole =>
      have long := code.length_reconstruct outcome
      have marks : ((group.receivedShards.take group.dataShards).map Option.isSome).length =
          group.dataShards := by
        rw [List.length_map, data]
      have sameMarks : ∀ index ∈ List.range group.dataShards,
          (!((group.receivedShards.take group.dataShards).map Option.isSome).getD index false) =
            (group.shard index).isNone := by
        intro index isIndex
        unfold shard
        rw [List.getD_eq_getElem?_getD, List.getD_eq_getElem?_getD, List.getElem?_map,
          List.getElem?_take_of_lt (List.mem_range.mp isIndex)]
        cases group.receivedShards[index]? with
        | none => rfl
        | some found => cases found <;> rfl
      have rebuilt := rebuildMissing_eq packet
        ((group.receivedShards.take group.dataShards).map Option.isSome)
        (by rw [marks, long]; exact Nat.le_add_right _ _ : _ ≤ whole.length)
        (by rw [marks, Nat.zero_add] : 0 + group.dataShards = _)
      rw [marks, List.drop_zero, ← List.range_eq_range', List.filter_congr sameMarks] at rebuilt
      dsimp only
      rw [rebuilt]
      cases ((List.range group.dataShards).filter fun index => (group.shard index).isNone).mapM
        fun index => rebuildNetPacket packet (whole.getD index []) <;> rfl
  · rw [if_pos total, if_pos total]
    rfl

theorem tryDecodeChecked_eq :
    group.tryDecodeChecked code key packet = ((group.tryDecode code key packet).1,
      (group.tryDecode code key packet).2.mapError .error) := by
  unfold tryDecodeChecked tryDecode
  split
  · rfl
  · split
    · rfl
    · split
      · rfl
      · exact decodeWithRsChecked_eq

theorem receiveChecked_eq :
    group.receiveChecked code now fecPacket packet =
      ((group.receive code now fecPacket packet).1,
        (group.receive code now fecPacket packet).2.mapError .error) := by
  unfold receiveChecked receive
  rw [storeChecked_eq]
  cases group.store now fecPacket packet with
  | error message => rfl
  | ok result =>
    obtain ⟨stored, unwrapped⟩ := result
    dsimp only [Except.mapError]
    rw [tryDecodeChecked_eq]
    split
    · rfl
    · cases outcome : stored.tryDecode code (packet.header.srcId, fecPacket.groupId) packet with
      | mk decoded result => cases result <;> rfl

end FecGroup

/-- No packet makes the decoder reach out of a list, whatever it has received. -/
theorem FecDecoder.receiveChecked_eq (code : ErasureCode UInt8) (codec : FecCodec)
    (decoder : FecDecoder) (now : Instant) (packet : NetPacket) :
    decoder.receiveChecked code codec now packet =
      ((decoder.receive code codec now packet).1,
        (decoder.receive code codec now packet).2.mapError .error) := by
  unfold receiveChecked receive
  cases codec.decode packet.payload with
  | error message => rfl
  | ok fecPacket =>
    dsimp only
    split
    · rfl
    · split
      · rfl
      · rw [FecGroup.receiveChecked_eq]
        cases outcome : ((decoder.groups.lookup (packet.header.srcId, fecPacket.groupId)).getD
            (.default now)).receive code now fecPacket packet with
        | mk next result => cases result <;> rfl

end Vnt.Fec
