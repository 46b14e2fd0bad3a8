/-
This file says what the decoder reads of a packet: the type, the flags, the two addresses and the
payload. Two packets that agree on these leave the decoder in one state, and what it gives out
agrees as well, although the time to live of a packet depends on the way it took.
-/

import Vnt.Fec.Completion

namespace Vnt.Fec

open Vnt.Base

/-- Two packets agree on what the decoder reads. -/
structure SameReading (first second : NetPacket) : Prop where
  typeByte : first.header.typeByte = second.header.typeByte
  flagsByte : first.header.flagsByte = second.header.flagsByte
  srcId : first.header.srcId = second.header.srcId
  destId : first.header.destId = second.header.destId
  payload : first.payload = second.payload

/-- A result, with its packets reduced to their contents. -/
def contents (outcome : Except String (Option (List NetPacket))) :
    Except String (Option (List Content)) :=
  outcome.map (Option.map (List.map content))

variable (code : ErasureCode UInt8) {first second : NetPacket}

/-- Reading the results of all steps is reading each of them. -/
theorem map_mapM {Input Output Reading Error : Type} (run : Input → Except Error Output)
    (read : Output → Reading) (inputs : List Input) :
    (inputs.mapM run).map (List.map read) = inputs.mapM fun input => (run input).map read := by
  induction inputs with
  | nil => rfl
  | cons input rest inductionHypothesis =>
    rw [List.mapM_cons, List.mapM_cons, ← inductionHypothesis]
    cases run input with
    | error message => rfl
    | ok output => cases rest.mapM run <;> rfl

namespace FecGroup

/-- What is rebuilt depends on the current packet in its addresses and its time to live only. -/
theorem content_rebuildNetPacket (first second : NetPacket) (recovered : List UInt8) :
    (rebuildNetPacket first recovered).map content =
      (rebuildNetPacket second recovered).map content := by
  unfold rebuildNetPacket
  dsimp only [bind, Except.bind, pure, Except.pure, throw, throwThe, MonadExceptOf.throw]
  split
  · rfl
  · split
    · rfl
    · rw [NetPacket.new_zeroed]
      dsimp only
      rw [NetPacket.setPayload_of_length _ List.length_replicate,
        NetPacket.setPayload_of_length _ List.length_replicate]
      dsimp only [Except.map, content, NetPacket.setFecFlag, NetPacket.setTtl, NetPacket.setDestId,
        NetPacket.setSrcId, NetHeader.setFlag, NetHeader.setTtl]

theorem contents_decodeWithRs (group : FecGroup) (key : GroupKey) (first second : NetPacket) :
    (group.decodeWithRs code key first).1 = (group.decodeWithRs code key second).1 ∧
      contents (group.decodeWithRs code key first).2 =
        contents (group.decodeWithRs code key second).2 := by
  unfold decodeWithRs
  split
  · exact ⟨rfl, rfl⟩
  · cases code.reconstruct group.dataShards group.parityShards group.receivedShards with
    | none => exact ⟨rfl, rfl⟩
    | some shards =>
      dsimp only
      have same := map_mapM (fun index => rebuildNetPacket first (shards.getD index [])) content
        ((List.range group.dataShards).filter fun index => (group.shard index).isNone)
      have other := map_mapM (fun index => rebuildNetPacket second (shards.getD index [])) content
        ((List.range group.dataShards).filter fun index => (group.shard index).isNone)
      simp only [content_rebuildNetPacket first second] at same
      rw [← other] at same
      generalize ((List.range group.dataShards).filter fun index => (group.shard index).isNone).mapM
        (fun index => rebuildNetPacket first (shards.getD index [])) = one at same
      generalize ((List.range group.dataShards).filter fun index => (group.shard index).isNone).mapM
        (fun index => rebuildNetPacket second (shards.getD index [])) = two at same
      cases one with
      | error message =>
        cases two with
        | error otherMessage =>
          cases same
          exact ⟨rfl, rfl⟩
        | ok packets => cases same
      | ok packets =>
        cases two with
        | error message => cases same
        | ok others =>
          have read : packets.map content = others.map content := Except.ok.inj same
          exact ⟨rfl, congrArg (fun list => Except.ok (some list)) read⟩

theorem contents_tryDecode (group : FecGroup) (key : GroupKey) (first second : NetPacket) :
    (group.tryDecode code key first).1 = (group.tryDecode code key second).1 ∧
      contents (group.tryDecode code key first).2 =
        contents (group.tryDecode code key second).2 := by
  unfold tryDecode
  split
  · exact ⟨rfl, rfl⟩
  split
  · exact ⟨rfl, rfl⟩
  split
  · exact ⟨rfl, rfl⟩
  exact group.contents_decodeWithRs code key first second

end FecGroup

/-- What is delivered with a packet agrees when the packets and the results agree. -/
theorem map_content_deliver {packet other : Option NetPacket}
    {result otherResult : Option (List NetPacket)}
    (packets : packet.map content = other.map content)
    (results : result.map (List.map content) = otherResult.map (List.map content)) :
    (deliver packet result).map (List.map content) =
      (deliver other otherResult).map (List.map content) := by
  cases packet with
  | none =>
    cases other with
    | none => exact results
    | some other => cases packets
  | some packet =>
    cases other with
    | none => cases packets
    | some other =>
      have same : content packet = content other := Option.some.inj packets
      cases result with
      | none =>
        cases otherResult with
        | none => exact congrArg (fun one => some [one]) same
        | some otherList => cases results
      | some list =>
        cases otherResult with
        | none => cases results
        | some otherList =>
          have lists : list.map content = otherList.map content := Option.some.inj results
          unfold deliver
          rw [Option.map_some, Option.map_some, List.map_append, List.map_append, lists]
          exact congrArg (fun one => some (otherList.map content ++ [one])) same

namespace FecGroup

theorem contents_receive_of_store {group stored : FecGroup} {now : Instant} {fecPacket : FecPacket}
    (plain other : Option NetPacket) (same : SameReading first second)
    (stores : group.store now fecPacket first = .ok (stored, plain))
    (otherStores : group.store now fecPacket second = .ok (stored, other))
    (plains : plain.map content = other.map content) :
    (group.receive code now fecPacket first).1 = (group.receive code now fecPacket second).1 ∧
      contents (group.receive code now fecPacket first).2 =
        contents (group.receive code now fecPacket second).2 := by
  rw [receive_of_store code stores, receive_of_store code otherStores, same.srcId]
  split
  · exact ⟨rfl, congrArg Except.ok (map_content_deliver plains rfl)⟩
  · obtain ⟨groups, results⟩ := stored.contents_tryDecode code
      (second.header.srcId, fecPacket.groupId) first second
    generalize stored.tryDecode code (second.header.srcId, fecPacket.groupId) first = one
      at groups results
    generalize stored.tryDecode code (second.header.srcId, fecPacket.groupId) second = two
      at groups results
    obtain ⟨decoded, _ | result⟩ := one
    · obtain ⟨otherDecoded, _ | otherResult⟩ := two
      · cases results
        exact ⟨groups, rfl⟩
      · cases results
    · obtain ⟨otherDecoded, _ | otherResult⟩ := two
      · cases results
      · exact ⟨groups, congrArg Except.ok (map_content_deliver plains (Except.ok.inj results))⟩

/-- Packets that agree on what is read do the same to a group. -/
theorem contents_receive (group : FecGroup) (now : Instant) (fecPacket : FecPacket)
    (same : SameReading first second) :
    (group.receive code now fecPacket first).1 = (group.receive code now fecPacket second).1 ∧
      contents (group.receive code now fecPacket first).2 =
        contents (group.receive code now fecPacket second).2 := by
  cases isParity : fecPacket.parityData with
  | none =>
    have stores : ∀ packet : NetPacket, group.store now fecPacket packet =
        .ok (group.storeData now fecPacket.packetIndex.toNat packet fecPacket.payload,
          some ⟨[], packet.header.setFlag fecMask false, fecPacket.payload, []⟩) := by
      intro packet
      unfold store
      rw [isParity]
      dsimp only
      rw [unwrap_eq]
      rfl
    have data : group.storeData now fecPacket.packetIndex.toNat first fecPacket.payload =
        group.storeData now fecPacket.packetIndex.toNat second fecPacket.payload := by
      unfold storeData
      rw [same.typeByte, same.flagsByte]
    refine contents_receive_of_store code _ _ same (stores first) (data ▸ stores second) ?_
    refine congrArg some ?_
    unfold content NetHeader.setFlag
    dsimp only
    rw [same.typeByte, same.flagsByte]
  | some parityData =>
    have stores : ∀ packet : NetPacket, group.store now fecPacket packet =
        (group.storeParity now packet.header.srcId fecPacket.packetIndex.toNat parityData
          fecPacket.payload).map fun group => (group, none) := by
      intro packet
      unfold store
      rw [isParity]
    cases stored : group.storeParity now second.header.srcId fecPacket.packetIndex.toNat parityData
        fecPacket.payload with
    | error message =>
      unfold receive
      rw [stores, stores, same.srcId, stored]
      exact ⟨rfl, rfl⟩
    | ok next =>
      have firstStores : group.store now fecPacket first = .ok (next, none) := by
        rw [stores, same.srcId, stored]
        rfl
      have secondStores : group.store now fecPacket second = .ok (next, none) := by
        rw [stores, stored]
        rfl
      exact contents_receive_of_store code none none same firstStores secondStores rfl

end FecGroup

/-- Packets that agree on what is read do the same to the decoder. -/
theorem FecDecoder.contents_receive (codec : FecCodec) (decoder : FecDecoder) (now : Instant)
    (same : SameReading first second) :
    (decoder.receive code codec now first).1 = (decoder.receive code codec now second).1 ∧
      contents (decoder.receive code codec now first).2 =
        contents (decoder.receive code codec now second).2 := by
  unfold receive
  rw [same.payload]
  cases codec.decode second.payload with
  | error message => exact ⟨rfl, rfl⟩
  | ok fecPacket =>
    dsimp only
    rw [same.srcId]
    split
    · exact ⟨rfl, rfl⟩
    · split
      · exact ⟨rfl, rfl⟩
      · obtain ⟨groups, results⟩ := FecGroup.contents_receive code
          ((decoder.groups.lookup (second.header.srcId, fecPacket.groupId)).getD (.default now))
          now fecPacket same
        generalize ((decoder.groups.lookup (second.header.srcId, fecPacket.groupId)).getD
          (.default now)).receive code now fecPacket first = one at groups results
        generalize ((decoder.groups.lookup (second.header.srcId, fecPacket.groupId)).getD
          (.default now)).receive code now fecPacket second = two at groups results
        obtain ⟨next, _ | packets⟩ := one
        · obtain ⟨otherNext, _ | otherPackets⟩ := two
          · cases results
            cases groups
            exact ⟨rfl, rfl⟩
          · cases results
        · obtain ⟨otherNext, _ | otherPackets⟩ := two
          · cases results
          · cases groups
            exact ⟨rfl, results⟩

end Vnt.Fec
