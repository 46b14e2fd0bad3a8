/-
This file runs a batch from the encoder through the decoder, and says exactly when the packets of
the batch come out. They always do when nothing is lost. When something is, the shards that arrive
first have to be as long as the longest of the batch, because the decoder does not fill them up as
the encoder did, and the flags have to come back although the decoder reads them with the flag of
the wrapping set.
-/

import Vnt.Fec.Codec
import Vnt.Fec.Collection
import Vnt.Fec.PairCode

namespace Vnt.Fec

open Vnt.Base

variable {code : ErasureCode UInt8} {codec : FecCodec} {batch : Batch} {decoder : FecDecoder}
  {collection : Collection} {index : Nat}

namespace FecDecoder

/-- What the decoder delivers of packets that arrive one after the other. -/
def outputs (code : ErasureCode UInt8) (codec : FecCodec) :
    FecDecoder → List (Instant × NetPacket) → List NetPacket
  | _, [] => []
  | decoder, (now, packet) :: rest =>
    delivered (decoder.receive code codec now packet).2 ++
      outputs code codec (decoder.receive code codec now packet).1 rest

/-- The decoder holds the group of the batch and no other. -/
structure Shows (code : ErasureCode UInt8) (batch : Batch) (collection : Collection)
    (decoder : FecDecoder) : Prop where
  only : ∀ key group, decoder.groups.lookup key = some group → key = (batch.src, batch.groupId)
  group : ∀ now, Represents code batch collection
    ((decoder.groups.lookup (batch.src, batch.groupId)).getD (.default now))

theorem shows_new (start : Instant) : Shows code batch (.collecting []) (.new start) where
  only := fun _ _ known => nomatch known
  group := fun now => ⟨Tracks.default now, fun both => nomatch both.1⟩

/-- A cleanup keeps a single group that was just updated. -/
theorem groups_cleanup (key : GroupKey) {now : Instant}
    (only : ∀ other group, decoder.groups.lookup other = some group →
      other = key ∧ group.lastUpdate = now) :
    (decoder.cleanup now).groups = decoder.groups := by
  have keys : ∀ entry ∈ decoder.groups.entries, entry.1 = key ∧ entry.2.lastUpdate = now :=
    fun entry member => only entry.1 entry.2 ((Map.mem_entries_iff _ entry.1 entry.2).mp member)
  have stale : decoder.groups.entries.filter (fun entry =>
      decide (¬now - entry.2.lastUpdate < groupTimeout)) = [] := by
    refine List.filter_eq_nil_iff.mpr fun entry member => ?_
    rw [(keys entry member).2, Nat.sub_self]
    decide
  have few : ¬decoder.groups.entries.length > maxGroups := by
    have distinct : decoder.groups.keys.Nodup := decoder.groups.nodupKeys
    have part : decoder.groups.keys ⊆ [key] := by
      intro other member
      obtain ⟨entry, isEntry, rfl⟩ := List.mem_map.mp member
      exact List.mem_singleton.mpr (keys entry isEntry).1
    have count := (List.subperm_of_subset distinct part).length_le
    have length : decoder.groups.keys.length = decoder.groups.entries.length := List.length_map _
    rw [length, List.length_singleton] at count
    unfold maxGroups
    omega
  unfold cleanup
  split
  · unfold cleanupOldGroups
    simp only [stale, List.map_nil]
    exact if_neg few
  · rfl

/-- A packet that is stored is stored now. -/
theorem lastUpdate_store {group stored : FecGroup} {now : Instant} {fecPacket : FecPacket}
    {packet : NetPacket} {plain : Option NetPacket}
    (outcome : group.store now fecPacket packet = .ok (stored, plain)) :
    stored.lastUpdate = now := by
  unfold FecGroup.store at outcome
  split at outcome
  · unfold FecGroup.storeParity at outcome
    dsimp only at outcome
    split_ifs at outcome <;> cases outcome
    rfl
  · rw [unwrap_eq] at outcome
    cases outcome
    rfl

theorem lastUpdate_tryDecode (code : ErasureCode UInt8) (group : FecGroup) (key : GroupKey)
    (packet : NetPacket) :
    (group.tryDecode code key packet).1.lastUpdate = group.lastUpdate := by
  unfold FecGroup.tryDecode FecGroup.decodeWithRs
  split
  · rfl
  split
  · rfl
  split
  · rfl
  split
  · rfl
  split
  · rfl
  split <;> rfl

/-- A group that took a packet was updated. -/
theorem lastUpdate_receive {group next : FecGroup} {now : Instant} {fecPacket : FecPacket}
    {packet : NetPacket} {packets : Option (List NetPacket)}
    (outcome : group.receive code now fecPacket packet = (next, .ok packets)) :
    next.lastUpdate = now := by
  cases stores : group.store now fecPacket packet with
  | error message =>
    unfold FecGroup.receive at outcome
    rw [stores] at outcome
    cases outcome
  | ok result =>
    obtain ⟨stored, plain⟩ := result
    have updated := lastUpdate_store stores
    have kept := lastUpdate_tryDecode code stored (packet.header.srcId, fecPacket.groupId)
      packet
    rw [FecGroup.receive_of_store code stores] at outcome
    split at outcome
    · cases outcome
      exact updated
    · split at outcome
      · cases outcome
      · next decodes =>
        rw [decodes] at kept
        cases outcome
        exact kept.trans updated

/-- A decoder in which the group was written shows the group. -/
theorem Shows.of_lookup (earlier : Shows code batch collection decoder) {next : FecDecoder}
    {other : Collection} {group : FecGroup}
    (lookup : ∀ key, next.groups.lookup key =
      if key = (batch.src, batch.groupId) then some group else decoder.groups.lookup key)
    (represents : Represents code batch other group) : Shows code batch other next where
  only := by
    intro key found known
    rw [lookup] at known
    split at known
    · assumption
    · exact earlier.only key found known
  group := by
    intro now
    rw [lookup, if_pos rfl]
    exact represents

theorem lookup_putGroup (key other : GroupKey) (group : FecGroup) :
    (decoder.putGroup key group).groups.lookup other =
      if other = key then some group else decoder.groups.lookup other :=
  Map.lookup_insert_eq _ _ _ _

theorem lookup_putGroup_putGroup (key other : GroupKey) (first second : FecGroup) :
    ((decoder.putGroup key first).putGroup key second).groups.lookup other =
      if other = key then some second else decoder.groups.lookup other := by
  rw [lookup_putGroup, lookup_putGroup]
  split <;> rfl

/-- Which places a group accepts. -/
theorem accepts_iff {group : FecGroup} (represents : Represents code batch collection group) :
    group.accepts index = true ↔ ∃ seen, collection = .collecting seen ∧ index ∉ seen := by
  unfold FecGroup.accepts
  cases collection with
  | finished =>
    have done : group.isDone = true := represents
    rw [done]
    exact ⟨fun accepted => (Bool.false_ne_true accepted).elim, fun ⟨_, same, _⟩ => nomatch same⟩
  | collecting seen =>
    obtain ⟨tracks, active⟩ := represents
    have notDone : group.isDone = false :=
      Bool.eq_false_iff.mpr fun done => active (tracks.isDone_iff.mp done)
    rw [notDone, tracks.shard index]
    constructor
    · intro accepted
      refine ⟨seen, rfl, fun member => ?_⟩
      rw [if_pos member] at accepted
      cases accepted
    · rintro ⟨_, same, fresh⟩
      cases same
      rw [if_neg fresh]
      rfl

/-- A packet of the batch does to the decoder what it does to the collection. -/
theorem Shows.receive (codec : FecCodec) (earlier : Shows code batch collection decoder)
    (mds : code.Mds batch.size batch.parity) (inside : index < batch.size + batch.parity)
    (now : Instant) :
    Shows code batch (collection.step code batch index).1
        (decoder.receive code codec now (batch.wire code codec index)).1 ∧
      (delivered (decoder.receive code codec now (batch.wire code codec index)).2).map content =
        (collection.step code batch index).2 := by
  have place := Batch.packetIndex_message code inside
  have source := Batch.srcId_wire code codec batch index
  have number := Batch.groupId_message code batch index
  have few : index ≤ maxNum := by
    have size := batch.size_le
    have parity := batch.parity_le
    unfold maxNum
    omega
  obtain ⟨group, isGroup⟩ : ∃ group, (decoder.groups.lookup (batch.src, batch.groupId)).getD
    (.default now) = group := ⟨_, rfl⟩
  have represents := earlier.group now
  rw [isGroup] at represents
  have isEntry : (decoder.groups.lookup ((batch.wire code codec index).header.srcId,
      (batch.message code index).groupId)).getD (.default now) = group := by
    rw [source, number]
    exact isGroup
  rw [receive_eq code now (Batch.decode_wire inside) (place.symm ▸ few) isEntry, place, source,
    number]
  by_cases accepted : group.accepts index = true
  · obtain ⟨seen, rfl, fresh⟩ := (accepts_iff represents).mp accepted
    rw [accepted, if_neg (by decide)]
    obtain ⟨tracks, _⟩ := represents
    obtain ⟨after, contents⟩ := tracks.receive codec mds fresh inside now
    cases outcome : group.receive code now (batch.message code index)
      (batch.wire code codec index) with
    | mk next result =>
      rw [outcome] at after contents
      have written := earlier.of_lookup
        (fun key => lookup_putGroup_putGroup (batch.src, batch.groupId) key group next) after
      cases result with
      | error message => exact ⟨written, contents⟩
      | ok packets =>
        have kept : ∀ key, (((decoder.putGroup (batch.src, batch.groupId) group).putGroup
            (batch.src, batch.groupId) next).cleanup now).groups.lookup key =
              if key = (batch.src, batch.groupId) then some next
              else decoder.groups.lookup key := by
          intro key
          rw [groups_cleanup (batch.src, batch.groupId)]
          · exact lookup_putGroup_putGroup _ key group next
          · intro other found known
            rw [lookup_putGroup_putGroup] at known
            split at known
            · next same =>
              cases known
              exact ⟨same, lastUpdate_receive outcome⟩
            · next different => exact absurd (earlier.only other found known) different
        exact ⟨earlier.of_lookup kept after, contents⟩
  · have refused := Bool.eq_false_iff.mpr accepted
    rw [refused, if_pos rfl]
    have stays : collection.step code batch index = (collection, []) := by
      cases collection with
      | finished => rfl
      | collecting seen =>
        have known : index ∈ seen := by
          by_contra fresh
          exact accepted ((accepts_iff represents).mpr ⟨seen, rfl, fresh⟩)
        exact if_pos known
    rw [stays]
    exact ⟨earlier.of_lookup (fun key => lookup_putGroup _ key group) represents, rfl⟩

/-- The packets of the batch do to the decoder what they do to the collection. -/
theorem Shows.outputs (earlier : Shows code batch collection decoder)
    (mds : code.Mds batch.size batch.parity) {arrivals : List (Instant × Nat)}
    (inside : ∀ arrival ∈ arrivals, arrival.2 < batch.size + batch.parity) :
    (outputs code codec decoder (arrivals.map fun arrival =>
        (arrival.1, batch.wire code codec arrival.2))).map content =
      collection.deliver code batch (arrivals.map Prod.snd) := by
  induction arrivals generalizing decoder collection with
  | nil => rfl
  | cons arrival rest inductionHypothesis =>
    obtain ⟨first, others⟩ := List.forall_mem_cons.mp inside
    obtain ⟨next, contents⟩ := earlier.receive codec mds first arrival.1
    rw [List.map_cons, List.map_cons, FecDecoder.outputs, List.map_append, contents,
      inductionHypothesis next others, Collection.deliver]

end FecDecoder

section Recovery

variable {encoder : FecEncoder} {sends : List (Instant × NetPacket)} {tick start : Instant}
  {sent : List NetPacket}

/-- The packets that arrive are those of their places. -/
theorem map_get_sent (holds : encoder.Holds batch.src batch.dest batch.groupId [])
    (same : sends.map Prod.snd = batch.packets)
    (outcome : encoder.sendBatch code codec batch.dest sends tick = some sent)
    (arrivals : List (Instant × Fin sent.length)) :
    sent.length = batch.size + batch.parity ∧
      (arrivals.map fun arrival => (arrival.1, sent.get arrival.2)) =
        (arrivals.map fun arrival => (arrival.1, arrival.2.val)).map fun arrival =>
          (arrival.1, batch.wire code codec arrival.2) := by
  have isSent := sendBatch_eq batch holds same outcome
  subst isSent
  refine ⟨by rw [List.length_map, List.length_range], ?_⟩
  rw [List.map_map]
  refine List.map_congr_left fun arrival _ => Prod.ext rfl ?_
  show List.get _ arrival.2 = batch.wire code codec arrival.2
  rw [List.get_eq_getElem, List.getElem_map, List.getElem_range]

/-- A batch is recovered from enough of its packets exactly when the order in which they arrive
recovers it. -/
theorem recovery_iff (mds : code.Mds batch.size batch.parity)
    (holds : encoder.Holds batch.src batch.dest batch.groupId [])
    (same : sends.map Prod.snd = batch.packets)
    (outcome : encoder.sendBatch code codec batch.dest sends tick = some sent)
    {arrivals : List (Instant × Fin sent.length)} (distinct : (arrivals.map Prod.snd).Nodup)
    (enough : batch.size ≤ arrivals.length) :
    ((FecDecoder.outputs code codec (.new start)
        (arrivals.map fun arrival => (arrival.1, sent.get arrival.2))).map content).Perm
        (batch.packets.map expected) ↔
      batch.Recovers code (arrivals.map fun arrival => arrival.2.val) := by
  obtain ⟨length, wires⟩ := map_get_sent holds same outcome arrivals
  have places : (arrivals.map fun arrival => (arrival.1, arrival.2.val)).map Prod.snd =
      arrivals.map fun arrival => arrival.2.val := by
    rw [List.map_map]
    rfl
  have inside : ∀ arrival ∈ arrivals.map (fun arrival => (arrival.1, arrival.2.val)),
      arrival.2 < batch.size + batch.parity := by
    intro arrival member
    obtain ⟨origin, _, rfl⟩ := List.mem_map.mp member
    exact length ▸ origin.2.isLt
  have nodup : (arrivals.map fun arrival => arrival.2.val).Nodup := by
    have images := distinct.map Fin.val_injective
    rwa [List.map_map] at images
  rw [wires, (FecDecoder.shows_new start).outputs mds inside, places]
  refine Collection.perm_iff_recovers mds nodup (fun index member => ?_) ?_
  · obtain ⟨arrival, _, rfl⟩ := List.mem_map.mp member
    exact length ▸ arrival.2.isLt
  · rw [List.length_map]
    exact enough

end Recovery

/-! ### Two packets and one parity packet -/

def exampleHeader (flagsByte : UInt8) : NetHeader :=
  ⟨0x81, 0x55, flagsByte, 0, 0, 0x0A1A0002, 0x0A1A0003⟩

/-- Two packets to one destination. -/
def exampleBatch (flagsByte : UInt8) (first second : List UInt8) (shortFirst : first.length ≤ 65535)
    (shortSecond : second.length ≤ 65535) : Batch where
  src := 0x0A1A0002
  dest := 0x0A1A0003
  groupId := 0
  packets := [⟨[], exampleHeader flagsByte, first, []⟩, ⟨[], exampleHeader flagsByte, second, []⟩]
  nonempty := List.cons_ne_nil _ _
  fits := by
    rw [List.length_cons, List.length_singleton]
    decide
  belong := by
    intro packet member
    rcases List.mem_pair.mp member with rfl | rfl
    · exact ⟨rfl, rfl, shortFirst⟩
    · exact ⟨rfl, rfl, shortSecond⟩

/-- The packets on the wire. -/
def exampleSent (batch : Batch) : List NetPacket :=
  (List.range 3).map (batch.wire pairCode protobufCodec)

/-- An encoder that has sent nothing yet. -/
def newEncoder : FecEncoder := ⟨∅, []⟩

theorem holds_newEncoder (src dest : Ipv4Addr) : newEncoder.Holds src dest 0 [] :=
  ⟨rfl, fun _ => rfl, fun _ => rfl, fun _ => rfl⟩

theorem mds_exampleBatch (flagsByte : UInt8) (first second : List UInt8)
    (shortFirst : first.length ≤ 65535) (shortSecond : second.length ≤ 65535) :
    pairCode.Mds (exampleBatch flagsByte first second shortFirst shortSecond).size
      (exampleBatch flagsByte first second shortFirst shortSecond).parity := by
  have parity : parityShards 2 = 1 := by decide
  show pairCode.Mds 2 (parityShards 2)
  rw [parity]
  exact mds_pairCode

/-- The parity packet arrives first, and then the shorter one of two packets: it is dropped, and
nothing comes out at all. -/
theorem recovery_fails :
    ∃ (batch : Batch) (sends : List (Instant × NetPacket)) (sent : List NetPacket)
    (arrivals : List (Instant × Fin sent.length)),
    pairCode.Mds batch.size batch.parity ∧
      newEncoder.Holds batch.src batch.dest batch.groupId [] ∧
      sends.map Prod.snd = batch.packets ∧
      newEncoder.sendBatch pairCode protobufCodec batch.dest sends 20 = some sent ∧
      (arrivals.map Prod.snd).Nodup ∧ batch.size ≤ arrivals.length ∧
      ¬((FecDecoder.outputs pairCode protobufCodec (.new 21)
        (arrivals.map fun arrival => (arrival.1, sent.get arrival.2))).map content).Perm
          (batch.packets.map expected) := by
  let batch : Batch := exampleBatch 0 [1] [2, 3] (by decide) (by decide)
  have nothing : (FecDecoder.outputs pairCode protobufCodec (.new 21)
      [(22, (exampleSent batch).get ⟨2, by decide⟩),
        (23, (exampleSent batch).get ⟨0, by decide⟩)]) =
        [] := by
    decide +kernel
  refine ⟨batch, batch.packets.map fun packet => (0, packet), exampleSent batch,
    [(22, ⟨2, by decide⟩), (23, ⟨0, by decide⟩)], mds_exampleBatch _ _ _ _ _,
    holds_newEncoder _ _, rfl, by decide +kernel, by decide, by decide, fun perm => ?_⟩
  have lengths := perm.length_eq
  rw [List.map_cons, List.map_cons, List.map_nil, nothing] at lengths
  exact absurd lengths (by decide)

/-- Packets of one length that carry the flag already: the second one is lost and comes back. -/
theorem recovery_iff_example :
    let batch := exampleBatch fecMask [1, 2] [3, 4] (by decide) (by decide)
    ((FecDecoder.outputs pairCode protobufCodec (.new 21)
      [(22, (exampleSent batch).get ⟨2, by decide⟩),
        (23, (exampleSent batch).get ⟨0, by decide⟩)]).map
        content).Perm (batch.packets.map expected) := by
  intro batch
  have outcome : newEncoder.sendBatch pairCode protobufCodec batch.dest
      (batch.packets.map fun packet => (0, packet)) 20 = some (exampleSent batch) := by
    decide +kernel
  have returns : batch.FlagsReturn pairCode [2, 0] := by
    refine ⟨batch.flags, rfl, fun index member packet found => ?_, fun _ _ _ => rfl, .refl _⟩
    rcases List.mem_pair.mp member with rfl | rfl
    · cases found
    · cases found
      decide
  have fit : batch.LengthsFit [2, 0] := by decide +kernel
  have recovers : batch.Recovers pairCode [2, 0] := .inr (.inl ⟨fit, returns⟩)
  have distinct : ([(22, ⟨2, by decide⟩), (23, ⟨0, by decide⟩)] :
      List (Instant × Fin (exampleSent batch).length)).map Prod.snd |>.Nodup := by
    decide
  exact (recovery_iff (mds_exampleBatch _ _ _ _ _) (holds_newEncoder _ _) rfl outcome distinct
    (by decide)).mpr recovers

end Vnt.Fec
