/-
This file follows the group of one batch through the decoder. Seen from outside, a group is a
collection of places: while it is incomplete a data packet is delivered as it arrives, the first
parity packet tells how many shards there are, and from then on enough shards complete the
missing ones, provided that all of them have one length. The decoder keeps data shards as they
are, so a data shard shorter than the longest one stands in the way, and it keeps the flags as
they arrived, which are not those the parity was made of.
-/

import Vnt.Fec.Batch
import Vnt.Fec.Decoder

namespace Vnt.Fec

open Vnt.Base

/-- What a delivered packet is compared by. -/
structure Content where
  typeByte : UInt8
  flagsByte : UInt8
  payload : List UInt8
  deriving DecidableEq, Repr

def content (packet : NetPacket) : Content :=
  ⟨packet.header.typeByte, packet.header.flagsByte, packet.payload⟩

/-- What is to be delivered of a packet: its flag is cleared. -/
def expected (packet : NetPacket) : Content :=
  ⟨packet.header.typeByte, packet.header.flagsByte &&& ~~~fecMask, packet.payload⟩

variable {code : ErasureCode UInt8} {codec : FecCodec} {batch : Batch}

/-! ### The collection of the places of a batch -/

namespace Batch

/-- Some place carries parity. -/
def HasParity (batch : Batch) (seen : List Nat) : Prop := ∃ index ∈ seen, batch.size ≤ index

/-- All places that carry data are there. -/
def HasData (batch : Batch) (seen : List Nat) : Prop := ∀ index < batch.size, index ∈ seen

/-- All data shards that are there are as long as the longest of the batch. -/
def LengthsFit (batch : Batch) (seen : List Nat) : Prop :=
  ∀ index ∈ seen, ∀ packet, batch.packets[index]? = some packet →
    (itemOf packet).length = maxLen batch.shards

instance (seen : List Nat) : Decidable (batch.HasParity seen) :=
  inferInstanceAs (Decidable (∃ index ∈ seen, batch.size ≤ index))

instance (seen : List Nat) : Decidable (batch.HasData seen) :=
  inferInstanceAs (Decidable (∀ index < batch.size, index ∈ seen))

instance (seen : List Nat) : Decidable (batch.LengthsFit seen) :=
  inferInstanceAs (Decidable (∀ index ∈ seen, ∀ packet, packet ∈ batch.packets[index]? →
    (itemOf packet).length = maxLen batch.shards))

/-- The shard the decoder keeps of the packet of a place. -/
def arrived (code : ErasureCode UInt8) (batch : Batch) (index : Nat) : List UInt8 :=
  match batch.packets[index]? with
  | some packet =>
    shardOf packet.header.typeByte (packet.header.flagsByte ||| fecMask) packet.payload
  | none => batch.parityShard code index

/-- The shards of the places that are there. -/
def knownShards (code : ErasureCode UInt8) (batch : Batch) (seen : List Nat) :
    List (Option (List UInt8)) :=
  ErasureCode.knownAt (batch.size + batch.parity) seen (batch.arrived code)

/-- The flags a completion reads from the shards that are there. -/
def completedFlags (code : ErasureCode UInt8) (batch : Batch) (seen : List Nat) : List UInt8 :=
  code.reconstructColumn batch.size batch.parity
    (ErasureCode.knownColumn (batch.knownShards code seen) 1)

/-- What is delivered of a packet that is completed under given flags. -/
def completedWith (flags : List UInt8) (index : Nat) (packet : NetPacket) : Content :=
  ⟨packet.header.typeByte, flags.getD index default &&& ~~~fecMask, packet.payload⟩

/-- The data packets that are missing, completed under given flags. -/
def completed (batch : Batch) (flags : List UInt8) (seen : List Nat) : List Content :=
  ((List.range batch.size).filter fun index => decide (index ∉ seen)).filterMap fun index =>
    (batch.packets[index]?).map (completedWith flags index)

/-- What is delivered of the packet of a place itself. -/
def direct (batch : Batch) (index : Nat) : List Content :=
  ((batch.packets[index]?).map expected).toList

end Batch

/-- What a group is, seen from outside. -/
inductive Collection
  | collecting (seen : List Nat)
  | finished
  deriving DecidableEq, Repr

/-- What the packet of a place does to a group. -/
def Collection.step (code : ErasureCode UInt8) (batch : Batch) :
    Collection → Nat → Collection × List Content
  | finished, _ => (finished, [])
  | collecting seen, index =>
    if index ∈ seen then (collecting seen, [])
    else if ¬batch.HasParity (index :: seen) then
      (collecting (index :: seen), batch.direct index)
    else if batch.HasData (index :: seen) then (finished, batch.direct index)
    else if (index :: seen).length < batch.size then
      (collecting (index :: seen), batch.direct index)
    else if batch.LengthsFit (index :: seen) then
      (finished, batch.completed (batch.completedFlags code (index :: seen)) (index :: seen) ++
        batch.direct index)
    else (collecting (index :: seen), [])

/-- What is delivered of packets that arrive one after the other. -/
def Collection.deliver (code : ErasureCode UInt8) (batch : Batch) :
    Collection → List Nat → List Content
  | _, [] => []
  | collection, index :: rest =>
    (collection.step code batch index).2 ++
      deliver code batch (collection.step code batch index).1 rest

/-! ### The shards of a group -/

theorem length_grow (shards : List (Option (List UInt8))) (length : Nat) :
    (grow shards length).length = max shards.length length := by
  rw [grow, List.length_append, List.length_replicate]
  omega

theorem getD_grow (shards : List (Option (List UInt8))) (length index : Nat) :
    (grow shards length).getD index none = shards.getD index none := by
  unfold grow
  rw [List.getD_eq_getElem?_getD, List.getD_eq_getElem?_getD, List.getElem?_append]
  split
  · rfl
  · next outside =>
    rw [List.getElem?_eq_none (Nat.le_of_not_lt outside), List.getElem?_replicate]
    split <;> rfl

/-- Storing a shard changes the shard in its place. -/
theorem getD_set_grow (shards : List (Option (List UInt8))) {length place : Nat}
    (inside : place < length) (shard : List UInt8) (index : Nat) :
    ((grow shards length).set place (some shard)).getD index none =
      if index = place then some shard else shards.getD index none := by
  split
  · next same =>
    rw [same, List.getD_eq_getElem?_getD, List.getElem?_set_self]
    · rfl
    · rw [length_grow]
      omega
  · next different =>
    rw [List.getD_eq_getElem?_getD, List.getElem?_set_ne (Ne.symm different),
      ← List.getD_eq_getElem?_getD, getD_grow]

/-! ### The packets of a batch on the wire -/

namespace Batch

theorem exists_packet {index : Nat} (inside : index < batch.size) :
    ∃ packet, batch.packets[index]? = some packet :=
  ⟨_, List.getElem?_eq_getElem inside⟩

theorem no_packet {index : Nat} (outside : batch.size ≤ index) : batch.packets[index]? = none :=
  List.getElem?_eq_none outside

theorem short {index : Nat} {packet : NetPacket} (found : batch.packets[index]? = some packet) :
    packet.payload.length ≤ 65535 :=
  (batch.belong packet (List.mem_of_getElem? found)).short

/-- The message in the packet of a place. -/
def message (code : ErasureCode UInt8) (batch : Batch) (index : Nat) : FecPacket :=
  match batch.packets[index]? with
  | some packet => ⟨batch.groupId, UInt32.ofNat index, packet.payload, none⟩
  | none => ⟨batch.groupId, UInt32.ofNat index, batch.parityShard code index,
      some ⟨UInt32.ofNat batch.size, UInt32.ofNat batch.parity⟩⟩

theorem length_parityShard (code : ErasureCode UInt8) {index : Nat} (outside : batch.size ≤ index)
    (inside : index < batch.size + batch.parity) :
    (batch.parityShard code index).length = maxLen batch.shards := by
  have place : index - batch.size < batch.parity := by omega
  have shard :
      (batch.parityShard code index) = (List.range (maxLen batch.shards)).map fun position =>
      (code.encodeColumn batch.parity (ErasureCode.column (paddedItems batch.shards) position)).getD
        (index - batch.size) default := by
    rw [parityShard, List.getD_eq_getElem?_getD, parityOf, List.getElem?_map, parity_eq,
      List.getElem?_range place]
    rfl
  rw [shard, List.length_map, List.length_range]

theorem maxLen_le (batch : Batch) : maxLen batch.shards ≤ 65539 := by
  obtain ⟨item, member, length⟩ := exists_maxLen batch.shards_ne_nil
  obtain ⟨packet, isPacket, rfl⟩ := List.mem_map.mp member
  have short := (batch.belong packet isPacket).short
  rw [itemOf, length_shardOf] at length
  omega

theorem decode_wire {index : Nat} (inside : index < batch.size + batch.parity) :
    codec.decode (batch.wire code codec index).payload = .ok (batch.message code index) := by
  have small := batch.size_le
  unfold wire message
  cases found : batch.packets[index]? with
  | some packet =>
    have short := short found
    exact codec.decode_encodeToVec _ (by dsimp only; omega)
  | none =>
    have outside : batch.size ≤ index := List.getElem?_eq_none_iff.mp found
    have length := length_parityShard code outside inside
    have longest := batch.maxLen_le
    have place : batch.closed.items.length + (index - batch.size) = index := by
      rw [closed, length_shards]
      omega
    unfold parityWire
    dsimp only
    rw [place, closed, length_shards]
    exact codec.decode_encodeToVec _ (by dsimp only; omega)

theorem srcId_wire (code : ErasureCode UInt8) (codec : FecCodec) (batch : Batch) (index : Nat) :
    (batch.wire code codec index).header.srcId = batch.src := by
  unfold wire
  cases found : batch.packets[index]? with
  | some packet => exact (batch.belong packet (List.mem_of_getElem? found)).srcId
  | none => rfl

theorem groupId_message (code : ErasureCode UInt8) (batch : Batch) (index : Nat) :
    (batch.message code index).groupId = batch.groupId := by
  unfold message
  cases batch.packets[index]? <;> rfl

theorem packetIndex_message (code : ErasureCode UInt8) {index : Nat}
    (inside : index < batch.size + batch.parity) :
    (batch.message code index).packetIndex.toNat = index := by
  have small := batch.size_le
  have few := batch.parity_le
  have place : (batch.message code index).packetIndex = UInt32.ofNat index := by
    unfold message
    cases batch.packets[index]? <;> rfl
  rw [place, UInt32.toNat_ofNat_of_lt' (Nat.lt_of_le_of_lt (show index ≤ 12 by omega) (by decide))]

end Batch

/-! ### What a group holds -/

/-- The group holds the shards of the places that are there. -/
structure Tracks (code : ErasureCode UInt8) (batch : Batch) (seen : List Nat)
    (group : FecGroup) : Prop where
  nodup : seen.Nodup
  inside : ∀ index ∈ seen, index < batch.size + batch.parity
  dataShards : group.dataShards = if batch.HasParity seen then batch.size else 0
  parityShards : group.parityShards = if batch.HasParity seen then batch.parity else 0
  originals : group.receivedOriginalCount =
    (seen.filter fun index => decide (index < batch.size)).length
  shard : ∀ index, group.shard index =
    if index ∈ seen then some (batch.arrived code index) else none
  length_le : group.receivedShards.length ≤ batch.size + batch.parity
  length_eq : batch.HasParity seen → group.receivedShards.length = batch.size + batch.parity

theorem Tracks.default (now : Instant) : Tracks code batch [] (FecGroup.default now) where
  nodup := List.nodup_nil
  inside := fun _ member => nomatch member
  dataShards := (if_neg fun ⟨_, member, _⟩ => nomatch member).symm
  parityShards := (if_neg fun ⟨_, member, _⟩ => nomatch member).symm
  originals := rfl
  shard := fun _ => rfl
  length_le := Nat.zero_le _
  length_eq := fun ⟨_, member, _⟩ => nomatch member

/-- A data packet as it is delivered. -/
def unwrapped (packet : NetPacket) : NetPacket :=
  ⟨[], packet.header.setFlag fecMask false, packet.payload, []⟩

namespace Tracks

variable {seen : List Nat} {group : FecGroup} {index : Nat}

theorem hasParity_cons_of_lt (seen : List Nat) (isData : index < batch.size) :
    batch.HasParity (index :: seen) ↔ batch.HasParity seen := by
  unfold Batch.HasParity
  rw [List.exists_mem_cons_iff]
  exact or_iff_right (Nat.not_le_of_lt isData)

theorem hasParity_cons_of_le (seen : List Nat) (isParity : batch.size ≤ index) :
    batch.HasParity (index :: seen) :=
  ⟨index, List.mem_cons_self, isParity⟩

theorem shard_cons (tracks : Tracks code batch seen group) {length : Nat}
    (inside : index < length) (other : Nat) :
    ((grow group.receivedShards length).set index
        (some (batch.arrived code index))).getD other none =
      if other ∈ index :: seen then some (batch.arrived code other) else none := by
  rw [getD_set_grow _ inside]
  by_cases same : other = index
  · rw [if_pos same, if_pos (same ▸ List.mem_cons_self), same]
  · simp only [List.mem_cons, same, false_or]
    exact tracks.shard other

theorem storeData (codec : FecCodec) (tracks : Tracks code batch seen group) (fresh : index ∉ seen)
    {packet : NetPacket} (found : batch.packets[index]? = some packet) (now : Instant) :
    Tracks code batch (index :: seen)
      (group.storeData now index (wrapped codec batch.groupId packet index) packet.payload) := by
  have isData : index < batch.size := (List.getElem?_eq_some_iff.mp found).1
  have inside : index < batch.size + batch.parity := Nat.lt_add_right _ isData
  have parity := hasParity_cons_of_lt seen isData
  have arrived : batch.arrived code index =
      shardOf packet.header.typeByte (packet.header.flagsByte ||| fecMask) packet.payload := by
    simp only [Batch.arrived, found]
  have length : (group.storeData now index (wrapped codec batch.groupId packet index)
      packet.payload).receivedShards.length = max group.receivedShards.length (index + 1) := by
    rw [FecGroup.storeData, List.length_set, length_grow]
  have lengthBefore := tracks.length_le
  refine ⟨List.nodup_cons.mpr ⟨fresh, tracks.nodup⟩,
    List.forall_mem_cons.mpr ⟨inside, tracks.inside⟩, ?_, ?_, ?_, ?_, ?_, ?_⟩
  · simp only [parity]
    exact tracks.dataShards
  · simp only [parity]
    exact tracks.parityShards
  · simp only [List.filter_cons, decide_eq_true isData, if_true, List.length_cons]
    exact congrArg (· + 1) tracks.originals
  · intro other
    rw [← shard_cons tracks (Nat.lt_succ_self index) other, arrived]
    rfl
  · rw [length]
    omega
  · intro hasParity
    have lengthFull := tracks.length_eq (parity.mp hasParity)
    rw [length]
    omega

/-- A parity packet is stored, and tells the numbers of shards. -/
theorem storeParity (tracks : Tracks code batch seen group) (fresh : index ∉ seen)
    (isParity : batch.size ≤ index) (inside : index < batch.size + batch.parity) (now : Instant)
    (srcIp : Ipv4Addr) :
    ∃ stored, group.storeParity now srcIp index
        ⟨UInt32.ofNat batch.size, UInt32.ofNat batch.parity⟩ (batch.parityShard code index) =
          .ok stored ∧
      Tracks code batch (index :: seen) stored := by
  have small := batch.size_le
  have few := batch.parity_le
  have size : (UInt32.ofNat batch.size).toNat = batch.size :=
    UInt32.toNat_ofNat_of_lt' (Nat.lt_of_le_of_lt small (by decide))
  have parity : (UInt32.ofNat batch.parity).toNat = batch.parity :=
    UInt32.toNat_ofNat_of_lt' (Nat.lt_of_le_of_lt few (by decide))
  have arrived : batch.arrived code index = batch.parityShard code index := by
    simp only [Batch.arrived, Batch.no_packet isParity]
  have sameData : ¬(group.dataShards ≠ 0 ∧ group.dataShards ≠ batch.size) := by
    rw [tracks.dataShards]
    split <;> simp
  have sameParity : ¬(group.parityShards ≠ 0 ∧ group.parityShards ≠ batch.parity) := by
    rw [tracks.parityShards]
    split <;> simp
  have lengthBefore := tracks.length_le
  have length : ((grow group.receivedShards (batch.size + batch.parity)).set index
      (some (batch.parityShard code index))).length = batch.size + batch.parity := by
    rw [List.length_set, length_grow]
    omega
  refine ⟨⟨batch.size, batch.parity, group.receivedOriginalCount,
    (grow group.receivedShards (batch.size + batch.parity)).set index
      (some (batch.parityShard code index)), now⟩, ?_, ?_⟩
  · unfold FecGroup.storeParity
    simp only [size, parity]
    rw [if_neg (by unfold maxNum; omega), if_neg (by unfold maxNum; omega), if_neg (by omega),
      if_neg sameData, if_neg sameParity]
  · have hasParity := hasParity_cons_of_le seen isParity
    refine ⟨List.nodup_cons.mpr ⟨fresh, tracks.nodup⟩,
      List.forall_mem_cons.mpr ⟨inside, tracks.inside⟩, (if_pos hasParity).symm,
      (if_pos hasParity).symm, ?_, ?_, Nat.le_of_eq length, fun _ => length⟩
    · simp only [List.filter_cons, decide_eq_false (Nat.not_lt_of_le isParity), if_false,
        Bool.false_eq_true]
      exact tracks.originals
    · intro other
      rw [← shard_cons tracks inside other, arrived]
      rfl

/-- Storing the packet of a new place. -/
theorem store (codec : FecCodec) (tracks : Tracks code batch seen group) (fresh : index ∉ seen)
    (inside : index < batch.size + batch.parity) (now : Instant) :
    ∃ stored, group.store now (batch.message code index) (batch.wire code codec index) =
        .ok (stored, (batch.packets[index]?).map unwrapped) ∧
      Tracks code batch (index :: seen) stored := by
  have place := Batch.packetIndex_message code inside
  cases found : batch.packets[index]? with
  | some packet =>
    refine ⟨_, ?_, storeData codec tracks fresh found now⟩
    unfold FecGroup.store
    rw [place]
    unfold Batch.message Batch.wire unwrapped
    simp only [found, unwrap_eq, Except.map, Option.map_some]
    rw [wrapped, NetHeader.setFlag_setFlag]
  | none =>
    have isParity : batch.size ≤ index := List.getElem?_eq_none_iff.mp found
    obtain ⟨stored, outcome, next⟩ := storeParity tracks fresh isParity inside now
      (batch.wire code codec index).header.srcId
    refine ⟨stored, ?_, next⟩
    unfold FecGroup.store
    rw [place]
    unfold Batch.message
    simp only [found]
    rw [outcome]
    rfl

end Tracks

end Vnt.Fec
