/-
This file follows the completion of a batch. When enough shards of one length are there, every
column of them but that of the flags agrees with the word the parity was made of, so the missing
packets come back with their types and payloads, and with the flags that the code completes from
the flags as they arrived.
-/

import Vnt.Fec.Group

namespace Vnt.Fec

open Vnt.Base

variable {code : ErasureCode UInt8} {codec : FecCodec} {batch : Batch} {seen : List Nat}
  {group : FecGroup} {index : Nat}

/-! ### How many shards are there -/

theorem length_filter_lt_eq_iff (nodup : seen.Nodup) (size : Nat) :
    (seen.filter fun index => decide (index < size)).length = size ↔
      ∀ index < size, index ∈ seen := by
  have few := nodup.filter fun index => decide (index < size)
  have members : ∀ index, index ∈ seen.filter (fun index => decide (index < size)) ↔
      index ∈ seen ∧ index < size := by
    intro index
    rw [List.mem_filter, decide_eq_true_iff]
  constructor
  · intro full index inside
    have part : seen.filter (fun index => decide (index < size)) ⊆ List.range size :=
      fun other member => List.mem_range.mpr ((members other).mp member).2
    have same := (List.subperm_of_subset few part).perm_of_length_le
      (by rw [List.length_range, full])
    exact ((members index).mp (same.mem_iff.mpr (List.mem_range.mpr inside))).1
  · intro all
    have same : (seen.filter fun index => decide (index < size)).Perm (List.range size) := by
      refine (List.perm_ext_iff_of_nodup few List.nodup_range).mpr fun index => ?_
      rw [members, List.mem_range]
      exact ⟨And.right, fun inside => ⟨all index inside, inside⟩⟩
    rw [same.length_eq, List.length_range]

namespace Tracks

theorem isDone_iff (tracks : Tracks code batch seen group) :
    group.isDone = true ↔ batch.HasParity seen ∧ batch.HasData seen := by
  have positive := batch.size_pos
  rw [FecGroup.isDone, decide_eq_true_iff, tracks.dataShards, tracks.originals]
  by_cases parity : batch.HasParity seen
  · rw [if_pos parity, length_filter_lt_eq_iff tracks.nodup]
    exact ⟨fun done => ⟨parity, done.2⟩, fun done => ⟨Nat.ne_of_gt positive, done.2⟩⟩
  · rw [if_neg parity]
    exact ⟨fun done => absurd rfl done.1, fun done => absurd done.1 parity⟩

theorem receivedShards_eq (tracks : Tracks code batch seen group) :
    group.receivedShards =
      ErasureCode.knownAt group.receivedShards.length seen (batch.arrived code) := by
  refine List.ext_getElem ErasureCode.length_knownAt.symm fun index inside _ => ?_
  have shard := tracks.shard index
  rw [FecGroup.shard, List.getD_eq_getElem?_getD, List.getElem?_eq_getElem inside,
    Option.getD_some] at shard
  simp only [ErasureCode.knownAt, List.getElem_map, List.getElem_range]
  exact shard

theorem knownShards_eq (tracks : Tracks code batch seen group) (parity : batch.HasParity seen) :
    group.receivedShards = batch.knownShards code seen := by
  rw [tracks.receivedShards_eq, tracks.length_eq parity, Batch.knownShards]

theorem lt_length (tracks : Tracks code batch seen group) (member : index ∈ seen) :
    index < group.receivedShards.length := by
  have shard := tracks.shard index
  rw [if_pos member, FecGroup.shard] at shard
  by_contra outside
  rw [List.getD_eq_getElem?_getD, List.getElem?_eq_none (Nat.le_of_not_lt outside)] at shard
  cases shard

/-- As many shards are there as places. -/
theorem length_present (tracks : Tracks code batch seen group) :
    (group.receivedShards.filterMap id).length = seen.length := by
  have present : ((ErasureCode.knownAt group.receivedShards.length seen
      (batch.arrived code)).filterMap id).Perm (seen.map (batch.arrived code)) :=
    ErasureCode.perm_filterMap_knownAt tracks.nodup fun _ member => tracks.lt_length member
  rw [tracks.receivedShards_eq, present.length_eq, List.length_map]

end Tracks

/-! ### The columns of the shards that are there -/

theorem getD_padded (length : Nat) (item : List UInt8) (position : Nat) :
    (padded length item).getD position default = item.getD position default := by
  unfold padded
  rw [List.getD_eq_getElem?_getD, List.getD_eq_getElem?_getD, List.getElem?_append]
  split
  · rfl
  · next outside =>
    rw [List.getElem?_eq_none (Nat.le_of_not_lt outside), List.getElem?_replicate]
    split <;> rfl

/-- The flags are one position of a shard. -/
theorem getD_shardOf {position : Nat} (notFlags : position ≠ 1) (typeByte first second : UInt8)
    (payload : List UInt8) :
    (shardOf typeByte first payload).getD position default =
      (shardOf typeByte second payload).getD position default := by
  match position, notFlags with
  | 0, _ => rfl
  | position + 2, _ => rfl

namespace Batch

/-- The symbols of the filled up data shards in one position. -/
def dataColumn (batch : Batch) (position : Nat) : List UInt8 :=
  ErasureCode.column (paddedItems batch.shards) position

theorem getElem?_dataColumn (index position : Nat) :
    (batch.dataColumn position)[index]? =
      (batch.packets[index]?).map fun packet => (itemOf packet).getD position default := by
  rw [dataColumn, ErasureCode.column, paddedItems, shards, List.getElem?_map, List.getElem?_map,
    List.getElem?_map, Option.map_map, Option.map_map]
  exact congrArg (fun read => Option.map read _) (funext fun packet => getD_padded _ _ _)

theorem length_dataColumn (batch : Batch) (position : Nat) :
    (batch.dataColumn position).length = batch.size := by
  rw [dataColumn, ErasureCode.column, List.length_map, paddedItems, List.length_map, length_shards]

theorem getD_parityShard {position : Nat} (isParity : batch.size ≤ index)
    (inside : index < batch.size + batch.parity) (below : position < maxLen batch.shards) :
    (batch.parityShard code index).getD position default =
      (code.encodeColumn batch.parity (batch.dataColumn position)).getD (index - batch.size)
        default := by
  have place : index - batch.size < batch.parity := by omega
  rw [parityShard, List.getD_eq_getElem?_getD, List.getD_eq_getElem?_getD, parityOf,
    List.getElem?_map, parity_eq, List.getElem?_range place, Option.map_some, Option.getD_some,
    List.getElem?_map, List.getElem?_range below]
  rfl

/-- Every column but that of the flags agrees with the word of the data. -/
theorem getD_arrived {position : Nat} (notFlags : position ≠ 1)
    (mds : code.Mds batch.size batch.parity) (inside : index < batch.size + batch.parity)
    (below : position < maxLen batch.shards) :
    (batch.dataColumn position ++
        code.encodeColumn batch.parity (batch.dataColumn position))[index]? =
      some ((batch.arrived code index).getD position default) := by
  rw [List.getElem?_append, length_dataColumn]
  cases found : batch.packets[index]? with
  | some packet =>
    have isData : index < batch.size := (List.getElem?_eq_some_iff.mp found).1
    rw [if_pos isData, getElem?_dataColumn, found, arrived, found]
    exact congrArg some (getD_shardOf notFlags _ _ _ _)
  | none =>
    have isParity : batch.size ≤ index := List.getElem?_eq_none_iff.mp found
    have length := mds.length_encodeColumn _ (length_dataColumn batch position)
    rw [if_neg (Nat.not_lt_of_le isParity), arrived, found]
    dsimp only
    rw [getD_parityShard isParity inside below, List.getD_eq_getElem?_getD,
      List.getElem?_eq_getElem (by omega)]
    rfl

theorem length_itemOf_le {packet : NetPacket} (found : batch.packets[index]? = some packet) :
    (itemOf packet).length ≤ maxLen batch.shards :=
  le_maxLen (List.mem_map_of_mem (List.mem_of_getElem? found))

/-- A data shard comes back filled up, under the flags that are completed. -/
theorem restore_knownShards (mds : code.Mds batch.size batch.parity) (nodup : seen.Nodup)
    (inside : ∀ index ∈ seen, index < batch.size + batch.parity)
    (enough : batch.size ≤ seen.length) {packet : NetPacket}
    (found : batch.packets[index]? = some packet) :
    code.restore batch.size batch.parity (maxLen batch.shards) (batch.knownShards code seen) index =
      padded (maxLen batch.shards) (shardOf packet.header.typeByte
        ((batch.completedFlags code seen).getD index default) packet.payload) := by
  have length : (padded (maxLen batch.shards) (shardOf packet.header.typeByte
      ((batch.completedFlags code seen).getD index default) packet.payload)).length =
        maxLen batch.shards := by
    refine length_padded ?_
    have fits := length_itemOf_le found
    rw [itemOf, length_shardOf] at fits
    rw [length_shardOf]
    exact fits
  refine List.ext_getElem (by rw [ErasureCode.length_restore, length]) fun position below _ => ?_
  rw [ErasureCode.length_restore] at below
  rw [List.getElem_eq_getD default, List.getElem_eq_getD default, getD_padded,
    ErasureCode.getD_restore _ _ _ _ _ _ below]
  by_cases flags : position = 1
  · rw [flags]
    rfl
  · have column := mds.reconstructColumn_knownAt nodup inside enough
      (length_dataColumn batch position) fun index member =>
        getD_arrived flags mds (inside index member) below
    rw [knownShards, ErasureCode.knownColumn_knownAt, column, List.getD_eq_getElem?_getD,
      getElem?_dataColumn, found]
    exact getD_shardOf flags _ _ _ _

/-- The shards that are there have one length exactly when the data among them fit. -/
theorem commonLength_arrived (parity : batch.HasParity seen)
    (inside : ∀ index ∈ seen, index < batch.size + batch.parity) {shards : List (List UInt8)}
    (same : shards.Perm (seen.map (batch.arrived code))) :
    ErasureCode.commonLength shards =
      if batch.LengthsFit seen then some (maxLen batch.shards) else none := by
  have longest : maxLen batch.shards ≠ 0 := by
    obtain ⟨item, member, length⟩ := exists_maxLen batch.shards_ne_nil
    exact length ▸ Nat.ne_of_gt (Nat.lt_of_lt_of_le (by decide) (length_shard member))
  have members : ∀ shard, shard ∈ shards ↔ ∃ index ∈ seen, batch.arrived code index = shard := by
    intro shard
    rw [same.mem_iff, List.mem_map]
  obtain ⟨place, placeSeen, isParity⟩ := parity
  have placeLength : (batch.arrived code place).length = maxLen batch.shards := by
    unfold arrived
    rw [no_packet isParity]
    exact length_parityShard code isParity (inside place placeSeen)
  have placeMember := (members _).mpr ⟨place, placeSeen, rfl⟩
  have lengths : ∀ index packet, batch.packets[index]? = some packet →
      (batch.arrived code index).length = (itemOf packet).length := by
    intro index packet found
    rw [arrived, found, itemOf, length_shardOf, length_shardOf]
  by_cases fit : batch.LengthsFit seen
  · rw [if_pos fit, ErasureCode.commonLength_eq_some]
    refine ⟨List.ne_nil_of_mem placeMember, longest, fun shard member => ?_⟩
    obtain ⟨index, isSeen, rfl⟩ := (members shard).mp member
    cases found : batch.packets[index]? with
    | some packet => rw [lengths index packet found, fit index isSeen packet found]
    | none =>
      have outside : batch.size ≤ index := List.getElem?_eq_none_iff.mp found
      rw [arrived, found]
      exact length_parityShard code outside (inside index isSeen)
  · rw [if_neg fit]
    refine Option.eq_none_iff_forall_not_mem.mpr fun length common => fit ?_
    obtain ⟨_, _, all⟩ := ErasureCode.commonLength_eq_some.mp common
    intro index isSeen packet found
    rw [← lengths index packet found, all _ ((members _).mpr ⟨index, isSeen, rfl⟩),
      ← all _ placeMember, placeLength]

end Batch

/-- A filled up shard is rebuilt to its packet. -/
theorem rebuildNetPacket_padded (current : NetPacket) (length : Nat) (typeByte flagsByte : UInt8)
    {payload : List UInt8} (short : payload.length ≤ 65535) :
    ∃ rebuilt, FecGroup.rebuildNetPacket current
      (padded length (shardOf typeByte flagsByte payload)) =
        .ok rebuilt ∧
      content rebuilt = ⟨typeByte, flagsByte &&& ~~~fecMask, payload⟩ := by
  have shape : padded length (shardOf typeByte flagsByte payload) =
      typeByte :: flagsByte :: (bigEndian 2 payload.length ++ (payload ++
        List.replicate (length - (shardOf typeByte flagsByte payload).length) 0)) := by
    simp only [padded, shardOf, List.cons_append, List.append_assoc]
  have prefixLength : (bigEndian 2 payload.length).length = 2 := length_bigEndian 2 _
  have payloadLen :
      ofBigEndian (((padded length (shardOf typeByte flagsByte payload)).drop 2).take 2) =
      payload.length := by
    rw [shape, List.drop_succ_cons, List.drop_succ_cons, List.drop_zero,
      List.take_left' prefixLength]
    exact ofBigEndian_bigEndian (Nat.lt_of_le_of_lt short (by decide))
  have rest : ((padded length (shardOf typeByte flagsByte payload)).drop 4).take payload.length =
      payload := by
    rw [shape, List.drop_succ_cons, List.drop_succ_cons, List.drop_left' prefixLength,
      List.take_left]
  have long : payload.length + 4 ≤ (padded length (shardOf typeByte flagsByte payload)).length := by
    rw [padded, List.length_append, length_shardOf]
    omega
  unfold FecGroup.rebuildNetPacket
  rw [if_neg (by omega)]
  dsimp only [bind, Except.bind, pure, Except.pure]
  rw [payloadLen, if_neg (by omega), rest, NetPacket.new_zeroed]
  refine ⟨_, NetPacket.setPayload_blank _ _ _ _, ?_⟩
  rw [shape]
  rfl

/-! ### What a group completes -/

/-- Results of single steps make up the result of all of them. -/
theorem mapM_ok {Input Output Reading Error : Type} {run : Input → Except Error Output}
    {read : Output → Reading} {expect : Input → Option Reading} {inputs : List Input}
    (single : ∀ input ∈ inputs,
      ∃ output, run input = .ok output ∧ expect input = some (read output)) :
    ∃ outputs, inputs.mapM run = .ok outputs ∧ outputs.map read = inputs.filterMap expect := by
  induction inputs with
  | nil => exact ⟨[], rfl, rfl⟩
  | cons input rest inductionHypothesis =>
    obtain ⟨first, others⟩ := List.forall_mem_cons.mp single
    obtain ⟨output, outcome, reads⟩ := first
    obtain ⟨outputs, outcomes, readings⟩ := inductionHypothesis others
    refine ⟨output :: outputs, ?_, by
      rw [List.map_cons, List.filterMap_cons_some reads, readings]⟩
    rw [List.mapM_cons, outcome]
    dsimp only [bind, Except.bind]
    rw [outcomes]
    rfl

namespace Tracks

variable {key : GroupKey} {packet : NetPacket}

theorem tryDecode_noParity (tracks : Tracks code batch seen group)
    (noParity : ¬batch.HasParity seen) : group.tryDecode code key packet = (group, .ok none) := by
  unfold FecGroup.tryDecode
  rw [if_pos (tracks.dataShards.trans (if_neg noParity))]

/-- With parity but not all data, what happens is what the shards that are there give. -/
theorem tryDecode_parity (tracks : Tracks code batch seen group) (parity : batch.HasParity seen)
    (missing : ¬batch.HasData seen) :
    group.tryDecode code key packet =
      if seen.length < batch.size then (group, .ok none)
      else group.decodeWithRs code key packet := by
  have dataShards := tracks.dataShards.trans (if_pos parity)
  have notAll : group.receivedOriginalCount ≠ group.dataShards := by
    rw [tracks.originals, dataShards]
    exact fun all => missing ((length_filter_lt_eq_iff tracks.nodup _).mp all)
  unfold FecGroup.tryDecode
  rw [if_neg (dataShards ▸ Nat.ne_of_gt batch.size_pos), if_neg notAll, tracks.length_present,
    dataShards]

theorem buildable (batch : Batch) : ErasureCode.Buildable batch.size batch.parity := by
  have size := batch.size_le
  have parity := batch.parity_le
  exact ⟨batch.size_pos, batch.parity_pos, by omega⟩

theorem commonLength_present (tracks : Tracks code batch seen group)
    (parity : batch.HasParity seen) :
    ErasureCode.commonLength (group.receivedShards.filterMap id) =
      if batch.LengthsFit seen then some (maxLen batch.shards) else none := by
  have present : (group.receivedShards.filterMap id).Perm (seen.map (batch.arrived code)) := by
    rw [tracks.knownShards_eq parity]
    exact ErasureCode.perm_filterMap_knownAt tracks.nodup tracks.inside
  exact Batch.commonLength_arrived parity tracks.inside present

/-- Shards of one length complete what is missing, and the group is done. -/
theorem decodeWithRs_fit (tracks : Tracks code batch seen group) (key : GroupKey)
    (packet : NetPacket) (mds : code.Mds batch.size batch.parity) (parity : batch.HasParity seen)
    (enough : batch.size ≤ seen.length) (fit : batch.LengthsFit seen) :
    ∃ result, group.decodeWithRs code key packet = (group.done, .ok (some result)) ∧
      result.map content = batch.completed (batch.completedFlags code seen) seen := by
  have dataShards := tracks.dataShards.trans (if_pos parity)
  have parityShards := tracks.parityShards.trans (if_pos parity)
  have length := tracks.length_eq parity
  obtain ⟨whole, reconstructed, missing⟩ : ∃ whole,
      code.reconstruct batch.size batch.parity group.receivedShards = some whole ∧
        ∀ index < batch.size, group.receivedShards.getD index none = none → whole.getD index [] =
          code.restore batch.size batch.parity (maxLen batch.shards) group.receivedShards index :=
    code.exists_reconstruct (buildable batch) length (tracks.length_present.symm ▸ enough)
      ((tracks.commonLength_present parity).trans (if_pos fit))
  have isMissing :
      (fun index => (group.shard index).isNone) = fun index => decide (index ∉ seen) := by
    funext index
    rw [tracks.shard index]
    by_cases member : index ∈ seen
    · rw [if_pos member, decide_eq_false (not_not.mpr member)]
      rfl
    · rw [if_neg member, decide_eq_true member]
      rfl
  obtain ⟨result, rebuilt, contents⟩ : ∃ result,
      (((List.range batch.size).filter fun index => decide (index ∉ seen)).mapM fun index =>
        FecGroup.rebuildNetPacket packet (whole.getD index [])) = .ok result ∧
      result.map content = batch.completed (batch.completedFlags code seen) seen := by
    refine mapM_ok fun index member => ?_
    obtain ⟨inRange, notSeen⟩ := List.mem_filter.mp member
    have inside := List.mem_range.mp inRange
    obtain ⟨original, found⟩ := Batch.exists_packet inside
    have absent := (tracks.shard index).trans (if_neg (of_decide_eq_true notSeen))
    rw [missing index inside absent, tracks.knownShards_eq parity,
      Batch.restore_knownShards mds tracks.nodup tracks.inside enough found, found]
    obtain ⟨output, outcome, reads⟩ := rebuildNetPacket_padded packet (maxLen batch.shards)
      original.header.typeByte ((batch.completedFlags code seen).getD index 0) (Batch.short found)
    exact ⟨output, outcome, congrArg some reads.symm⟩
  refine ⟨result, ?_, contents⟩
  unfold FecGroup.decodeWithRs
  rw [if_neg (by rw [dataShards, parityShards, length]; exact not_not.mpr rfl), dataShards,
    parityShards, reconstructed]
  dsimp only
  rw [isMissing, rebuilt]

/-- Shards of different lengths complete nothing. -/
theorem decodeWithRs_unfit (tracks : Tracks code batch seen group) (key : GroupKey)
    (packet : NetPacket) (parity : batch.HasParity seen) (unfit : ¬batch.LengthsFit seen) :
    ∃ message, group.decodeWithRs code key packet = (group, .error message) := by
  have dataShards := tracks.dataShards.trans (if_pos parity)
  have parityShards := tracks.parityShards.trans (if_pos parity)
  have reconstructed : code.reconstruct batch.size batch.parity group.receivedShards = none :=
    ErasureCode.reconstruct_eq_none ((tracks.commonLength_present parity).trans (if_neg unfit))
  unfold FecGroup.decodeWithRs
  rw [if_neg (by rw [dataShards, parityShards, tracks.length_eq parity]; exact not_not.mpr rfl),
    dataShards, parityShards, reconstructed]
  exact ⟨_, rfl⟩

end Tracks

/-! ### The group refines the collection -/

/-- The group is, seen from outside, the collection. -/
def Represents (code : ErasureCode UInt8) (batch : Batch) : Collection → FecGroup → Prop
  | .collecting seen, group =>
    Tracks code batch seen group ∧ ¬(batch.HasParity seen ∧ batch.HasData seen)
  | .finished, group => group.isDone = true

/-- The packets that a result delivers. -/
def delivered : Except String (Option (List NetPacket)) → List NetPacket
  | .ok (some packets) => packets
  | _ => []

theorem map_content_direct (index : Nat) :
    ((batch.packets[index]?).map unwrapped).toList.map content = batch.direct index := by
  unfold Batch.direct
  cases batch.packets[index]? <;> rfl

theorem delivered_deliver_none (packet : Option NetPacket) :
    delivered (.ok (deliver packet none)) = packet.toList := by
  cases packet <;> rfl

theorem delivered_deliver_some (packet : Option NetPacket) (result : List NetPacket) :
    delivered (.ok (deliver packet (some result))) = result ++ packet.toList := by
  cases packet with
  | none => exact (List.append_nil result).symm
  | some packet => rfl

theorem isDone_done (positive : group.dataShards ≠ 0) : group.done.isDone = true :=
  decide_eq_true ⟨positive, rfl⟩

/-- The result of a group is, seen from outside, that of the collection. -/
def Agrees (code : ErasureCode UInt8) (batch : Batch) (result : Collection × List Content)
    (outcome : FecGroup × Except String (Option (List NetPacket))) : Prop :=
  Represents code batch result.1 outcome.1 ∧ (delivered outcome.2).map content = result.2

/-- The packet of a new place does to the group what it does to the collection. -/
theorem Tracks.receive (codec : FecCodec) (tracks : Tracks code batch seen group)
    (mds : code.Mds batch.size batch.parity) (fresh : index ∉ seen)
    (inside : index < batch.size + batch.parity) (now : Instant) :
    Agrees code batch ((Collection.collecting seen).step code batch index)
      (group.receive code now (batch.message code index) (batch.wire code codec index)) := by
  obtain ⟨stored, outcome, next⟩ := tracks.store codec fresh inside now
  rw [FecGroup.receive_of_store code outcome]
  have plain :
      (delivered (.ok (deliver ((batch.packets[index]?).map unwrapped) none))).map content =
      batch.direct index := by
    rw [delivered_deliver_none, map_content_direct]
  have step : (Collection.collecting seen).step code batch index =
      if ¬batch.HasParity (index :: seen) then
        (.collecting (index :: seen), batch.direct index)
      else if batch.HasData (index :: seen) then (.finished, batch.direct index)
      else if (index :: seen).length < batch.size then
        (.collecting (index :: seen), batch.direct index)
      else if batch.LengthsFit (index :: seen) then
        (.finished, batch.completed (batch.completedFlags code (index :: seen)) (index :: seen) ++
          batch.direct index)
      else (.collecting (index :: seen), []) := if_neg fresh
  rw [step]
  by_cases parity : batch.HasParity (index :: seen)
  · rw [if_neg (not_not.mpr parity)]
    have positive : stored.dataShards ≠ 0 :=
      (next.dataShards.trans (if_pos parity)) ▸ Nat.ne_of_gt batch.size_pos
    by_cases data : batch.HasData (index :: seen)
    · rw [if_pos data, if_pos (next.isDone_iff.mpr ⟨parity, data⟩)]
      exact ⟨isDone_done positive, plain⟩
    · have active : ¬(batch.HasParity (index :: seen) ∧ batch.HasData (index :: seen)) :=
        fun all => data all.2
      rw [if_neg data, if_neg fun done => active (next.isDone_iff.mp done),
        next.tryDecode_parity parity data]
      by_cases few : (index :: seen).length < batch.size
      · rw [if_pos few, if_pos few]
        exact ⟨⟨next, active⟩, plain⟩
      · rw [if_neg few, if_neg few]
        by_cases fit : batch.LengthsFit (index :: seen)
        · obtain ⟨result, completed, contents⟩ := next.decodeWithRs_fit
            ((batch.wire code codec index).header.srcId, (batch.message code index).groupId)
            (batch.wire code codec index) mds parity (Nat.le_of_not_lt few) fit
          rw [if_pos fit, completed]
          refine ⟨isDone_done positive, ?_⟩
          rw [delivered_deliver_some, List.map_append, contents, map_content_direct]
        · obtain ⟨message, failed⟩ := next.decodeWithRs_unfit
            ((batch.wire code codec index).header.srcId, (batch.message code index).groupId)
            (batch.wire code codec index) parity fit
          rw [if_neg fit, failed]
          exact ⟨⟨next, active⟩, rfl⟩
  · have active : ¬(batch.HasParity (index :: seen) ∧ batch.HasData (index :: seen)) :=
      fun all => parity all.1
    rw [if_pos parity, if_neg fun done => active (next.isDone_iff.mp done),
      next.tryDecode_noParity parity]
    exact ⟨⟨next, active⟩, plain⟩

end Vnt.Fec
