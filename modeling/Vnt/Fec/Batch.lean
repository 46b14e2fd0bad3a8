/-
This file says what one batch puts on the wire. Packets of one source to one destination that
find no open batch get the places from 0 on, in the order in which they are encoded, and the
batch that is closed after them holds a shard of each. The parity packets carry the parity of
these shards, all filled up to the length of the longest.
-/

import Vnt.Fec.Encoder

namespace Vnt.Fec

open Vnt.Base

namespace FecEncoder

/-- Encode packets one after the other. -/
def encodeAll (codec : FecCodec) :
    FecEncoder → List (Instant × NetPacket) → Except String (FecEncoder × List NetPacket)
  | encoder, [] => .ok (encoder, [])
  | encoder, (now, packet) :: rest =>
    match encoder.encode codec now packet with
    | .error message => .error message
    | .ok (next, wrapped) =>
      (encodeAll codec next rest).map fun later => (later.1, wrapped :: later.2)

/-- The batch the worker closes next: a full one from the channel, or else the one of the
destination when its deadline has passed at the tick. -/
def closedBatch (encoder : FecEncoder) (dest : Ipv4Addr) (tick : Instant) : Option ClosedBatch :=
  match encoder.takeFull with
  | some taken => some taken.2
  | none => (encoder.takeTimedOut tick).2.find? fun batch => decide (batch.dest = dest)

/-- Packets and the parity of the batch that is closed after them, in the order they are handed
to the sender; `none` when no batch is closed. -/
def sendBatch (code : ErasureCode UInt8) (codec : FecCodec) (encoder : FecEncoder)
    (dest : Ipv4Addr) (sends : List (Instant × NetPacket)) (tick : Instant) :
    Option (List NetPacket) :=
  match encoder.encodeAll codec sends with
  | .error _ => none
  | .ok (encoder, data) =>
    (encoder.closedBatch dest tick).bind fun batch =>
      match encodeAndSendParity code codec batch with
      | .error _ => none
      | .ok parity => some (data ++ parity)

/-- The batch that is open for a destination, with an empty channel. -/
structure Holds (encoder : FecEncoder) (src dest : Ipv4Addr) (groupId : UInt64)
    (items : List (List UInt8)) : Prop where
  batchTx : encoder.batchTx = []
  groupId : ∀ now, (encoder.stateFor now src dest).groupId = groupId
  items : ∀ now, (encoder.stateFor now src dest).currentBatch = items
  srcIp : ∀ now, (encoder.stateFor now src dest).srcIp = src

end FecEncoder

/-- The shard of a packet. -/
def itemOf (packet : NetPacket) : List UInt8 :=
  shardOf packet.header.typeByte packet.header.flagsByte packet.payload

/-- A packet of a batch: from the source to the destination, and not too long. -/
structure BelongsTo (src dest : Ipv4Addr) (packet : NetPacket) : Prop where
  srcId : packet.header.srcId = src
  destId : packet.header.destId = dest
  short : packet.payload.length ≤ 65535

/-- The wrapped form of a packet. -/
def wrapped (codec : FecCodec) (groupId : UInt64) (packet : NetPacket) (index : Nat) :
    NetPacket where
  headRoom := packet.headRoom
  header := packet.header.setFlag fecMask true
  payload := codec.encodeToVec ⟨groupId, UInt32.ofNat index, packet.payload, none⟩
  tailRoom := []

variable {code : ErasureCode UInt8} {codec : FecCodec} {encoder next : FecEncoder}
  {src dest : Ipv4Addr} {groupId : UInt64} {items : List (List UInt8)} {data : List NetPacket}

namespace FecEncoder

theorem lookup_push (now : Instant) (item : List UInt8) :
    (encoder.push now src dest item).batchStates.lookup dest = some
      (if full : ((encoder.stateFor now src dest).currentBatch ++ [item]).length < batchSize then
        { groupId := (encoder.stateFor now src dest).groupId
          currentBatch := (encoder.stateFor now src dest).currentBatch ++ [item]
          deadline := (encoder.stateFor now src dest).deadline
          srcIp := (encoder.stateFor now src dest).srcIp
          short := full }
      else (encoder.stateFor now src dest).renewed now) := by
  unfold push
  dsimp only
  split
  · exact AList.lookup_insert _
  · exact AList.lookup_insert _

/-- An item that does not fill the batch is added to it. -/
theorem Holds.push (holds : encoder.Holds src dest groupId items) (now : Instant)
    {item : List UInt8} (short : items.length + 1 < batchSize) :
    (encoder.push now src dest item).Holds src dest groupId (items ++ [item]) := by
  have notFull : ((encoder.stateFor now src dest).currentBatch ++ [item]).length < batchSize := by
    rw [holds.items now, List.length_append]
    exact short
  have state : ∀ later, (encoder.push now src dest item).stateFor later src dest =
      { groupId := (encoder.stateFor now src dest).groupId
        currentBatch := (encoder.stateFor now src dest).currentBatch ++ [item]
        deadline := (encoder.stateFor now src dest).deadline
        srcIp := (encoder.stateFor now src dest).srcIp
        short := notFull } := by
    intro later
    unfold stateFor
    rw [lookup_push, dif_pos notFull]
    rfl
  refine ⟨?_, fun later => ?_, fun later => ?_, fun later => ?_⟩
  · unfold FecEncoder.push
    dsimp only
    rw [dif_pos notFull]
    exact holds.batchTx
  · rw [state later]
    exact holds.groupId now
  · rw [state later]
    exact congrArg (· ++ [item]) (holds.items now)
  · rw [state later]
    exact holds.srcIp now

/-- An item that fills the batch closes it. -/
theorem Holds.push_full (holds : encoder.Holds src dest groupId items) (now : Instant)
    {item : List UInt8} (full : items.length + 1 = batchSize) :
    (encoder.push now src dest item).batchTx = [⟨src, dest, groupId, items ++ [item]⟩] := by
  have notShort : ¬((encoder.stateFor now src dest).currentBatch ++ [item]).length < batchSize := by
    rw [holds.items now, List.length_append, List.length_singleton, full]
    exact Nat.lt_irrefl _
  unfold FecEncoder.push
  dsimp only
  rw [dif_neg notShort, holds.batchTx, if_pos (by decide), holds.groupId now, holds.items now]
  rfl

theorem Holds.encode (codec : FecCodec) (holds : encoder.Holds src dest groupId items)
    (now : Instant)
    {packet : NetPacket} (belongs : BelongsTo src dest packet) :
    encoder.encode codec now packet = .ok
      (encoder.push now src dest (itemOf packet), wrapped codec groupId packet items.length) := by
  rw [FecEncoder.encode_eq codec encoder now belongs.short, belongs.srcId, belongs.destId,
    holds.groupId now, holds.items now]
  rfl

/-- Packets get consecutive places, and their shards are in the open batch, or in the channel when
they filled it. -/
theorem Holds.encodeAll (codec : FecCodec) {sends : List (Instant × NetPacket)}
    (holds : encoder.Holds src dest groupId items)
    (belong : ∀ send ∈ sends, BelongsTo src dest send.2)
    (fits : items.length + sends.length ≤ batchSize) :
    ∃ final, encoder.encodeAll codec sends = .ok (final,
        (sends.zipIdx items.length).map fun send => wrapped codec groupId send.1.2 send.2) ∧
      (items.length + sends.length < batchSize →
        final.Holds src dest groupId (items ++ sends.map fun send => itemOf send.2)) ∧
      (items.length < batchSize → items.length + sends.length = batchSize →
        final.batchTx = [⟨src, dest, groupId, items ++ sends.map fun send => itemOf send.2⟩]) := by
  induction sends generalizing encoder items with
  | nil =>
    refine ⟨encoder, rfl, fun _ => ?_, fun before full => ?_⟩
    · rw [List.map_nil, List.append_nil]
      exact holds
    · rw [List.length_nil] at full
      omega
  | cons send rest inductionHypothesis =>
    obtain ⟨now, packet⟩ := send
    obtain ⟨first, others⟩ := List.forall_mem_cons.mp belong
    have encoded := holds.encode codec now first
    rw [List.length_cons] at fits
    by_cases full : items.length + 1 = batchSize
    · have empty : rest = [] := List.length_eq_zero_iff.mp (by omega)
      subst empty
      refine ⟨_, ?_, fun short => ?_, fun _ _ => holds.push_full now full⟩
      · rw [FecEncoder.encodeAll, encoded]
        rfl
      · rw [List.length_singleton] at short
        omega
    · have short : items.length + 1 < batchSize := by omega
      have length : (items ++ [itemOf packet]).length = items.length + 1 := List.length_append
      obtain ⟨final, outcome, ifShort, ifFull⟩ :=
        inductionHypothesis (holds.push now short) others (by rw [length]; omega)
      rw [length, List.append_assoc, List.singleton_append] at ifShort ifFull
      rw [length] at outcome
      refine ⟨final, ?_, fun short => ifShort ?_, fun _ isFull => ifFull short ?_⟩
      · rw [FecEncoder.encodeAll, encoded]
        dsimp only
        rw [outcome]
        rfl
      · rw [List.length_cons] at short
        omega
      · rw [List.length_cons] at isFull
        omega

/-- The batch that is closed holds the shards of the packets. -/
theorem Holds.closedBatch {sends : List (Instant × NetPacket)} {tick : Instant}
    {final : FecEncoder} {batch : ClosedBatch}
    (holds : encoder.Holds src dest groupId [])
    (belong : ∀ send ∈ sends, BelongsTo src dest send.2) (fits : sends.length ≤ batchSize)
    (outcome : encoder.encodeAll codec sends = .ok (final, data))
    (closed : final.closedBatch dest tick = some batch) :
    data = sends.zipIdx.map (fun send => wrapped codec groupId send.1.2 send.2) ∧
      batch = ⟨src, dest, groupId, sends.map fun send => itemOf send.2⟩ := by
  obtain ⟨other, encoded, ifShort, ifFull⟩ :=
    holds.encodeAll codec belong (by rw [List.length_nil, Nat.zero_add]; exact fits)
  rw [List.length_nil, Nat.zero_add] at ifShort ifFull
  rw [List.nil_append] at ifShort ifFull
  cases encoded.symm.trans outcome
  refine ⟨rfl, ?_⟩
  unfold FecEncoder.closedBatch at closed
  by_cases full : sends.length = batchSize
  · have taken := ifFull (by decide) full
    unfold takeFull at closed
    rw [taken] at closed
    cases closed
    rfl
  · have open_ := ifShort (by omega)
    unfold takeFull at closed
    rw [open_.batchTx] at closed
    have member := List.mem_of_find?_eq_some closed
    have isDest : batch.dest = dest := by simpa using List.find?_some closed
    obtain ⟨⟨key, state⟩, known, timed⟩ := List.mem_filterMap.mp member
    unfold timedOut at timed
    split at timed
    · cases timed
      replace isDest : key = dest := isDest
      subst isDest
      have current : final.stateFor tick src key = state := by
        unfold stateFor
        rw [(Map.mem_entries_iff _ key state).mp known]
        rfl
      rw [← current, open_.groupId, open_.items, open_.srcIp]
    · cases timed

end FecEncoder

/-! ### The parity packets -/

theorem le_maxLen {item : List UInt8} (member : item ∈ items) : item.length ≤ maxLen items := by
  have inList : item.length ∈ items.map List.length := List.mem_map.mpr ⟨item, member, rfl⟩
  unfold maxLen
  cases longest : (items.map List.length).max? with
  | none =>
    rw [List.max?_eq_none_iff.mp longest] at inList
    cases inList
  | some length => exact (List.max?_eq_some_iff.mp longest).2 _ inList

theorem exists_maxLen (nonempty : items ≠ []) : ∃ item ∈ items, item.length = maxLen items := by
  unfold maxLen
  cases longest : (items.map List.length).max? with
  | none =>
    exact absurd (List.map_eq_nil_iff.mp (List.max?_eq_none_iff.mp longest)) nonempty
  | some length =>
    obtain ⟨item, member, isLength⟩ := List.mem_map.mp (List.max?_eq_some_iff.mp longest).1
    exact ⟨item, member, isLength⟩

@[simp] theorem length_padded {length : Nat} {item : List UInt8} (fits : item.length ≤ length) :
    (padded length item).length = length := by
  rw [padded, List.length_append, List.length_replicate]
  omega

/-- The shards a batch is coded with. -/
def paddedItems (items : List (List UInt8)) : List (List UInt8) :=
  items.map (padded (maxLen items))

/-- The parity shards of a batch. -/
def parityOf (code : ErasureCode UInt8) (items : List (List UInt8)) : List (List UInt8) :=
  (List.range (parityShards items.length)).map fun index =>
    (List.range (maxLen items)).map fun position =>
      (code.encodeColumn (parityShards items.length)
        (ErasureCode.column (paddedItems items) position)).getD index default

theorem encode_paddedItems (code : ErasureCode UInt8) (nonempty : items ≠ [])
    (fits : items.length ≤ batchSize) (long : ∀ item ∈ items, item.length ≠ 0) :
    code.encode (parityShards items.length) (paddedItems items) = some (parityOf code items) := by
  have positive : 0 < items.length := List.length_pos_iff.mpr nonempty
  have length : (paddedItems items).length = items.length := List.length_map _
  have buildable :
      ErasureCode.Buildable (paddedItems items).length (parityShards items.length) := by
    unfold batchSize at fits
    rw [length]
    unfold ErasureCode.Buildable parityShards minParity
    omega
  have common : ErasureCode.commonLength (paddedItems items) = some (maxLen items) := by
    obtain ⟨item, member, isLength⟩ := exists_maxLen nonempty
    refine ErasureCode.commonLength_eq_some.mpr ⟨?_, isLength ▸ long item member, ?_⟩
    · exact fun empty => nonempty (List.map_eq_nil_iff.mp empty)
    · intro shard isShard
      obtain ⟨other, otherMember, rfl⟩ := List.mem_map.mp isShard
      exact length_padded (le_maxLen otherMember)
  unfold ErasureCode.encode
  rw [if_pos buildable, common]
  rfl

/-- The header of a parity packet, without its flag. -/
def parityHeader (src dest : Ipv4Addr) : NetHeader where
  typeByte := (MsgType.turn.toByte &&& 0x7F) ||| 0x80
  ttlByte := 0x55
  flagsByte := 0
  reserved := 0
  seq := 0
  srcId := src
  destId := dest

/-- A parity shard on the wire. -/
def parityWire (codec : FecCodec) (batch : ClosedBatch) (parityShards : Nat)
    (shard : List UInt8 × Nat) : NetPacket where
  headRoom := []
  header := (parityHeader batch.src batch.dest).setFlag fecMask true
  payload := codec.encodeToVec ⟨batch.groupId, UInt32.ofNat (batch.items.length + shard.2), shard.1,
    some ⟨UInt32.ofNat batch.items.length, UInt32.ofNat parityShards⟩⟩
  tailRoom := []

theorem parityPacket_eq (codec : FecCodec) (batch : ClosedBatch) (parityShards : Nat)
    (shard : List UInt8 × Nat) :
    parityPacket codec batch parityShards shard.2 shard.1 =
      .ok (parityWire codec batch parityShards shard) := by
  have addressed : ∀ payload, ((((NetPacket.mk [] .zero payload []).setMsgType .turn).setSrcId
      batch.src).setDestId batch.dest).setTtl 5 =
        ⟨[], parityHeader batch.src batch.dest, payload, []⟩ := fun _ => rfl
  unfold parityPacket
  dsimp only
  rw [NetPacket.new_zeroed]
  dsimp only [bind, Except.bind]
  rw [addressed, NetPacket.setPayload_blank]
  rfl

theorem encodeAndSendParity_eq (batch : ClosedBatch) (nonempty : batch.items ≠ [])
    (fits : batch.items.length ≤ batchSize) (long : ∀ item ∈ batch.items, item.length ≠ 0) :
    encodeAndSendParity code codec batch = .ok ((parityOf code batch.items).zipIdx.map
      (parityWire codec batch (parityShards batch.items.length))) := by
  have notZero : maxLen batch.items ≠ 0 := by
    obtain ⟨item, member, isLength⟩ := exists_maxLen nonempty
    exact isLength ▸ long item member
  have encoded := encode_paddedItems code nonempty fits long
  unfold paddedItems at encoded
  unfold encodeAndSendParity
  rw [if_neg (not_or.mpr ⟨nonempty, notZero⟩), encoded]
  dsimp only
  rw [funext (parityPacket_eq codec batch (parityShards batch.items.length))]
  exact List.mapM_pure

/-! ### The packets of a batch -/

/-- Packets that form one batch. -/
structure Batch where
  src : Ipv4Addr
  dest : Ipv4Addr
  groupId : UInt64
  packets : List NetPacket
  nonempty : packets ≠ []
  fits : packets.length ≤ batchSize
  belong : ∀ packet ∈ packets, BelongsTo src dest packet

namespace Batch

/-- The number of data shards. -/
def size (batch : Batch) : Nat := batch.packets.length

/-- The number of parity shards. -/
def parity (batch : Batch) : Nat := parityShards batch.size

/-- The data shards, before they are filled up. -/
def shards (batch : Batch) : List (List UInt8) := batch.packets.map itemOf

def closed (batch : Batch) : ClosedBatch := ⟨batch.src, batch.dest, batch.groupId, batch.shards⟩

/-- A parity shard of the batch. -/
def parityShard (code : ErasureCode UInt8) (batch : Batch) (index : Nat) : List UInt8 :=
  (parityOf code batch.shards).getD (index - batch.size) []

/-- The packet on the wire for one place of the batch. -/
def wire (code : ErasureCode UInt8) (codec : FecCodec) (batch : Batch) (index : Nat) : NetPacket :=
  match batch.packets[index]? with
  | some packet => wrapped codec batch.groupId packet index
  | none => parityWire codec batch.closed batch.parity
      (batch.parityShard code index, index - batch.size)

theorem size_pos (batch : Batch) : 0 < batch.size := List.length_pos_iff.mpr batch.nonempty

theorem size_le (batch : Batch) : batch.size ≤ 10 := batch.fits

theorem parity_pos (batch : Batch) : 0 < batch.parity := by
  unfold parity parityShards minParity
  omega

theorem parity_le (batch : Batch) : batch.parity ≤ 2 := by
  have size := batch.size_le
  unfold parity parityShards minParity
  omega

theorem length_shards (batch : Batch) : batch.shards.length = batch.size := List.length_map _

theorem shards_ne_nil (batch : Batch) : batch.shards ≠ [] :=
  fun empty => batch.nonempty (List.map_eq_nil_iff.mp empty)

theorem length_shard {batch : Batch} {item : List UInt8} (member : item ∈ batch.shards) :
    4 ≤ item.length := by
  obtain ⟨packet, _, rfl⟩ := List.mem_map.mp member
  rw [itemOf, length_shardOf]
  exact Nat.le_add_right _ _

theorem parity_eq (batch : Batch) : parityShards batch.shards.length = batch.parity := by
  rw [length_shards, parity]

theorem length_parityOf (code : ErasureCode UInt8) (batch : Batch) :
    (parityOf code batch.shards).length = batch.parity := by
  rw [parityOf, List.length_map, List.length_range, parity_eq]

/-- The worker sends the parity packets of the places after the data. -/
theorem encodeAndSendParity_closed (code : ErasureCode UInt8) (codec : FecCodec) (batch : Batch) :
    encodeAndSendParity code codec batch.closed =
      .ok ((List.range batch.parity).map fun index =>
        batch.wire code codec (batch.size + index)) := by
  rw [encodeAndSendParity_eq batch.closed batch.shards_ne_nil
    (batch.length_shards ▸ batch.fits)
    fun item member => Nat.ne_of_gt (Nat.lt_of_lt_of_le (by decide) (length_shard member))]
  refine congrArg Except.ok (List.ext_getElem? fun index => ?_)
  rw [List.getElem?_map, List.getElem?_map, List.getElem?_zipIdx]
  have length := length_parityOf code batch
  by_cases inside : index < batch.parity
  · have absent : batch.packets[batch.size + index]? = none :=
      List.getElem?_eq_none (Nat.le_add_right _ _)
    have present := List.getElem?_eq_getElem (length.symm ▸ inside)
    rw [List.getElem?_range inside]
    unfold wire parityShard
    simp only [absent, Option.map_some, Nat.add_sub_cancel_left, Nat.zero_add]
    rw [List.getD_eq_getElem?_getD, present, closed, parity_eq]
    exact congrArg (Option.map _) (congrArg (Option.map _) present)
  · have outside : (parityOf code batch.closed.items)[index]? = none :=
      List.getElem?_eq_none (Nat.le_trans (Nat.le_of_eq length) (Nat.le_of_not_lt inside))
    have outsideRange : (List.range batch.parity)[index]? = none := by
      rw [List.getElem?_eq_none]
      rw [List.length_range]
      exact Nat.le_of_not_lt inside
    rw [outside, outsideRange]
    rfl

end Batch

/-- The packets that are handed to the sender for a batch are those of its places, in order. -/
theorem sendBatch_eq (batch : Batch) {sends : List (Instant × NetPacket)} {tick : Instant}
    {packets : List NetPacket} (holds : encoder.Holds batch.src batch.dest batch.groupId [])
    (same : sends.map Prod.snd = batch.packets)
    (outcome : encoder.sendBatch code codec batch.dest sends tick = some packets) :
    packets = (List.range (batch.size + batch.parity)).map (batch.wire code codec) := by
  have length : sends.length = batch.size := by rw [Batch.size, ← same, List.length_map]
  have items : (sends.map fun send => itemOf send.2) = batch.shards := by
    rw [Batch.shards, ← same, List.map_map]
    rfl
  have belong : ∀ send ∈ sends, BelongsTo batch.src batch.dest send.2 := fun send member =>
    batch.belong _ (same ▸ List.mem_map_of_mem member)
  unfold FecEncoder.sendBatch at outcome
  cases encoded : encoder.encodeAll codec sends with
  | error message =>
    rw [encoded] at outcome
    cases outcome
  | ok result =>
    obtain ⟨final, data⟩ := result
    rw [encoded] at outcome
    obtain ⟨closed, isClosed, sent⟩ := Option.bind_eq_some_iff.mp outcome
    have fits := Nat.le_trans (Nat.le_of_eq length) batch.fits
    obtain ⟨rfl, rfl⟩ := holds.closedBatch belong fits encoded isClosed
    have parity := Batch.encodeAndSendParity_closed code codec batch
    rw [Batch.closed, ← items] at parity
    rw [parity] at sent
    rw [List.range_add, List.map_append, List.map_map]
    refine (Option.some_inj.mp sent).symm.trans (congrArg (· ++ _) ?_)
    refine List.ext_getElem? fun index => ?_
    rw [List.getElem?_map, List.getElem?_map, List.getElem?_zipIdx]
    by_cases inside : index < batch.size
    · obtain ⟨send, isSend⟩ : ∃ send, sends[index]? = some send :=
        ⟨_, List.getElem?_eq_getElem (length.symm ▸ inside)⟩
      have found : batch.packets[index]? = some send.2 := by
        rw [← same, List.getElem?_map, isSend]
        rfl
      rw [List.getElem?_range inside, isSend]
      unfold Batch.wire
      simp only [Option.map_some, found, Nat.zero_add]
    · have outside := Nat.le_trans (Nat.le_of_eq length) (Nat.le_of_not_lt inside)
      rw [List.getElem?_eq_none outside, List.getElem?_eq_none]
      · rfl
      · rw [List.length_range]
        exact Nat.le_of_not_lt inside

end Vnt.Fec
