/-
This file settles how the encoder of forward error correction groups packets. A batch is closed
either by the packet that fills it or by a tick of the timer after its deadline, both under the lock
of the batch states, and only then is its number used up. So for every destination the encoder is an
abstract batching: a packet is put into the open batch, and closing it moves nothing. What the
worker then does with a closed batch, late or never, changes neither its packets nor its number.

The number is a `u64` that wraps. A destination that was given more groups than there are numbers
sees one again.
-/

import Vnt.Base.Batching
import Vnt.Base.Machine
import Vnt.Fec.Recovery

namespace Vnt.Fec

open Vnt.Base

/-! ### The encoder with its worker -/

/-- A packet, and what `encode` made of it. -/
structure Encoded where
  packet : NetPacket
  wrapped : NetPacket

/-- The group and the index that go out with the packet. -/
def Encoded.label (codec : FecCodec) (encoded : Encoded) : Option (UInt64 × UInt32) :=
  match codec.decode encoded.wrapped.payload with
  | .error _ => none
  | .ok fecPacket => some (fecPacket.groupId, fecPacket.packetIndex)

/-- The encoder and its worker, which has timed out batches to go through, with what was encoded so
far, the batches that were closed and the ones that were handed to `encode_and_send_parity`. -/
structure Grouping where
  encoder : FecEncoder
  timeoutBatches : List ClosedBatch
  encoded : List Encoded
  closed : List ClosedBatch
  handed : List ClosedBatch

/-- A call of `encode`, or a step of `fec_encoder_worker`: it receives a batch, its timer ticks, or
it goes on with the next batch that timed out. -/
inductive GroupingEvent where
  | encode (now : Instant) (packet : NetPacket)
  | recv
  | tick (now : Instant)
  | next

/-- The batch that an item fills. -/
def FecEncoder.filled (encoder : FecEncoder) (now : Instant) (srcIp dest : Ipv4Addr)
    (item : List UInt8) : Option ClosedBatch :=
  let state := encoder.stateFor now srcIp dest
  if (state.currentBatch ++ [item]).length < batchSize then none
  else some ⟨srcIp, dest, state.groupId, state.currentBatch ++ [item]⟩

namespace Grouping

/-- `FecEncoder::encode`. -/
def encode (codec : FecCodec) (state : Grouping) (now : Instant) (packet : NetPacket) : Grouping :=
  match state.encoder.encode codec now packet with
  | .error _ => state
  | .ok (encoder, wrapped) =>
    { state with
      encoder := encoder
      encoded := state.encoded ++ [⟨packet, wrapped⟩]
      closed := state.closed ++ (state.encoder.filled now packet.header.srcId packet.header.destId
        (itemOf packet)).toList }

/-- The worker takes a full batch from the channel. -/
def recv (state : Grouping) : Option Grouping :=
  match state.timeoutBatches with
  | [] => state.encoder.takeFull.map fun taken =>
    { state with encoder := taken.1, handed := state.handed ++ [taken.2] }
  | _ :: _ => none

/-- The timer of the worker ticks. -/
def tick (state : Grouping) (now : Instant) : Option Grouping :=
  match state.timeoutBatches with
  | [] =>
    let taken := state.encoder.takeTimedOut now
    some
      { state with
        encoder := taken.1
        timeoutBatches := taken.2
        closed := state.closed ++ taken.2 }
  | _ :: _ => none

/-- The worker goes on with a batch that timed out. -/
def next (state : Grouping) : Option Grouping :=
  match state.timeoutBatches with
  | [] => none
  | batch :: rest => some { state with timeoutBatches := rest, handed := state.handed ++ [batch] }

/-- No packet was encoded yet. -/
def start : Grouping := ⟨newEncoder, [], [], [], []⟩

end Grouping

/-- The encoder in any order of calls and of steps of its worker. -/
def groupingMachine (codec : FecCodec) : Machine Grouping GroupingEvent where
  step state event :=
    match event with
    | .encode now packet => some (state.encode codec now packet)
    | .recv => state.recv
    | .tick now => state.tick now
    | .next => state.next

/-! ### What is claimed of it -/

/-- The packets that went out with the number of a batch to its destination. -/
def Grouping.members (codec : FecCodec) (state : Grouping) (batch : ClosedBatch) : List Encoded :=
  state.encoded.filter fun encoded =>
    encoded.packet.header.destId = batch.dest ∧
      (encoded.label codec).map Prod.fst = some batch.groupId

/-- Every packet has a label of its own, the labels to a destination increase, and a batch that was
handed on holds the packets of its group in the order of their indices, is not too long and was
handed on once. -/
structure Grouped (codec : FecCodec) (state : Grouping) : Prop where
  labelled : ∀ encoded ∈ state.encoded, (encoded.label codec).isSome = true
  unique : (state.encoded.map fun encoded =>
    (encoded.packet.header.destId, encoded.label codec)).Nodup
  ordered : state.encoded.Pairwise fun first second =>
    first.packet.header.destId = second.packet.header.destId →
      ∀ earlier later, first.label codec = some earlier → second.label codec = some later →
        earlier.1 < later.1 ∨ earlier.1 = later.1 ∧ earlier.2 < later.2
  items : ∀ batch ∈ state.handed,
    batch.items = (state.members codec batch).map fun encoded => itemOf encoded.packet
  indices : ∀ batch ∈ state.handed, (state.members codec batch).map (Encoded.label codec) =
    (List.range batch.items.length).map fun index => some (batch.groupId, UInt32.ofNat index)
  short : ∀ batch ∈ state.handed, batch.items.length ≤ batchSize
  increasing : state.closed.Pairwise fun first second =>
    first.dest = second.dest → first.groupId < second.groupId
  once : (state.handed.map fun batch => (batch.dest, batch.groupId)).Nodup

/-- The number of groups a destination was given so far. -/
def Grouping.groups (state : Grouping) (dest : Ipv4Addr) : Nat :=
  (state.closed.filter fun batch => batch.dest = dest).length +
    if (state.encoder.stateFor 0 0 dest).currentBatch = [] then 0 else 1

/-! ### One operation of the encoder -/

namespace FecEncoder

variable {encoder : FecEncoder} {now : Instant} {src dest other : Ipv4Addr} {item : List UInt8}

theorem stateFor_congr {changed : FecEncoder}
    (same : changed.batchStates.lookup other = encoder.batchStates.lookup other)
    (later : Instant) (sender : Ipv4Addr) :
    changed.stateFor later sender other = encoder.stateFor later sender other := by
  unfold stateFor
  rw [same]

theorem lookup_push_of_ne (different : other ≠ dest) :
    (encoder.push now src dest item).batchStates.lookup other =
      encoder.batchStates.lookup other := by
  unfold push
  dsimp only
  split
  · exact AList.lookup_insert_ne different
  · exact AList.lookup_insert_ne different

theorem batchTx_push : (encoder.push now src dest item).batchTx =
    if encoder.batchTx.length < batchChannelSize then
      encoder.batchTx ++ (encoder.filled now src dest item).toList
    else encoder.batchTx := by
  unfold push filled
  dsimp only
  split
  · exact (ite_eq_right_iff.mpr fun _ => List.append_nil _).symm
  · rfl

theorem dest_filled {batch : ClosedBatch}
    (isFilled : encoder.filled now src dest item = some batch) :
    batch.dest = dest := by
  unfold filled at isFilled
  dsimp only at isFilled
  split at isFilled <;> cases isFilled
  rfl

theorem timedOut_eq_some {state : DestBatchState} {batch : ClosedBatch}
    (timed : timedOut now dest state = some batch) :
    batch = ⟨state.srcIp, dest, state.groupId, state.currentBatch⟩ := by
  unfold timedOut at timed
  split at timed <;> cases timed
  rfl

/-- The batches a tick closes are to different destinations. -/
theorem nodup_takeTimedOut (encoder : FecEncoder) (now : Instant) :
    ((encoder.takeTimedOut now).2.map ClosedBatch.dest).Nodup := by
  have sublist : ∀ entries : List (Sigma fun _ : Ipv4Addr => DestBatchState),
      ((entries.filterMap fun entry => timedOut now entry.1 entry.2).map
        ClosedBatch.dest).Sublist (entries.map Sigma.fst) := by
    intro entries
    induction entries with
    | nil => exact List.Sublist.refl _
    | cons entry rest inductionHypothesis =>
      cases timed : timedOut now entry.1 entry.2 with
      | none =>
        rw [List.filterMap_cons_none (by exact timed)]
        exact inductionHypothesis.cons _
      | some batch =>
        rw [List.filterMap_cons_some (by exact timed), List.map_cons, List.map_cons,
          timedOut_eq_some timed]
        exact inductionHypothesis.cons_cons _
  exact (sublist encoder.batchStates.entries).nodup encoder.batchStates.nodupKeys

theorem mem_takeTimedOut {batch : ClosedBatch} :
    batch ∈ (encoder.takeTimedOut now).2 ↔
      ∃ state, encoder.batchStates.lookup batch.dest = some state ∧
        timedOut now batch.dest state = some batch := by
  unfold takeTimedOut
  dsimp only
  rw [List.mem_filterMap]
  constructor
  · rintro ⟨⟨key, state⟩, member, timed⟩
    have isDest : batch.dest = key := by rw [timedOut_eq_some timed]
    rw [isDest]
    exact ⟨state, (Map.mem_entries_iff _ key state).mp member, timed⟩
  · rintro ⟨state, found, timed⟩
    exact ⟨⟨batch.dest, state⟩, (Map.mem_entries_iff _ _ state).mpr found, timed⟩

/-- Renewing the states of different destinations renews each of them once. -/
theorem lookup_renewAll {states : Map Ipv4Addr DestBatchState} {batches : List ClosedBatch}
    (distinct : (batches.map ClosedBatch.dest).Nodup) :
    (batches.foldl (fun (states : Map Ipv4Addr DestBatchState) batch =>
        match states.lookup batch.dest with
        | some state => states.insert batch.dest (state.renewed now)
        | none => states) states).lookup dest =
      if dest ∈ batches.map ClosedBatch.dest then
        (states.lookup dest).map fun state => state.renewed now
      else states.lookup dest := by
  induction batches generalizing states with
  | nil => rfl
  | cons batch rest inductionHypothesis =>
    obtain ⟨absent, later⟩ := List.nodup_cons.mp distinct
    rw [List.foldl_cons, inductionHypothesis later, List.map_cons]
    by_cases same : dest = batch.dest
    · subst same
      rw [if_neg absent, if_pos List.mem_cons_self]
      split
      · next state found => rw [AList.lookup_insert, found, Option.map_some]
      · next found => rw [found, Option.map_none]
    · have first : (match states.lookup batch.dest with
          | some state => AList.insert batch.dest (state.renewed now) states
          | none => states).lookup dest = states.lookup dest := by
        split
        · exact AList.lookup_insert_ne same
        · rfl
      rw [first]
      by_cases inRest : dest ∈ rest.map ClosedBatch.dest
      · rw [if_pos inRest, if_pos (List.mem_cons_of_mem _ inRest)]
      · rw [if_neg inRest, if_neg (List.not_mem_cons_of_ne_of_not_mem same inRest)]

/-- A tick closes the batch of a destination, or leaves its state as it is. -/
theorem takeTimedOut_cases (encoder : FecEncoder) (now : Instant) (dest : Ipv4Addr) :
    ((encoder.takeTimedOut now).2.filter (fun batch => batch.dest = dest) = [] ∧
      (encoder.takeTimedOut now).1.batchStates.lookup dest = encoder.batchStates.lookup dest) ∨
    ∃ state, encoder.batchStates.lookup dest = some state ∧
      (encoder.takeTimedOut now).2.filter (fun batch => batch.dest = dest) =
        [⟨state.srcIp, dest, state.groupId, state.currentBatch⟩] ∧
      (encoder.takeTimedOut now).1.batchStates.lookup dest = some (state.renewed now) := by
  have distinct := nodup_takeTimedOut encoder now
  have renewed : (encoder.takeTimedOut now).1.batchStates.lookup dest =
      if dest ∈ (encoder.takeTimedOut now).2.map ClosedBatch.dest then
        (encoder.batchStates.lookup dest).map fun state => state.renewed now
      else encoder.batchStates.lookup dest := lookup_renewAll distinct
  by_cases closed : dest ∈ (encoder.takeTimedOut now).2.map ClosedBatch.dest
  · rw [if_pos closed] at renewed
    obtain ⟨batch, member, rfl⟩ := List.mem_map.mp closed
    obtain ⟨state, found, timed⟩ := mem_takeTimedOut.mp member
    refine .inr ⟨state, found, ?_, by rw [renewed, found, Option.map_some]⟩
    rw [← timedOut_eq_some timed]
    exact filter_eq_singleton distinct member
  · rw [if_neg closed] at renewed
    refine .inl ⟨List.filter_eq_nil_iff.mpr fun batch member same => ?_, renewed⟩
    exact closed (List.mem_map.mpr ⟨batch, member, of_decide_eq_true same⟩)

end FecEncoder

/-! ### A destination as a batching -/

/-- The state of a destination is that of a batching of its packets, the number of a batch being the
one of its group. -/
structure Follows (codec : FecCodec) (state : Grouping) (dest : Ipv4Addr)
    (batching : Batching NetPacket) : Prop where
  encoded : state.encoded.filter (fun encoded => encoded.packet.header.destId = dest) =
    batching.placed.map fun placed =>
      ⟨placed.item, wrapped codec (UInt64.ofNat placed.batch) placed.item placed.place⟩
  closed : (state.closed.filter (fun batch => batch.dest = dest)).map
      (fun batch => (batch.groupId, batch.items)) =
    batching.closed.zipIdx.map fun batch => (UInt64.ofNat batch.2, batch.1.map itemOf)
  groupId : ∀ now src, (state.encoder.stateFor now src dest).groupId =
    UInt64.ofNat batching.closed.length
  current : ∀ now src, (state.encoder.stateFor now src dest).currentBatch =
    batching.current.map itemOf
  short : ∀ batch ∈ batching.closed, batch.length ≤ batchSize
  fits : ∀ placed ∈ batching.placed, placed.item.payload.length ≤ 65535

/-- Every destination is a batching, and the batches on their way to the parity were closed, each
once. -/
structure Kept (codec : FecCodec) (state : Grouping) : Prop where
  follows : ∀ dest, ∃ batching, Follows codec state dest batching
  moved : (state.handed ++ state.timeoutBatches ++ state.encoder.batchTx).Subperm state.closed

variable {codec : FecCodec} {state next : Grouping} {dest : Ipv4Addr} {now : Instant}
  {batching : Batching NetPacket} {packet : NetPacket} {event : GroupingEvent}

/-- What does not concern a destination leaves its batching as it is. -/
theorem Follows.congr (follows : Follows codec state dest batching)
    (encoded : next.encoded.filter (fun encoded => encoded.packet.header.destId = dest) =
      state.encoded.filter (fun encoded => encoded.packet.header.destId = dest))
    (closed : next.closed.filter (fun batch => batch.dest = dest) =
      state.closed.filter (fun batch => batch.dest = dest))
    (same : next.encoder.batchStates.lookup dest = state.encoder.batchStates.lookup dest) :
    Follows codec next dest batching where
  encoded := encoded.trans follows.encoded
  closed := (congrArg _ closed).trans follows.closed
  groupId now src := by
    rw [FecEncoder.stateFor_congr same]
    exact follows.groupId now src
  current now src := by
    rw [FecEncoder.stateFor_congr same]
    exact follows.current now src
  short := follows.short
  fits := follows.fits

/-- What the packets of a batching look like once they are encoded. -/
def sentOf (codec : FecCodec) (batching : Batching NetPacket) : List Encoded :=
  batching.placed.map fun placed =>
    ⟨placed.item, wrapped codec (UInt64.ofNat placed.batch) placed.item placed.place⟩

/-- Closing the open batch of a destination, which may just have been filled. -/
theorem follows_close
    (encoded : next.encoded.filter (fun encoded => encoded.packet.header.destId = dest) =
      sentOf codec batching)
    (closed : (next.closed.filter (fun batch => batch.dest = dest)).map
        (fun batch => (batch.groupId, batch.items)) =
      (batching.closed.zipIdx.map fun batch => (UInt64.ofNat batch.2, batch.1.map itemOf)) ++
        [(UInt64.ofNat batching.closed.length, batching.current.map itemOf)])
    (short : ∀ batch ∈ batching.closed, batch.length ≤ batchSize)
    (last : batching.current.length ≤ batchSize)
    (fits : ∀ placed ∈ batching.placed, placed.item.payload.length ≤ 65535)
    {before : DestBatchState} (number : before.groupId = UInt64.ofNat batching.closed.length)
    (found : next.encoder.batchStates.lookup dest = some (before.renewed now)) :
    Follows codec next dest batching.close := by
  have isRenewed : ∀ later src, next.encoder.stateFor later src dest = before.renewed now := by
    intro later src
    unfold FecEncoder.stateFor
    rw [found]
    rfl
  refine ⟨?_, ?_, fun later src => ?_, fun later src => ?_, fun other member => ?_, ?_⟩
  · rw [encoded, Batching.placed_close]
    rfl
  · rw [closed]
    unfold Batching.close
    dsimp only
    rw [List.zipIdx_append, List.map_append]
    simp
  · rw [isRenewed]
    unfold DestBatchState.renewed Batching.close
    dsimp only
    rw [number, List.length_append, List.length_singleton]
    exact (UInt64.ofNat_add _ _).symm
  · rw [isRenewed]
    rfl
  · rcases List.mem_append.mp member with before | isLast
    · exact short other before
    · cases List.mem_singleton.mp isLast
      exact last
  · rw [Batching.placed_close]
    exact fits

/-- A packet that is too long is refused. -/
theorem encode_of_long (long : ¬packet.payload.length ≤ 65535) :
    state.encode codec now packet = state := by
  unfold Grouping.encode FecEncoder.encode
  rw [if_pos (Nat.lt_of_not_le long)]
  rfl

theorem encode_of_fits (fits : packet.payload.length ≤ 65535) :
    state.encode codec now packet =
      { state with
        encoder := state.encoder.push now packet.header.srcId packet.header.destId (itemOf packet)
        encoded := state.encoded ++ [⟨packet, wrapped codec
          (state.encoder.stateFor now packet.header.srcId packet.header.destId).groupId packet
          (state.encoder.stateFor now packet.header.srcId
            packet.header.destId).currentBatch.length⟩]
        closed := state.closed ++ (state.encoder.filled now packet.header.srcId
          packet.header.destId (itemOf packet)).toList } := by
  unfold Grouping.encode
  rw [FecEncoder.encode_eq codec state.encoder now fits]
  rfl

/-- A packet that fits gets the place after those that are in the open batch. -/
theorem encode_of_follows (follows : Follows codec state packet.header.destId batching)
    (fits : packet.payload.length ≤ 65535) :
    state.encode codec now packet =
      { state with
        encoder := state.encoder.push now packet.header.srcId packet.header.destId (itemOf packet)
        encoded := state.encoded ++ [⟨packet, wrapped codec
          (UInt64.ofNat batching.closed.length) packet batching.current.length⟩]
        closed := state.closed ++ (state.encoder.filled now packet.header.srcId
          packet.header.destId (itemOf packet)).toList } := by
  rw [encode_of_fits fits, follows.groupId now, follows.current now, List.length_map]

/-- The packet is put into the open batch of its destination. -/
theorem encoded_encode (follows : Follows codec state packet.header.destId batching)
    (fits : packet.payload.length ≤ 65535) :
    (state.encode codec now packet).encoded.filter
        (fun encoded => encoded.packet.header.destId = packet.header.destId) =
      sentOf codec (batching.push packet) := by
  rw [encode_of_follows follows fits]
  dsimp only
  rw [List.filter_append, follows.encoded, List.filter_cons_of_pos (by simp)]
  unfold sentOf
  rw [Batching.placed_push, List.map_append]
  rfl

theorem fits_push (follows : Follows codec state dest batching)
    (fits : packet.payload.length ≤ 65535) :
    ∀ placed ∈ (batching.push packet).placed, placed.item.payload.length ≤ 65535 := by
  intro placed member
  rw [Batching.placed_push] at member
  rcases List.mem_append.mp member with before | isLast
  · exact follows.fits placed before
  · cases List.mem_singleton.mp isLast
    exact fits

theorem current_push (follows : Follows codec state packet.header.destId batching) :
    (state.encoder.stateFor now packet.header.srcId packet.header.destId).currentBatch ++
      [itemOf packet] = (batching.push packet).current.map itemOf := by
  rw [follows.current now]
  unfold Batching.push
  rw [List.map_append, List.map_singleton]

/-- A packet that fits and does not fill its batch. -/
theorem follows_push (follows : Follows codec state packet.header.destId batching)
    (fits : packet.payload.length ≤ 65535)
    (isOpen : ((state.encoder.stateFor now packet.header.srcId
      packet.header.destId).currentBatch ++ [itemOf packet]).length < batchSize) :
    Follows codec (state.encode codec now packet) packet.header.destId (batching.push packet) := by
  have isFilled : state.encoder.filled now packet.header.srcId packet.header.destId
      (itemOf packet) = none := if_pos isOpen
  refine ⟨encoded_encode follows fits, ?_, fun later src => ?_, fun later src => ?_,
    follows.short, fits_push follows fits⟩
  · rw [encode_of_follows follows fits, isFilled]
    dsimp only
    rw [Option.toList_none, List.append_nil]
    exact follows.closed
  · rw [encode_of_follows follows fits]
    unfold FecEncoder.stateFor
    rw [FecEncoder.lookup_push, dif_pos isOpen]
    exact follows.groupId now _
  · rw [encode_of_follows follows fits]
    unfold FecEncoder.stateFor
    rw [FecEncoder.lookup_push, dif_pos isOpen]
    exact current_push follows

/-- A packet that fits and fills its batch. -/
theorem follows_push_close (follows : Follows codec state packet.header.destId batching)
    (fits : packet.payload.length ≤ 65535)
    (full : ¬((state.encoder.stateFor now packet.header.srcId
      packet.header.destId).currentBatch ++ [itemOf packet]).length < batchSize) :
    Follows codec (state.encode codec now packet) packet.header.destId
      (batching.push packet).close := by
  have isFilled : state.encoder.filled now packet.header.srcId packet.header.destId
      (itemOf packet) = some ⟨packet.header.srcId, packet.header.destId,
        (state.encoder.stateFor now packet.header.srcId packet.header.destId).groupId,
        (state.encoder.stateFor now packet.header.srcId packet.header.destId).currentBatch ++
          [itemOf packet]⟩ := if_neg full
  have found : (state.encode codec now packet).encoder.batchStates.lookup packet.header.destId =
      some ((state.encoder.stateFor now packet.header.srcId packet.header.destId).renewed now) := by
    rw [encode_of_follows follows fits]
    dsimp only
    rw [FecEncoder.lookup_push, dif_neg full]
  refine follows_close (encoded_encode follows fits) ?_ follows.short ?_ (fits_push follows fits)
    (follows.groupId now packet.header.srcId) found
  · rw [encode_of_follows follows fits, isFilled]
    dsimp only
    rw [List.filter_append, List.map_append, follows.closed, Option.toList_some,
      List.filter_cons_of_pos (by simp), List.filter_nil, List.map_singleton,
      current_push follows, follows.groupId now]
    rfl
  · have before := (state.encoder.stateFor now packet.header.srcId packet.header.destId).short
    rw [follows.current now, List.length_map] at before
    unfold Batching.push
    rw [List.length_append]
    exact before

/-- An encoded packet is put into the batching of its destination. -/
theorem follows_encode (follows : Follows codec state packet.header.destId batching) :
    ∃ later, Follows codec (state.encode codec now packet) packet.header.destId later := by
  by_cases fits : packet.payload.length ≤ 65535
  · by_cases isOpen : ((state.encoder.stateFor now packet.header.srcId
        packet.header.destId).currentBatch ++ [itemOf packet]).length < batchSize
    · exact ⟨_, follows_push follows fits isOpen⟩
    · exact ⟨_, follows_push_close follows fits isOpen⟩
  · rw [encode_of_long fits]
    exact ⟨batching, follows⟩

/-- A packet to another destination changes nothing. -/
theorem follows_encode_of_ne (follows : Follows codec state dest batching)
    (other : packet.header.destId ≠ dest) :
    Follows codec (state.encode codec now packet) dest batching := by
  by_cases fits : packet.payload.length ≤ 65535
  · have none : (state.encoder.filled now packet.header.srcId packet.header.destId
        (itemOf packet)).toList.filter (fun batch => batch.dest = dest) = [] := by
      rw [List.filter_eq_nil_iff]
      intro batch member same
      have isDest := FecEncoder.dest_filled (Option.mem_toList.mp member)
      exact other (isDest.symm.trans (of_decide_eq_true same))
    rw [encode_of_fits fits]
    refine follows.congr ?_ ?_ (FecEncoder.lookup_push_of_ne (Ne.symm other))
    · dsimp only
      rw [List.filter_append, List.filter_cons_of_neg (by simpa using other), List.filter_nil,
        List.append_nil]
    · dsimp only
      rw [List.filter_append, none, List.append_nil]
  · rw [encode_of_long fits]
    exact follows

/-- A tick closes the batch of a destination, or does not concern it. -/
theorem follows_tick (follows : Follows codec state dest batching)
    (ticked : state.tick now = some next) : ∃ later, Follows codec next dest later := by
  unfold Grouping.tick at ticked
  split at ticked
  · cases ticked
    rcases FecEncoder.takeTimedOut_cases state.encoder now dest with
      ⟨none, same⟩ | ⟨before, found, closed, renewed⟩
    · refine ⟨batching, follows.congr rfl ?_ same⟩
      dsimp only
      rw [List.filter_append, none, List.append_nil]
    · have isBefore : state.encoder.stateFor now 0 dest = before := by
        unfold FecEncoder.stateFor
        rw [found]
        rfl
      have number := follows.groupId now 0
      have current := follows.current now 0
      rw [isBefore] at number current
      refine ⟨batching.close, follows_close follows.encoded ?_ follows.short ?_ follows.fits number
        renewed⟩
      · dsimp only
        rw [List.filter_append, List.map_append, follows.closed, closed, List.map_singleton,
          number, current]
      · have length := congrArg List.length current
        rw [List.length_map] at length
        exact Nat.le_of_lt (length ▸ before.short)
  · cases ticked

/-! ### What every run keeps -/

/-- Batches are moved on, lost or added to those that were closed, and none is made twice. -/
theorem moved_step (moved : (state.handed ++ state.timeoutBatches ++ state.encoder.batchTx).Subperm
      state.closed)
    (enabled : (groupingMachine codec).step state event = some next) :
    (next.handed ++ next.timeoutBatches ++ next.encoder.batchTx).Subperm next.closed := by
  cases event with
  | encode now packet =>
    cases enabled
    by_cases fits : packet.payload.length ≤ 65535
    · rw [encode_of_fits fits]
      dsimp only
      rw [FecEncoder.batchTx_push]
      split
      · rw [← List.append_assoc]
        exact moved.append (List.Subperm.refl _)
      · exact moved.trans (List.sublist_append_left _ _).subperm
    · rw [encode_of_long fits]
      exact moved
  | recv =>
    have received : state.recv = some next := enabled
    unfold Grouping.recv FecEncoder.takeFull at received
    split at received
    · next isIdle =>
      split at received
      · next batch rest waiting =>
        cases received
        dsimp only
        rw [isIdle, waiting] at moved
        rw [isIdle]
        simpa using moved
      · cases received
    · cases received
  | tick now =>
    have ticked : state.tick now = some next := enabled
    unfold Grouping.tick at ticked
    split at ticked
    · next isIdle =>
      cases ticked
      dsimp only
      rw [isIdle, List.append_nil] at moved
      have swapped : (state.handed ++ (state.encoder.takeTimedOut now).2 ++
          state.encoder.batchTx).Perm (state.handed ++ state.encoder.batchTx ++
            (state.encoder.takeTimedOut now).2) := by
        rw [List.append_assoc, List.append_assoc]
        exact List.perm_append_comm.append_left _
      exact swapped.subperm.trans (moved.append (List.Subperm.refl _))
    · cases ticked
  | next =>
    have isNext : state.next = some next := enabled
    unfold Grouping.next at isNext
    split at isNext
    · cases isNext
    · next batch rest waiting =>
      cases isNext
      dsimp only
      rw [waiting] at moved
      simpa using moved

theorem kept_step (kept : Kept codec state)
    (enabled : (groupingMachine codec).step state event = some next) : Kept codec next := by
  refine ⟨fun dest => ?_, moved_step kept.moved enabled⟩
  obtain ⟨batching, follows⟩ := kept.follows dest
  cases event with
  | encode now packet =>
    cases enabled
    by_cases isDest : packet.header.destId = dest
    · subst isDest
      exact follows_encode follows
    · exact ⟨batching, follows_encode_of_ne follows isDest⟩
  | recv =>
    have received : state.recv = some next := enabled
    unfold Grouping.recv FecEncoder.takeFull at received
    split at received
    · split at received
      · cases received
        exact ⟨batching, follows.congr rfl rfl rfl⟩
      · cases received
    · cases received
  | tick now => exact follows_tick follows enabled
  | next =>
    have isNext : state.next = some next := enabled
    unfold Grouping.next at isNext
    split at isNext <;> cases isNext
    exact ⟨batching, follows.congr rfl rfl rfl⟩

theorem follows_start (codec : FecCodec) (dest : Ipv4Addr) :
    Follows codec .start dest .empty where
  encoded := rfl
  closed := rfl
  groupId _ _ := rfl
  current _ _ := rfl
  short _ member := by cases member
  fits _ member := by cases member

theorem kept_start (codec : FecCodec) : Kept codec .start :=
  ⟨fun dest => ⟨.empty, follows_start codec dest⟩, List.Subperm.refl []⟩

theorem kept_run {events : List GroupingEvent}
    (reaches : (groupingMachine codec).run .start events = some state) : Kept codec state :=
  Machine.run_induction (fun _ state => Kept codec state) (kept_start codec)
    (fun _ _ _ _ _ kept enabled => kept_step kept enabled) reaches

/-! ### The labels -/

theorem ofNat_lt_ofNat {first second : Nat} (less : first < second) (bound : second < 2 ^ 64) :
    UInt64.ofNat first < UInt64.ofNat second := by
  rw [UInt64.lt_iff_toNat_lt, UInt64.toNat_ofNat_of_lt' (Nat.lt_trans less bound),
    UInt64.toNat_ofNat_of_lt' bound]
  exact less

theorem label_wrapped (codec : FecCodec) (groupId : UInt64) (index : Nat)
    (fits : packet.payload.length ≤ 65535) :
    (Encoded.mk packet (wrapped codec groupId packet index)).label codec =
      some (groupId, UInt32.ofNat index) := by
  unfold Encoded.label wrapped
  dsimp only
  rw [codec.decode_encodeToVec _ (Nat.lt_of_le_of_lt fits (by decide))]

/-- The groups of a destination are those of its batching. -/
theorem groups_of_follows (follows : Follows codec state dest batching) :
    state.groups dest = batching.closed.length + if batching.current = [] then 0 else 1 := by
  have closed := congrArg List.length follows.closed
  rw [List.length_map, List.length_map, List.length_zipIdx] at closed
  unfold Grouping.groups
  rw [closed, follows.current 0 0]
  simp only [List.map_eq_nil_iff]

theorem batch_lt_groups (follows : Follows codec state dest batching) {placed : Placed NetPacket}
    (member : placed ∈ batching.placed) : placed.batch < state.groups dest := by
  rw [groups_of_follows follows]
  rcases Batching.of_mem_placed member with ⟨batch, found, -⟩ | ⟨last, found⟩
  · have inside := (List.getElem?_eq_some_iff.mp found).1
    omega
  · have nonempty : batching.current ≠ [] := by
      intro empty
      rw [empty] at found
      cases found
    rw [if_neg nonempty]
    omega

theorem place_lt_batchSize (follows : Follows codec state dest batching)
    {placed : Placed NetPacket} (member : placed ∈ batching.placed) :
    placed.place < batchSize := by
  rcases Batching.of_mem_placed member with ⟨batch, isBatch, found⟩ | ⟨-, found⟩
  · have inside := (List.getElem?_eq_some_iff.mp found).1
    exact Nat.lt_of_lt_of_le inside (follows.short batch (List.mem_of_getElem? isBatch))
  · have inside := (List.getElem?_eq_some_iff.mp found).1
    have isOpen := (state.encoder.stateFor 0 0 dest).short
    rw [follows.current 0 0, List.length_map] at isOpen
    exact Nat.lt_trans inside isOpen

/-- Every packet is one of the batching of its destination. -/
theorem mem_encoded (kept : Kept codec state) {encoded : Encoded}
    (member : encoded ∈ state.encoded) :
    ∃ batching placed, Follows codec state encoded.packet.header.destId batching ∧
      placed ∈ batching.placed ∧
        encoded.label codec = some (UInt64.ofNat placed.batch, UInt32.ofNat placed.place) := by
  obtain ⟨batching, follows⟩ := kept.follows encoded.packet.header.destId
  have own : encoded ∈ state.encoded.filter (fun other =>
      other.packet.header.destId = encoded.packet.header.destId) :=
    List.mem_filter.mpr ⟨member, decide_eq_true rfl⟩
  rw [follows.encoded] at own
  obtain ⟨placed, isPlaced, same⟩ := List.mem_map.mp own
  refine ⟨batching, placed, follows, isPlaced, ?_⟩
  rw [← same]
  exact label_wrapped codec _ _ (follows.fits placed isPlaced)

/-- The labels to a destination increase as long as there are numbers left. -/
theorem ordered_of_kept (kept : Kept codec state) (enough : ∀ dest, state.groups dest ≤ 2 ^ 64) :
    state.encoded.Pairwise fun first second =>
      first.packet.header.destId = second.packet.header.destId →
        ∀ earlier later, first.label codec = some earlier → second.label codec = some later →
          earlier.1 < later.1 ∨ earlier.1 = later.1 ∧ earlier.2 < later.2 := by
  refine pairwise_of_filter fun dest => ?_
  obtain ⟨batching, follows⟩ := kept.follows dest
  rw [follows.encoded, List.pairwise_map]
  refine batching.pairwise_placed.imp_of_mem fun {first second} isFirst isSecond before => ?_
  intro earlier later isEarlier isLater
  rw [label_wrapped codec _ _ (follows.fits first isFirst)] at isEarlier
  rw [label_wrapped codec _ _ (follows.fits second isSecond)] at isLater
  cases isEarlier
  cases isLater
  dsimp only
  rcases before with less | ⟨same, less⟩
  · have bound := Nat.lt_of_lt_of_le (batch_lt_groups follows isSecond) (enough dest)
    exact .inl (ofNat_lt_ofNat less bound)
  · have short := place_lt_batchSize follows isSecond
    have bound : second.place < 2 ^ 32 := Nat.lt_trans short (by decide)
    refine .inr ⟨by rw [same], ?_⟩
    rw [UInt32.lt_iff_toNat_lt, UInt32.toNat_ofNat_of_lt' (Nat.lt_trans less bound),
      UInt32.toNat_ofNat_of_lt' bound]
    exact less

/-- The numbers of the batches that were closed for a destination increase. -/
theorem increasing_of_kept (kept : Kept codec state)
    (enough : ∀ dest, state.groups dest ≤ 2 ^ 64) :
    state.closed.Pairwise fun first second =>
      first.dest = second.dest → first.groupId < second.groupId := by
  refine pairwise_of_filter fun dest => ?_
  obtain ⟨batching, follows⟩ := kept.follows dest
  have within := enough dest
  rw [groups_of_follows follows] at within
  have numbers : ((state.closed.filter (fun batch => batch.dest = dest)).map
      (fun batch => (batch.groupId, batch.items))).Pairwise
        fun first second => first.1 < second.1 := by
    rw [follows.closed, List.pairwise_iff_getElem]
    intro first second isFirst isSecond less
    rw [List.length_map, List.length_zipIdx] at isSecond
    rw [List.getElem_map, List.getElem_map, List.getElem_zipIdx, List.getElem_zipIdx]
    dsimp only
    rw [Nat.zero_add, Nat.zero_add]
    exact ofNat_lt_ofNat less (by omega)
  have between := List.pairwise_map.mp numbers
  exact between

/-- A batch that was handed on was closed. -/
theorem handed_subperm (kept : Kept codec state) : state.handed.Subperm state.closed := by
  have moved := kept.moved
  rw [List.append_assoc] at moved
  exact (List.sublist_append_left _ _).subperm.trans moved

/-- A batch that was closed is one of the batching of its destination. -/
theorem exists_of_mem_closed (follows : Follows codec state dest batching) {batch : ClosedBatch}
    (member : batch ∈ state.closed) (isDest : batch.dest = dest) :
    ∃ number packets, batching.closed[number]? = some packets ∧
      batch.groupId = UInt64.ofNat number ∧ batch.items = packets.map itemOf := by
  have own : (batch.groupId, batch.items) ∈ (state.closed.filter
      (fun batch => batch.dest = dest)).map (fun batch => (batch.groupId, batch.items)) :=
    List.mem_map.mpr ⟨batch, List.mem_filter.mpr ⟨member, decide_eq_true isDest⟩, rfl⟩
  rw [follows.closed] at own
  obtain ⟨entry, isEntry, same⟩ := List.mem_map.mp own
  obtain ⟨number, items⟩ := Prod.mk.inj same
  exact ⟨entry.2, entry.1, List.mem_zipIdx_iff_getElem?.mp isEntry, number.symm, items.symm⟩

/-- The packets with the number of a closed batch are the ones in it. -/
theorem members_eq (follows : Follows codec state dest batching)
    (enough : state.groups dest ≤ 2 ^ 64) {batch : ClosedBatch} (isDest : batch.dest = dest)
    {number : Nat} {packets : List NetPacket} (found : batching.closed[number]? = some packets)
    (isNumber : batch.groupId = UInt64.ofNat number) :
    state.members codec batch = (placedIn number packets).map fun placed =>
      ⟨placed.item, wrapped codec (UInt64.ofNat placed.batch) placed.item placed.place⟩ := by
  have split : state.members codec batch = (state.encoded.filter fun encoded =>
      encoded.packet.header.destId = dest).filter fun encoded =>
        (encoded.label codec).map Prod.fst = some batch.groupId := by
    unfold Grouping.members
    rw [List.filter_filter]
    refine List.filter_congr fun encoded _ => ?_
    rw [isDest, Bool.and_comm, Bool.decide_and]
  rw [split, follows.encoded, List.filter_map, ← Batching.filter_placed found]
  refine congrArg _ (List.filter_congr fun placed member => ?_)
  have inside := (List.getElem?_eq_some_iff.mp found).1
  have bound : number < 2 ^ 64 := by
    rw [groups_of_follows follows] at enough
    omega
  have less := Nat.lt_of_lt_of_le (batch_lt_groups follows member) enough
  have same : UInt64.ofNat placed.batch = UInt64.ofNat number ↔ placed.batch = number := by
    constructor
    · intro wraps
      have numbers := congrArg UInt64.toNat wraps
      rwa [UInt64.toNat_ofNat_of_lt' less, UInt64.toNat_ofNat_of_lt' bound] at numbers
    · exact congrArg UInt64.ofNat
  dsimp only [Function.comp]
  rw [label_wrapped codec _ _ (follows.fits placed member), isNumber, Option.map_some]
  exact decide_eq_decide.mpr (Option.some_inj.trans same)

/-- The encoder groups packets as claimed as long as there are numbers for the groups. -/
theorem grouped_of_kept (kept : Kept codec state)
    (enough : ∀ dest, state.groups dest ≤ 2 ^ 64) : Grouped codec state := by
  have ordered := ordered_of_kept kept enough
  have increasing := increasing_of_kept kept enough
  have handed := handed_subperm kept
  refine ⟨fun encoded member => ?_, ?_, ordered, fun batch member => ?_, fun batch member => ?_,
    fun batch member => ?_, increasing, ?_⟩
  · obtain ⟨_, _, _, _, isLabel⟩ := mem_encoded kept member
    rw [isLabel]
    rfl
  · rw [List.nodup_iff_pairwise_ne, List.pairwise_map]
    refine ordered.imp_of_mem fun {first second} isFirst _ before same => ?_
    obtain ⟨sameDest, sameLabel⟩ := Prod.mk.inj same
    obtain ⟨_, _, _, _, isLabel⟩ := mem_encoded kept isFirst
    rcases before sameDest _ _ isLabel (sameLabel.symm.trans isLabel) with less | ⟨-, less⟩
    · exact UInt64.lt_irrefl _ less
    · exact UInt32.lt_irrefl _ less
  · obtain ⟨batching, follows⟩ := kept.follows batch.dest
    obtain ⟨number, packets, found, isNumber, items⟩ :=
      exists_of_mem_closed follows (handed.subset member) rfl
    rw [members_eq follows (enough _) rfl found isNumber, items, List.map_map]
    exact (map_item_placedIn number packets itemOf).symm
  · obtain ⟨batching, follows⟩ := kept.follows batch.dest
    obtain ⟨number, packets, found, isNumber, items⟩ :=
      exists_of_mem_closed follows (handed.subset member) rfl
    rw [members_eq follows (enough _) rfl found isNumber, items, List.map_map, List.length_map,
      ← map_place_placedIn number, List.map_map]
    refine List.map_congr_left fun placed isPlaced => ?_
    have inBatching : placed ∈ batching.placed := by
      rw [← Batching.filter_placed found] at isPlaced
      exact List.mem_of_mem_filter isPlaced
    have isLast := (mem_placedIn.mp isPlaced).1
    dsimp only [Function.comp]
    rw [label_wrapped codec _ _ (follows.fits placed inBatching), isNumber, isLast]
  · obtain ⟨batching, follows⟩ := kept.follows batch.dest
    obtain ⟨number, packets, found, -, items⟩ :=
      exists_of_mem_closed follows (handed.subset member) rfl
    rw [items, List.length_map]
    exact follows.short packets (List.mem_of_getElem? found)
  · have distinct : (state.closed.map fun batch => (batch.dest, batch.groupId)).Nodup := by
      rw [List.nodup_iff_pairwise_ne, List.pairwise_map]
      refine increasing.imp fun {first second} before same => ?_
      obtain ⟨sameDest, sameNumber⟩ := Prod.mk.inj same
      exact UInt64.lt_irrefl _ (sameNumber ▸ before sameDest)
    obtain ⟨some, perm, sublist⟩ := handed
    exact ((perm.map _).nodup_iff).mp ((sublist.map _).nodup distinct)

/-- After any calls and steps of the worker that gave no destination more groups than there are
numbers, packets are grouped as claimed. -/
theorem grouped_of_run {events : List GroupingEvent}
    (reaches : (groupingMachine codec).run .start events = some state)
    (enough : ∀ dest, state.groups dest ≤ 2 ^ 64) : Grouped codec state :=
  grouped_of_kept (kept_run reaches) enough

/-- A packet of client data to 10.26.0.3. -/
def voice : NetPacket := ⟨[], exampleHeader 0, [1, 2, 3], []⟩

theorem groups_le (state : Grouping) (dest : Ipv4Addr) :
    state.groups dest ≤ state.closed.length + 1 := by
  unfold Grouping.groups
  have fewer : (state.closed.filter fun batch => batch.dest = dest).length ≤ state.closed.length :=
    List.length_filter_le _ _
  split <;> omega

/-- Two packets, one tick after the deadline, and the batch is handed on. -/
theorem grouped_of_run_voice : ∃ final,
    (groupingMachine protobufCodec).run .start
      [.encode 0 voice, .encode 5 voice, .tick 20, .next] = some final ∧
    final.handed.length = 1 ∧ Grouped protobufCodec final := by
  have outcome : ((groupingMachine protobufCodec).run .start
      [.encode 0 voice, .encode 5 voice, .tick 20, .next]).any (fun final =>
        final.handed.length == 1 && final.closed.length == 1) = true := by
    decide +kernel
  obtain ⟨final, reaches, lengths⟩ := (Option.any_eq_true _ _).mp outcome
  obtain ⟨handed, closed⟩ := Bool.and_eq_true_iff.mp lengths
  refine ⟨final, reaches, beq_iff_eq.mp handed, grouped_of_run reaches fun dest => ?_⟩
  have few := groups_le final dest
  rw [beq_iff_eq.mp closed] at few
  exact Nat.le_trans few (by decide)

/-! ### When there are no numbers left -/

/-- Encoding a packet that fits over and over. -/
theorem run_replicate (fits : packet.payload.length ≤ 65535) (count : Nat) (state : Grouping) :
    ∃ final, (groupingMachine codec).run state (List.replicate count (.encode now packet)) =
        some final ∧
      final.encoded.length = state.encoded.length + count ∧
      ((∀ encoded ∈ state.encoded, encoded.packet = packet) →
        ∀ encoded ∈ final.encoded, encoded.packet = packet) := by
  induction count generalizing state with
  | zero => exact ⟨state, rfl, rfl, id⟩
  | succ count inductionHypothesis =>
    obtain ⟨final, reaches, length, same⟩ := inductionHypothesis (state.encode codec now packet)
    rw [encode_of_fits fits] at length same
    dsimp only at length same
    rw [List.length_append, List.length_singleton] at length
    refine ⟨final, ?_, by omega, fun before => same fun encoded member => ?_⟩
    · rw [List.replicate_succ, Machine.run_cons]
      exact reaches
    · rcases List.mem_append.mp member with earlier | isLast
      · exact before encoded earlier
      · cases List.mem_singleton.mp isLast
        rfl

/-- There are only as many labels as there are numbers and places in a batch. -/
theorem length_encoded_le (kept : Kept codec state)
    (unique : (state.encoded.map fun encoded =>
      (encoded.packet.header.destId, encoded.label codec)).Nodup)
    (same : ∀ encoded ∈ state.encoded, encoded.packet = packet) {numbers : Nat}
    (all : ∀ groupId : UInt64, groupId.toNat < numbers) :
    state.encoded.length ≤ numbers * batchSize := by
  have within : (state.encoded.map fun encoded =>
      (encoded.packet.header.destId, encoded.label codec)).toFinset ⊆
        (Finset.range numbers ×ˢ Finset.range batchSize).image fun entry =>
          (packet.header.destId, some (UInt64.ofNat entry.1, UInt32.ofNat entry.2)) := by
    intro label member
    obtain ⟨encoded, isEncoded, rfl⟩ := List.mem_map.mp (List.mem_toFinset.mp member)
    obtain ⟨batching, placed, follows, isPlaced, isLabel⟩ := mem_encoded kept isEncoded
    refine Finset.mem_image.mpr ⟨((UInt64.ofNat placed.batch).toNat, placed.place), ?_, ?_⟩
    · exact Finset.mem_product.mpr ⟨Finset.mem_range.mpr (all _),
        Finset.mem_range.mpr (place_lt_batchSize follows isPlaced)⟩
    · rw [isLabel, same encoded isEncoded, UInt64.ofNat_toNat]
  have bound := (Finset.card_le_card within).trans Finset.card_image_le
  rw [List.toFinset_card_of_nodup unique, List.length_map, Finset.card_product,
    Finset.card_range, Finset.card_range] at bound
  exact bound

/-- One packet more than there are labels: two of them have the same. -/
theorem voice_runs_out : ∃ final,
    (groupingMachine protobufCodec).run .start
      (List.replicate (2 ^ 64 * batchSize + 1) (.encode 0 voice)) = some final ∧
    ¬(final.encoded.map fun encoded =>
      (encoded.packet.header.destId, encoded.label protobufCodec)).Nodup := by
  have fits : voice.payload.length ≤ 65535 := by decide
  obtain ⟨final, reaches, length, same⟩ := run_replicate fits (2 ^ 64 * batchSize + 1) .start
  refine ⟨final, reaches, fun unique => ?_⟩
  have bound := length_encoded_le (kept_run reaches) unique (same fun _ member => by cases member)
    UInt64.toNat_lt
  have none : Grouping.start.encoded.length = 0 := rfl
  omega

end Vnt.Fec
