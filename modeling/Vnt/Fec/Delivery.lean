/-
This file follows what a decoder gives out over a run of any packets, each packet under the group
and the index it belongs to. While a group is kept, nothing of it is given out twice: an index is
closed from then on, whatever parity says. But an original may not be given out at all. Parity may
have taken its place, and when the group tries to complete the others with it and fails, the
original goes down with them.
-/

import Vnt.Fec.Outcome
import Vnt.Fec.Recovery

namespace Vnt.Fec

open Vnt.Base

variable {code : ErasureCode UInt8} {codec : FecCodec} {decoder : FecDecoder} {now : Instant}
  {packet : NetPacket} {fecPacket : FecPacket} {key : GroupKey} {index : Nat}

namespace FecDecoder

/-- The group a message belongs to. -/
def groupKey (packet : NetPacket) (fecPacket : FecPacket) : GroupKey :=
  (packet.header.srcId, fecPacket.groupId)

/-- The group as a packet finds it. -/
def groupAt (decoder : FecDecoder) (now : Instant) (key : GroupKey) : FecGroup :=
  (decoder.groups.lookup key).getD (.default now)

/-- What a decoder gives out of a packet, under the group and the index of each packet. -/
def deliveries (code : ErasureCode UInt8) (codec : FecCodec) (decoder : FecDecoder)
    (now : Instant) (packet : NetPacket) : List ((GroupKey × Nat) × NetPacket) :=
  match codec.decode packet.payload with
  | .error _ => []
  | .ok fecPacket =>
    let key := groupKey packet fecPacket
    let group := decoder.groupAt now key
    if fecPacket.packetIndex.toNat > maxNum then []
    else if group.accepts fecPacket.packetIndex.toNat = false then []
    else
      (group.deliveries code now fecPacket packet).map fun given => ((key, given.1), given.2)

/-- The decoder after packets that arrive one after the other. -/
def after (code : ErasureCode UInt8) (codec : FecCodec) :
    FecDecoder → List (Instant × NetPacket) → FecDecoder
  | decoder, [] => decoder
  | decoder, (now, packet) :: rest =>
    after code codec (decoder.receive code codec now packet).1 rest

/-- What was given out of packets that arrive one after the other. -/
def log (code : ErasureCode UInt8) (codec : FecCodec) :
    FecDecoder → List (Instant × NetPacket) → List (GroupKey × Nat)
  | _, [] => []
  | decoder, (now, packet) :: rest =>
    (decoder.deliveries code codec now packet).map Prod.fst ++
      log code codec (decoder.receive code codec now packet).1 rest

/-- The group of a key is kept from the first packet to the last. -/
def Retained (code : ErasureCode UInt8) (codec : FecCodec) (key : GroupKey) :
    FecDecoder → List (Instant × NetPacket) → Prop
  | _, [] => True
  | _, [_] => True
  | decoder, (now, packet) :: next :: rest =>
    ((decoder.receive code codec now packet).1.groups.lookup key).isSome = true ∧
      Retained code codec key (decoder.receive code codec now packet).1 (next :: rest)

/-- A cleanup removes groups and changes none. -/
theorem lookup_cleanup (decoder : FecDecoder) (now : Instant) (key : GroupKey) :
    (decoder.cleanup now).groups.lookup key = none ∨
      (decoder.cleanup now).groups.lookup key = decoder.groups.lookup key := by
  have erased : ∀ (groups : Map GroupKey FecGroup) (keys : List GroupKey),
      (groups.eraseAll keys).lookup key = none ∨
        (groups.eraseAll keys).lookup key = groups.lookup key := by
    intro groups keys
    rw [Map.lookup_eraseAll]
    split
    · exact .inl rfl
    · exact .inr rfl
  unfold cleanup
  split
  · unfold cleanupOldGroups
    dsimp only
    split
    · rcases erased _ _ with gone | kept
      · exact .inl gone
      · rw [kept]
        exact erased _ _
    · exact erased _ _
  · exact .inr rfl

/-- What a packet does to a decoder: it leaves the groups as they are, up to an empty one, or its
group receives it, and a cleanup may follow. -/
inductive Reception (code : ErasureCode UInt8) (codec : FecCodec) (decoder : FecDecoder)
    (now : Instant) (packet : NetPacket) : FecDecoder → List ((GroupKey × Nat) × NetPacket) → Prop
  | unread (message : String)
    (result : (decoder.receive code codec now packet).2 = .error message) :
      Reception code codec decoder now packet decoder []
  | ignored (fecPacket : FecPacket)
      (decodes : codec.decode packet.payload = .ok fecPacket)
      (closed : (decoder.groupAt now (groupKey packet fecPacket)).accepts
        fecPacket.packetIndex.toNat = false)
      (result : (decoder.receive code codec now packet).2 = .ok none) :
      Reception code codec decoder now packet
        (decoder.putGroup (groupKey packet fecPacket)
          (decoder.groupAt now (groupKey packet fecPacket))) []
  | taken (fecPacket : FecPacket) (group : FecGroup) (given : List (Nat × NetPacket))
      (next : FecDecoder) (decodes : codec.decode packet.payload = .ok fecPacket)
      (accepted : (decoder.groupAt now (groupKey packet fecPacket)).accepts
        fecPacket.packetIndex.toNat = true)
      (receipt : (decoder.groupAt now (groupKey packet fecPacket)).Receipt code now fecPacket packet
        group given)
      (lookups : ∀ key, next.groups.lookup key = none ∨ next.groups.lookup key =
        if key = groupKey packet fecPacket then some group else decoder.groups.lookup key)
      (result : (decoder.receive code codec now packet).2 =
        ((decoder.groupAt now (groupKey packet fecPacket)).receive code now fecPacket packet).2) :
      Reception code codec decoder now packet next
        (given.map fun entry => ((groupKey packet fecPacket, entry.1), entry.2))

theorem reception (code : ErasureCode UInt8) (codec : FecCodec) (decoder : FecDecoder)
    (now : Instant) (packet : NetPacket) :
    Reception code codec decoder now packet (decoder.receive code codec now packet).1
      (decoder.deliveries code codec now packet) := by
  cases decodes : codec.decode packet.payload with
  | error message =>
    have unread : decoder.receive code codec now packet = (decoder, .error message) := by
      unfold receive
      rw [decodes]
    have nothing : decoder.deliveries code codec now packet = [] := by
      unfold deliveries
      rw [decodes]
    rw [unread, nothing]
    exact .unread message (by rw [unread])
  | ok fecPacket =>
    have given : decoder.deliveries code codec now packet =
        if fecPacket.packetIndex.toNat > maxNum then []
        else if (decoder.groupAt now (groupKey packet fecPacket)).accepts
            fecPacket.packetIndex.toNat = false then []
        else
          ((decoder.groupAt now (groupKey packet fecPacket)).deliveries code now fecPacket
            packet).map fun given => ((groupKey packet fecPacket, given.1), given.2) := by
      unfold deliveries
      rw [decodes]
    by_cases outside : fecPacket.packetIndex.toNat > maxNum
    · have unread : decoder.receive code codec now packet =
          (decoder, .error s!"packet_index overflow {Ipv4Addr.display packet.header.srcId}") := by
        unfold receive
        rw [decodes]
        dsimp only
        rw [if_pos outside]
      rw [unread, given, if_pos outside]
      exact .unread _ (by rw [unread])
    have inside : fecPacket.packetIndex.toNat ≤ maxNum := Nat.le_of_not_lt outside
    have received := receive_eq code now decodes inside
      (rfl : _ = decoder.groupAt now (groupKey packet fecPacket))
    rw [given, if_neg outside]
    by_cases closed : (decoder.groupAt now (groupKey packet fecPacket)).accepts
        fecPacket.packetIndex.toNat = false
    · rw [if_pos closed] at received ⊢
      rw [received]
      exact .ignored fecPacket decodes closed (by rw [received])
    have accepted := (Bool.not_eq_false _).mp closed
    have receipt := (decoder.groupAt now (groupKey packet fecPacket)).receipt code now fecPacket
      packet
    rw [if_neg closed] at received ⊢
    cases outcome : (decoder.groupAt now (groupKey packet fecPacket)).receive code now fecPacket
      packet with
    | mk next result =>
      rw [outcome] at received receipt
      refine .taken fecPacket next _ _ decodes accepted receipt (fun key => ?_) ?_
      · cases result with
        | error message =>
          rw [received]
          exact .inr (lookup_putGroup_putGroup _ key _ next)
        | ok packets =>
          rw [received]
          refine (lookup_cleanup _ now key).imp id fun kept => kept.trans ?_
          exact lookup_putGroup_putGroup _ key _ next
      · rw [received, outcome]
        cases result <;> rfl

/-- The packets that are given out are those of the result. -/
theorem map_snd_deliveries (code : ErasureCode UInt8) (codec : FecCodec) (decoder : FecDecoder)
    (now : Instant) (packet : NetPacket) :
    (decoder.deliveries code codec now packet).map Prod.snd =
      delivered (decoder.receive code codec now packet).2 := by
  have received := decoder.reception code codec now packet
  generalize decoder.deliveries code codec now packet = given at received ⊢
  generalize (decoder.receive code codec now packet).1 = next at received
  cases received with
  | unread message result =>
    rw [result]
    rfl
  | ignored fecPacket decodes closed result =>
    rw [result]
    rfl
  | taken fecPacket group given next decodes accepted receipt lookups result =>
    rw [result, ← receipt.map_snd, List.map_map]
    rfl

/-! ### Each index at most once -/

/-- The group of the key is there, and nothing is given out under the index anymore. -/
def Closed (decoder : FecDecoder) (key : GroupKey) (index : Nat) : Prop :=
  ∃ group, decoder.groups.lookup key = some group ∧ group.Closed index

/-- One packet gives out at most one packet under an index. Then the index was open, and is closed
as long as the group is kept; and a closed index stays closed. -/
theorem step_closed (code : ErasureCode UInt8) (codec : FecCodec) (decoder : FecDecoder)
    (now : Instant) (packet : NetPacket) (key : GroupKey) (index : Nat) :
    ((decoder.deliveries code codec now packet).map Prod.fst).count (key, index) ≤ 1 ∧
      ((key, index) ∈ (decoder.deliveries code codec now packet).map Prod.fst →
        ¬decoder.Closed key index) ∧
      (decoder.Closed key index ∨
          (key, index) ∈ (decoder.deliveries code codec now packet).map Prod.fst →
        ((decoder.receive code codec now packet).1.groups.lookup key).isSome = true →
          (decoder.receive code codec now packet).1.Closed key index) := by
  have received := decoder.reception code codec now packet
  generalize decoder.deliveries code codec now packet = given at received ⊢
  generalize (decoder.receive code codec now packet).1 = next at received ⊢
  cases received with
  | unread message result =>
    refine ⟨Nat.zero_le _, fun member => (nomatch member), fun before _ => ?_⟩
    exact before.resolve_right fun member => nomatch member
  | ignored fecPacket decodes closed result =>
    refine ⟨Nat.zero_le _, fun member => (nomatch member), fun before _ => ?_⟩
    obtain ⟨group, found, isClosed⟩ := before.resolve_right fun member => nomatch member
    unfold Closed
    rw [lookup_putGroup]
    split
    · next same =>
      refine ⟨_, rfl, ?_⟩
      rw [← same, groupAt, found]
      exact isClosed
    · exact ⟨group, found, isClosed⟩
  | taken fecPacket group given next decodes accepted receipt lookups result =>
    have labels : (given.map fun entry => ((groupKey packet fecPacket, entry.1), entry.2)).map
        Prod.fst = (given.map Prod.fst).map (Prod.mk (groupKey packet fecPacket)) := by
      rw [List.map_map, List.map_map]
      rfl
    rw [labels]
    by_cases same : key = groupKey packet fecPacket
    · subst same
      have mem_iff : (groupKey packet fecPacket, index) ∈
          (given.map Prod.fst).map (Prod.mk (groupKey packet fecPacket)) ↔
            index ∈ given.map Prod.fst := by
        refine ⟨fun member => ?_, List.mem_map_of_mem⟩
        obtain ⟨other, isGiven, equal⟩ := List.mem_map.mp member
        cases equal
        exact isGiven
      rw [mem_iff, List.count_map_of_injective _ _ (Prod.mk_right_injective _)]
      refine ⟨List.nodup_iff_count_le_one.mp receipt.fst_given.1 index, ?_, ?_⟩
      · rintro member ⟨found, known, closed⟩
        refine receipt.open_of_mem accepted member ?_
        rw [groupAt, known]
        exact closed
      · intro before there
        have known := (lookups (groupKey packet fecPacket)).resolve_left fun gone => by
          rw [gone] at there
          cases there
        rw [if_pos rfl] at known
        refine ⟨group, known, ?_⟩
        rcases before with ⟨found, earlier, closed⟩ | member
        · have active := (Bool.and_eq_true_iff.mp accepted).1
          rw [Bool.not_eq_true'] at active
          refine receipt.closed active ?_
          rw [groupAt, earlier]
          exact closed
        · exact receipt.closed_of_mem member
    · have absent : (key, index) ∉
          (given.map Prod.fst).map (Prod.mk (groupKey packet fecPacket)) := by
        intro member
        obtain ⟨other, -, equal⟩ := List.mem_map.mp member
        exact same (congrArg Prod.fst equal).symm
      rw [List.count_eq_zero_of_not_mem absent]
      refine ⟨Nat.zero_le _, fun member => absurd member absent, fun before there => ?_⟩
      obtain ⟨found, known, closed⟩ := before.resolve_right absent
      refine ⟨found, ((lookups key).resolve_left fun gone => ?_).trans ?_, closed⟩
      · rw [gone] at there
        cases there
      · rw [if_neg same]
        exact known

/-- Nothing more is given out under a closed index while the group is kept. -/
theorem count_log_closed {events : List (Instant × NetPacket)} (closed : decoder.Closed key index)
    (retained : decoder.Retained code codec key events) :
    (decoder.log code codec events).count (key, index) = 0 := by
  induction events generalizing decoder with
  | nil => rfl
  | cons event rest inductionHypothesis =>
    obtain ⟨now, packet⟩ := event
    obtain ⟨-, isOpen, stays⟩ := decoder.step_closed code codec now packet key index
    have first : (key, index) ∉ (decoder.deliveries code codec now packet).map Prod.fst :=
      fun member => isOpen member closed
    rw [log, List.count_append, List.count_eq_zero_of_not_mem first, Nat.zero_add]
    cases rest with
    | nil => rfl
    | cons next rest => exact inductionHypothesis (stays (.inl closed) retained.1) retained.2

/-- Over any packets between which a group is kept, it gives out at most one packet under each
index, be it delivered or completed. -/
theorem delivers_at_most_once (code : ErasureCode UInt8) (codec : FecCodec) (decoder : FecDecoder)
    (events : List (Instant × NetPacket)) (key : GroupKey) (index : Nat)
    (retained : decoder.Retained code codec key events) :
    (decoder.log code codec events).count (key, index) ≤ 1 := by
  induction events generalizing decoder with
  | nil => exact Nat.zero_le _
  | cons event rest inductionHypothesis =>
    obtain ⟨now, packet⟩ := event
    obtain ⟨once, -, closes⟩ := decoder.step_closed code codec now packet key index
    rw [log, List.count_append]
    cases rest with
    | nil => exact once
    | cons next rest =>
      by_cases member :
          (key, index) ∈ (decoder.deliveries code codec now packet).map Prod.fst
      · rw [count_log_closed (closes (.inr member) retained.1) retained.2]
        exact once
      · rw [List.count_eq_zero_of_not_mem member, Nat.zero_add]
        exact inductionHypothesis _ retained.2

/-- The second packet comes back from the first and the parity, and is ignored when it arrives. -/
theorem delivers_at_most_once_example :
    let batch := exampleBatch fecMask [1, 2] [3, 4] (by decide) (by decide)
    ((FecDecoder.new 21).log pairCode protobufCodec
      [(22, batch.wire pairCode protobufCodec 2), (23, batch.wire pairCode protobufCodec 0),
        (24, batch.wire pairCode protobufCodec 1)]).count ((batch.src, batch.groupId), 1) ≤ 1 := by
  intro batch
  exact delivers_at_most_once pairCode protobufCodec _ _ _ 1
    ⟨by decide +kernel, by decide +kernel, trivial⟩

/-! ### Originals that are not given out -/

/-- An original as it is delivered. -/
def original (packet : NetPacket) (fecPacket : FecPacket) : NetPacket :=
  ⟨[], packet.header.setFlag fecMask false, fecPacket.payload, []⟩

/-- A group is complete: it is done, and all its data were given out. -/
def Complete (given : List (GroupKey × Nat)) (key : GroupKey) (group : FecGroup) : Prop :=
  group.isDone = true ∧ ∀ index < group.dataShards, (key, index) ∈ given

/-- An original arrives after others whose group is not complete, and under whose index nothing was
given out yet. -/
structure Awaited (code : ErasureCode UInt8) (codec : FecCodec) (start : Instant)
    (past : List (Instant × NetPacket)) (now : Instant) (packet : NetPacket)
    (fecPacket : FecPacket) : Prop where
  decodes : codec.decode packet.payload = .ok fecPacket
  isData : fecPacket.parityData = none
  inside : fecPacket.packetIndex.toNat ≤ maxNum
  incomplete : ¬Complete ((new start).log code codec past) (groupKey packet fecPacket)
    (((new start).after code codec past).groupAt now (groupKey packet fecPacket))
  unseen : (groupKey packet fecPacket, fecPacket.packetIndex.toNat) ∉
    (new start).log code codec past

/-- The packet is among those that are given out. -/
def GivesOut (code : ErasureCode UInt8) (codec : FecCodec) (decoder : FecDecoder) (now : Instant)
    (packet wanted : NetPacket) : Prop :=
  ∃ packets, (decoder.receive code codec now packet).2 = .ok (some packets) ∧ wanted ∈ packets

theorem store_original (now : Instant) (packet : NetPacket)
    (isData : fecPacket.parityData = none) (group : FecGroup) :
    group.store now fecPacket packet =
      .ok (group.storeData now fecPacket.packetIndex.toNat packet fecPacket.payload,
        some (original packet fecPacket)) := by
  unfold FecGroup.store
  simp only [isData, unwrap_eq]
  rfl

/-- An original is given out exactly when its group is not taken for done, no shard is in its place,
and what is to be completed with it, if anything, can be completed. -/
theorem original_given_iff {start : Instant} {past : List (Instant × NetPacket)}
    (awaited : Awaited code codec start past now packet fecPacket) :
    let group := ((new start).after code codec past).groupAt now (groupKey packet fecPacket)
    let stored := group.storeData now fecPacket.packetIndex.toNat packet fecPacket.payload
    GivesOut code codec ((new start).after code codec past) now packet
        (original packet fecPacket) ↔
      group.isDone = false ∧ group.shard fecPacket.packetIndex.toNat = none ∧
        (stored.Attempts → stored.Completable code) := by
  intro group stored
  have result := receive_snd code now awaited.decodes awaited.inside
    (rfl : _ = group)
  have accepts_iff : group.accepts fecPacket.packetIndex.toNat = true ↔
      group.isDone = false ∧ group.shard fecPacket.packetIndex.toNat = none := by
    unfold FecGroup.accepts
    rw [Bool.and_eq_true, Bool.not_eq_true', Option.isNone_iff_eq_none]
  have stores : group.store now fecPacket packet = .ok (stored, some (original packet fecPacket)) :=
    store_original now packet awaited.isData group
  unfold GivesOut
  rw [result, ← and_assoc, ← accepts_iff]
  split
  · next closed =>
    rw [closed]
    constructor
    · rintro ⟨packets, same, -⟩
      cases same
    · rintro ⟨accepted, -⟩
      cases accepted
  · next accepted =>
    rw [Bool.not_eq_false] at accepted
    rw [iff_true_intro accepted, true_and]
    have received := group.receipt code now fecPacket packet
    generalize group.deliveries code now fecPacket packet = given at received
    generalize (group.receive code now fecPacket packet).1 = next at received
    cases received with
    | refused message outcome result =>
      cases stores.symm.trans outcome
    | finished _ _ outcome done result =>
      cases stores.symm.trans outcome
      rw [result]
      refine iff_of_true ⟨_, rfl, List.mem_singleton.mpr rfl⟩ fun attempts => ?_
      rw [attempts.1] at done
      cases done
    | waiting _ _ outcome active idle result =>
      cases stores.symm.trans outcome
      rw [result]
      exact iff_of_true ⟨_, rfl, List.mem_singleton.mpr rfl⟩ fun attempts => absurd attempts idle
    | completed _ _ length outcome attempts completable result =>
      cases stores.symm.trans outcome
      rw [result]
      exact iff_of_true ⟨_, rfl, List.mem_append_right _ (List.mem_singleton.mpr rfl)⟩
        fun _ => ⟨length, completable⟩
    | failed _ _ shards message outcome attempts fails kept decoded result =>
      cases stores.symm.trans outcome
      rw [result]
      exact iff_of_false (fun ⟨_, same, _⟩ => nomatch same)
        fun completable => fails (completable attempts)

/-- One group failed to complete its data. Of the next one the parity has arrived; its first packet
completes the other one and is given out. -/
theorem original_given_iff_example :
    let failed := exampleBatch 0 [1] [2, 3] (by decide) (by decide)
    let batch : Batch := { exampleBatch 0 [4] [5] (by decide) (by decide) with groupId := 1 }
    let past :=
      [(22, failed.wire pairCode protobufCodec 2), (23, failed.wire pairCode protobufCodec 0),
      (24, batch.wire pairCode protobufCodec 2)]
    (new 21).log pairCode protobufCodec past = [] ∧
      GivesOut pairCode protobufCodec ((new 21).after pairCode protobufCodec past) 25
        (batch.wire pairCode protobufCodec 0)
        (original (batch.wire pairCode protobufCodec 0) (batch.message pairCode 0)) := by
  intro failed batch past
  have nothing : (new 21).log pairCode protobufCodec past = [] := by decide +kernel
  have active : (((new 21).after pairCode protobufCodec past).groupAt 25
      (groupKey (batch.wire pairCode protobufCodec 0) (batch.message pairCode 0))).isDone =
        false := by
    decide +kernel
  have awaited : Awaited pairCode protobufCodec 21 past 25 (batch.wire pairCode protobufCodec 0)
      (batch.message pairCode 0) := by
    refine ⟨Batch.decode_wire (by decide), rfl, by decide, fun complete => ?_, fun member => ?_⟩
    · exact Bool.false_ne_true (active.symm.trans complete.1)
    · rw [nothing] at member
      cases member
  refine ⟨nothing, (original_given_iff awaited).mpr ⟨active, by decide +kernel, fun _ => ⟨5, ?_⟩⟩⟩
  exact ⟨by decide +kernel, by decide +kernel, by decide +kernel, by decide +kernel⟩

/-- The shorter of two packets arrives after the parity: the others cannot be completed with it, and
it is not given out itself. -/
theorem original_not_given : ∃ (start : Instant) (past : List (Instant × NetPacket)) (now : Instant)
    (packet : NetPacket) (fecPacket : FecPacket),
    Awaited pairCode protobufCodec start past now packet fecPacket ∧
      (((new start).after pairCode protobufCodec past).groupAt now
        (groupKey packet fecPacket)).isDone = false ∧
      ¬GivesOut pairCode protobufCodec ((new start).after pairCode protobufCodec past) now packet
        (original packet fecPacket) := by
  let batch : Batch := exampleBatch 0 [1] [2, 3] (by decide) (by decide)
  have active : (((new 21).after pairCode protobufCodec
      [(22, batch.wire pairCode protobufCodec 2)]).groupAt 23
        (groupKey (batch.wire pairCode protobufCodec 0) (batch.message pairCode 0))).isDone =
          false := by
    decide +kernel
  refine ⟨21, [(22, batch.wire pairCode protobufCodec 2)], 23, batch.wire pairCode protobufCodec 0,
    batch.message pairCode 0, ⟨?_, rfl, by decide, fun complete => ?_, by decide +kernel⟩,
    active, ?_⟩
  · exact Batch.decode_wire (by decide)
  · exact Bool.false_ne_true (active.symm.trans complete.1)
  · rintro ⟨packets, same, member⟩
    have nothing : delivered (((new 21).after pairCode protobufCodec
        [(22, batch.wire pairCode protobufCodec 2)]).receive pairCode protobufCodec 23
          (batch.wire pairCode protobufCodec 0)).2 = [] := by
      decide +kernel
    rw [same] at nothing
    have empty : packets = [] := nothing
    rw [empty] at member
    cases member

end FecDecoder

end Vnt.Fec
