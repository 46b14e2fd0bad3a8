/-
This file compares a decoder with one from which the expired groups were removed beforehand. They
are removed now and then only, and after the group of a packet was looked up, so an expired group
may still receive a packet that was meant for a new one. It says exactly when that makes no
difference.
-/

import Vnt.Fec.Delivery
import Vnt.Fec.Reading

namespace Vnt.Fec

open Vnt.Base

variable {code : ErasureCode UInt8} {codec : FecCodec} {decoder : FecDecoder} {group : FecGroup}
  {now : Instant} {packet : NetPacket} {fecPacket : FecPacket} {parityData : ParityData}
  {key : GroupKey} {index : Nat}

/-! ### What is read in a completion -/

/-- What is read of a shard, or why nothing is. -/
def readOf (shard : List UInt8) : Except String Content :=
  if Readable shard then .ok (readShard shard) else .error (unreadable shard)

namespace FecGroup

theorem rebuildNetPacket_eq (current : NetPacket) (shard : List UInt8) :
    rebuildNetPacket current shard = (readOf shard).map (built current) := by
  unfold readOf
  split
  · next readable => exact rebuildNetPacket_of_readable current readable
  · next failed => exact rebuildNetPacket_of_not_readable current failed

/-- What is read of the missing shards when they are restored. -/
def reading (code : ErasureCode UInt8) (group : FecGroup) : Except String (List Content) :=
  match code.reconstruct group.dataShards group.parityShards group.receivedShards with
  | none => .error "reed solomon"
  | some shards => group.missing.mapM fun index => readOf (shards.getD index [])

/-- The result of a completion is made of what is read. -/
theorem decodeWithRs_snd (total : group.receivedShards.length =
    group.dataShards + group.parityShards) :
    (group.decodeWithRs code key packet).2 =
      (group.reading code).map fun contents => some (contents.map (built packet)) := by
  unfold decodeWithRs reading
  rw [if_neg (not_not.mpr total)]
  cases code.reconstruct group.dataShards group.parityShards group.receivedShards with
  | none => rfl
  | some shards =>
    have all := map_mapM (fun index => readOf (shards.getD index [])) (built packet) group.missing
    simp only [← rebuildNetPacket_eq packet] at all
    unfold missing at all ⊢
    dsimp only
    rw [← all]
    cases ((List.range group.dataShards).filter fun index => (group.shard index).isNone).mapM
      (fun index => readOf (shards.getD index [])) <;> rfl

/-- What is not read is not read for one of three reasons. -/
theorem reading_eq_error {message : String} (fails : group.reading code = .error message) :
    message = "reed solomon" ∨ message = "recovered_data too short" ∨
      message = "invalid payload_len in recovered_data" := by
  unfold reading at fails
  split at fails
  · exact .inl (Except.error.inj fails).symm
  · next shards _ =>
    refine .inr ?_
    generalize group.missing = indices at fails
    induction indices with
    | nil => cases fails
    | cons first rest inductionHypothesis =>
      rw [List.mapM_cons] at fails
      dsimp only [bind, Except.bind] at fails
      cases outcome : readOf (shards.getD first []) with
      | error early =>
        rw [outcome] at fails
        cases fails
        unfold readOf unreadable at outcome
        split_ifs at outcome <;> cases outcome
        · exact .inl rfl
        · exact .inr rfl
      | ok content =>
        rw [outcome] at fails
        dsimp only at fails
        cases later : rest.mapM fun index => readOf (shards.getD index []) with
        | error late =>
          rw [later] at fails
          cases fails
          exact inductionHypothesis later
        | ok contents =>
          rw [later] at fails
          cases fails

/-! ### One packet, and the group or an empty one -/

/-- The parity data are refused whatever the group is. -/
def Misplaced (parityData : ParityData) (index : Nat) : Prop :=
  maxNum < parityData.dataShards.toNat ∨ maxNum < parityData.parityShards.toNat ∨
    parityData.dataShards.toNat + parityData.parityShards.toNat ≤ index

instance (parityData : ParityData) (index : Nat) : Decidable (Misplaced parityData index) :=
  inferInstanceAs (Decidable (_ ∨ _ ∨ _))

/-- The parity data differ from those of the group. -/
def Conflicts (group : FecGroup) (parityData : ParityData) : Prop :=
  (group.dataShards ≠ 0 ∧ group.dataShards ≠ parityData.dataShards.toNat) ∨
    (group.parityShards ≠ 0 ∧ group.parityShards ≠ parityData.parityShards.toNat)

instance (group : FecGroup) (parityData : ParityData) : Decidable (group.Conflicts parityData) :=
  inferInstanceAs (Decidable (_ ∨ _))

/-- The group with a parity shard stored. -/
def withParity (group : FecGroup) (now : Instant) (index : Nat) (parityData : ParityData)
    (payload : List UInt8) : FecGroup where
  dataShards := parityData.dataShards.toNat
  parityShards := parityData.parityShards.toNat
  receivedOriginalCount := group.receivedOriginalCount
  receivedShards :=
    (grow group.receivedShards (parityData.dataShards.toNat + parityData.parityShards.toNat)).set
      index (some payload)
  lastUpdate := now

theorem storeParity_of_misplaced (misplaced : Misplaced parityData index) (now : Instant)
    (srcIp : Ipv4Addr) (payload : List UInt8) :
    ∃ message, ∀ group : FecGroup,
      group.storeParity now srcIp index parityData payload = .error message := by
  by_cases manyData : maxNum < parityData.dataShards.toNat
  · exact ⟨_, fun group => if_pos manyData⟩
  by_cases manyParity : maxNum < parityData.parityShards.toNat
  · exact ⟨_, fun group => (if_neg manyData).trans (if_pos manyParity)⟩
  have outside := (misplaced.resolve_left manyData).resolve_left manyParity
  exact ⟨_, fun group => (if_neg manyData).trans ((if_neg manyParity).trans (if_pos outside))⟩

theorem storeParity_of_conflicts (placed : ¬Misplaced parityData index)
    (conflicts : group.Conflicts parityData) (now : Instant) (srcIp : Ipv4Addr)
    (payload : List UInt8) :
    ∃ message : String, message.toList.head? = some 'g' ∧
      group.storeParity now srcIp index parityData payload = .error message := by
  unfold Misplaced at placed
  push Not at placed
  obtain ⟨fewData, fewParity, inside⟩ := placed
  unfold storeParity
  dsimp only
  rw [if_neg (Nat.not_lt_of_le fewData), if_neg (Nat.not_lt_of_le fewParity),
    if_neg (Nat.not_le_of_lt inside)]
  by_cases otherData : group.dataShards ≠ 0 ∧ group.dataShards ≠ parityData.dataShards.toNat
  · rw [if_pos otherData]
    exact ⟨_, by rw [String.toList_append]; rfl, rfl⟩
  · rw [if_neg otherData, if_pos (conflicts.resolve_left otherData)]
    exact ⟨_, by rw [String.toList_append]; rfl, rfl⟩

theorem storeParity_of_not_conflicts (placed : ¬Misplaced parityData index)
    (agrees : ¬group.Conflicts parityData) (now : Instant) (srcIp : Ipv4Addr)
    (payload : List UInt8) :
    group.storeParity now srcIp index parityData payload =
      .ok (group.withParity now index parityData payload) := by
  unfold Misplaced at placed
  unfold Conflicts at agrees
  push Not at placed
  obtain ⟨fewData, fewParity, inside⟩ := placed
  unfold storeParity
  dsimp only
  rw [if_neg (Nat.not_lt_of_le fewData), if_neg (Nat.not_lt_of_le fewParity),
    if_neg (Nat.not_le_of_lt inside), if_neg fun other => agrees (Or.inl other),
    if_neg fun other => agrees (Or.inr other)]
  rfl

/-- What a packet gives at a group. -/
def resultOf (code : ErasureCode UInt8) (group : FecGroup) (now : Instant) (fecPacket : FecPacket)
    (packet : NetPacket) : Except String (Option (List NetPacket)) :=
  if group.accepts fecPacket.packetIndex.toNat = false then .ok none
  else (group.receive code now fecPacket packet).2

/-- An empty group starts afresh with the packet. -/
theorem accepts_default (now : Instant) (index : Nat) : (default now).accepts index = true := rfl

theorem not_conflicts_default (now : Instant) (parityData : ParityData) :
    ¬(default now).Conflicts parityData := by
  rintro (⟨positive, -⟩ | ⟨positive, -⟩) <;> exact positive rfl

/-- An original finds no difference exactly when it is accepted, and nothing is completed with it.
-/
def HarmlessOriginal (code : ErasureCode UInt8) (group : FecGroup) (now : Instant)
    (fecPacket : FecPacket) (packet : NetPacket) : Prop :=
  let stored := group.storeData now fecPacket.packetIndex.toNat packet fecPacket.payload
  group.accepts fecPacket.packetIndex.toNat = true ∧
    (stored.Attempts → stored.Completable code ∧ stored.missing = [])

/-- Parity finds no difference in these cases. When it is misplaced it has to be accepted, to be
refused then. Otherwise an empty group keeps it and gives nothing out, unless it has one data shard
only: so it must not be accepted, or not complete anything. With one data shard an empty group
completes at once, and the same has to be read from the shards that are there. -/
def HarmlessParity (code : ErasureCode UInt8) (group : FecGroup) (now : Instant)
    (fecPacket : FecPacket) (parityData : ParityData) : Prop :=
  let index := fecPacket.packetIndex.toNat
  let stored := group.withParity now index parityData fecPacket.payload
  let alone := (default now).withParity now index parityData fecPacket.payload
  if Misplaced parityData index then group.accepts index = true
  else if parityData.dataShards.toNat = 1 then
    group.accepts index = true ∧ ¬group.Conflicts parityData ∧ stored.isDone = false ∧
      stored.receivedShards.length = stored.dataShards + stored.parityShards ∧
      stored.reading code = alone.reading code
  else group.accepts index = true → ¬group.Conflicts parityData ∧ ¬stored.Attempts

/-- A group makes the same of a packet as an empty one. -/
def Harmless (code : ErasureCode UInt8) (group : FecGroup) (now : Instant) (fecPacket : FecPacket)
    (packet : NetPacket) : Prop :=
  match fecPacket.parityData with
  | none => group.HarmlessOriginal code now fecPacket packet
  | some parityData => group.HarmlessParity code now fecPacket parityData

/-- An original alone is given out exactly when an expired group is harmless to it. -/
theorem resultOf_original_iff (isData : fecPacket.parityData = none) :
    group.resultOf code now fecPacket packet =
        .ok (some [FecDecoder.original packet fecPacket]) ↔
      group.HarmlessOriginal code now fecPacket packet := by
  have stores := FecDecoder.store_original now packet isData group
  unfold resultOf HarmlessOriginal
  by_cases closed : group.accepts fecPacket.packetIndex.toNat = false
  · rw [if_pos closed, closed]
    exact iff_of_false (fun same => nomatch same) fun harmless => Bool.false_ne_true harmless.1
  rw [if_neg closed, iff_true_intro ((Bool.not_eq_false _).mp closed), true_and]
  have received := group.receipt code now fecPacket packet
  generalize group.deliveries code now fecPacket packet = given at received
  generalize (group.receive code now fecPacket packet).1 = next at received
  cases received with
  | refused message outcome result => cases stores.symm.trans outcome
  | finished _ _ outcome done result =>
    cases stores.symm.trans outcome
    rw [result]
    refine iff_of_true rfl fun attempts => ?_
    rw [attempts.1] at done
    cases done
  | waiting _ _ outcome active idle result =>
    cases stores.symm.trans outcome
    rw [result]
    exact iff_of_true rfl fun attempts => absurd attempts idle
  | completed _ _ length outcome attempts completable result =>
    cases stores.symm.trans outcome
    rw [result]
    constructor
    · intro same _
      have packets := Option.some_inj.mp (Except.ok.inj same)
      have empty := List.append_left_eq_self.mp packets
      exact ⟨⟨length, completable⟩, List.map_eq_nil_iff.mp empty⟩
    · intro harmless
      rw [(harmless attempts).2]
      rfl
  | failed _ _ shards message outcome attempts fails kept decoded result =>
    cases stores.symm.trans outcome
    rw [result]
    exact iff_of_false (fun same => nomatch same) fun harmless => fails (harmless attempts).1

/-- What a parity shard that is stored gives is what is completed with it. -/
theorem resultOf_parity (isParity : fecPacket.parityData = some parityData)
    (accepted : group.accepts fecPacket.packetIndex.toNat = true)
    (placed : ¬Misplaced parityData fecPacket.packetIndex.toNat)
    (agrees : ¬group.Conflicts parityData) :
    let stored := group.withParity now fecPacket.packetIndex.toNat parityData fecPacket.payload
    group.resultOf code now fecPacket packet =
      if stored.Attempts then
        (stored.decodeWithRs code (packet.header.srcId, fecPacket.groupId) packet).2
      else .ok none := by
  intro stored
  have stores : group.store now fecPacket packet = .ok (stored, none) := by
    unfold store
    rw [isParity]
    dsimp only
    rw [storeParity_of_not_conflicts placed agrees]
    rfl
  unfold resultOf
  rw [if_neg (Bool.not_eq_false _ ▸ accepted), receive_of_store code stores]
  by_cases done : stored.isDone = true
  · rw [if_pos done, if_neg fun attempts => ?_]
    · rfl
    · rw [attempts.1] at done
      cases done
  rw [if_neg done]
  by_cases attempts : stored.Attempts
  · rw [if_pos attempts, tryDecode_of_attempts attempts]
    generalize stored.decodeWithRs code (packet.header.srcId, fecPacket.groupId) packet = outcome
    obtain ⟨next, message | result⟩ := outcome
    · rfl
    · cases result <;> rfl
  · rw [if_neg attempts, tryDecode_of_not_attempts (Bool.eq_false_iff.mpr done) attempts]
    rfl

/-- A completion gives something or fails. -/
theorem decodeWithRs_ne_none :
    (group.decodeWithRs code key packet).2 ≠ .ok none := by
  by_cases total : group.receivedShards.length = group.dataShards + group.parityShards
  · rw [decodeWithRs_snd total]
    cases group.reading code <;> exact fun same => nomatch same
  · unfold decodeWithRs
    rw [if_pos total]
    exact fun same => nomatch same

/-- The shards of a group with one stored. -/
theorem pos_length_withParity (group : FecGroup) (now : Instant) (parityData : ParityData)
    (payload : List UInt8) (placed : ¬Misplaced parityData index) :
    0 < ((group.withParity now index parityData payload).receivedShards.filterMap id).length := by
  have inside : index < parityData.dataShards.toNat + parityData.parityShards.toNat :=
    Nat.lt_of_not_le fun outside => placed (.inr (.inr outside))
  refine List.length_pos_of_mem (a := payload) (List.mem_filterMap.mpr ⟨some payload, ?_, rfl⟩)
  refine List.mem_of_getElem? (i := index) ?_
  unfold withParity
  rw [List.getElem?_set_self]
  rw [length_grow]
  omega

/-- The only shard of a group that had none. -/
theorem present_alone (now : Instant) (parityData : ParityData) (payload : List UInt8)
    (placed : ¬Misplaced parityData index) :
    ((default now).withParity now index parityData payload).receivedShards.filterMap id =
      [payload] := by
  have inside : index < parityData.dataShards.toNat + parityData.parityShards.toNat :=
    Nat.lt_of_not_le fun outside => placed (.inr (.inr outside))
  have nothing : ∀ count : Nat, (List.replicate count (none : Option (List UInt8))).filterMap id =
      [] := fun count => List.filterMap_eq_nil_iff.mpr fun shard member =>
    (List.eq_of_mem_replicate member).trans rfl
  have inBounds : index < (grow (default now).receivedShards
      (parityData.dataShards.toNat + parityData.parityShards.toNat)).length := by
    rw [length_grow]
    omega
  unfold withParity
  dsimp only
  rw [List.set_eq_take_append_cons_drop, if_pos inBounds, List.filterMap_append,
    List.filterMap_cons, id]
  simp only [grow, default, List.nil_append, List.take_replicate, List.drop_replicate, nothing]

/-- An empty group completes at once with parity that tells of one data shard, and waits with any
other parity. -/
theorem attempts_alone_iff (now : Instant) (parityData : ParityData) (payload : List UInt8)
    (placed : ¬Misplaced parityData index) :
    ((default now).withParity now index parityData payload).Attempts ↔
      parityData.dataShards.toNat = 1 := by
  unfold Attempts
  rw [present_alone now parityData payload placed, isDone_eq_false_iff]
  simp only [withParity, default, List.length_singleton]
  omega

/-- What fails because of the group fails for another reason than a completion. -/
theorem reading_ne_of_head {message : String} (first : message.toList.head? = some 'g') :
    group.reading code ≠ .error message := by
  intro fails
  rcases reading_eq_error fails with rfl | rfl | rfl <;> cases first

/-- A completion that lacks shards, or has too many, fails for another reason than one that does
not. -/
theorem decodeWithRs_of_length (code : ErasureCode UInt8) (key : GroupKey) (packet : NetPacket)
    (wrong : group.receivedShards.length ≠ group.dataShards + group.parityShards) :
    ∃ message : String, message.toList.take 4 = ['r', 'e', 'c', 'e'] ∧
      (group.decodeWithRs code key packet).2 = .error message := by
  unfold decodeWithRs
  rw [if_pos wrong]
  refine ⟨_, ?_, rfl⟩
  simp only [String.toList_append]
  rfl

theorem reading_ne_of_take {message : String}
    (first : message.toList.take 4 = ['r', 'e', 'c', 'e']) :
    group.reading code ≠ .error message := by
  intro fails
  rcases reading_eq_error fails with rfl | rfl | rfl <;> cases first

theorem built_injective (packet : NetPacket) : Function.Injective (built packet) := by
  intro first second same
  have typeByte := congrArg (fun packet : NetPacket => packet.header.typeByte) same
  have flagsByte := congrArg (fun packet : NetPacket => packet.header.flagsByte) same
  have payload := congrArg NetPacket.payload same
  cases first
  cases second
  cases typeByte
  cases flagsByte
  cases payload
  rfl

/-- The results of two readings agree when the readings do. -/
theorem map_built_inj (packet : NetPacket) {first second : Except String (List Content)} :
    (first.map fun contents => some (contents.map (built packet))) =
        second.map (fun contents => some (contents.map (built packet))) ↔ first = second := by
  refine ⟨fun same => ?_, fun same => by rw [same]⟩
  cases first with
  | error message =>
    cases second with
    | error other => exact congrArg Except.error (Except.error.inj same)
    | ok contents => cases same
  | ok contents =>
    cases second with
    | error message => cases same
    | ok others =>
      have packets := Option.some_inj.mp (Except.ok.inj same)
      rw [List.map_injective_iff.mpr (built_injective packet) packets]

theorem map_eq_error {Input Output Error : Type} {change : Input → Output}
    {outcome : Except Error Input} {message : Error}
    (fails : outcome.map change = .error message) : outcome = .error message := by
  cases outcome with
  | error other => exact congrArg Except.error (Except.error.inj fails)
  | ok input => cases fails

theorem resultOf_misplaced (code : ErasureCode UInt8)
    (isParity : fecPacket.parityData = some parityData)
    (misplaced : Misplaced parityData fecPacket.packetIndex.toNat) (now : Instant)
    (packet : NetPacket) :
    ∃ message : String, ∀ group : FecGroup,
      group.resultOf code now fecPacket packet =
        if group.accepts fecPacket.packetIndex.toNat = false then .ok none
        else .error message := by
  obtain ⟨message, refused⟩ := storeParity_of_misplaced misplaced now packet.header.srcId
    fecPacket.payload
  refine ⟨message, fun group => ?_⟩
  unfold resultOf receive store
  simp only [isParity, refused group, Except.map]

/-- A conflict with the group is an error of its own. -/
theorem resultOf_conflicts (code : ErasureCode UInt8)
    (isParity : fecPacket.parityData = some parityData)
    (accepted : group.accepts fecPacket.packetIndex.toNat = true)
    (placed : ¬Misplaced parityData fecPacket.packetIndex.toNat)
    (conflicts : group.Conflicts parityData) (now : Instant) (packet : NetPacket) :
    ∃ message : String, message.toList.head? = some 'g' ∧
      group.resultOf code now fecPacket packet = .error message := by
  obtain ⟨message, first, refused⟩ := storeParity_of_conflicts placed conflicts now
    packet.header.srcId fecPacket.payload
  refine ⟨message, first, ?_⟩
  unfold resultOf receive store
  rw [if_neg (Bool.not_eq_false _ ▸ accepted)]
  simp only [isParity, refused, Except.map]

/-- Parity gives what it gives at an empty group exactly when the group is harmless to it. -/
theorem resultOf_parity_iff (isParity : fecPacket.parityData = some parityData) :
    group.resultOf code now fecPacket packet =
        (default now).resultOf code now fecPacket packet ↔
      group.HarmlessParity code now fecPacket parityData := by
  unfold HarmlessParity
  by_cases misplaced : Misplaced parityData fecPacket.packetIndex.toNat
  · obtain ⟨message, refused⟩ := resultOf_misplaced code isParity misplaced now packet
    rw [if_pos misplaced, refused, refused, accepts_default]
    cases group.accepts fecPacket.packetIndex.toNat
    · exact iff_of_false (fun same => nomatch same) Bool.false_ne_true
    · exact iff_of_true rfl rfl
  rw [if_neg misplaced,
    resultOf_parity isParity (accepts_default now _) misplaced (not_conflicts_default now _)]
  have aloneTotal : ((default now).withParity now fecPacket.packetIndex.toNat parityData
      fecPacket.payload).receivedShards.length = parityData.dataShards.toNat +
        parityData.parityShards.toNat := by
    rw [withParity, List.length_set, length_grow]
    exact Nat.max_eq_right (Nat.zero_le _)
  simp only [attempts_alone_iff now parityData fecPacket.payload misplaced]
  by_cases closed : group.accepts fecPacket.packetIndex.toNat = false
  · have ignored : group.resultOf code now fecPacket packet = .ok none := if_pos closed
    rw [ignored, closed]
    by_cases single : parityData.dataShards.toNat = 1
    · rw [if_pos single, if_pos single]
      exact iff_of_false (fun same => decodeWithRs_ne_none same.symm)
        fun harmless => Bool.false_ne_true harmless.1
    · rw [if_neg single, if_neg single]
      exact iff_of_true rfl fun accepted => (Bool.false_ne_true accepted).elim
  have accepted := (Bool.not_eq_false _).mp closed
  by_cases conflicts : group.Conflicts parityData
  · obtain ⟨message, first, refused⟩ := resultOf_conflicts code isParity accepted
      misplaced conflicts now packet
    rw [refused]
    by_cases single : parityData.dataShards.toNat = 1
    · rw [if_pos single, if_pos single, decodeWithRs_snd aloneTotal]
      exact iff_of_false (fun same => reading_ne_of_head first (map_eq_error same.symm))
        fun harmless => harmless.2.1 conflicts
    · rw [if_neg single, if_neg single]
      exact iff_of_false (fun same => nomatch same) fun harmless => (harmless accepted).1 conflicts
  rw [resultOf_parity isParity accepted misplaced conflicts]
  by_cases single : parityData.dataShards.toNat = 1
  · have enough := pos_length_withParity group now parityData fecPacket.payload misplaced
    rw [if_pos single, if_pos single, iff_true_intro accepted, true_and,
      iff_true_intro conflicts, true_and]
    generalize isStored : group.withParity now fecPacket.packetIndex.toNat parityData
      fecPacket.payload = stored at enough ⊢
    have one : stored.dataShards = 1 := isStored ▸ single
    cases done : stored.isDone with
    | true =>
      rw [if_neg fun attempts => Bool.false_ne_true (attempts.1.symm.trans done)]
      exact iff_of_false (fun same => decodeWithRs_ne_none same.symm)
        fun harmless => Bool.false_ne_true harmless.1.symm
    | false =>
      have attempts : stored.Attempts := ⟨done, by omega, by omega⟩
      rw [if_pos attempts, eq_self_iff_true, true_and, decodeWithRs_snd aloneTotal]
      by_cases total : stored.receivedShards.length = stored.dataShards + stored.parityShards
      · rw [decodeWithRs_snd total, map_built_inj, iff_true_intro total, true_and]
      · obtain ⟨message, first, failed⟩ := decodeWithRs_of_length code
          (packet.header.srcId, fecPacket.groupId) packet total
        rw [failed]
        exact iff_of_false (fun same => reading_ne_of_take first (map_eq_error same.symm))
          fun harmless => total harmless.1
  · rw [if_neg single, if_neg single]
    by_cases attempts : (group.withParity now fecPacket.packetIndex.toNat parityData
        fecPacket.payload).Attempts
    · rw [if_pos attempts]
      exact iff_of_false decodeWithRs_ne_none fun harmless => (harmless accepted).2 attempts
    · rw [if_neg attempts]
      exact iff_of_true rfl fun _ => ⟨conflicts, attempts⟩

theorem resultOf_eq_default_iff :
    group.resultOf code now fecPacket packet =
        (default now).resultOf code now fecPacket packet ↔
      group.Harmless code now fecPacket packet := by
  unfold Harmless
  cases isData : fecPacket.parityData with
  | none =>
    have fresh : (default now).resultOf code now fecPacket packet =
        .ok (some [FecDecoder.original packet fecPacket]) :=
      (resultOf_original_iff isData).mpr ⟨rfl, fun attempts => absurd rfl attempts.2.1⟩
    rw [fresh]
    exact resultOf_original_iff isData
  | some parityData => exact resultOf_parity_iff isData

end FecGroup

/-! ### Decoders without expired groups -/

namespace FecDecoder

/-- The group was last updated `GROUP_TIMEOUT` ago, or earlier. -/
def Expired (now : Instant) (group : FecGroup) : Prop := groupTimeout ≤ now - group.lastUpdate

instance (now : Instant) (group : FecGroup) : Decidable (Expired now group) :=
  inferInstanceAs (Decidable (_ ≤ _))

/-- The decoder with the expired groups removed. -/
def withoutExpired (decoder : FecDecoder) (now : Instant) : FecDecoder :=
  { decoder with
    groups := decoder.groups.retain fun _ group =>
      if Expired now group then none else some group }

/-- The group of a packet, in which an expired one is replaced by an empty one. -/
theorem groupAt_withoutExpired (decoder : FecDecoder) (now : Instant) (key : GroupKey) :
    (decoder.withoutExpired now).groupAt now key =
      if ∃ group, decoder.groups.lookup key = some group ∧ Expired now group then .default now
      else decoder.groupAt now key := by
  unfold groupAt withoutExpired
  rw [Map.lookup_retain]
  cases decoder.groups.lookup key with
  | none => exact (if_neg fun ⟨_, absent, _⟩ => nomatch absent).symm
  | some group =>
    by_cases expired : Expired now group
    · rw [if_pos ⟨group, rfl, expired⟩, Option.bind_some, if_pos expired]
      rfl
    · rw [if_neg, Option.bind_some, if_neg expired]
      rintro ⟨other, same, otherExpired⟩
      cases same
      exact expired otherExpired

/-- Expired groups make no difference to a packet exactly when the group it belongs to is not
expired, or is harmless to it. -/
theorem receive_withoutExpired_iff (code : ErasureCode UInt8) (codec : FecCodec)
    (decoder : FecDecoder) (now : Instant) (packet : NetPacket) :
    (decoder.receive code codec now packet).2 =
        ((decoder.withoutExpired now).receive code codec now packet).2 ↔
      ∀ fecPacket group, codec.decode packet.payload = .ok fecPacket →
        fecPacket.packetIndex.toNat ≤ maxNum →
          decoder.groups.lookup (groupKey packet fecPacket) = some group → Expired now group →
            group.Harmless code now fecPacket packet := by
  cases decodes : codec.decode packet.payload with
  | error message =>
    refine iff_of_true ?_ fun fecPacket group same => nomatch same
    unfold receive
    rw [decodes]
  | ok fecPacket =>
    by_cases inside : fecPacket.packetIndex.toNat ≤ maxNum
    · rw [receive_snd code now decodes inside rfl, receive_snd code now decodes inside rfl]
      have kept := decoder.groupAt_withoutExpired now (groupKey packet fecPacket)
      show (decoder.groupAt now (groupKey packet fecPacket)).resultOf code now fecPacket packet =
        ((decoder.withoutExpired now).groupAt now (groupKey packet fecPacket)).resultOf code now
          fecPacket packet ↔ _
      rw [kept]
      by_cases stale : ∃ group, decoder.groups.lookup (groupKey packet fecPacket) = some group ∧
          Expired now group
      · rw [if_pos stale, FecGroup.resultOf_eq_default_iff]
        obtain ⟨group, found, expired⟩ := stale
        have same : decoder.groupAt now (groupKey packet fecPacket) = group := by
          rw [groupAt, found]
          rfl
        rw [same]
        constructor
        · intro harmless other otherGroup sameOther _ otherFound _
          cases sameOther
          cases found.symm.trans otherFound
          exact harmless
        · exact fun harmless => harmless fecPacket group rfl inside found expired
      · rw [if_neg stale]
        refine iff_of_true rfl fun other group same _ found expired => ?_
        cases same
        exact absurd ⟨group, found, expired⟩ stale
    · refine iff_of_true ?_ fun other group same otherInside => ?_
      · unfold receive
        rw [decodes]
        dsimp only
        rw [if_pos (Nat.lt_of_not_le inside), if_pos (Nat.lt_of_not_le inside)]
      · cases same
        exact absurd otherInside inside

/-- A sender that starts again numbers its groups from 0 again: its first packet is swallowed by
the group that was done long ago. -/
theorem receive_withoutExpired_restart : ∃ (past : List (Instant × NetPacket)) (now : Instant)
    (packet : NetPacket),
    (((new 21).after pairCode protobufCodec past).receive pairCode protobufCodec now packet).2 ≠
      ((((new 21).after pairCode protobufCodec past).withoutExpired now).receive pairCode
        protobufCodec now packet).2 := by
  let batch : Batch := exampleBatch 0 [1] [2, 3] (by decide) (by decide)
  refine ⟨[(22, batch.wire pairCode protobufCodec 0), (23, batch.wire pairCode protobufCodec 1),
    (24, batch.wire pairCode protobufCodec 2)], 9000, batch.wire pairCode protobufCodec 0,
    fun same => ?_⟩
  have lengths := congrArg (fun result => (delivered result).length) same
  revert lengths
  decide +kernel

end FecDecoder

end Vnt.Fec
