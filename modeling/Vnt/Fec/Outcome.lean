/-
This file says what a group makes of one packet. With as many shards as it has data a group tries
to complete the data that are missing. It can when its shards have one length and the shards it
restores tell lengths that fit; what is completed is then given out, one packet for each missing
index, and the group is done. Otherwise it fails, and what it was given in between is lost.
-/

import Vnt.Fec.Completion

namespace Vnt.Fec

open Vnt.Base

variable {code : ErasureCode UInt8} {group stored : FecGroup} {now : Instant}
  {fecPacket : FecPacket} {packet : NetPacket} {key : GroupKey} {place index : Nat}

/-! ### What a shard tells -/

/-- The length of the payload that a shard tells. -/
def toldLength (shard : List UInt8) : Nat := ofBigEndian ((shard.drop 2).take 2)

/-- The payload that a shard tells of is there. -/
def Readable (shard : List UInt8) : Prop := toldLength shard + 4 ≤ shard.length

instance (shard : List UInt8) : Decidable (Readable shard) :=
  inferInstanceAs (Decidable (_ ≤ _))

/-- What is read of a shard. -/
def readShard (shard : List UInt8) : Content :=
  ⟨shard.getD 0 0, shard.getD 1 0 &&& ~~~fecMask, (shard.drop 4).take (toldLength shard)⟩

/-- The packet that is built for what is read of a shard. -/
def built (current : NetPacket) (content : Content) : NetPacket where
  headRoom := []
  header :=
    { NetHeader.zero.setTtl current.ttl current.ttl with
      typeByte := content.typeByte
      flagsByte := content.flagsByte
      srcId := current.header.srcId
      destId := current.header.destId }
  payload := content.payload
  tailRoom := []

/-- The packet that a shard is rebuilt to. -/
def rebuilt (current : NetPacket) (shard : List UInt8) : NetPacket :=
  built current (readShard shard)

/-- Why a shard is not rebuilt. -/
def unreadable (shard : List UInt8) : String :=
  if shard.length < 4 then "recovered_data too short" else "invalid payload_len in recovered_data"

namespace FecGroup

theorem rebuildNetPacket_of_readable (current : NetPacket) {shard : List UInt8}
    (readable : Readable shard) : rebuildNetPacket current shard = .ok (rebuilt current shard) := by
  unfold Readable toldLength at readable
  have length : ((shard.drop 4).take (toldLength shard)).length = toldLength shard := by
    rw [List.length_take, List.length_drop]
    unfold toldLength
    omega
  unfold rebuildNetPacket
  rw [if_neg (by omega)]
  dsimp only [bind, Except.bind, pure, Except.pure]
  rw [if_neg (by omega), NetPacket.new_zeroed]
  exact NetPacket.setPayload_blank _ _ _ _

theorem rebuildNetPacket_of_not_readable (current : NetPacket) {shard : List UInt8}
    (failed : ¬Readable shard) : rebuildNetPacket current shard = .error (unreadable shard) := by
  unfold Readable toldLength at failed
  unfold rebuildNetPacket unreadable
  split
  · rfl
  · dsimp only [bind, Except.bind, pure, Except.pure]
    rw [if_pos (by omega)]
    rfl

/-! ### Completion -/

/-- The indices of the data that are missing. -/
def missing (group : FecGroup) : List Nat :=
  (List.range group.dataShards).filter fun index => (group.shard index).isNone

theorem mem_missing : index ∈ group.missing ↔
    index < group.dataShards ∧ group.shard index = none := by
  rw [missing, List.mem_filter, List.mem_range, Option.isNone_iff_eq_none]

theorem nodup_missing (group : FecGroup) : group.missing.Nodup := List.nodup_range.filter _

/-- The group tries to complete its data: it is not done, and has as many shards as data. -/
def Attempts (group : FecGroup) : Prop :=
  group.isDone = false ∧ group.dataShards ≠ 0 ∧
    group.dataShards ≤ (group.receivedShards.filterMap id).length

instance (group : FecGroup) : Decidable group.Attempts :=
  inferInstanceAs (Decidable (_ ∧ _ ∧ _))

/-- The missing shards are restored from those that are there, which have this length. -/
def restored (code : ErasureCode UInt8) (group : FecGroup) (length index : Nat) : List UInt8 :=
  code.restore group.dataShards group.parityShards length group.receivedShards index

/-- The missing data can be completed from shards of this length. -/
structure CompletableAt (code : ErasureCode UInt8) (group : FecGroup) (length : Nat) : Prop where
  total : group.receivedShards.length = group.dataShards + group.parityShards
  buildable : ErasureCode.Buildable group.dataShards group.parityShards
  common : ErasureCode.commonLength (group.receivedShards.filterMap id) = some length
  readable : ∀ index ∈ group.missing, Readable (group.restored code length index)

/-- The missing data can be completed. -/
def Completable (code : ErasureCode UInt8) (group : FecGroup) : Prop :=
  ∃ length, group.CompletableAt code length

theorem isDone_eq_false_iff : group.isDone = false ↔
    (group.dataShards ≠ 0 → group.receivedOriginalCount ≠ group.dataShards) := by
  rw [isDone, decide_eq_false_iff_not, not_and]

theorem tryDecode_of_attempts (attempts : group.Attempts) :
    group.tryDecode code key packet = group.decodeWithRs code key packet := by
  obtain ⟨active, positive, enough⟩ := attempts
  unfold tryDecode
  rw [if_neg positive, if_neg (isDone_eq_false_iff.mp active positive), if_neg (by omega)]

theorem tryDecode_of_not_attempts (active : group.isDone = false) (idle : ¬group.Attempts) :
    group.tryDecode code key packet = (group, .ok none) := by
  unfold tryDecode
  split
  · rfl
  · next positive =>
    rw [if_neg (isDone_eq_false_iff.mp active positive)]
    rw [if_pos (Nat.lt_of_not_le fun enough => idle ⟨active, positive, enough⟩)]

/-- Steps that all succeed. -/
theorem mapM_eq_ok {Input Output Error : Type} {run : Input → Except Error Output}
    {output : Input → Output} {inputs : List Input}
    (single : ∀ input ∈ inputs, run input = .ok (output input)) :
    inputs.mapM run = .ok (inputs.map output) := by
  induction inputs with
  | nil => rfl
  | cons input rest inductionHypothesis =>
    obtain ⟨first, others⟩ := List.forall_mem_cons.mp single
    rw [List.mapM_cons, first]
    dsimp only [bind, Except.bind]
    rw [inductionHypothesis others]
    rfl

/-- Steps of which one fails. -/
theorem mapM_eq_error {Input Output Error : Type} (run : Input → Except Error Output)
    {inputs : List Input} {input : Input} (member : input ∈ inputs) {message : Error}
    (fails : run input = .error message) : ∃ message, inputs.mapM run = .error message := by
  induction inputs with
  | nil => cases member
  | cons first rest inductionHypothesis =>
    rw [List.mapM_cons]
    dsimp only [bind, Except.bind]
    cases outcome : run first with
    | error early => exact ⟨early, rfl⟩
    | ok output =>
      rcases List.mem_cons.mp member with rfl | later
      · rw [fails] at outcome
        cases outcome
      · obtain ⟨late, failed⟩ := inductionHypothesis later
        exact ⟨late, by rw [failed]⟩

/-- What can be completed is. -/
theorem decodeWithRs_of_completable (attempts : group.Attempts) {length : Nat}
    (completable : group.CompletableAt code length) :
    group.decodeWithRs code key packet =
      (group.done, .ok (some (group.missing.map fun index =>
        rebuilt packet (group.restored code length index)))) := by
  obtain ⟨shards, whole, missingShard⟩ := code.exists_reconstruct
    completable.buildable completable.total attempts.2.2 completable.common
  have single : ∀ index ∈ group.missing,
      rebuildNetPacket packet (shards.getD index []) =
        .ok (rebuilt packet (group.restored code length index)) := by
    intro index member
    obtain ⟨inside, absent⟩ := mem_missing.mp member
    rw [missingShard index inside absent]
    exact rebuildNetPacket_of_readable packet (completable.readable index member)
  have all := mapM_eq_ok single
  unfold missing at all
  unfold decodeWithRs
  rw [if_neg (not_not.mpr completable.total), whole]
  dsimp only
  rw [all]
  rfl

/-- A failed completion leaves the shards in place, or restores all of them. -/
theorem decodeWithRs_of_not_completable (key : GroupKey) (packet : NetPacket)
    (attempts : group.Attempts) (fails : ¬group.Completable code) :
    ∃ shards message, group.decodeWithRs code key packet =
        ({ group with receivedShards := shards }, .error message) ∧
      ∀ index, (group.shard index).isSome = true → (shards.getD index none).isSome = true := by
  unfold decodeWithRs
  split
  · exact ⟨group.receivedShards, _, rfl, fun _ present => present⟩
  next total =>
  have total := not_not.mp total
  cases outcome : code.reconstruct group.dataShards group.parityShards group.receivedShards with
  | none => exact ⟨group.receivedShards, _, rfl, fun _ present => present⟩
  | some whole =>
    have filled : ∀ index, (group.shard index).isSome = true →
        ((whole.map some).getD index none).isSome = true := by
      intro index present
      have inside : index < whole.length := by
        by_contra outside
        rw [code.length_reconstruct outcome, ← total] at outside
        rw [shard, List.getD_eq_getElem?_getD,
          List.getElem?_eq_none (Nat.le_of_not_lt outside)] at present
        cases present
      rw [List.getD_eq_getElem?_getD, List.getElem?_map, List.getElem?_eq_getElem inside]
      rfl
    have built : ErasureCode.Buildable group.dataShards group.parityShards ∧
        ∃ length, ErasureCode.commonLength (group.receivedShards.filterMap id) = some length := by
      unfold ErasureCode.reconstruct at outcome
      split at outcome
      · next possible =>
        obtain ⟨length, common, -⟩ := Option.map_eq_some_iff.mp outcome
        exact ⟨possible.1, length, common⟩
      · cases outcome
    obtain ⟨buildable, length, common⟩ := built
    obtain ⟨same, again, missingShard⟩ := code.exists_reconstruct
      buildable total attempts.2.2 common
    cases outcome.symm.trans again
    have unreadable : ∃ index ∈ group.missing, ¬Readable (group.restored code length index) := by
      by_contra none
      push Not at none
      exact fails ⟨length, total, buildable, common, none⟩
    obtain ⟨index, member, failed⟩ := unreadable
    obtain ⟨inside, absent⟩ := mem_missing.mp member
    have step : rebuildNetPacket packet (whole.getD index []) =
        .error (unreadable (group.restored code length index)) := by
      rw [missingShard index inside absent]
      exact rebuildNetPacket_of_not_readable packet failed
    obtain ⟨message, all⟩ := mapM_eq_error
      (fun index => rebuildNetPacket packet (whole.getD index [])) member step
    unfold missing at all
    dsimp only
    rw [all]
    exact ⟨_, _, rfl, filled⟩

/-! ### What is given out -/

/-- The shards of a group after another one was stored. -/
theorem isSome_shard_store {unwrapped : Option NetPacket}
    (outcome : group.store now fecPacket packet = .ok (stored, unwrapped)) (index : Nat) :
    (stored.shard index).isSome = true ↔
      index = fecPacket.packetIndex.toNat ∨ (group.shard index).isSome = true := by
  have placed : ∀ {length place : Nat} (shard : List UInt8), place < length →
      ((((grow group.receivedShards length).set place (some shard)).getD index none).isSome = true ↔
        index = place ∨ (group.shard index).isSome = true) := by
    intro length place shard inside
    rw [getD_set_grow _ inside]
    by_cases same : index = place
    · simp [same]
    · rw [if_neg same]
      exact (or_iff_right same).symm
  unfold store at outcome
  split at outcome
  · next parityData _ =>
    unfold storeParity at outcome
    dsimp only at outcome
    split_ifs at outcome with _ _ outside _ _ <;> cases outcome
    exact placed _ (Nat.lt_of_not_le outside)
  · rw [unwrap_eq] at outcome
    cases outcome
    exact placed _ (Nat.lt_succ_self _)

/-- What a group gives out of a packet that it accepts, under the index of each packet: what is
completed stands for what was missing, and the packet itself for its own index. -/
def deliveries (code : ErasureCode UInt8) (group : FecGroup) (now : Instant)
    (fecPacket : FecPacket) (packet : NetPacket) : List (Nat × NetPacket) :=
  match group.store now fecPacket packet with
  | .error _ => []
  | .ok (stored, unwrapped) =>
    let own := unwrapped.toList.map fun packet => (fecPacket.packetIndex.toNat, packet)
    if stored.isDone = true then own
    else
      match (stored.tryDecode code (packet.header.srcId, fecPacket.groupId) packet).2 with
      | .error _ => []
      | .ok none => own
      | .ok (some packets) => stored.missing.zip packets ++ own

/-- What happens to a group that accepts a packet: it stays as it is when the packet is refused;
otherwise the shard is stored, and the group is done, waits for more, completes what is missing, or
fails to. -/
inductive Receipt (code : ErasureCode UInt8) (group : FecGroup) (now : Instant)
    (fecPacket : FecPacket) (packet : NetPacket) : FecGroup → List (Nat × NetPacket) → Prop
  | refused (message : String) (outcome : group.store now fecPacket packet = .error message)
      (result : (group.receive code now fecPacket packet).2 = .error message) :
      Receipt code group now fecPacket packet group []
  | finished (stored : FecGroup) (unwrapped : Option NetPacket)
      (outcome : group.store now fecPacket packet = .ok (stored, unwrapped))
      (done : stored.isDone = true)
      (result : (group.receive code now fecPacket packet).2 = .ok (deliver unwrapped none)) :
      Receipt code group now fecPacket packet stored.done
        (unwrapped.toList.map fun packet => (fecPacket.packetIndex.toNat, packet))
  | waiting (stored : FecGroup) (unwrapped : Option NetPacket)
      (outcome : group.store now fecPacket packet = .ok (stored, unwrapped))
      (active : stored.isDone = false) (idle : ¬stored.Attempts)
      (result : (group.receive code now fecPacket packet).2 = .ok (deliver unwrapped none)) :
      Receipt code group now fecPacket packet stored
        (unwrapped.toList.map fun packet => (fecPacket.packetIndex.toNat, packet))
  | completed (stored : FecGroup) (unwrapped : Option NetPacket) (length : Nat)
      (outcome : group.store now fecPacket packet = .ok (stored, unwrapped))
      (attempts : stored.Attempts) (completable : stored.CompletableAt code length)
      (result : (group.receive code now fecPacket packet).2 =
        .ok (deliver unwrapped (some (stored.missing.map fun index =>
          rebuilt packet (stored.restored code length index))))) :
      Receipt code group now fecPacket packet stored.done
        ((stored.missing.map fun index =>
            (index, rebuilt packet (stored.restored code length index))) ++
          unwrapped.toList.map fun packet => (fecPacket.packetIndex.toNat, packet))
  | failed (stored : FecGroup) (unwrapped : Option NetPacket)
      (shards : List (Option (List UInt8))) (message : String)
      (outcome : group.store now fecPacket packet = .ok (stored, unwrapped))
      (attempts : stored.Attempts) (fails : ¬stored.Completable code)
      (kept : ∀ index, (stored.shard index).isSome = true →
        (shards.getD index none).isSome = true)
      (decoded : (stored.decodeWithRs code (packet.header.srcId, fecPacket.groupId) packet).2 =
        .error message)
      (result : (group.receive code now fecPacket packet).2 = .error message) :
      Receipt code group now fecPacket packet { stored with receivedShards := shards } []

/-- Every packet is received in one of these ways. -/
theorem receipt (code : ErasureCode UInt8) (group : FecGroup) (now : Instant)
    (fecPacket : FecPacket) (packet : NetPacket) :
    Receipt code group now fecPacket packet (group.receive code now fecPacket packet).1
      (group.deliveries code now fecPacket packet) := by
  cases outcome : group.store now fecPacket packet with
  | error message =>
    have refused : group.receive code now fecPacket packet = (group, .error message) := by
      unfold receive
      rw [outcome]
    have nothing : group.deliveries code now fecPacket packet = [] := by
      unfold deliveries
      rw [outcome]
    rw [refused, nothing]
    exact .refused message outcome (by rw [refused])
  | ok result =>
    obtain ⟨stored, unwrapped⟩ := result
    have received := receive_of_store code outcome
    have given : group.deliveries code now fecPacket packet =
        let own := unwrapped.toList.map fun packet => (fecPacket.packetIndex.toNat, packet)
        if stored.isDone = true then own
        else
          match (stored.tryDecode code (packet.header.srcId, fecPacket.groupId) packet).2 with
          | .error _ => []
          | .ok none => own
          | .ok (some packets) => stored.missing.zip packets ++ own := by
      unfold deliveries
      rw [outcome]
    by_cases done : stored.isDone = true
    · rw [if_pos done] at received
      rw [given, received]
      dsimp only
      rw [if_pos done]
      exact .finished stored unwrapped outcome done (by rw [received])
    have active : stored.isDone = false := Bool.eq_false_iff.mpr done
    rw [if_neg done] at received
    dsimp only at given
    rw [if_neg done] at given
    by_cases attempts : stored.Attempts
    · rw [tryDecode_of_attempts attempts] at received given
      by_cases completable : stored.Completable code
      · obtain ⟨length, completable⟩ := completable
        rw [decodeWithRs_of_completable attempts completable] at received given
        have labelled : stored.missing.zip (stored.missing.map fun index =>
            rebuilt packet (stored.restored code length index)) =
              stored.missing.map fun index =>
                (index, rebuilt packet (stored.restored code length index)) := by
          have labels : (stored.missing.map id).zip (stored.missing.map fun index =>
              rebuilt packet (stored.restored code length index)) =
                stored.missing.map fun index =>
                  (index, rebuilt packet (stored.restored code length index)) := List.zip_map'
          rwa [List.map_id] at labels
        dsimp only at given
        rw [labelled] at given
        rw [given, received]
        exact .completed stored unwrapped length outcome attempts completable (by rw [received])
      · obtain ⟨shards, message, decoded, kept⟩ := decodeWithRs_of_not_completable
          (packet.header.srcId, fecPacket.groupId) packet attempts completable
        rw [decoded] at received given
        rw [given, received]
        exact .failed stored unwrapped shards message outcome attempts completable kept
          (by rw [decoded]) (by rw [received])
    · rw [tryDecode_of_not_attempts active attempts] at received given
      rw [given, received]
      exact .waiting stored unwrapped outcome active attempts (by rw [received])

namespace Receipt

variable {next : FecGroup} {given : List (Nat × NetPacket)} {unwrapped : Option NetPacket}

/-- The packets that are given out are those of the result. -/
theorem map_snd (receipt : Receipt code group now fecPacket packet next given) :
    given.map Prod.snd = delivered (group.receive code now fecPacket packet).2 := by
  have own : ∀ unwrapped : Option NetPacket,
      (unwrapped.toList.map fun packet => (fecPacket.packetIndex.toNat, packet)).map Prod.snd =
        unwrapped.toList := fun unwrapped => by
    rw [List.map_map]
    exact List.map_id _
  cases receipt with
  | refused message outcome result =>
    rw [result]
    rfl
  | finished stored unwrapped outcome done result =>
    rw [result, delivered_deliver_none, own]
  | waiting _ unwrapped outcome active idle result =>
    rw [result, delivered_deliver_none, own]
  | completed stored unwrapped length outcome attempts completable result =>
    rw [result, delivered_deliver_some, List.map_append, own, List.map_map]
    rfl
  | failed stored unwrapped shards message outcome attempts fails kept decoded result =>
    rw [result]
    rfl

end Receipt

/-! ### Each index at most once -/

/-- Nothing is given out under an index anymore: the group is done, or the shard is there. -/
def Closed (group : FecGroup) (index : Nat) : Prop :=
  group.isDone = true ∨ (group.shard index).isSome = true

theorem closed_done (positive : group.dataShards ≠ 0) (index : Nat) : group.done.Closed index :=
  .inl (isDone_done positive)

namespace Receipt

variable {next : FecGroup} {given : List (Nat × NetPacket)} {unwrapped : Option NetPacket}

/-- Every index whose shard was stored is closed afterwards. -/
theorem closed_of_store (receipt : Receipt code group now fecPacket packet next given)
    (outcome : group.store now fecPacket packet = .ok (stored, unwrapped))
    (present : (stored.shard index).isSome = true) : next.Closed index := by
  cases receipt with
  | refused message otherOutcome result =>
    rw [outcome] at otherOutcome
    cases otherOutcome
  | finished other unwrapped otherOutcome done result =>
    cases outcome.symm.trans otherOutcome
    exact closed_done (of_decide_eq_true done).1 index
  | waiting _ other otherOutcome active idle result =>
    cases outcome.symm.trans otherOutcome
    exact .inr present
  | completed other unwrapped length otherOutcome attempts completable result =>
    cases outcome.symm.trans otherOutcome
    exact closed_done attempts.2.1 index
  | failed other unwrapped shards message otherOutcome attempts fails kept decoded result =>
    cases outcome.symm.trans otherOutcome
    exact .inr (kept index present)

/-- What happens to a packet that is refused, and what happens to one that is stored. -/
theorem refused_or_stored (receipt : Receipt code group now fecPacket packet next given) :
    next = group ∧ given = [] ∨
      ∃ stored unwrapped, group.store now fecPacket packet = .ok (stored, unwrapped) := by
  cases receipt with
  | refused message outcome result => exact .inl ⟨rfl, rfl⟩
  | finished stored unwrapped outcome done result => exact .inr ⟨stored, unwrapped, outcome⟩
  | waiting _ unwrapped outcome active idle result => exact .inr ⟨next, unwrapped, outcome⟩
  | completed stored unwrapped length outcome attempts completable result =>
    exact .inr ⟨stored, unwrapped, outcome⟩
  | failed stored unwrapped shards message outcome attempts fails kept decoded result =>
    exact .inr ⟨stored, unwrapped, outcome⟩

/-- A closed index stays closed. -/
theorem closed (receipt : Receipt code group now fecPacket packet next given)
    (active : group.isDone = false) (before : group.Closed index) : next.Closed index := by
  have present : (group.shard index).isSome = true := before.resolve_left (by simp [active])
  rcases receipt.refused_or_stored with ⟨rfl, -⟩ | ⟨stored, unwrapped, outcome⟩
  · exact before
  · exact receipt.closed_of_store outcome ((isSome_shard_store outcome index).mpr (.inr present))

/-- The indices under which something is given out are the index of the packet itself and the
missing ones. -/
theorem fst_given (receipt : Receipt code group now fecPacket packet next given) :
    (given.map Prod.fst).Nodup ∧ ∀ index ∈ given.map Prod.fst,
      index = fecPacket.packetIndex.toNat ∨ (group.shard index).isSome = false := by
  have own : ∀ unwrapped : Option NetPacket,
      (unwrapped.toList.map fun packet => (fecPacket.packetIndex.toNat, packet)).map Prod.fst =
        unwrapped.toList.map fun _ => fecPacket.packetIndex.toNat := fun unwrapped => by
    rw [List.map_map]
    rfl
  have single : ∀ unwrapped : Option NetPacket,
      (unwrapped.toList.map fun _ => fecPacket.packetIndex.toNat).Nodup ∧
        ∀ index ∈ unwrapped.toList.map fun _ => fecPacket.packetIndex.toNat,
          index = fecPacket.packetIndex.toNat := by
    intro unwrapped
    cases unwrapped with
    | none => exact ⟨List.nodup_nil, fun _ member => nomatch member⟩
    | some packet => exact ⟨List.nodup_singleton _, fun _ member => List.mem_singleton.mp member⟩
  cases receipt with
  | refused message outcome result => exact ⟨List.nodup_nil, fun _ member => nomatch member⟩
  | failed stored unwrapped shards message outcome attempts fails kept decoded result =>
    exact ⟨List.nodup_nil, fun _ member => nomatch member⟩
  | finished stored unwrapped outcome done result =>
    rw [own]
    exact ⟨(single unwrapped).1, fun index member => .inl ((single unwrapped).2 index member)⟩
  | waiting _ unwrapped outcome active idle result =>
    rw [own]
    exact ⟨(single unwrapped).1, fun index member => .inl ((single unwrapped).2 index member)⟩
  | completed stored unwrapped length outcome attempts completable result =>
    have absent : ∀ index ∈ stored.missing, (stored.shard index).isSome = false := by
      intro index member
      rw [(mem_missing.mp member).2]
      rfl
    have labels : (stored.missing.map fun index =>
        (index, rebuilt packet (stored.restored code length index))).map Prod.fst =
          stored.missing := by
      rw [List.map_map]
      exact List.map_id _
    rw [List.map_append, own, labels]
    refine ⟨List.nodup_append'.mpr ⟨stored.nodup_missing, (single unwrapped).1, ?_⟩, ?_⟩
    · intro index isMissing isOwn
      have present : (stored.shard index).isSome = true :=
        (isSome_shard_store outcome index).mpr (.inl ((single unwrapped).2 index isOwn))
      rw [absent index isMissing] at present
      cases present
    · intro index member
      rcases List.mem_append.mp member with isMissing | isOwn
      · refine .inr (Bool.eq_false_iff.mpr fun present => ?_)
        have stays := (isSome_shard_store outcome index).mpr (.inr present)
        rw [absent index isMissing] at stays
        cases stays
      · exact .inl ((single unwrapped).2 index isOwn)

/-- What is given out under an index was open before. -/
theorem open_of_mem (receipt : Receipt code group now fecPacket packet next given)
    (accepted : group.accepts fecPacket.packetIndex.toNat = true)
    (member : index ∈ given.map Prod.fst) : ¬group.Closed index := by
  unfold accepts at accepted
  rw [Bool.and_eq_true, Bool.not_eq_true', Option.isNone_iff_eq_none] at accepted
  rintro (done | present)
  · rw [accepted.1] at done
    cases done
  · rcases receipt.fst_given.2 index member with rfl | absent
    · rw [accepted.2] at present
      cases present
    · rw [absent] at present
      cases present

/-- What is given out under an index is closed afterwards. -/
theorem closed_of_mem (receipt : Receipt code group now fecPacket packet next given)
    (member : index ∈ given.map Prod.fst) : next.Closed index := by
  cases receipt with
  | refused message outcome result => cases member
  | failed stored unwrapped shards message outcome attempts fails kept decoded result =>
    cases member
  | finished stored unwrapped outcome done result =>
    exact closed_done (of_decide_eq_true done).1 index
  | completed stored unwrapped length outcome attempts completable result =>
    exact closed_done attempts.2.1 index
  | waiting _ unwrapped outcome active idle result =>
    refine .inr ((isSome_shard_store outcome index).mpr (.inl ?_))
    obtain ⟨entry, isGiven, rfl⟩ := List.mem_map.mp member
    obtain ⟨packet, -, rfl⟩ := List.mem_map.mp isGiven
    rfl

end Receipt

end FecGroup

end Vnt.Fec
