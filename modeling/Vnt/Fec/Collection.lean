/-
This file says what a group delivers over a whole run. The first packets, one less than there are
data, are delivered as they arrive. The next one decides: data only, and everything is there;
parity among shards of one length, and the rest is completed; parity among shards of different
lengths, and nothing but the data packet that makes the data complete is delivered any more.
-/

import Vnt.Fec.Completion

namespace Vnt.Fec

open Vnt.Base

variable {code : ErasureCode UInt8} {codec : FecCodec} {batch : Batch} {seen rest : List Nat}
  {index : Nat}

namespace Batch

/-- The flags of the packets. -/
def flags (batch : Batch) : List UInt8 := batch.packets.map fun packet => packet.header.flagsByte

/-- The flags come back: the word of flags that agrees with the flags as they arrived and with the
parity that arrived gives the missing packets. -/
def FlagsReturn (code : ErasureCode UInt8) (batch : Batch) (seen : List Nat) : Prop :=
  ∃ word : List UInt8, word.length = batch.size ∧
    (∀ index ∈ seen, ∀ packet, batch.packets[index]? = some packet →
      word[index]? = some (packet.header.flagsByte ||| fecMask)) ∧
    (∀ index ∈ seen, batch.size ≤ index →
      (code.encodeColumn batch.parity word)[index - batch.size]? =
        (code.encodeColumn batch.parity batch.flags)[index - batch.size]?) ∧
    (batch.completed word seen).Perm (batch.completed batch.flags seen)

/-- When an order of arrival recovers the batch. -/
def Recovers (code : ErasureCode UInt8) (batch : Batch) (order : List Nat) : Prop :=
  (∀ index ∈ order.take batch.size, index < batch.size) ∨
    (batch.LengthsFit (order.take batch.size) ∧ batch.FlagsReturn code (order.take batch.size)) ∨
    (¬batch.LengthsFit (order.take batch.size) ∧
      (∀ index ∈ order.take (batch.size - 1), index < batch.size) ∧ batch.HasData order)

/-! ### Facts about places -/

theorem HasData.le_length (data : batch.HasData seen) : batch.size ≤ seen.length := by
  have part : List.range batch.size ⊆ seen := fun index member =>
    data index (List.mem_range.mp member)
  have count := (List.subperm_of_subset List.nodup_range part).length_le
  rwa [List.length_range] at count

theorem HasData.lt_length (data : batch.HasData seen) (parity : batch.HasParity seen) :
    batch.size < seen.length := by
  obtain ⟨place, placeSeen, isParity⟩ := parity
  have part : place :: List.range batch.size ⊆ seen :=
    List.cons_subset.mpr ⟨placeSeen, fun index member => data index (List.mem_range.mp member)⟩
  have nodup : (place :: List.range batch.size).Nodup :=
    List.nodup_cons.mpr ⟨fun member => Nat.not_lt_of_le isParity (List.mem_range.mp member),
      List.nodup_range⟩
  have count := (List.subperm_of_subset nodup part).length_le
  rwa [List.length_cons, List.length_range] at count

theorem direct_of_le (outside : batch.size ≤ index) : batch.direct index = [] := by
  rw [direct, no_packet outside]
  rfl

theorem length_direct (inside : index < batch.size) : (batch.direct index).length = 1 := by
  obtain ⟨packet, found⟩ := exists_packet inside
  rw [direct, found]
  rfl

/-- All packets are delivered when each place is delivered directly. -/
theorem flatMap_direct_range (batch : Batch) :
    (List.range batch.size).flatMap batch.direct = batch.packets.map expected := by
  have places : ∀ packets : List NetPacket,
      (List.range packets.length).flatMap (fun index => ((packets[index]?).map expected).toList) =
        packets.map expected := by
    intro packets
    induction packets with
    | nil => rfl
    | cons packet rest inductionHypothesis =>
      rw [List.length_cons, List.range_succ_eq_map, List.flatMap_cons, List.flatMap_map,
        List.map_cons, ← inductionHypothesis]
      rfl
  exact places batch.packets

/-- Missing packets completed under their own flags are delivered right. -/
theorem completed_flags (seen : List Nat) :
    batch.completed batch.flags seen =
      ((List.range batch.size).filter fun index => decide (index ∉ seen)).flatMap batch.direct := by
  have single : ∀ index, (batch.packets[index]?).map (completedWith batch.flags index) =
      (batch.packets[index]?).map expected := by
    intro index
    cases found : batch.packets[index]? with
    | none => rfl
    | some packet =>
      have flagsByte : batch.flags.getD index default = packet.header.flagsByte := by
        rw [flags, List.getD_eq_getElem?_getD, List.getElem?_map, found]
        rfl
      rw [Option.map_some, Option.map_some, completedWith, flagsByte]
      rfl
  unfold completed
  simp only [single]
  exact List.filterMap_eq_flatMap_toList _ _

theorem completed_congr (word : List UInt8) {first second : List Nat}
    (same : ∀ place, place ∈ first ↔ place ∈ second) :
    batch.completed word first = batch.completed word second := by
  unfold completed
  simp only [same]

theorem completedFlags_congr {first second : List Nat}
    (same : ∀ place, place ∈ first ↔ place ∈ second) :
    batch.completedFlags code first = batch.completedFlags code second := by
  unfold completedFlags knownShards ErasureCode.knownAt
  simp only [same]

theorem lengthsFit_congr {first second : List Nat}
    (same : ∀ place, place ∈ first ↔ place ∈ second) :
    batch.LengthsFit first ↔ batch.LengthsFit second :=
  forall_congr' fun place => imp_congr (same place) Iff.rfl

/-- Only data packets are delivered directly. -/
theorem flatMap_direct (seen : List Nat) :
    seen.flatMap batch.direct =
      (seen.filter fun index => decide (index < batch.size)).flatMap batch.direct := by
  induction seen with
  | nil => rfl
  | cons index rest inductionHypothesis =>
    rw [List.flatMap_cons, List.filter_cons, inductionHypothesis]
    split
    · rw [List.flatMap_cons]
    · next outside =>
      rw [direct_of_le (Nat.le_of_not_lt fun inside => outside (decide_eq_true inside)),
        List.nil_append]

theorem length_flatMap_direct (seen : List Nat) :
    (seen.flatMap batch.direct).length =
      (seen.filter fun index => decide (index < batch.size)).length := by
  induction seen with
  | nil => rfl
  | cons index rest inductionHypothesis =>
    rw [List.flatMap_cons, List.length_append, List.filter_cons, inductionHypothesis]
    split
    · next inside => rw [length_direct (of_decide_eq_true inside), List.length_cons, Nat.add_comm]
    · next outside =>
      rw [direct_of_le (Nat.le_of_not_lt fun inside => outside (decide_eq_true inside)),
        List.length_nil, Nat.zero_add]

/-- What is delivered directly and what is missing are all packets. -/
theorem perm_direct_completed (batch : Batch) (nodup : seen.Nodup) :
    (seen.flatMap batch.direct ++ batch.completed batch.flags seen).Perm
      (batch.packets.map expected) := by
  have same : (seen.filter fun index => decide (index < batch.size)).Perm
      ((List.range batch.size).filter fun index => decide (index ∈ seen)) := by
    refine (List.perm_ext_iff_of_nodup (nodup.filter _) (List.nodup_range.filter _)).mpr ?_
    intro index
    rw [List.mem_filter, List.mem_filter, List.mem_range, decide_eq_true_iff, decide_eq_true_iff]
    exact and_comm
  have whole : ((List.range batch.size).filter (fun index => decide (index ∈ seen)) ++
      (List.range batch.size).filter fun index => decide (index ∉ seen)).Perm
        (List.range batch.size) := by
    have split :=
      List.filter_append_perm (fun index => decide (index ∈ seen)) (List.range batch.size)
    simpa only [decide_not] using split
  rw [flatMap_direct, completed_flags, ← List.flatMap_append, ← flatMap_direct_range]
  exact ((same.append_right _).trans whole).flatMap_right _

/-- Data packets in some order are delivered whole. -/
theorem perm_direct (nodup : seen.Nodup) (data : batch.HasData seen) :
    (seen.flatMap batch.direct).Perm (batch.packets.map expected) := by
  have nothing : batch.completed batch.flags seen = [] := by
    have all : (List.range batch.size).filter (fun index => decide (index ∉ seen)) = [] := by
      refine List.filter_eq_nil_iff.mpr fun index member => ?_
      simpa using data index (List.mem_range.mp member)
    rw [completed_flags, all, List.flatMap_nil]
  have whole := perm_direct_completed batch nodup
  rwa [nothing, List.append_nil] at whole

end Batch

namespace Collection

open Batch

/-! ### Runs -/

theorem deliver_finished (order : List Nat) : deliver code batch .finished order = [] := by
  induction order with
  | nil => rfl
  | cons index rest inductionHypothesis => exact inductionHypothesis

theorem step_new (fresh : index ∉ seen) :
    (collecting seen).step code batch index =
      if ¬batch.HasParity (index :: seen) then
        (collecting (index :: seen), batch.direct index)
      else if batch.HasData (index :: seen) then (finished, batch.direct index)
      else if (index :: seen).length < batch.size then
        (collecting (index :: seen), batch.direct index)
      else if batch.LengthsFit (index :: seen) then
        (finished, batch.completed (batch.completedFlags code (index :: seen)) (index :: seen) ++
          batch.direct index)
      else (collecting (index :: seen), []) := if_neg fresh

/-- While no parity is there, or fewer shards than data, packets are delivered as they arrive. -/
theorem deliver_append {order : List Nat} (nodup : (order.reverse ++ seen).Nodup)
    (early : ¬batch.HasParity (order.reverse ++ seen) ∨
      (order.reverse ++ seen).length < batch.size) (rest : List Nat) :
    deliver code batch (collecting seen) (order ++ rest) =
      order.flatMap batch.direct ++ deliver code batch
        (collecting (order.reverse ++ seen)) rest := by
  induction order generalizing seen with
  | nil => rfl
  | cons index order inductionHypothesis =>
    rw [List.reverse_cons, List.append_assoc, List.singleton_append] at nodup early
    have fresh : index ∉ seen :=
      (List.nodup_cons.mp (nodup.sublist (List.sublist_append_right _ _))).1
    have step : (collecting seen).step code batch index =
        (collecting (index :: seen), batch.direct index) := by
      rw [step_new fresh]
      rcases early with noParity | few
      · have still : ¬batch.HasParity (index :: seen) := fun ⟨place, member, isParity⟩ =>
          noParity ⟨place, List.mem_append_right _ member, isParity⟩
        rw [if_pos still]
      · have short : (index :: seen).length < batch.size := by
          rw [List.length_append] at few
          omega
        have noData : ¬batch.HasData (index :: seen) := fun data =>
          Nat.not_lt_of_le (HasData.le_length data) short
        rw [if_neg noData, if_pos short]
        split <;> rfl
    rw [List.cons_append, deliver, step, inductionHypothesis nodup early, List.flatMap_cons,
      List.append_assoc, List.reverse_cons, List.append_assoc, List.singleton_append]

/-- When all data are there, nothing more is delivered. -/
theorem deliver_hasData (data : batch.HasData seen) (order : List Nat) :
    deliver code batch (collecting seen) order = [] := by
  induction order with
  | nil => rfl
  | cons index rest inductionHypothesis =>
    rw [deliver]
    by_cases known : index ∈ seen
    · have step : (collecting seen).step code batch index = (collecting seen, []) := if_pos known
      rw [step]
      exact inductionHypothesis
    · have isParity : batch.size ≤ index := Nat.le_of_not_lt fun inside => known (data index inside)
      have parity : batch.HasParity (index :: seen) := ⟨index, List.mem_cons_self, isParity⟩
      have complete : batch.HasData (index :: seen) :=
        fun place inside => List.mem_cons_of_mem _ (data place inside)
      have step : (collecting seen).step code batch index = (finished, []) := by
        rw [step_new known, if_neg (not_not.mpr parity), if_pos complete, direct_of_le isParity]
      rw [step, deliver_finished]
      rfl

/-- Once shards of different lengths stand in the way, at most the data packet that makes the data
complete is delivered. -/
theorem deliver_unfit (parity : batch.HasParity seen) (unfit : ¬batch.LengthsFit seen)
    (missing : ¬batch.HasData seen) (enough : batch.size ≤ seen.length) (order : List Nat) :
    (¬batch.HasData (order ++ seen) ∧ deliver code batch (collecting seen) order = []) ∨
      (batch.HasData (order ++ seen) ∧ ∃ last < batch.size, last ∉ seen ∧ last ∈ order ∧
        deliver code batch (collecting seen) order = batch.direct last) := by
  induction order generalizing seen with
  | nil => exact .inl ⟨missing, rfl⟩
  | cons index rest inductionHypothesis =>
    rw [deliver]
    by_cases known : index ∈ seen
    · have step : (collecting seen).step code batch index = (collecting seen, []) := if_pos known
      have same : batch.HasData (index :: rest ++ seen) ↔ batch.HasData (rest ++ seen) := by
        refine forall₂_congr fun place _ => ?_
        rw [List.cons_append, List.mem_cons, List.mem_append]
        exact ⟨fun member => member.elim (fun isIndex => .inr (isIndex ▸ known)) id, .inr⟩
      rw [step, same]
      rcases inductionHypothesis parity unfit missing enough with ⟨notAll, nothing⟩ |
        ⟨all, last, inside, new, member, delivered⟩
      · exact .inl ⟨notAll, nothing⟩
      · exact .inr ⟨all, last, inside, new, List.mem_cons_of_mem _ member, delivered⟩
    · have parityNext : batch.HasParity (index :: seen) := by
        obtain ⟨place, member, isParity⟩ := parity
        exact ⟨place, List.mem_cons_of_mem _ member, isParity⟩
      have unfitNext : ¬batch.LengthsFit (index :: seen) := fun fit =>
        unfit fun place member => fit place (List.mem_cons_of_mem _ member)
      have members : ∀ place, place ∈ index :: rest ++ seen ↔ place ∈ rest ++ index :: seen := by
        intro place
        simp only [List.cons_append, List.mem_cons, List.mem_append]
        tauto
      have same : batch.HasData (index :: rest ++ seen) ↔ batch.HasData (rest ++ index :: seen) :=
        forall₂_congr fun place _ => members place
      by_cases complete : batch.HasData (index :: seen)
      · have step : (collecting seen).step code batch index = (finished, batch.direct index) := by
          rw [step_new known, if_neg (not_not.mpr parityNext), if_pos complete]
        obtain ⟨place, inside, absent⟩ : ∃ place < batch.size, place ∉ seen := by
          by_contra none
          exact missing fun place inside => by_contra fun absent => none ⟨place, inside, absent⟩
        have isIndex : place = index :=
          (List.mem_cons.mp (complete place inside)).resolve_right absent
        refine .inr ⟨same.mpr fun other below => List.mem_append_right _ (complete other below),
          index, isIndex ▸ inside, known, List.mem_cons_self, ?_⟩
        rw [step, deliver_finished, List.append_nil]
      · have many : ¬(index :: seen).length < batch.size :=
          Nat.not_lt_of_le (Nat.le_succ_of_le enough)
        have step : (collecting seen).step code batch index = (collecting (index :: seen), []) := by
          rw [step_new known, if_neg (not_not.mpr parityNext), if_neg complete, if_neg many,
            if_neg unfitNext]
        rw [step, same]
        rcases inductionHypothesis parityNext unfitNext complete (Nat.le_succ_of_le enough) with
          ⟨notAll, nothing⟩ | ⟨all, last, inside, new, member, delivered⟩
        · exact .inl ⟨notAll, nothing⟩
        · exact .inr ⟨all, last, inside, fun isSeen => new (List.mem_cons_of_mem _ isSeen),
            List.mem_cons_of_mem _ member, delivered⟩

/-! ### Which orders recover the batch -/

/-- As many data places as there are data are all of them. -/
theorem hasData_of_length (nodup : seen.Nodup) (isData : ∀ index ∈ seen, index < batch.size)
    (enough : batch.size ≤ seen.length) : batch.HasData seen := by
  have all : seen.filter (fun index => decide (index < batch.size)) = seen :=
    List.filter_eq_self.mpr fun index member => decide_eq_true (isData index member)
  have few : seen.length ≤ batch.size := by
    have part : seen ⊆ List.range batch.size :=
      fun index member => List.mem_range.mpr (isData index member)
    have count := (List.subperm_of_subset nodup part).length_le
    rwa [List.length_range] at count
  exact (length_filter_lt_eq_iff nodup _).mp (all.symm ▸ Nat.le_antisymm few enough)

section Decisive

variable {before : List Nat} {last : Nat}

theorem deliver_before (nodup : (before ++ last :: rest).Nodup)
    (length : before.length + 1 = batch.size) :
    deliver code batch (collecting []) (before ++ last :: rest) = before.flatMap batch.direct ++
      (((collecting before.reverse).step code batch last).2 ++
        deliver code batch ((collecting before.reverse).step code batch last).1 rest) := by
  have distinct : (before.reverse ++ []).Nodup := by
    rw [List.append_nil, List.nodup_reverse]
    exact nodup.sublist (List.sublist_append_left _ _)
  have few : (before.reverse ++ []).length < batch.size := by
    rw [List.append_nil, List.length_reverse]
    omega
  rw [deliver_append distinct (.inr few), List.append_nil, deliver]

theorem mem_reverse_iff (before : List Nat) (last place : Nat) :
    place ∈ last :: before.reverse ↔ place ∈ before ++ [last] := by
  simp only [List.mem_cons, List.mem_reverse, List.mem_append, List.not_mem_nil, or_false]
  exact or_comm

/-- Data only: everything is there. -/
theorem deliver_data (nodup : (before ++ last :: rest).Nodup)
    (length : before.length + 1 = batch.size)
    (isData : ∀ index ∈ before ++ [last], index < batch.size) :
    (deliver code batch (collecting []) (before ++ last :: rest)).Perm
      (batch.packets.map expected) := by
  have distinct : (before ++ [last]).Nodup := by
    rw [List.append_cons] at nodup
    exact nodup.sublist (List.sublist_append_left _ _)
  have data : batch.HasData (before ++ [last]) :=
    hasData_of_length distinct isData (by rw [List.length_append, List.length_singleton]; omega)
  have noParity : ¬batch.HasParity ((before ++ [last]).reverse ++ []) := by
    rintro ⟨place, member, isParity⟩
    rw [List.append_nil, List.mem_reverse] at member
    exact Nat.not_lt_of_le isParity (isData place member)
  have dataReverse : batch.HasData ((before ++ [last]).reverse ++ []) := by
    intro place inside
    rw [List.append_nil, List.mem_reverse]
    exact data place inside
  rw [List.append_cons, deliver_append
    (by rw [List.append_nil, List.nodup_reverse]; exact distinct) (.inl noParity),
    deliver_hasData dataReverse, List.append_nil]
  exact perm_direct distinct data

/-- As many shards as there are data packets, with parity among them, are not all the data. -/
theorem incomplete_of_parity (length : before.length + 1 = batch.size)
    (parity : batch.HasParity (before ++ [last])) :
    (last :: before.reverse).length = batch.size ∧ batch.HasParity (last :: before.reverse) ∧
      ¬batch.HasData (last :: before.reverse) := by
  have count : (last :: before.reverse).length = batch.size := by
    rw [List.length_cons, List.length_reverse, length]
  have hasParity : batch.HasParity (last :: before.reverse) := by
    obtain ⟨place, member, isParity⟩ := parity
    exact ⟨place, (mem_reverse_iff before last place).mpr member, isParity⟩
  exact ⟨count, hasParity, fun data => Nat.ne_of_gt (data.lt_length hasParity) count⟩

/-- The step that decides. -/
theorem step_decisive (nodup : (before ++ last :: rest).Nodup)
    (length : before.length + 1 = batch.size) (parity : batch.HasParity (before ++ [last])) :
    (collecting before.reverse).step code batch last =
      if batch.LengthsFit (before ++ [last]) then
        (finished,
          batch.completed (batch.completedFlags code (before ++ [last])) (before ++ [last]) ++
          batch.direct last)
      else (collecting (last :: before.reverse), []) := by
  have new : last ∉ before.reverse := fun member =>
    (List.nodup_append.mp nodup).2.2 last (List.mem_reverse.mp member) last List.mem_cons_self rfl
  have same := mem_reverse_iff before last
  obtain ⟨count, hasParity, missing⟩ := incomplete_of_parity length parity
  rw [step_new new, if_neg (not_not.mpr hasParity), if_neg missing,
    if_neg (Nat.not_lt_of_le (Nat.le_of_eq count.symm)), completed_congr _ same,
    completedFlags_congr same]
  simp only [lengthsFit_congr same]

/-- Parity among shards of one length completes the rest. -/
theorem deliver_fit (nodup : (before ++ last :: rest).Nodup)
    (length : before.length + 1 = batch.size) (parity : batch.HasParity (before ++ [last]))
    (fit : batch.LengthsFit (before ++ [last])) :
    (deliver code batch (collecting []) (before ++ last :: rest)).Perm
      ((before ++ [last]).flatMap batch.direct ++
        batch.completed (batch.completedFlags code (before ++ [last])) (before ++ [last])) := by
  rw [deliver_before nodup length, step_decisive nodup length parity, if_pos fit]
  dsimp only
  rw [deliver_finished, List.append_nil, List.flatMap_append, List.flatMap_singleton,
    List.append_assoc]
  exact List.perm_append_comm.append_left _

/-- Parity among shards of different lengths. -/
theorem deliver_unfit_eq (nodup : (before ++ last :: rest).Nodup)
    (length : before.length + 1 = batch.size) (parity : batch.HasParity (before ++ [last]))
    (unfit : ¬batch.LengthsFit (before ++ [last])) :
    deliver code batch (collecting []) (before ++ last :: rest) = before.flatMap batch.direct ++
      deliver code batch (collecting (last :: before.reverse)) rest := by
  rw [deliver_before nodup length, step_decisive nodup length parity, if_neg unfit]
  rfl

/-- With shards of different lengths, the batch is recovered exactly when all data packets but one
came first and that one comes too. -/
theorem perm_unfit_iff (nodup : (before ++ last :: rest).Nodup)
    (length : before.length + 1 = batch.size) (parity : batch.HasParity (before ++ [last]))
    (unfit : ¬batch.LengthsFit (before ++ [last])) :
    (deliver code batch (collecting []) (before ++ last :: rest)).Perm
        (batch.packets.map expected) ↔
      (∀ index ∈ before, index < batch.size) ∧ batch.HasData (before ++ last :: rest) := by
  have same := mem_reverse_iff before last
  obtain ⟨count, hasParity, missing⟩ := incomplete_of_parity length parity
  have whole : batch.HasData (rest ++ last :: before.reverse) ↔
      batch.HasData (before ++ last :: rest) := by
    refine forall₂_congr fun place _ => ?_
    simp only [List.mem_append, List.mem_cons, List.mem_reverse]
    tauto
  have total : (batch.packets.map expected).length = before.length + 1 := by
    rw [List.length_map, length, Batch.size]
  have few : (before.flatMap batch.direct).length ≤ before.length := by
    rw [length_flatMap_direct]
    exact List.length_filter_le _ _
  rw [deliver_unfit_eq nodup length parity unfit, ← whole]
  rcases deliver_unfit hasParity (fun fit => unfit ((lengthsFit_congr same).mp fit)) missing
      (Nat.le_of_eq count.symm) rest with
    ⟨notAll, nothing⟩ | ⟨all, place, inside, new, _, delivered⟩
  · rw [nothing, List.append_nil]
    refine ⟨fun perm => ?_, fun both => absurd both.2 notAll⟩
    have lengths := perm.length_eq
    omega
  · rw [delivered]
    constructor
    · intro perm
      have lengths := perm.length_eq
      rw [List.length_append, length_direct inside, length_flatMap_direct] at lengths
      have isData : (before.filter fun index => decide (index < batch.size)).length =
          before.length := by omega
      refine ⟨fun index member => ?_, all⟩
      exact of_decide_eq_true (List.length_filter_eq_length_iff.mp isData index member)
    · rintro ⟨isData, _⟩
      have distinct : (before ++ [place]).Nodup := by
        refine List.nodup_append.mpr ⟨nodup.sublist (List.sublist_append_left _ _),
          List.nodup_singleton _, fun index member other isPlace => ?_⟩
        rintro rfl
        rw [List.mem_singleton.mp isPlace] at member
        exact new (List.mem_cons_of_mem _ (List.mem_reverse.mpr member))
      have data : batch.HasData (before ++ [place]) := by
        refine hasData_of_length distinct (fun index member => ?_) (by
          rw [List.length_append, List.length_singleton, length])
        rcases List.mem_append.mp member with early | isPlace
        · exact isData index early
        · exact List.mem_singleton.mp isPlace ▸ inside
      have perm := perm_direct distinct data
      rwa [List.flatMap_append, List.flatMap_singleton] at perm

end Decisive

/-! ### Whether the flags come back -/

/-- The symbols a completion of the flags reads. -/
def flagSymbol (code : ErasureCode UInt8) (batch : Batch) (index : Nat) : UInt8 :=
  (batch.arrived code index).getD 1 default

theorem flagSymbol_data {packet : NetPacket} (found : batch.packets[index]? = some packet) :
    flagSymbol code batch index = packet.header.flagsByte ||| fecMask := by
  rw [flagSymbol, arrived, found]
  rfl

theorem length_flags (batch : Batch) : batch.flags.length = batch.size := List.length_map _

theorem dataColumn_one (batch : Batch) : batch.dataColumn 1 = batch.flags := by
  refine List.ext_getElem? fun index => ?_
  rw [getElem?_dataColumn, flags, List.getElem?_map]
  rfl

theorem flagSymbol_parity (mds : code.Mds batch.size batch.parity)
    (inside : index < batch.size + batch.parity) (isParity : batch.size ≤ index) :
    (code.encodeColumn batch.parity batch.flags)[index - batch.size]? =
      some (flagSymbol code batch index) := by
  have long : 1 < maxLen batch.shards := by
    obtain ⟨item, member, length⟩ := exists_maxLen batch.shards_ne_nil
    exact length ▸ Nat.lt_of_lt_of_le (by decide) (length_shard member)
  have length := mds.length_encodeColumn batch.flags (length_flags batch)
  have shard : batch.arrived code index = batch.parityShard code index := by
    rw [arrived, no_packet isParity]
  rw [flagSymbol, shard, getD_parityShard isParity inside long, dataColumn_one,
    List.getD_eq_getElem?_getD, List.getElem?_eq_getElem (by omega)]
  rfl

theorem completedFlags_eq (seen : List Nat) : batch.completedFlags code seen =
    code.reconstructColumn batch.size batch.parity
      (ErasureCode.knownAt (batch.size + batch.parity) seen (flagSymbol code batch)) := by
  rw [completedFlags, knownShards, ErasureCode.knownColumn_knownAt]
  rfl

/-- A word agrees with the flags that are there exactly when it does so at the data packets and in
the parity. -/
theorem agrees_iff (mds : code.Mds batch.size batch.parity)
    (inside : ∀ index ∈ seen, index < batch.size + batch.parity) {word : List UInt8}
    (length : word.length = batch.size) :
    (∀ index ∈ seen, (word ++ code.encodeColumn batch.parity word)[index]? =
      some (flagSymbol code batch index)) ↔
    (∀ index ∈ seen, ∀ packet, batch.packets[index]? = some packet →
      word[index]? = some (packet.header.flagsByte ||| fecMask)) ∧
    (∀ index ∈ seen, batch.size ≤ index →
      (code.encodeColumn batch.parity word)[index - batch.size]? =
        (code.encodeColumn batch.parity batch.flags)[index - batch.size]?) := by
  constructor
  · intro agrees
    refine ⟨fun index member packet found => ?_, fun index member isParity => ?_⟩
    · have isData : index < batch.size := (List.getElem?_eq_some_iff.mp found).1
      have symbol := agrees index member
      rwa [List.getElem?_append_left (length.symm ▸ isData), flagSymbol_data found] at symbol
    · have symbol := agrees index member
      rw [List.getElem?_append_right (length.symm ▸ isParity), length] at symbol
      exact symbol.trans (flagSymbol_parity mds (inside index member) isParity).symm
  · rintro ⟨data, parity⟩ index member
    cases found : batch.packets[index]? with
    | some packet =>
      have isData : index < batch.size := (List.getElem?_eq_some_iff.mp found).1
      rw [List.getElem?_append_left (length.symm ▸ isData), flagSymbol_data found]
      exact data index member packet found
    | none =>
      have isParity : batch.size ≤ index := List.getElem?_eq_none_iff.mp found
      rw [List.getElem?_append_right (length.symm ▸ isParity), length, parity index member isParity]
      exact flagSymbol_parity mds (inside index member) isParity

/-- The flags that are completed come back exactly when there is a word that brings them back. -/
theorem flagsReturn_iff (mds : code.Mds batch.size batch.parity) (nodup : seen.Nodup)
    (inside : ∀ index ∈ seen, index < batch.size + batch.parity)
    (exact : seen.length = batch.size) :
    batch.FlagsReturn code seen ↔
      (batch.completed (batch.completedFlags code seen) seen).Perm
        (batch.completed batch.flags seen) := by
  have finite : Finite UInt8 := .of_injective UInt8.toFin fun _ _ => UInt8.toFin_inj.mp
  rw [completedFlags_eq]
  constructor
  · rintro ⟨word, length, data, parity, perm⟩
    have agrees := (agrees_iff mds inside length).mpr ⟨data, parity⟩
    rwa [mds.reconstructColumn_knownAt nodup inside (Nat.le_of_eq exact.symm) length agrees]
  · intro perm
    obtain ⟨word, length, agrees⟩ := mds.exists_word nodup inside exact (flagSymbol code batch)
    rw [mds.reconstructColumn_knownAt nodup inside (Nat.le_of_eq exact.symm) length agrees] at perm
    obtain ⟨data, parity⟩ := (agrees_iff mds inside length).mp agrees
    exact ⟨word, length, data, parity, perm⟩

/-- An order of arrival delivers the packets of the batch exactly when it recovers the batch. -/
theorem perm_iff_recovers (mds : code.Mds batch.size batch.parity) {order : List Nat}
    (nodup : order.Nodup) (inside : ∀ index ∈ order, index < batch.size + batch.parity)
    (enough : batch.size ≤ order.length) :
    (deliver code batch (collecting []) order).Perm (batch.packets.map expected) ↔
      batch.Recovers code order := by
  have positive := batch.size_pos
  obtain ⟨last, isLast⟩ : ∃ last, order[batch.size - 1]? = some last :=
    ⟨_, List.getElem?_eq_getElem (by omega)⟩
  have first : order.take batch.size = order.take (batch.size - 1) ++ [last] := by
    have split := List.take_add_one (l := order) (i := batch.size - 1)
    rwa [isLast, Nat.sub_add_cancel positive] at split
  have shape : order = order.take (batch.size - 1) ++ last :: order.drop batch.size := by
    rw [List.append_cons, ← first, List.take_append_drop]
  have length : (order.take (batch.size - 1)).length + 1 = batch.size := by
    rw [List.length_take]
    omega
  have firstInside : ∀ index ∈ order.take batch.size, index < batch.size + batch.parity :=
    fun index member => inside index (List.mem_of_mem_take member)
  have firstNodup : (order.take batch.size).Nodup := nodup.sublist (List.take_sublist _ _)
  have firstLength : (order.take batch.size).length = batch.size := by
    rw [List.length_take, Nat.min_eq_left enough]
  unfold Batch.Recovers
  rw [first] at firstInside firstNodup firstLength ⊢
  by_cases parity : batch.HasParity (order.take (batch.size - 1) ++ [last])
  · have notData : ¬∀ index ∈ order.take (batch.size - 1) ++ [last], index < batch.size := by
      obtain ⟨place, member, isParity⟩ := parity
      exact fun isData => Nat.not_lt_of_le isParity (isData place member)
    rw [or_iff_right notData]
    by_cases fit : batch.LengthsFit (order.take (batch.size - 1) ++ [last])
    · have delivered : (deliver code batch (collecting []) (order.take (batch.size - 1) ++
          last :: order.drop batch.size)).Perm _ := deliver_fit (shape ▸ nodup) length parity fit
      rw [← shape] at delivered
      have whole := perm_direct_completed batch firstNodup
      rw [or_iff_left fun unfit => unfit.1 fit, and_iff_right fit,
        flagsReturn_iff mds firstNodup firstInside firstLength]
      constructor
      · intro perm
        exact (List.perm_append_left_iff _).mp (delivered.symm.trans (perm.trans whole.symm))
      · intro perm
        exact delivered.trans ((perm.append_left _).trans whole)
    · have split : (deliver code batch (collecting []) (order.take (batch.size - 1) ++
          last :: order.drop batch.size)).Perm _ ↔ _ :=
        perm_unfit_iff (shape ▸ nodup) length parity fit
      rw [← shape] at split
      rw [split, or_iff_right fun fits => fit fits.1, and_iff_right fit]
  · have isData : ∀ index ∈ order.take (batch.size - 1) ++ [last], index < batch.size :=
      fun index member => Nat.lt_of_not_le fun isParity => parity ⟨index, member, isParity⟩
    have delivered : (deliver code batch (collecting []) (order.take (batch.size - 1) ++
        last :: order.drop batch.size)).Perm _ := deliver_data (shape ▸ nodup) length isData
    rw [← shape] at delivered
    exact iff_of_true delivered (.inl isData)

end Collection

end Vnt.Fec
