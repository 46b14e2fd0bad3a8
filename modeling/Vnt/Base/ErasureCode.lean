/-
This file develops systematic erasure codes on shards. A code works on one symbol of every
shard at a time: the parity symbols are a function of the data symbols in that position, and a
word with some symbols missing is completed to data symbols. Shards of one length are coded
position by position. Of the code only that any `dataShards` symbols of a word determine it is
used, so a missing shard comes back right in every position in which the shards that are
present agree with one word, and in no other.
-/

import Mathlib.Data.Finite.Prod
import Mathlib.Data.List.OfFn
import Mathlib.Data.List.Perm.Subperm

namespace Vnt.Base

/-- A code for `n` data and `p` parity symbols, for all `n` and `p`. -/
structure ErasureCode (Symbol : Type) where
  encodeColumn : Nat → List Symbol → List Symbol
  reconstructColumn : Nat → Nat → List (Option Symbol) → List Symbol

namespace ErasureCode

variable {Symbol : Type}

/-- The known symbols are those of the word. -/
def Agrees (known : List (Option Symbol)) (word : List Symbol) : Prop :=
  ∀ index symbol, known.getD index none = some symbol → word[index]? = some symbol

/-- Any `dataShards` symbols of a word determine it. -/
structure Mds (code : ErasureCode Symbol) (dataShards parityShards : Nat) : Prop where
  length_encodeColumn : ∀ data, data.length = dataShards →
    (code.encodeColumn parityShards data).length = parityShards
  reconstructColumn : ∀ data known, data.length = dataShards →
    known.length = dataShards + parityShards →
    Agrees known (data ++ code.encodeColumn parityShards data) →
    dataShards ≤ (known.filter Option.isSome).length →
      code.reconstructColumn dataShards parityShards known = data

/-- The length of shards that all have one length other than 0. -/
def commonLength (shards : List (List Symbol)) : Option Nat :=
  match shards with
  | [] => none
  | first :: rest =>
    if first.length ≠ 0 ∧ ∀ shard ∈ rest, shard.length = first.length then some first.length
    else none

theorem commonLength_eq_some {shards : List (List Symbol)} {length : Nat} :
    commonLength shards = some length ↔
      shards ≠ [] ∧ length ≠ 0 ∧ ∀ shard ∈ shards, shard.length = length := by
  unfold commonLength
  cases shards with
  | nil => simp
  | cons first rest =>
    simp only [Option.ite_none_right_eq_some, Option.some.injEq, ne_eq, reduceCtorEq,
      not_false_eq_true, true_and, List.forall_mem_cons]
    constructor
    · rintro ⟨⟨positive, same⟩, rfl⟩
      exact ⟨positive, rfl, same⟩
    · rintro ⟨positive, rfl, same⟩
      exact ⟨⟨positive, same⟩, rfl⟩

/-- The numbers of shards a code can be built for. -/
def Buildable (dataShards parityShards : Nat) : Prop :=
  0 < dataShards ∧ 0 < parityShards ∧ dataShards + parityShards ≤ 256

instance (dataShards parityShards : Nat) : Decidable (Buildable dataShards parityShards) :=
  inferInstanceAs (Decidable (_ ∧ _))

/-! ### Words with some places known -/

/-- The places below a bound that are listed. -/
theorem perm_filter_range {places : List Nat} (nodup : places.Nodup) {total : Nat}
    (inside : ∀ index ∈ places, index < total) :
    ((List.range total).filter fun index => decide (index ∈ places)).Perm places := by
  refine (List.perm_ext_iff_of_nodup (List.nodup_range.filter _) nodup).mpr fun index => ?_
  rw [List.mem_filter, List.mem_range, decide_eq_true_iff]
  exact ⟨And.right, fun member => ⟨inside index member, member⟩⟩

/-- A word of which the listed places are known. -/
def knownAt (total : Nat) (places : List Nat) (symbol : Nat → Symbol) : List (Option Symbol) :=
  (List.range total).map fun index => if index ∈ places then some (symbol index) else none

section KnownAt

variable {total : Nat} {places : List Nat} {symbol : Nat → Symbol}

@[simp] theorem length_knownAt : (knownAt total places symbol).length = total := by
  rw [knownAt, List.length_map, List.length_range]

theorem getD_knownAt {index : Nat} {found : Symbol}
    (known : (knownAt total places symbol).getD index none = some found) :
    index ∈ places ∧ symbol index = found := by
  rw [List.getD_eq_getElem?_getD, knownAt, List.getElem?_map] at known
  by_cases below : index < total
  · rw [List.getElem?_range below, Option.map_some, Option.getD_some] at known
    split at known
    · next member => exact ⟨member, Option.some_inj.mp known⟩
    · cases known
  · rw [List.getElem?_eq_none (by rw [List.length_range]; exact Nat.le_of_not_lt below)] at known
    cases known

theorem filterMap_knownAt : (knownAt total places symbol).filterMap id =
    ((List.range total).filter fun index => decide (index ∈ places)).map symbol := by
  unfold knownAt
  induction List.range total with
  | nil => rfl
  | cons index rest inductionHypothesis =>
    rw [List.map_cons, List.filterMap_cons, List.filter_cons, inductionHypothesis]
    by_cases member : index ∈ places
    · simp only [member, decide_true, if_true, id, List.map_cons]
    · simp only [member, decide_false, if_false, id, Bool.false_eq_true]

/-- The known symbols are those of the places, in some order. -/
theorem perm_filterMap_knownAt (nodup : places.Nodup) (inside : ∀ index ∈ places, index < total) :
    ((knownAt total places symbol).filterMap id).Perm (places.map symbol) := by
  rw [filterMap_knownAt]
  exact (perm_filter_range nodup inside).map symbol

theorem length_filter_isSome (known : List (Option Symbol)) :
    (known.filter Option.isSome).length = (known.filterMap id).length := by
  induction known with
  | nil => rfl
  | cons first rest inductionHypothesis => cases first <;> simp [inductionHypothesis]

/-- Enough known places determine the word they agree with. -/
theorem Mds.reconstructColumn_knownAt {code : ErasureCode Symbol} {dataShards parityShards : Nat}
    (mds : code.Mds dataShards parityShards) (nodup : places.Nodup)
    (inside : ∀ index ∈ places, index < dataShards + parityShards)
    (enough : dataShards ≤ places.length) {word : List Symbol} (length : word.length = dataShards)
    (agrees : ∀ index ∈ places,
      (word ++ code.encodeColumn parityShards word)[index]? = some (symbol index)) :
    code.reconstructColumn dataShards parityShards
      (knownAt (dataShards + parityShards) places symbol) = word := by
  refine mds.reconstructColumn word _ length length_knownAt (fun index found known => ?_) ?_
  · obtain ⟨member, rfl⟩ := getD_knownAt known
    exact agrees index member
  · rw [length_filter_isSome, (perm_filterMap_knownAt nodup inside).length_eq, List.length_map]
    exact enough

/-- As many places as there are data can be filled arbitrarily: over a finite alphabet, words
are determined by them, so there are as many words as ways to fill them. -/
theorem Mds.exists_word [Inhabited Symbol] [Finite Symbol] {code : ErasureCode Symbol}
    {dataShards parityShards : Nat} (mds : code.Mds dataShards parityShards) (nodup : places.Nodup)
    (inside : ∀ index ∈ places, index < dataShards + parityShards)
    (exact : places.length = dataShards) (symbol : Nat → Symbol) :
    ∃ word : List Symbol, word.length = dataShards ∧ ∀ index ∈ places,
      (word ++ code.encodeColumn parityShards word)[index]? = some (symbol index) := by
  have present : ∀ word : List Symbol, word.length = dataShards → ∀ index ∈ places,
      (word ++ code.encodeColumn parityShards word)[index]? =
        some ((word ++ code.encodeColumn parityShards word).getD index default) := by
    intro word length index member
    have below := inside index member
    have total : (word ++ code.encodeColumn parityShards word).length =
        dataShards + parityShards := by
      rw [List.length_append, mds.length_encodeColumn word length, length]
    rw [List.getD_eq_getElem?_getD, List.getElem?_eq_getElem (total.symm ▸ below)]
    rfl
  let read (word : Fin dataShards → Symbol) (place : Fin dataShards) : Symbol :=
    (List.ofFn word ++ code.encodeColumn parityShards (List.ofFn word)).getD
      (places.get (place.cast exact.symm)) default
  have determined : Function.Injective read := by
    intro first second same
    have agree : ∀ index ∈ places,
        (List.ofFn second ++ code.encodeColumn parityShards (List.ofFn second))[index]? =
          some ((List.ofFn first ++ code.encodeColumn parityShards (List.ofFn first)).getD index
            default) := by
      intro index member
      obtain ⟨place, rfl⟩ := List.mem_iff_get.mp member
      rw [present _ List.length_ofFn _ member]
      exact congrArg some (congrFun same (place.cast exact)).symm
    have ofFirst := mds.reconstructColumn_knownAt nodup inside (Nat.le_of_eq exact.symm)
      List.length_ofFn (present (List.ofFn first) List.length_ofFn)
    have ofSecond := mds.reconstructColumn_knownAt nodup inside (Nat.le_of_eq exact.symm)
      List.length_ofFn agree
    exact List.ofFn_injective (ofFirst.symm.trans ofSecond)
  obtain ⟨word, filled⟩ := Finite.injective_iff_surjective.mp determined fun place =>
    symbol (places.get (place.cast exact.symm))
  refine ⟨List.ofFn word, List.length_ofFn, fun index member => ?_⟩
  obtain ⟨place, rfl⟩ := List.mem_iff_get.mp member
  rw [present _ List.length_ofFn _ member]
  exact congrArg some (congrFun filled (place.cast exact))

end KnownAt

/-! ### Shards -/

variable [Inhabited Symbol]

/-- The symbols of all shards in one position. -/
def column (shards : List (List Symbol)) (position : Nat) : List Symbol :=
  shards.map fun shard => shard.getD position default

/-- The known symbols in one position. -/
def knownColumn (shards : List (Option (List Symbol))) (position : Nat) : List (Option Symbol) :=
  shards.map fun shard => shard.map fun symbols => symbols.getD position default

theorem knownColumn_knownAt (total : Nat) (places : List Nat) (shard : Nat → List Symbol)
    (position : Nat) :
    knownColumn (knownAt total places shard) position =
      knownAt total places fun index => (shard index).getD position default := by
  rw [knownColumn, knownAt, List.map_map]
  refine List.map_congr_left fun index _ => ?_
  rw [Function.comp_apply]
  split <;> rfl

/-- The parity shards of data shards of one length. -/
def encode (code : ErasureCode Symbol) (parityShards : Nat) (shards : List (List Symbol)) :
    Option (List (List Symbol)) :=
  if Buildable shards.length parityShards then
    (commonLength shards).map fun length =>
      (List.range parityShards).map fun index =>
        (List.range length).map fun position =>
          (code.encodeColumn parityShards (column shards position)).getD index default
  else none

/-- A data shard that is completed from the shards that are present. -/
def restore (code : ErasureCode Symbol) (dataShards parityShards length : Nat)
    (shards : List (Option (List Symbol))) (index : Nat) : List Symbol :=
  (List.range length).map fun position =>
    (code.reconstructColumn dataShards parityShards
      (knownColumn shards position)).getD index default

/-- All shards, the missing ones completed; `none` when too few shards are present or they do
not have one length. -/
def reconstruct (code : ErasureCode Symbol) (dataShards parityShards : Nat)
    (shards : List (Option (List Symbol))) : Option (List (List Symbol)) :=
  if Buildable dataShards parityShards ∧ shards.length = dataShards + parityShards ∧
      dataShards ≤ (shards.filterMap id).length then
    (commonLength (shards.filterMap id)).map fun length =>
      let data := (List.range dataShards).map fun index =>
        (shards.getD index none).getD (code.restore dataShards parityShards length shards index)
      data ++ (List.range parityShards).map fun index =>
        (shards.getD (dataShards + index) none).getD
          ((List.range length).map fun position =>
            (code.encodeColumn parityShards (column data position)).getD index default)
  else none

section Reconstruct

variable {code : ErasureCode Symbol} {dataShards parityShards : Nat}
  {shards : List (Option (List Symbol))}

/-- Shards of different lengths complete nothing. -/
theorem reconstruct_eq_none (different : commonLength (shards.filterMap id) = none) :
    code.reconstruct dataShards parityShards shards = none := by
  unfold reconstruct
  rw [different]
  split <;> rfl

/-- What is completed has all shards. -/
theorem length_reconstruct {whole : List (List Symbol)}
    (outcome : code.reconstruct dataShards parityShards shards = some whole) :
    whole.length = dataShards + parityShards := by
  unfold reconstruct at outcome
  split at outcome
  · obtain ⟨length, -, rfl⟩ := Option.map_eq_some_iff.mp outcome
    dsimp only
    rw [List.length_append, List.length_map, List.length_map, List.length_range, List.length_range]
  · cases outcome

/-- Enough shards of one length complete the missing data. -/
theorem exists_reconstruct (code : ErasureCode Symbol)
    (buildable : Buildable dataShards parityShards)
    (total : shards.length = dataShards + parityShards)
    (enough : dataShards ≤ (shards.filterMap id).length) {length : Nat}
    (common : commonLength (shards.filterMap id) = some length) :
    ∃ whole, code.reconstruct dataShards parityShards shards = some whole ∧
      ∀ index < dataShards, shards.getD index none = none →
        whole.getD index [] = code.restore dataShards parityShards length shards index := by
  unfold reconstruct
  rw [if_pos ⟨buildable, total, enough⟩, common]
  refine ⟨_, rfl, fun index inside missing => ?_⟩
  dsimp only
  rw [List.getD_eq_getElem?_getD, List.getElem?_append_left]
  · rw [List.getElem?_map, List.getElem?_range inside, Option.map_some, missing]
    rfl
  · rw [List.length_map, List.length_range]
    exact inside

end Reconstruct

theorem length_restore (code : ErasureCode Symbol) (dataShards parityShards length : Nat)
    (shards : List (Option (List Symbol))) (index : Nat) :
    (code.restore dataShards parityShards length shards index).length = length := by
  rw [restore, List.length_map, List.length_range]

theorem getD_restore (code : ErasureCode Symbol) (dataShards parityShards length : Nat)
    (shards : List (Option (List Symbol))) (index : Nat) {position : Nat}
    (inside : position < length) :
    (code.restore dataShards parityShards length shards index).getD position default =
      (code.reconstructColumn dataShards parityShards (knownColumn shards position)).getD index
        default := by
  rw [List.getD_eq_getElem?_getD, restore, List.getElem?_map, List.getElem?_range inside]
  rfl

end ErasureCode

end Vnt.Base
