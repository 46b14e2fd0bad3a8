/-
This file is about stores that are fed from cells whose values only grow. A store keeps one value
for each key, and the values come from reads: a read belongs to a key and a cell, and its value was
taken when it was requested, or is taken when it is applied. Reads that wait are applied in the
order they were requested. As long as the value of a key comes from the cell it came from before,
no value of the store goes down.
-/

import Mathlib.Data.List.Basic
import Mathlib.Order.Basic

namespace Vnt.Base

/-- A read of a cell for a key; without a value it is taken when it is applied. -/
structure Read (Key Cell Value : Type) where
  key : Key
  cell : Cell
  taken : Option Value

namespace Read

variable {Key Cell Value : Type}

/-- The value a read is applied with. -/
def value (read : Read Key Cell Value) (total : Cell → Value) : Value :=
  read.taken.getD (total read.cell)

/-- No value was taken before one that is higher was taken from the same cell. -/
def Before [LE Value] (first second : Read Key Cell Value) : Prop :=
  first.cell = second.cell → ∀ low high, first.taken = some low → second.taken = some high →
    low ≤ high

end Read

/-- The values taken are in the order of their requests and not above their cells, and a stored
value is not above the cell it came from, nor above what was taken from that cell since. -/
structure ReadOrder {Key Cell Value : Type} [LE Value] (total : Cell → Value)
    (queue : List (Read Key Cell Value)) (source : Key → Option Cell)
    (stored : Key → Option Value) : Prop where
  taken : ∀ read ∈ queue, ∀ value, read.taken = some value → value ≤ total read.cell
  sorted : queue.Pairwise Read.Before
  below : ∀ key cell value, source key = some cell → stored key = some value →
    value ≤ total cell ∧ ∀ read ∈ queue, read.key = key → read.cell = cell →
      ∀ later, read.taken = some later → value ≤ later

namespace ReadOrder

variable {Key Cell Value : Type} [Preorder Value] {total more : Cell → Value}
  {queue : List (Read Key Cell Value)} {source : Key → Option Cell} {stored : Key → Option Value}

/-- Cells may grow. -/
theorem grow (order : ReadOrder total queue source stored)
    (grows : ∀ cell, total cell ≤ more cell) : ReadOrder more queue source stored where
  taken := fun read member value isTaken =>
    (order.taken read member value isTaken).trans (grows read.cell)
  sorted := order.sorted
  below := fun key cell value isSource isStored =>
    ⟨(order.below key cell value isSource isStored).1.trans (grows cell),
      (order.below key cell value isSource isStored).2⟩

/-- Reads may be dropped, and stored values may be forgotten. -/
theorem fewer (order : ReadOrder total queue source stored) {left : List (Read Key Cell Value)}
    {kept : Key → Option Value} (sublist : left.Sublist queue)
    (known : ∀ key value, kept key = some value → stored key = some value) :
    ReadOrder total left source kept where
  taken := fun read member => order.taken read (sublist.subset member)
  sorted := order.sorted.sublist sublist
  below := fun key cell value isSource isStored =>
    ⟨(order.below key cell value isSource (known key value isStored)).1, fun read member =>
      (order.below key cell value isSource (known key value isStored)).2 read
        (sublist.subset member)⟩

/-- A read is requested: its value is the one the cell has now, or it is taken later. -/
theorem request (order : ReadOrder total queue source stored) {read : Read Key Cell Value}
    (now : read.taken = none ∨ read.taken = some (total read.cell)) :
    ReadOrder total (queue ++ [read]) source stored where
  taken := by
    intro other member value isTaken
    rcases List.mem_append.mp member with before | new
    · exact order.taken other before value isTaken
    · cases List.mem_singleton.mp new
      rcases now with open_ | now
      · cases open_.symm.trans isTaken
      · cases now.symm.trans isTaken
        exact le_refl _
  sorted := by
    refine List.pairwise_append.mpr ⟨order.sorted, List.pairwise_singleton _ _, ?_⟩
    intro first member second new sameCell low high isLow isHigh
    cases List.mem_singleton.mp new
    rcases now with open_ | now
    · cases open_.symm.trans isHigh
    · cases now.symm.trans isHigh
      rw [← sameCell]
      exact order.taken first member low isLow
  below := by
    intro key cell value isSource isStored
    obtain ⟨belowCell, belowTaken⟩ := order.below key cell value isSource isStored
    refine ⟨belowCell, fun other member sameKey sameCell later isTaken => ?_⟩
    rcases List.mem_append.mp member with before | new
    · exact belowTaken other before sameKey sameCell later isTaken
    · cases List.mem_singleton.mp new
      rcases now with open_ | now
      · cases open_.symm.trans isTaken
      · cases now.symm.trans isTaken
        rw [sameCell]
        exact belowCell

/-- What a read is applied with is not above its cell. -/
theorem value_le (order : ReadOrder total queue source stored) {read : Read Key Cell Value}
    (member : read ∈ queue) : read.value total ≤ total read.cell := by
  unfold Read.value
  cases isTaken : read.taken with
  | none => exact le_refl _
  | some value => exact order.taken read member value isTaken

/-- A read of the cell that the stored value came from does not lower it. -/
theorem le_value (order : ReadOrder total queue source stored) {read : Read Key Cell Value}
    (member : read ∈ queue) {value : Value} (isSource : source read.key = some read.cell)
    (isStored : stored read.key = some value) : value ≤ read.value total := by
  obtain ⟨belowCell, belowTaken⟩ := order.below read.key read.cell value isSource isStored
  unfold Read.value
  cases isTaken : read.taken with
  | none => exact belowCell
  | some later => exact belowTaken read member rfl rfl later isTaken

/-- The oldest read of a key is applied. When its value is taken only now, what was taken from the
cell since must not be below. -/
theorem apply [DecidableEq Key] {before after : List (Read Key Cell Value)}
    {read : Read Key Cell Value} (order : ReadOrder total (before ++ read :: after) source stored)
    (oldest : ∀ other ∈ before, other.key ≠ read.key)
    (current : read.taken = none → ∀ later ∈ after, later.key = read.key →
      later.cell = read.cell → ∀ value, later.taken = some value → total read.cell ≤ value) :
    ReadOrder total (before ++ after) (Function.update source read.key (some read.cell))
      (Function.update stored read.key (some (read.value total))) := by
  have waiting := order.fewer
    ((List.Sublist.refl before).append (List.sublist_cons_self read after)) fun _ _ known => known
  refine ⟨waiting.taken, waiting.sorted, fun key cell value isSource isStored => ?_⟩
  by_cases own : key = read.key
  · subst own
    rw [Function.update_self] at isSource isStored
    cases isSource
    cases isStored
    refine ⟨order.value_le (List.mem_append_right _ List.mem_cons_self), ?_⟩
    intro other member sameKey sameCell later isTaken
    have last : other ∈ after := by
      rcases List.mem_append.mp member with first | last
      · exact absurd sameKey (oldest other first)
      · exact last
    unfold Read.value
    cases taken : read.taken with
    | none => exact current taken other last sameKey sameCell later isTaken
    | some low =>
      have pairs := (List.pairwise_append.mp order.sorted).2.1
      exact List.rel_of_pairwise_cons pairs last sameCell.symm low later taken isTaken
  · rw [Function.update_of_ne own] at isSource isStored
    exact waiting.below key cell value isSource isStored

end ReadOrder

end Vnt.Base
