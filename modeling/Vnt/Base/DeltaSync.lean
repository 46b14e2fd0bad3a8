/-
This file develops replication by versioned deltas. A table stamps every item with the version
of its last change, and a replica that is at a version asks for the items changed since. The
tables of one history evolve: an item that is not newer than an old version was in the old
table already. What the deltas carry over are the items changed in the history; items that
never changed, and items that are gone, are the two things they cannot carry. A replica that
has the first and none of the second shows exactly the table after every delta.
-/

import Mathlib.Data.List.Basic

namespace Vnt.Base

structure Item (Key Value : Type) where
  key : Key
  value : Value
  version : Nat

/-- A table with the version of its last change. -/
structure VersionedTable (Key Value : Type) where
  version : Nat
  items : List (Item Key Value)

namespace VersionedTable

variable {Key Value : Type}

/-- No two items share a key. -/
def Distinct (table : VersionedTable Key Value) : Prop :=
  ∀ first ∈ table.items, ∀ second ∈ table.items, first.key = second.key → first = second

/-- No item is newer than the table. -/
def Bounded (table : VersionedTable Key Value) : Prop :=
  ∀ item ∈ table.items, item.version ≤ table.version

/-- The new table continues the history of the old one. -/
def Evolves (old new : VersionedTable Key Value) : Prop :=
  old.version ≤ new.version ∧
    ∀ item ∈ new.items, item.version ≤ old.version → item ∈ old.items

/-- The items changed since a version. -/
def since (table : VersionedTable Key Value) (bound : Nat) : List (Item Key Value) :=
  table.items.filter fun item => decide (bound < item.version)

/-- The replica has every item that was changed up to the bound. -/
def Knows (view : Key → Option Value) (bound : Nat) (table : VersionedTable Key Value) : Prop :=
  ∀ item ∈ table.items, 1 ≤ item.version → item.version ≤ bound →
    view item.key = some item.value

/-- The next view is the view overwritten by the items. -/
def Merged (view : Key → Option Value) (items : List (Item Key Value))
    (next : Key → Option Value) : Prop :=
  (∀ item ∈ items, next item.key = some item.value) ∧
    ∀ key, (∀ item ∈ items, item.key ≠ key) → next key = view key

/-- The view shows exactly the table. -/
def Shows (view : Key → Option Value) (table : VersionedTable Key Value) : Prop :=
  ∀ key value, view key = some value ↔
    ∃ item ∈ table.items, item.key = key ∧ item.value = value

variable {table old middle new : VersionedTable Key Value} {view next : Key → Option Value}
  {bound start : Nat}

theorem evolves_refl (table : VersionedTable Key Value) : table.Evolves table :=
  ⟨Nat.le_refl _, fun _ member _ => member⟩

theorem Evolves.trans (first : old.Evolves middle) (second : middle.Evolves new) :
    old.Evolves new :=
  ⟨Nat.le_trans first.1 second.1, fun item member bounded =>
    first.2 item (second.2 item member (Nat.le_trans bounded first.1)) bounded⟩

theorem mem_since {item : Item Key Value} :
    item ∈ table.since bound ↔ item ∈ table.items ∧ bound < item.version := by
  rw [since, List.mem_filter, decide_eq_true_eq]

theorem since_version (bounded : table.Bounded) : table.since table.version = [] :=
  List.filter_eq_nil_iff.mpr fun item member => by
    have := bounded item member
    simp only [decide_eq_true_eq]
    omega

theorem merged_nil (view : Key → Option Value) : Merged view [] view :=
  ⟨fun _ member => absurd member List.not_mem_nil, fun _ _ => rfl⟩

/-- A key whose item is not part of the delta keeps its value. -/
theorem Merged.eq_of_old (merged : Merged view (table.since start) next)
    (distinct : table.Distinct) {item : Item Key Value} (member : item ∈ table.items)
    (isOld : item.version ≤ start) : next item.key = view item.key := by
  refine merged.2 item.key fun other changed same => ?_
  obtain ⟨otherMember, isNew⟩ := mem_since.mp changed
  rw [distinct other otherMember item member same] at isNew
  omega

/-- What is known of a table is known of every table of its history. -/
theorem Knows.evolve (knows : old.Knows view bound) (evolves : old.Evolves new)
    (within : bound ≤ old.version) : new.Knows view bound := fun item member changed upTo =>
  knows item (evolves.2 item member (Nat.le_trans upTo within)) changed upTo

/-- A delta overwrites nothing that is known. -/
theorem Knows.merged (knows : table.Knows view bound) (distinct : table.Distinct)
    (merged : Merged view (table.since start) next) : table.Knows next bound := by
  intro item member changed upTo
  by_cases isNew : start < item.version
  · exact merged.1 item (mem_since.mpr ⟨member, isNew⟩)
  · rw [merged.eq_of_old distinct member (Nat.le_of_not_lt isNew)]
    exact knows item member changed upTo

/-- A replica that knew everything up to the start of a delta knows everything after it. -/
theorem Knows.complete (knows : table.Knows view start) (distinct : table.Distinct)
    (merged : Merged view (table.since start) next) : table.Knows next table.version := by
  intro item member changed _
  by_cases isNew : start < item.version
  · exact merged.1 item (mem_since.mpr ⟨member, isNew⟩)
  · have isOld := Nat.le_of_not_lt isNew
    rw [merged.eq_of_old distinct member isOld]
    exact knows item member changed isOld

theorem Shows.knows (shows : table.Shows view) : table.Knows view bound := fun item member _ _ =>
  (shows item.key item.value).mpr ⟨item, member, rfl, rfl⟩

/-- A replica that shows the table after a delta knew it up to the start of the delta before. -/
theorem Merged.knows_of_shows (merged : Merged view (table.since start) next)
    (distinct : table.Distinct) (shows : table.Shows next) : table.Knows view start := by
  intro item member _ isOld
  rw [← merged.eq_of_old distinct member isOld]
  exact (shows item.key item.value).mpr ⟨item, member, rfl, rfl⟩

/-- A replica that knew everything up to the start of a delta, has the items that never
changed and no item that is gone, shows the table after the delta. -/
theorem Knows.shows (knows : table.Knows view start) (distinct : table.Distinct)
    (merged : Merged view (table.since start) next)
    (unchanged : ∀ item ∈ table.items, item.version = 0 → view item.key = some item.value)
    (current : ∀ key value, view key = some value → ∃ item ∈ table.items, item.key = key) :
    table.Shows next := by
  have known : ∀ item ∈ table.items, item.version ≤ start → view item.key = some item.value := by
    intro item member isOld
    by_cases never : item.version = 0
    · exact unchanged item member never
    · exact knows item member (Nat.one_le_iff_ne_zero.mpr never) isOld
  have shown : ∀ item ∈ table.items, next item.key = some item.value := by
    intro item member
    by_cases isNew : start < item.version
    · exact merged.1 item (mem_since.mpr ⟨member, isNew⟩)
    · rw [merged.eq_of_old distinct member (Nat.le_of_not_lt isNew)]
      exact known item member (Nat.le_of_not_lt isNew)
  intro key value
  constructor
  · intro holds
    have present : ∃ item ∈ table.items, item.key = key := by
      by_cases changed : ∃ item ∈ table.since start, item.key = key
      · obtain ⟨item, member, same⟩ := changed
        exact ⟨item, (mem_since.mp member).1, same⟩
      · rw [merged.2 key fun item member same => changed ⟨item, member, same⟩] at holds
        exact current key value holds
    obtain ⟨item, member, rfl⟩ := present
    rw [shown item member] at holds
    exact ⟨item, member, rfl, Option.some.inj holds⟩
  · rintro ⟨item, member, rfl, rfl⟩
    exact shown item member

end VersionedTable

end Vnt.Base
