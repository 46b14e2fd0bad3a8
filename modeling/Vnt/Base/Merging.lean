/-
This file describes merges by key. The items are written into a map one after another, each under
its own key, over what the map held there. The map holds an item under exactly the keys of the
items, once, and which one depends on the items with that key alone. Two rules are common. The
first item under a key may stay, and then the merge depends on the order of the items. Or a flag of
the item is raised by every further item that has it, and then it does not.
-/

import Vnt.Base.Map

namespace Vnt.Base

variable {Key Item : Type} [DecidableEq Key]

/-- Writing an item changes the map under the key of the item alone. What it leaves there is
combined from what was there and the item, and has the same key. -/
structure Writes (keyOf : Item → Key) (combine : Option Item → Item → Item)
    (write : Map Key Item → Item → Map Key Item) : Prop where
  lookup : ∀ merged item key, (write merged item).lookup key =
    if key = keyOf item then some (combine (merged.lookup key) item) else merged.lookup key
  key : ∀ known item, (∀ first, known = some first → keyOf first = keyOf item) →
    keyOf (combine known item) = keyOf item

/-- Every item of the map stands under its own key. -/
def Keyed (keyOf : Item → Key) (map : Map Key Item) : Prop :=
  ∀ key item, map.lookup key = some item → keyOf item = key

variable {keyOf : Item → Key} {combine : Option Item → Item → Item}
  {write : Map Key Item → Item → Map Key Item} {map : Map Key Item} {items : List Item}

theorem keyed_empty : Keyed keyOf (∅ : Map Key Item) := by
  intro key item found
  rw [AList.lookup_empty] at found
  cases found

/-- The items of a map that stand under their own keys have different keys. -/
theorem Keyed.nodup (keyed : Keyed keyOf map) : (map.values.map keyOf).Nodup := by
  have same : map.values.map keyOf = map.keys := by
    unfold Map.values AList.keys List.keys
    rw [List.map_map]
    refine List.map_congr_left fun entry member => ?_
    exact keyed entry.1 entry.2 ((map.mem_entries_iff entry.1 entry.2).mp member)
  rw [same]
  exact map.keys_nodup

theorem Keyed.mem_values_iff (keyed : Keyed keyOf map) (item : Item) :
    item ∈ map.values ↔ map.lookup (keyOf item) = some item := by
  rw [Map.mem_values_iff]
  constructor
  · rintro ⟨key, found⟩
    rwa [keyed key item found]
  · exact fun found => ⟨keyOf item, found⟩

namespace Writes

theorem keyed (writes : Writes keyOf combine write) (start : Keyed keyOf map) :
    Keyed keyOf (items.foldl write map) := by
  induction items generalizing map with
  | nil => exact start
  | cons item rest inductionHypothesis =>
    refine inductionHypothesis fun key other found => ?_
    rw [writes.lookup] at found
    split at found
    · next same =>
      subst same
      cases found
      exact writes.key _ item fun first known => start _ first known
    · exact start key other found

/-- What a merge leaves under a key is combined from the items with that key, in their order. -/
theorem lookup_foldl (writes : Writes keyOf combine write) (key : Key) :
    (items.foldl write map).lookup key =
      (items.filter fun item => decide (keyOf item = key)).foldl
        (fun known item => some (combine known item)) (map.lookup key) := by
  induction items generalizing map with
  | nil => rfl
  | cons item rest inductionHypothesis =>
    rw [List.foldl_cons, inductionHypothesis, writes.lookup, List.filter_cons]
    by_cases same : key = keyOf item
    · rw [if_pos same, if_pos (decide_eq_true same.symm), List.foldl_cons]
    · rw [if_neg same, if_neg (by simpa using Ne.symm same)]

theorem isSome_foldl (known : Option Item) :
    (items.foldl (fun known item => some (combine known item)) known).isSome =
      (known.isSome || !items.isEmpty) := by
  induction items generalizing known with
  | nil => rw [List.isEmpty_nil, Bool.not_true, Bool.or_false, List.foldl_nil]
  | cons item rest inductionHypothesis =>
    rw [List.foldl_cons, inductionHypothesis]
    simp

/-- A merge into the empty map has the keys of the items. -/
theorem isSome_lookup_iff (writes : Writes keyOf combine write) (key : Key) :
    ((items.foldl write ∅).lookup key).isSome = true ↔ ∃ item ∈ items, keyOf item = key := by
  rw [writes.lookup_foldl, isSome_foldl, AList.lookup_empty, Option.isSome_none, Bool.false_or,
    Bool.not_eq_true', List.isEmpty_eq_false_iff_exists_mem]
  refine exists_congr fun item => ?_
  rw [List.mem_filter, decide_eq_true_eq]

theorem mem_map_values_iff (writes : Writes keyOf combine write) (key : Key) :
    key ∈ (Map.values (items.foldl write ∅)).map keyOf ↔ ∃ item ∈ items, keyOf item = key := by
  have keyed : Keyed keyOf (items.foldl write ∅) := writes.keyed keyed_empty
  rw [← writes.isSome_lookup_iff, List.mem_map, Option.isSome_iff_exists]
  constructor
  · rintro ⟨item, member, rfl⟩
    exact ⟨item, (keyed.mem_values_iff item).mp member⟩
  · rintro ⟨item, found⟩
    have same := keyed key item found
    subst same
    exact ⟨item, (keyed.mem_values_iff item).mpr found, rfl⟩

/-! ### Which item stays -/

/-- When the known item stays, the map holds the first item with the key. -/
theorem lookup_of_first (writes : Writes keyOf combine write)
    (first : ∀ item, combine none item = item)
    (stays : ∀ known item, combine (some known) item = known)
    (key : Key) :
    (items.foldl write ∅).lookup key = items.find? fun item => decide (keyOf item = key) := by
  have unchanged : ∀ (rest : List Item) known,
      rest.foldl (fun known item => some (combine known item)) (some known) = some known := by
    intro rest known
    induction rest with
    | nil => rfl
    | cons item rest inductionHypothesis => rw [List.foldl_cons, stays, inductionHypothesis]
  rw [writes.lookup_foldl, AList.lookup_empty, ← List.head?_filter]
  cases items.filter fun item => decide (keyOf item = key) with
  | nil => rfl
  | cons item rest => rw [List.foldl_cons, first, unchanged, List.head?_cons]

/-- When every further item raises the flag that it has, the flag of what the map holds is that of
any item with the key. -/
theorem flag_iff (writes : Writes keyOf combine write) {flag : Item → Bool}
    (first : ∀ item, flag (combine none item) = flag item)
    (raises : ∀ known item, flag (combine (some known) item) = (flag known || flag item))
    {key : Key} {item : Item} (found : (items.foldl write ∅).lookup key = some item) :
    flag item = true ↔ ∃ other ∈ items, keyOf other = key ∧ flag other = true := by
  have raised : ∀ (rest : List Item) known,
      (rest.foldl (fun known item => some (combine known item)) known).any flag =
        (known.any flag || rest.any flag) := by
    intro rest
    induction rest with
    | nil => simp
    | cons item rest inductionHypothesis =>
      intro known
      rw [List.foldl_cons, inductionHypothesis, List.any_cons, ← Bool.or_assoc]
      cases known with
      | none => rw [Option.any_some, first, Option.any_none, Bool.false_or]
      | some known => rw [Option.any_some, raises, Option.any_some]
  have here := raised (items.filter fun item => decide (keyOf item = key)) none
  rw [writes.lookup_foldl, AList.lookup_empty] at found
  rw [found, Option.any_some, Option.any_none, Bool.false_or] at here
  rw [here, List.any_eq_true]
  refine exists_congr fun other => ?_
  rw [List.mem_filter, decide_eq_true_eq, and_assoc]

end Writes

end Vnt.Base
