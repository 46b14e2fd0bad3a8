/-
This file gives finite maps with non-dependent values the reading the development uses:
a map is read through `lookup`, and an update is a case distinction on the key. The maps are
the association lists of the library, so the order of the entries is one arbitrary iteration
order.
-/

import Mathlib.Data.List.AList

namespace Vnt.Base

/-- A finite map with unique keys. -/
abbrev Map (Key Value : Type) : Type := AList (fun _ : Key => Value)

namespace Map

variable {Key Value : Type} [DecidableEq Key]

theorem lookup_insert_eq (map : Map Key Value) (key other : Key) (value : Value) :
    (map.insert key value).lookup other = if other = key then some value else map.lookup other := by
  split
  · next same => rw [same, AList.lookup_insert]
  · next different => rw [AList.lookup_insert_ne different]

theorem lookup_erase_eq (map : Map Key Value) (key other : Key) :
    (map.erase key).lookup other = if other = key then none else map.lookup other := by
  split
  · next same => rw [same, AList.lookup_erase]
  · next different => rw [AList.lookup_erase_ne different]

/-- What is left after an erasure was there before, under another key. -/
theorem lookup_erase_eq_some {map : Map Key Value} {key other : Key} {value : Value} :
    (map.erase key).lookup other = some value ↔ other ≠ key ∧ map.lookup other = some value := by
  rw [lookup_erase_eq]
  split
  · next same => simp [same]
  · next different => simp [different]

/-- The values of a map in its iteration order. -/
def values (map : Map Key Value) : List Value := map.entries.map fun entry => entry.2

theorem mem_entries_iff (map : Map Key Value) (key : Key) (value : Value) :
    (⟨key, value⟩ : Sigma fun _ : Key => Value) ∈ map.entries ↔ map.lookup key = some value :=
  AList.mem_lookup_iff.symm

theorem mem_values_iff (map : Map Key Value) (value : Value) :
    value ∈ map.values ↔ ∃ key, map.lookup key = some value := by
  unfold values
  rw [List.mem_map]
  constructor
  · rintro ⟨⟨key, found⟩, member, rfl⟩
    exact ⟨key, (map.mem_entries_iff key found).mp member⟩
  · rintro ⟨key, found⟩
    exact ⟨⟨key, value⟩, (map.mem_entries_iff key value).mpr found, rfl⟩

/-- The first map wins in a union. -/
theorem lookup_union (first second : Map Key Value) (key : Key) :
    (first ∪ second).lookup key =
      match first.lookup key with
      | some value => some value
      | none => second.lookup key := by
  cases found : first.lookup key with
  | none => exact AList.lookup_union_right (AList.lookup_eq_none.mp found)
  | some value =>
    have member : key ∈ first := by
      rw [← AList.lookup_isSome, found]
      rfl
    exact (AList.lookup_union_left member).trans found

/-- Remove a list of keys. -/
def eraseAll (map : Map Key Value) (keys : List Key) : Map Key Value :=
  keys.foldl (fun rest key => rest.erase key) map

theorem lookup_eraseAll (map : Map Key Value) (keys : List Key) (other : Key) :
    (map.eraseAll keys).lookup other = if other ∈ keys then none else map.lookup other := by
  unfold eraseAll
  induction keys generalizing map with
  | nil => simp
  | cons key rest inductionHypothesis =>
    rw [List.foldl_cons, inductionHypothesis, lookup_erase_eq]
    by_cases same : other = key
    · simp [same]
    · simp [same]

omit [DecidableEq Key] in
/-- The keys of selected bindings, in the order of the bindings. -/
theorem sublist_keys {select : (Sigma fun _ : Key => Value) → Option Key}
    (entries : List (Sigma fun _ : Key => Value))
    (own : ∀ entry key, select entry = some key → key = entry.1) :
    (entries.filterMap select).Sublist (entries.map Sigma.fst) := by
  induction entries with
  | nil => exact List.Sublist.refl _
  | cons entry rest inductionHypothesis =>
    cases selected : select entry with
    | none =>
      rw [List.filterMap_cons_none selected]
      exact inductionHypothesis.cons _
    | some key =>
      rw [List.filterMap_cons_some selected, own entry key selected]
      exact inductionHypothesis.cons_cons _

/-- Keep, change or drop every binding: the callback gives the new value, `none` to drop it. -/
def retain (map : Map Key Value) (keep : Key → Value → Option Value) : Map Key Value where
  entries := map.entries.filterMap fun entry =>
    (keep entry.1 entry.2).map fun value => ⟨entry.1, value⟩
  nodupKeys := by
    have keys : (map.entries.filterMap fun entry =>
        (keep entry.1 entry.2).map fun _ => entry.1).Sublist (map.entries.map Sigma.fst) := by
      refine sublist_keys map.entries fun entry key selected => ?_
      obtain ⟨value, -, rfl⟩ := Option.map_eq_some_iff.mp selected
      rfl
    refine List.Sublist.nodup ?_ map.nodupKeys
    rw [List.keys, List.map_filterMap]
    simpa only [Option.map_map, Function.comp_def] using keys

theorem lookup_retain (map : Map Key Value) (keep : Key → Value → Option Value) (key : Key) :
    (map.retain keep).lookup key = (map.lookup key).bind (keep key) := by
  refine Option.ext fun value => ?_
  rw [← mem_entries_iff, Option.bind_eq_some_iff]
  simp only [retain, List.mem_filterMap, Option.map_eq_some_iff]
  constructor
  · rintro ⟨⟨other, old⟩, member, new, kept, same⟩
    cases same
    exact ⟨old, (map.mem_entries_iff _ _).mp member, kept⟩
  · rintro ⟨old, found, kept⟩
    exact ⟨⟨key, old⟩, (map.mem_entries_iff _ _).mpr found, value, kept, rfl⟩

/-- Insert a list of bindings, the later ones winning. -/
def insertAll (map : Map Key Value) (bindings : List (Key × Value)) : Map Key Value :=
  bindings.foldl (fun rest binding => rest.insert binding.1 binding.2) map

theorem lookup_insertAll_of_notMem (map : Map Key Value) (bindings : List (Key × Value))
    (key : Key) (absent : ∀ binding ∈ bindings, binding.1 ≠ key) :
    (map.insertAll bindings).lookup key = map.lookup key := by
  unfold insertAll
  induction bindings generalizing map with
  | nil => rfl
  | cons binding rest inductionHypothesis =>
    rw [List.foldl_cons, inductionHypothesis _ fun later member =>
      absent later (List.mem_cons_of_mem _ member)]
    exact AList.lookup_insert_ne (absent binding List.mem_cons_self).symm

/-- What is found after the insertions was there before or is one of the bindings. -/
theorem lookup_insertAll_cases (map : Map Key Value) (bindings : List (Key × Value)) {key : Key}
    {value : Value} (found : (map.insertAll bindings).lookup key = some value) :
    map.lookup key = some value ∨ (key, value) ∈ bindings := by
  unfold insertAll at found
  induction bindings generalizing map with
  | nil => exact .inl found
  | cons binding rest inductionHypothesis =>
    rw [List.foldl_cons] at found
    rcases inductionHypothesis _ found with inserted | later
    · rw [lookup_insert_eq] at inserted
      split at inserted
      · next same =>
        cases inserted
        exact .inr (same ▸ List.mem_cons_self)
      · exact .inl inserted
    · exact .inr (List.mem_cons_of_mem _ later)

/-- A key whose bindings in the list all carry one value gets that value. -/
theorem lookup_insertAll_of_mem (map : Map Key Value) (bindings : List (Key × Value))
    (key : Key) (value : Value) (member : (key, value) ∈ bindings)
    (unique : ∀ binding ∈ bindings, binding.1 = key → binding.2 = value) :
    (map.insertAll bindings).lookup key = some value := by
  unfold insertAll
  induction bindings generalizing map with
  | nil => cases member
  | cons binding rest inductionHypothesis =>
    rw [List.foldl_cons]
    by_cases later : ∃ other ∈ rest, other.1 = key
    · obtain ⟨other, otherMember, otherKey⟩ := later
      refine inductionHypothesis _ ?_ fun found foundMember =>
        unique found (List.mem_cons_of_mem _ foundMember)
      have otherValue : other.2 = value :=
        unique other (List.mem_cons_of_mem _ otherMember) otherKey
      rwa [← otherKey, ← otherValue]
    · have absent : ∀ other ∈ rest, other.1 ≠ key := fun other otherMember otherKey =>
        later ⟨other, otherMember, otherKey⟩
      have head : binding = (key, value) := by
        rcases List.mem_cons.mp member with same | inRest
        · exact same.symm
        · exact absurd rfl (absent _ inRest)
      have rest := lookup_insertAll_of_notMem (map.insert binding.1 binding.2) rest key absent
      unfold insertAll at rest
      rw [rest, head, AList.lookup_insert]

/-- Bindings that are those of a function, each key with one value. -/
theorem lookup_insertAll_eq {bindings : List (Key × Value)} {bound : Key → Option Value}
    (isBound : ∀ key value, (key, value) ∈ bindings ↔ bound key = some value) (key : Key) :
    (insertAll ∅ bindings : Map Key Value).lookup key = bound key := by
  cases outcome : bound key with
  | none =>
    rw [lookup_insertAll_of_notMem]
    · rfl
    · rintro ⟨other, value⟩ member rfl
      cases outcome.symm.trans ((isBound _ _).mp member)
  | some value =>
    refine lookup_insertAll_of_mem _ _ key value ((isBound key value).mpr outcome) ?_
    rintro ⟨other, found⟩ member rfl
    exact Option.some.inj (((isBound _ _).mp member).symm.trans outcome)

/-- The bindings whose value has an image, with the image as the value. -/
def filterMap {Image : Type} (map : Map Key Value) (image : Value → Option Image) :
    Map Key Image :=
  Map.insertAll ∅ (map.entries.filterMap fun entry =>
    (image entry.2).map fun value => (entry.1, value))

theorem lookup_filterMap {Image : Type} (map : Map Key Value) (image : Value → Option Image)
    (key : Key) : (map.filterMap image).lookup key = (map.lookup key).bind image := by
  have bound : ∀ other value, (other, value) ∈ (map.entries.filterMap fun entry =>
      (image entry.2).map fun value => (entry.1, value)) ↔
        (map.lookup other).bind image = some value := by
    intro other value
    rw [List.mem_filterMap, Option.bind_eq_some_iff]
    constructor
    · rintro ⟨⟨found, old⟩, member, same⟩
      obtain ⟨new, isImage, same⟩ := Option.map_eq_some_iff.mp same
      cases same
      exact ⟨old, (map.mem_entries_iff _ _).mp member, isImage⟩
    · rintro ⟨old, found, isImage⟩
      exact ⟨⟨other, old⟩, (map.mem_entries_iff _ _).mpr found,
        Option.map_eq_some_iff.mpr ⟨value, isImage, rfl⟩⟩
  exact lookup_insertAll_eq bound key

end Map

/-- A selection that may fail succeeds when it does for each element. -/
theorem filterMapM_eq_some_iff {Item Image : Type} {select : Item → Option (Option Image)}
    {items : List Item} {images : List Image} :
    items.filterMapM select = some images ↔
      (∀ item ∈ items, (select item).isSome = true) ∧
        images = items.filterMap fun item => (select item).join := by
  induction items generalizing images with
  | nil =>
    rw [List.filterMapM_nil, List.filterMap_nil]
    exact ⟨fun same => ⟨List.forall_mem_nil _, (Option.some.inj same).symm⟩,
      fun same => congrArg some same.2.symm⟩
  | cons item rest inductionHypothesis =>
    rw [List.filterMapM_cons, List.forall_mem_cons]
    cases selected : select item with
    | none =>
      constructor
      · intro same
        cases same
      · rintro ⟨⟨succeeds, -⟩, -⟩
        cases succeeds
    | some outcome =>
      cases outcome with
      | none =>
        rw [List.filterMap_cons_none (by rw [selected]; rfl)]
        exact inductionHypothesis.trans
          ⟨fun whole => ⟨⟨rfl, whole.1⟩, whole.2⟩, fun whole => ⟨whole.1.2, whole.2⟩⟩
      | some image =>
        rw [List.filterMap_cons_some (by rw [selected]; rfl)]
        change ((rest.filterMapM select).bind fun others => some (image :: others)) = _ ↔ _
        rw [Option.bind_eq_some_iff]
        constructor
        · rintro ⟨others, isOthers, same⟩
          cases same
          obtain ⟨succeeds, rfl⟩ := inductionHypothesis.mp isOthers
          exact ⟨⟨rfl, succeeds⟩, rfl⟩
        · rintro ⟨⟨-, succeeds⟩, rfl⟩
          exact ⟨_, inductionHypothesis.mpr ⟨succeeds, rfl⟩, rfl⟩

/-- Replacing an item of a list by one with the same image changes no image. -/
theorem map_set_of_getElem? {Item Image : Type} {image : Item → Image} {items : List Item}
    {index : Nat} {item other : Item} (found : items[index]? = some item)
    (same : image other = image item) : (items.set index other).map image = items.map image := by
  obtain ⟨inside, rfl⟩ := List.getElem?_eq_some_iff.mp found
  rw [List.map_set, same, ← List.map_set, List.set_getElem_self]

end Vnt.Base
