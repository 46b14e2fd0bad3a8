/-
This file is about items that are gathered in batches. An item is put at the end of the open batch,
and from time to time the open batch is closed. Closing moves no item: the number of its batch and
its place in there, which an item has when it is put, are the ones it keeps.
-/

import Mathlib.Data.List.Basic
import Mathlib.Data.List.Induction

namespace Vnt.Base

variable {Item Key : Type}

/-- An item with the number of its batch and its place in there. -/
structure Placed (Item : Type) where
  batch : Nat
  place : Nat
  item : Item

/-- The items of the batch of a number. -/
def placedIn (number : Nat) (batch : List Item) : List (Placed Item) :=
  batch.zipIdx.map fun entry => ⟨number, entry.2, entry.1⟩

/-- The items of all batches, which are numbered on from a first number. -/
def placedFrom : Nat → List (List Item) → List (Placed Item)
  | _, [] => []
  | number, batch :: rest => placedIn number batch ++ placedFrom (number + 1) rest

/-- The items of a later batch come later, and in a batch those of a later place. -/
def Placed.Before (first second : Placed Item) : Prop :=
  first.batch < second.batch ∨ first.batch = second.batch ∧ first.place < second.place

theorem mem_placedIn {number : Nat} {batch : List Item} {placed : Placed Item} :
    placed ∈ placedIn number batch ↔
      placed.batch = number ∧ batch[placed.place]? = some placed.item := by
  unfold placedIn
  rw [List.mem_map]
  constructor
  · rintro ⟨entry, member, rfl⟩
    exact ⟨rfl, List.mem_zipIdx_iff_getElem?.mp member⟩
  · rintro ⟨rfl, found⟩
    exact ⟨(placed.item, placed.place), List.mem_zipIdx_iff_getElem?.mpr found, rfl⟩

theorem placedIn_append_singleton (number : Nat) (batch : List Item) (item : Item) :
    placedIn number (batch ++ [item]) =
      placedIn number batch ++ [⟨number, batch.length, item⟩] := by
  unfold placedIn
  rw [List.zipIdx_append, List.map_append]
  simp

theorem map_item_placedIn {Image : Type} (number : Nat) (batch : List Item)
    (image : Item → Image) :
    (placedIn number batch).map (fun placed => image placed.item) = batch.map image := by
  unfold placedIn
  rw [List.map_map]
  conv => rhs; rw [← List.zipIdx_map_fst 0 batch, List.map_map]
  rfl

theorem map_place_placedIn (number : Nat) (batch : List Item) :
    (placedIn number batch).map Placed.place = List.range batch.length := by
  unfold placedIn
  rw [List.map_map, List.range_eq_range', ← List.zipIdx_map_snd 0 batch]
  rfl

theorem placedFrom_append (number : Nat) (front back : List (List Item)) :
    placedFrom number (front ++ back) =
      placedFrom number front ++ placedFrom (number + front.length) back := by
  induction front generalizing number with
  | nil => rfl
  | cons batch rest inductionHypothesis =>
    have shifted : number + 1 + rest.length = number + (batch :: rest).length := by
      rw [List.length_cons]
      omega
    rw [List.cons_append, placedFrom, inductionHypothesis, placedFrom, List.append_assoc, shifted]

theorem mem_placedFrom {number : Nat} {batches : List (List Item)} {placed : Placed Item}
    (member : placed ∈ placedFrom number batches) :
    ∃ index batch, batches[index]? = some batch ∧ placed.batch = number + index ∧
      batch[placed.place]? = some placed.item := by
  induction batches generalizing number with
  | nil => cases member
  | cons batch rest inductionHypothesis =>
    rcases List.mem_append.mp member with first | later
    · obtain ⟨isNumber, found⟩ := mem_placedIn.mp first
      exact ⟨0, batch, rfl, isNumber, found⟩
    · obtain ⟨index, other, isBatch, isNumber, found⟩ := inductionHypothesis later
      refine ⟨index + 1, other, isBatch, ?_, found⟩
      omega

/-- The items of one batch are those with its number. -/
theorem filter_placedFrom {number index : Nat} {batches : List (List Item)} {batch : List Item}
    (found : batches[index]? = some batch) :
    (placedFrom number batches).filter (fun placed => placed.batch = number + index) =
      placedIn (number + index) batch := by
  induction batches generalizing number index with
  | nil => cases found
  | cons first rest inductionHypothesis =>
    rw [placedFrom, List.filter_append]
    cases index with
    | zero =>
      cases found
      have all : (placedIn number batch).filter (fun placed => placed.batch = number + 0) =
          placedIn number batch := by
        rw [List.filter_eq_self]
        intro placed member
        exact decide_eq_true (mem_placedIn.mp member).1
      have none : (placedFrom (number + 1) rest).filter
          (fun placed => placed.batch = number + 0) = [] := by
        rw [List.filter_eq_nil_iff]
        intro placed member same
        obtain ⟨index, -, -, isNumber, -⟩ := mem_placedFrom member
        have := of_decide_eq_true same
        omega
      rw [all, none, List.append_nil]
      rfl
    | succ index =>
      have none : (placedIn number first).filter
          (fun placed => placed.batch = number + (index + 1)) = [] := by
        rw [List.filter_eq_nil_iff]
        intro placed member same
        have isNumber := (mem_placedIn.mp member).1
        have := of_decide_eq_true same
        omega
      have shifted : number + (index + 1) = number + 1 + index := by omega
      rw [none, List.nil_append, shifted]
      exact inductionHypothesis found

theorem pairwise_placedIn (number : Nat) (batch : List Item) :
    (placedIn number batch).Pairwise Placed.Before := by
  induction batch using List.reverseRecOn with
  | nil => exact List.Pairwise.nil
  | append_singleton front item inductionHypothesis =>
    rw [placedIn_append_singleton, List.pairwise_append]
    refine ⟨inductionHypothesis, List.pairwise_singleton _ _, fun placed member other isLast => ?_⟩
    cases List.mem_singleton.mp isLast
    obtain ⟨isNumber, found⟩ := mem_placedIn.mp member
    exact .inr ⟨isNumber, (List.getElem?_eq_some_iff.mp found).1⟩

theorem pairwise_placedFrom (number : Nat) (batches : List (List Item)) :
    (placedFrom number batches).Pairwise Placed.Before := by
  induction batches generalizing number with
  | nil => exact List.Pairwise.nil
  | cons batch rest inductionHypothesis =>
    rw [placedFrom, List.pairwise_append]
    refine ⟨pairwise_placedIn number batch, inductionHypothesis _,
      fun placed member other isLater => .inl ?_⟩
    obtain ⟨index, -, -, isNumber, -⟩ := mem_placedFrom isLater
    have first := (mem_placedIn.mp member).1
    omega

/-- Batches that are closed, in the order they were closed in, and the one that is open. -/
structure Batching (Item : Type) where
  closed : List (List Item)
  current : List Item

namespace Batching

/-- Nothing was put yet. -/
def empty : Batching Item := ⟨[], []⟩

/-- Put an item into the open batch. -/
def push (batching : Batching Item) (item : Item) : Batching Item :=
  { batching with current := batching.current ++ [item] }

/-- Close the open batch. -/
def close (batching : Batching Item) : Batching Item :=
  ⟨batching.closed ++ [batching.current], []⟩

/-- All items in the order they were put in. -/
def placed (batching : Batching Item) : List (Placed Item) :=
  placedFrom 0 (batching.closed ++ [batching.current])

variable {batching : Batching Item}

theorem placed_push (batching : Batching Item) (item : Item) :
    (batching.push item).placed =
      batching.placed ++ [⟨batching.closed.length, batching.current.length, item⟩] := by
  unfold placed push
  dsimp only
  rw [placedFrom_append, placedFrom_append, placedFrom, placedFrom, placedFrom, placedFrom,
    placedIn_append_singleton, Nat.zero_add, List.append_nil, List.append_nil, List.append_assoc]

theorem placed_close (batching : Batching Item) : batching.close.placed = batching.placed := by
  unfold placed close
  dsimp only
  rw [placedFrom_append]
  exact List.append_nil _

theorem pairwise_placed (batching : Batching Item) : batching.placed.Pairwise Placed.Before :=
  pairwise_placedFrom 0 _

/-- The batch of an item is closed, or it is the open one, which is not empty then. -/
theorem of_mem_placed {found : Placed Item} (member : found ∈ batching.placed) :
    (∃ batch, batching.closed[found.batch]? = some batch ∧
      batch[found.place]? = some found.item) ∨
      found.batch = batching.closed.length ∧
        batching.current[found.place]? = some found.item := by
  obtain ⟨index, batch, isBatch, isNumber, isItem⟩ := mem_placedFrom member
  rw [Nat.zero_add] at isNumber
  subst isNumber
  rcases Nat.lt_or_ge found.batch batching.closed.length with before | after
  · rw [List.getElem?_append_left before] at isBatch
    exact .inl ⟨batch, isBatch, isItem⟩
  · rw [List.getElem?_append_right after] at isBatch
    obtain ⟨inside, same⟩ := List.getElem?_eq_some_iff.mp isBatch
    rw [List.length_singleton] at inside
    have last : found.batch = batching.closed.length := by omega
    rw [List.getElem_singleton] at same
    exact .inr ⟨last, same ▸ isItem⟩

/-- The items with the number of a closed batch are its items, and no others come later. -/
theorem filter_placed {number : Nat} {batch : List Item}
    (found : batching.closed[number]? = some batch) :
    batching.placed.filter (fun placed => placed.batch = number) = placedIn number batch := by
  have inside := (List.getElem?_eq_some_iff.mp found).1
  have isBatch : (batching.closed ++ [batching.current])[number]? = some batch := by
    rw [List.getElem?_append_left inside]
    exact found
  have whole : (placedFrom 0 (batching.closed ++ [batching.current])).filter
      (fun placed => placed.batch = 0 + number) = placedIn (0 + number) batch :=
    filter_placedFrom isBatch
  rw [Nat.zero_add] at whole
  exact whole

end Batching

/-- What holds of any two items of one key in their order, when it does among the items of each
key. -/
theorem pairwise_of_filter [DecidableEq Key] {key : Item → Key} {items : List Item}
    {relation : Item → Item → Prop}
    (each : ∀ one, (items.filter fun item => key item = one).Pairwise relation) :
    items.Pairwise fun first second => key first = key second → relation first second := by
  induction items with
  | nil => exact List.Pairwise.nil
  | cons item rest inductionHypothesis =>
    refine List.Pairwise.cons (fun other member same => ?_)
      (inductionHypothesis fun one => ?_)
    · have own := each (key item)
      rw [List.filter_cons_of_pos (by simp)] at own
      exact List.rel_of_pairwise_cons own
        (List.mem_filter.mpr ⟨member, decide_eq_true same.symm⟩)
    · exact (each one).sublist ((List.sublist_cons_self item rest).filter _)

/-- When all keys are different, one item is all that has its key. -/
theorem filter_eq_singleton [DecidableEq Key] {key : Item → Key} {items : List Item} {item : Item}
    (distinct : (items.map key).Nodup) (member : item ∈ items) :
    items.filter (fun other => key other = key item) = [item] := by
  induction items with
  | nil => cases member
  | cons first rest inductionHypothesis =>
    obtain ⟨absent, later⟩ := List.nodup_cons.mp distinct
    rcases List.mem_cons.mp member with rfl | inRest
    · rw [List.filter_cons_of_pos (by simp), List.filter_eq_nil_iff.mpr]
      intro other isOther same
      exact absent (List.mem_map.mpr ⟨other, isOther, of_decide_eq_true same⟩)
    · have different : key first ≠ key item := fun same =>
        absent (same ▸ List.mem_map.mpr ⟨item, inRest, rfl⟩)
      rw [List.filter_cons_of_neg (by simpa using different)]
      exact inductionHypothesis later inRest

end Vnt.Base
