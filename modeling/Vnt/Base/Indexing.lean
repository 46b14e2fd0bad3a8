/-
This file fixes what it means to reach into a list by an index or a range. Such an access fails when
it leaves the list. Each operation is partial, and a lemma says that inside the list it is the total
one.
-/

import Mathlib.Data.List.Basic

namespace Vnt.Base

variable {Item : Type}

/-- Write one item. -/
def writeAt (items : List Item) (index : Nat) (item : Item) : Option (List Item) :=
  if index < items.length then some (items.set index item) else none

/-- Read the items of a range. -/
def slice (items : List Item) (first last : Nat) : Option (List Item) :=
  if first ≤ last ∧ last ≤ items.length then some ((items.take last).drop first) else none

/-- Copy items over those of a range of their length. -/
def copyAt (items : List Item) (first last : Nat) (source : List Item) : Option (List Item) :=
  if first ≤ last ∧ last ≤ items.length ∧ source.length = last - first then
    some (items.take first ++ source ++ items.drop last)
  else none

/-- Set the marks of the items that meet a condition, counting from an index. -/
def markAll (holds : Item → Bool) : List Item → Nat → List Bool → Option (List Bool)
  | [], _, marks => some marks
  | item :: rest, index, marks =>
    if holds item = true then (writeAt marks index true).bind (markAll holds rest (index + 1))
    else markAll holds rest (index + 1) marks

theorem writeAt_of_lt {items : List Item} {index : Nat} (inside : index < items.length)
    (item : Item) : writeAt items index item = some (items.set index item) := if_pos inside

theorem slice_of_le {items : List Item} {first last : Nat} (ordered : first ≤ last)
    (inside : last ≤ items.length) :
    slice items first last = some ((items.take last).drop first) := if_pos ⟨ordered, inside⟩

/-- What is copied replaces the middle of three parts. -/
theorem copyAt_append (before middle after source : List Item)
    (same : source.length = middle.length) :
    copyAt (before ++ (middle ++ after)) before.length (before.length + source.length) source =
      some (before ++ (source ++ after)) := by
  have inside : before.length + source.length ≤ (before ++ (middle ++ after)).length := by
    rw [List.length_append, List.length_append]
    omega
  unfold copyAt
  rw [if_pos ⟨Nat.le_add_right _ _, inside, (Nat.add_sub_cancel_left _ _).symm⟩,
    List.take_left' rfl, same, ← List.length_append, ← List.append_assoc before middle after,
    List.drop_left' rfl, List.append_assoc]

/-- Marks that start clear end as the items say. -/
theorem markAll_replicate (holds : Item → Bool) (items : List Item) (past : List Bool) :
    markAll holds items past.length (past ++ List.replicate items.length false) =
      some (past ++ items.map holds) := by
  induction items generalizing past with
  | nil => rfl
  | cons item rest inductionHypothesis =>
    have later := inductionHypothesis (past ++ [holds item])
    rw [List.length_append, List.append_assoc, List.append_assoc] at later
    unfold markAll
    rw [List.length_cons, List.replicate_succ, List.map_cons]
    cases outcome : holds item with
    | true =>
      rw [outcome] at later
      have inside : past.length < (past ++ false :: List.replicate rest.length false).length := by
        rw [List.length_append, List.length_cons]
        omega
      rw [if_pos rfl, writeAt_of_lt inside, Option.bind_some,
        List.set_append_right _ _ (Nat.le_refl _),
        Nat.sub_self]
      exact later
    | false =>
      rw [outcome] at later
      rw [if_neg Bool.false_ne_true]
      exact later

end Vnt.Base
