/-
This file says which items of a list are among its first ones by a key. An item comes before
another one if its key is less, or if the keys are equal and it stands further to the front. The
rank of an item is the number of items that come before it, and sorting the list with a stable sort
and cutting it keeps exactly the items whose rank is below the cut.
-/

import Mathlib.Data.List.Sort

namespace Vnt.Base.Ranking

variable {Item : Type}

/-! ### A stable sort -/

/-- The order by a key and then by a place. -/
def Before (key place : Item → Nat) (first second : Item) : Prop :=
  key first < key second ∨ key first = key second ∧ place first < place second

instance (key place : Item → Nat) (first second : Item) :
    Decidable (Before key place first second) := by
  unfold Before
  infer_instance

variable {key place : Item → Nat} {before : Item → Item → Prop} [DecidableRel before]
  {items : List Item} {item : Item}

theorem Before.irrefl (item : Item) : ¬ Before key place item item := by
  unfold Before
  omega

theorem Before.asymm {first second : Item} (precedes : Before key place first second) :
    ¬ Before key place second first := by
  unfold Before at precedes ⊢
  omega

theorem Before.trans {first second third : Item} (precedes : Before key place first second)
    (follows : Before key place second third) : Before key place first third := by
  unfold Before at precedes follows ⊢
  omega

/-- An item with an earlier place than the others is inserted before those with its key. -/
theorem pairwise_orderedInsert (sorted : items.Pairwise (Before key place))
    (agrees : ∀ other ∈ items, before item other ↔ key item ≤ key other)
    (earlier : ∀ other ∈ items, place item < place other) :
    (items.orderedInsert before item).Pairwise (Before key place) := by
  induction items with
  | nil => exact List.pairwise_singleton _ _
  | cons first rest inductionHypothesis =>
    obtain ⟨least, later⟩ := List.pairwise_cons.mp sorted
    obtain ⟨agreesFirst, agreesRest⟩ := List.forall_mem_cons.mp agrees
    obtain ⟨earlierFirst, earlierRest⟩ := List.forall_mem_cons.mp earlier
    by_cases isBefore : before item first
    · rw [List.orderedInsert_cons_of_le before rest isBefore]
      have leads : Before key place item first := by
        have atMost := agreesFirst.mp isBefore
        unfold Before
        omega
      refine List.pairwise_cons.mpr ⟨?_, sorted⟩
      rintro other (_ | ⟨_, member⟩)
      · exact leads
      · exact leads.trans (least other member)
    · rw [List.orderedInsert_of_not_le before rest isBefore]
      have follows : Before key place first item :=
        .inl (Nat.lt_of_not_le (mt agreesFirst.mpr isBefore))
      refine List.pairwise_cons.mpr
        ⟨fun other member => ?_, inductionHypothesis later agreesRest earlierRest⟩
      rcases (List.mem_orderedInsert before).mp member with rfl | inRest
      · exact follows
      · exact least other inRest

/-- The sort orders items that stand at increasing places by their key, and those with one key by
their places. -/
theorem pairwise_insertionSort (increasing : items.Pairwise fun first second =>
      place first < place second)
    (agrees : ∀ first ∈ items, ∀ second ∈ items, before first second ↔ key first ≤ key second) :
    (items.insertionSort before).Pairwise (Before key place) := by
  induction items with
  | nil => exact List.Pairwise.nil
  | cons first rest inductionHypothesis =>
    obtain ⟨earlier, later⟩ := List.pairwise_cons.mp increasing
    rw [List.insertionSort_cons]
    refine pairwise_orderedInsert (inductionHypothesis later fun one isOne other isOther =>
      agrees one (List.mem_cons_of_mem _ isOne) other (List.mem_cons_of_mem _ isOther)) ?_ ?_
    · intro other member
      exact agrees first List.mem_cons_self other
        (List.mem_cons_of_mem _ ((List.mem_insertionSort before).mp member))
    · exact fun other member => earlier other ((List.mem_insertionSort before).mp member)

/-- In an ordered list, as many items come before an item as stand in front of it. -/
theorem countP_before {front back : List Item}
    (sorted : (front ++ item :: back).Pairwise (Before key place)) :
    (front ++ item :: back).countP (fun other => Before key place other item) =
      front.length := by
  obtain ⟨-, behind, inFront⟩ := List.pairwise_append.mp sorted
  have all : front.countP (fun other => Before key place other item) = front.length :=
    List.countP_eq_length.mpr fun other member =>
      decide_eq_true (inFront other member item List.mem_cons_self)
  have none : (item :: back).countP (fun other => Before key place other item) = 0 := by
    refine List.countP_eq_zero.mpr fun other member => ?_
    rw [decide_eq_true_eq]
    rcases List.mem_cons.mp member with rfl | later
    · exact Before.irrefl other
    · exact ((List.pairwise_cons.mp behind).1 other later).asymm
  rw [List.countP_append, all, none, Nat.add_zero]

/-! ### The rank of an item -/

variable [DecidableEq Item]

/-- How many items come before an item by the key, those further to the front winning ties. -/
def rank (key : Item → Nat) (items : List Item) (item : Item) : Nat :=
  items.countP fun other => Before key items.idxOf other item

theorem pairwise_idxOf (distinct : items.Nodup) :
    items.Pairwise fun first second => items.idxOf first < items.idxOf second := by
  rw [List.pairwise_iff_getElem]
  intro first second firstInside secondInside order
  rwa [distinct.idxOf_getElem, distinct.idxOf_getElem]

/-- The items that a stable sort puts before the cut are those with a rank below it. -/
theorem mem_take_insertionSort_iff (distinct : items.Nodup)
    (agrees : ∀ first ∈ items, ∀ second ∈ items, before first second ↔ key first ≤ key second)
    (cut : Nat) :
    item ∈ (items.insertionSort before).take cut ↔
      item ∈ items ∧ rank key items item < cut := by
  have sorted := pairwise_insertionSort (pairwise_idxOf distinct) agrees
  have permuted := List.perm_insertionSort before items
  have sameRank : ∀ front back, items.insertionSort before = front ++ item :: back →
      rank key items item = front.length := by
    intro front back split
    rw [split] at sorted permuted
    exact (permuted.countP_eq _).symm.trans (countP_before sorted)
  constructor
  · intro member
    obtain ⟨front, back, split⟩ := List.append_of_mem member
    have whole : items.insertionSort before =
        front ++ item :: (back ++ (items.insertionSort before).drop cut) := by
      rw [← List.cons_append, ← List.append_assoc, ← split, List.take_append_drop]
    refine ⟨permuted.mem_iff.mp (List.mem_of_mem_take member), ?_⟩
    have within := List.length_take_le cut (items.insertionSort before)
    rw [split, List.length_append, List.length_cons] at within
    rw [sameRank _ _ whole]
    omega
  · rintro ⟨member, isFirst⟩
    obtain ⟨front, back, split⟩ := List.append_of_mem (permuted.mem_iff.mpr member)
    rw [sameRank _ _ split] at isFirst
    rw [split, List.take_append, List.mem_append]
    obtain ⟨more, rest⟩ := Nat.exists_eq_succ_of_ne_zero (Nat.sub_ne_zero_of_lt isFirst)
    rw [rest, List.take_succ_cons]
    exact .inr List.mem_cons_self

end Vnt.Base.Ranking
