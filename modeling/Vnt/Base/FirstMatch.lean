/-
This file says what the first match in a list is. In an ordered list the first match is related to
every other match, so in an increasing list it is the least one. In any list the first match is the
best one by a key for every query, or has at least the value of a best one, exactly when no item
hides a better one of another value behind it.
-/

import Mathlib.Data.List.MinMax

namespace Vnt.Base

variable {Item Query : Type}

/-- In an ordered list the first match is related to every other match. -/
theorem related_of_find? {related : Item → Item → Prop} {accepts : Item → Bool}
    {items : List Item} {first other : Item} (ordered : items.Pairwise related)
    (found : items.find? accepts = some first) (member : other ∈ items)
    (accepted : accepts other = true) : other = first ∨ related first other := by
  obtain ⟨-, front, back, rfl, earlier⟩ := List.find?_eq_some_iff_append.mp found
  rcases List.mem_append.mp member with inFront | inBack
  · have none := earlier other inFront
    rw [accepted] at none
    cases none
  · rcases List.mem_cons.mp inBack with same | later
    · exact .inl same
    · exact .inr ((List.pairwise_cons.mp (List.pairwise_append.mp ordered).2.1).1 other later)

/-- In a list at increasing places the first match is the one with the least place. -/
theorem find?_eq_some_iff_least {place : Item → Nat} {accepts : Item → Bool} {items : List Item}
    {item : Item} (distinct : ∀ first second, place first = place second → first = second)
    (increasing : items.Pairwise fun first second => place first < place second) :
    items.find? accepts = some item ↔
      (item ∈ items ∧ accepts item = true) ∧
        ∀ other ∈ items, accepts other = true → place item ≤ place other := by
  have least : ∀ first, items.find? accepts = some first →
      ∀ other ∈ items, accepts other = true → place first ≤ place other := by
    intro first found other member accepted
    rcases related_of_find? increasing found member accepted with rfl | less
    · exact Nat.le_refl _
    · exact Nat.le_of_lt less
  constructor
  · intro found
    exact ⟨⟨List.mem_of_find?_eq_some found, List.find?_some found⟩, least item found⟩
  · rintro ⟨⟨member, accepted⟩, isLeast⟩
    cases found : items.find? accepts with
    | none => exact absurd accepted (List.find?_eq_none.mp found item member)
    | some first =>
      have upper := least first found item member accepted
      have lower := isLeast first (List.mem_of_find?_eq_some found) (List.find?_some found)
      exact congrArg some (distinct first item (Nat.le_antisymm upper lower))

/-- Among items at one place the first one is the least. -/
theorem head?_of_argmin [DecidableEq Item] {place : Item → Nat} {items : List Item} {item : Item}
    (least : items.argmin place = some item)
    (greatest : ∀ other ∈ items, place other ≤ place item) : items.head? = some item := by
  obtain ⟨member, -, earliest⟩ := List.argmin_eq_some_iff.mp least
  cases items with
  | nil => cases member
  | cons first rest =>
    have inFront := earliest first List.mem_cons_self (greatest first List.mem_cons_self)
    rw [List.idxOf_cons_self, Nat.le_zero] at inFront
    by_contra different
    rw [List.head?_cons, Option.some.injEq] at different
    rw [List.idxOf_cons_ne rest different] at inFront
    cases inFront

/-! ### The best match comes first -/

variable {Value : Type}

/-- The greatest key among the items that match the query is that of the item. -/
def Best (covers : Item → Query → Bool) (key : Item → Nat) (items : List Item) (query : Query)
    (item : Item) : Prop :=
  (item ∈ items ∧ covers item query = true) ∧
    ∀ other ∈ items, covers other query = true → key other ≤ key item

/-- For every query, the first match has the value of a best one. -/
def BestFirst (covers : Item → Query → Bool) (key : Item → Nat) (value : Item → Value)
    (items : List Item) : Prop :=
  ∀ query first, items.find? (covers · query) = some first →
    ∃ best, Best covers key items query best ∧ value best = value first

/-- When an item is the first match of a query that an item behind it with a greater key matches
too, then a best item for the query has the same value. -/
def NoneHidden (covers : Item → Query → Bool) (key : Item → Nat) (value : Item → Value)
    (items : List Item) : Prop :=
  ∀ front item back, items = front ++ item :: back → ∀ later ∈ back, key item < key later →
    ∀ query, (∀ earlier ∈ front, covers earlier query = false) → covers item query = true →
      covers later query = true → ∃ best, Best covers key items query best ∧ value best = value item

variable {covers : Item → Query → Bool} {key : Item → Nat} {value : Item → Value}
  {items : List Item}

theorem bestFirst_iff : BestFirst covers key value items ↔ NoneHidden covers key value items := by
  constructor
  · rintro best front item back rfl later - - query notEarlier covered -
    refine best query item (List.find?_eq_some_iff_append.mpr
      ⟨covered, front, back, rfl, fun earlier inFront => ?_⟩)
    rw [notEarlier earlier inFront, Bool.not_false]
  · intro noneHidden query first found
    obtain ⟨covered, front, back, rfl, earlier⟩ := List.find?_eq_some_iff_append.mp found
    have notEarlier : ∀ item ∈ front, covers item query = false := fun item inFront =>
      Bool.not_eq_true' _ ▸ earlier item inFront
    by_cases isBest : ∀ later ∈ back, covers later query = true → key later ≤ key first
    · refine ⟨first, ⟨⟨List.mem_append_right front List.mem_cons_self, covered⟩, ?_⟩, rfl⟩
      intro other member accepted
      rcases List.mem_append.mp member with inFront | inBack
      · cases (notEarlier other inFront).symm.trans accepted
      · rcases List.mem_cons.mp inBack with rfl | later
        · exact Nat.le_refl _
        · exact isBest other later accepted
    · push Not at isBest
      obtain ⟨later, inBack, accepted, greater⟩ := isBest
      exact noneHidden front first back rfl later inBack greater query notEarlier covered accepted

/-- In a list with falling keys the best match comes first. -/
theorem noneHidden_of_pairwise
    (falling : items.Pairwise fun first second => key second ≤ key first) :
    NoneHidden covers key value items := by
  rintro front item back rfl later member greater
  have atMost := (List.pairwise_cons.mp (List.pairwise_append.mp falling).2.1).1 later member
  exact absurd atMost (Nat.not_le.mpr greater)

end Vnt.Base
