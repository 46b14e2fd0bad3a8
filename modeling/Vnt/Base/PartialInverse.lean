/-
This file develops pairs of partial functions that undo each other: a forward assignment of
values to keys and a backward record of which key holds a value. A component that keeps such
a pair in two tables has to update both. Releasing a key and giving a free value to an empty
key keep the pair exact; giving a key a new value while the backward record of its old value
stays never does.
-/

import Mathlib.Logic.Function.Basic

namespace Vnt.Base

variable {Key Value : Type}

/-- The backward function records exactly which key the forward function gives a value. -/
def PartialInverse (forward : Key → Option Value) (backward : Value → Option Key) : Prop :=
  ∀ value key, backward value = some key ↔ forward key = some value

namespace PartialInverse

variable {forward : Key → Option Value} {backward : Value → Option Key}

/-- No two keys share a value. -/
theorem unique (inverse : PartialInverse forward backward) {first second : Key} {value : Value}
    (holdsFirst : forward first = some value) (holdsSecond : forward second = some value) :
    first = second := by
  have recorded := (inverse value first).mpr holdsFirst
  rw [(inverse value second).mpr holdsSecond] at recorded
  exact (Option.some.inj recorded).symm

/-- A value without a record is held by no key. -/
theorem not_held (inverse : PartialInverse forward backward) {value : Value}
    (unrecorded : backward value = none) (key : Key) : forward key ≠ some value := by
  intro holds
  rw [(inverse value key).mpr holds] at unrecorded
  cases unrecorded

theorem release_empty [DecidableEq Key] (inverse : PartialInverse forward backward)
    {key : Key} (empty : forward key = none) :
    PartialInverse (Function.update forward key none) backward := by
  rwa [← empty, Function.update_eq_self]

variable [DecidableEq Key] [DecidableEq Value]

theorem release (inverse : PartialInverse forward backward) {key : Key} {value : Value}
    (holds : forward key = some value) :
    PartialInverse (Function.update forward key none) (Function.update backward value none) := by
  intro other holder
  by_cases sameValue : other = value
  · subst sameValue
    rw [Function.update_self]
    by_cases sameKey : holder = key
    · simp [sameKey]
    · rw [Function.update_of_ne sameKey]
      constructor
      · intro impossible
        cases impossible
      · intro holdsToo
        exact absurd (inverse.unique holdsToo holds) sameKey
  · rw [Function.update_of_ne sameValue]
    by_cases sameKey : holder = key
    · subst sameKey
      rw [Function.update_self, inverse other holder, holds]
      simp [Ne.symm sameValue]
    · rw [Function.update_of_ne sameKey]
      exact inverse other holder

theorem assign (inverse : PartialInverse forward backward) {key : Key} {value : Value}
    (empty : forward key = none) (free : backward value = none) :
    PartialInverse (Function.update forward key (some value))
      (Function.update backward value (some key)) := by
  intro other holder
  by_cases sameValue : other = value
  · subst sameValue
    rw [Function.update_self]
    by_cases sameKey : holder = key
    · simp [sameKey]
    · rw [Function.update_of_ne sameKey]
      have notHeld := inverse.not_held free holder
      simp [notHeld, Ne.symm sameKey]
  · rw [Function.update_of_ne sameValue]
    by_cases sameKey : holder = key
    · subst sameKey
      rw [Function.update_self, inverse other holder, empty]
      simp [Ne.symm sameValue]
    · rw [Function.update_of_ne sameKey]
      exact inverse other holder

/-- A key moves to a free value when the record of its old value is dropped. -/
theorem move (inverse : PartialInverse forward backward) {key : Key} {old new : Value}
    (holds : forward key = some old) (free : backward new = none) :
    PartialInverse (Function.update forward key (some new))
      (Function.update (Function.update backward old none) new (some key)) := by
  have different : new ≠ old := by
    rintro rfl
    exact inverse.not_held free key holds
  have released : Function.update forward key none key = none := Function.update_self ..
  have stillFree : Function.update backward old none new = none := by
    rw [Function.update_of_ne different, free]
  have moved := (inverse.release holds).assign released stillFree
  rwa [Function.update_idem] at moved

/-- A key that moves while the record of its old value stays breaks the pair. -/
theorem not_move_keeping_record (inverse : PartialInverse forward backward) {key : Key}
    {old new : Value} (holds : forward key = some old) (different : new ≠ old) :
    ¬PartialInverse (Function.update forward key (some new))
      (Function.update backward new (some key)) := by
  intro broken
  have recorded : Function.update backward new (some key) old = some key := by
    rw [Function.update_of_ne (Ne.symm different), (inverse old key).mpr holds]
  have held := (broken old key).mp recorded
  rw [Function.update_self] at held
  exact different (Option.some.inj held)

end PartialInverse

end Vnt.Base
