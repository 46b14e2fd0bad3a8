/-
This file gives the quotient of two natural numbers as a double: the exact quotient rounded to a
significand of 53 bits, ties to even. The numbers are within the range of the exponents, so no
quotient overflows or underflows.
-/

import Mathlib.Algebra.Order.Field.Rat

namespace Vnt.Base

/-- The quotient rounded to a whole number, ties to even. -/
def roundToEven (num den : Nat) : Nat :=
  let quotient := num / den
  let twice := 2 * (num % den)
  if twice < den ∨ (twice = den ∧ quotient % 2 = 0) then quotient else quotient + 1

/-- The number of binary places after which the quotient is rounded. -/
def binaryPlaces (num den : Nat) : Nat :=
  let places := 53 + Nat.log2 den - Nat.log2 num
  if num * 2 ^ places / den < 2 ^ 53 then places else places - 1

/-- The quotient as a double. -/
def doubleQuotient (num den : Nat) : ℚ :=
  if num = 0 then 0
  else
    (roundToEven (num * 2 ^ binaryPlaces num den) den : ℚ) / (2 : ℚ) ^ binaryPlaces num den

theorem div_le_roundToEven (num den : Nat) : num / den ≤ roundToEven num den := by
  unfold roundToEven
  dsimp only
  split
  · exact Nat.le_refl _
  · exact Nat.le_succ _

/-- A quotient that is not zero has at least one bit before the place of the rounding. -/
theorem le_shifted {num den : Nat} (positive : num ≠ 0) :
    den ≤ num * 2 ^ binaryPlaces num den := by
  have places : 52 + Nat.log2 den ≤ Nat.log2 num + binaryPlaces num den := by
    unfold binaryPlaces
    dsimp only
    split <;> omega
  calc den ≤ 2 ^ (Nat.log2 den + 1) := Nat.le_of_lt Nat.lt_log2_self
    _ ≤ 2 ^ (Nat.log2 num + binaryPlaces num den) := Nat.pow_le_pow_right (by decide) (by omega)
    _ = 2 ^ Nat.log2 num * 2 ^ binaryPlaces num den := Nat.pow_add ..
    _ ≤ num * 2 ^ binaryPlaces num den := Nat.mul_le_mul_right _ (Nat.log2_self_le positive)

/-- Rounding never makes a positive quotient zero. -/
theorem doubleQuotient_pos {num den : Nat} (positive : num ≠ 0) (divisor : den ≠ 0) :
    0 < doubleQuotient num den := by
  have whole : 0 < roundToEven (num * 2 ^ binaryPlaces num den) den :=
    Nat.lt_of_lt_of_le (Nat.div_pos (le_shifted positive) (Nat.pos_of_ne_zero divisor))
      (div_le_roundToEven _ _)
  unfold doubleQuotient
  rw [if_neg positive]
  exact div_pos (Nat.cast_pos.mpr whole) (pow_pos (by decide) _)

theorem doubleQuotient_zero (den : Nat) : doubleQuotient 0 den = 0 := if_pos rfl

/-- 1/3 is rounded to 6004799503160661 / 2^54. -/
example : doubleQuotient 1 3 = 6004799503160661 / 2 ^ 54 := by decide +kernel

end Vnt.Base
