/-
This file instantiates the erasure code for two data shards and one parity shard, the fewest with
which a lost packet is completed from another one. Symbols are those of the field of 256 elements
under the polynomial `0x11D`, and the parity is the last row of the Vandermonde matrix brought to
systematic form, three times the first symbol and twice the second.
-/

import Vnt.Base.ErasureCode

namespace Vnt.Fec

open Vnt.Base

/-- Twice a symbol. -/
def double (symbol : UInt8) : UInt8 :=
  if symbol < 128 then symbol <<< 1 else (symbol <<< 1) ^^^ 0x1D

/-- Three times a symbol. -/
def triple (symbol : UInt8) : UInt8 := double symbol ^^^ symbol

/-- A symbol divided by two. -/
def half (symbol : UInt8) : UInt8 :=
  if symbol &&& 1 = 0 then symbol >>> 1 else ((symbol ^^^ 0x1D) >>> 1) ||| 0x80

/-- A symbol divided by three, which is its product with `0xF4`. -/
def third (symbol : UInt8) : UInt8 :=
  let four := double (double symbol)
  let sixteen := double (double four)
  let thirtyTwo := double sixteen
  let sixtyFour := double thirtyTwo
  double sixtyFour ^^^ sixtyFour ^^^ thirtyTwo ^^^ sixteen ^^^ four

/-- What holds of the 256 symbols one by one holds of all. -/
theorem forall_symbol {holds : UInt8 → Prop} (each : ∀ index < 256, holds (UInt8.ofNat index))
    (symbol : UInt8) : holds symbol := by
  have known := each symbol.toNat symbol.toNat_lt
  rwa [UInt8.ofNat_toNat] at known

theorem half_double : ∀ symbol, half (double symbol) = symbol :=
  forall_symbol (by decide +kernel)

theorem third_triple : ∀ symbol, third (triple symbol) = symbol :=
  forall_symbol (by decide +kernel)

/-- The code for two data shards and one parity shard. -/
def pairCode : ErasureCode UInt8 where
  encodeColumn := fun _ data =>
    match data with
    | [first, second] => [triple first ^^^ double second]
    | _ => []
  reconstructColumn := fun _ _ known =>
    match known with
    | [some first, some second, _] => [first, second]
    | [some first, none, some parity] => [first, half (parity ^^^ triple first)]
    | [none, some second, some parity] => [third (parity ^^^ double second), second]
    | _ => []

theorem xor_cancel_left (first second : UInt8) : (first ^^^ second) ^^^ first = second := by
  rw [UInt8.xor_comm first second, UInt8.xor_assoc, UInt8.xor_self, UInt8.xor_zero]

theorem xor_cancel_right (first second : UInt8) : (first ^^^ second) ^^^ second = first := by
  rw [UInt8.xor_assoc, UInt8.xor_self, UInt8.xor_zero]

/-- Any two of the three symbols determine the data. -/
theorem mds_pairCode : pairCode.Mds 2 1 where
  length_encodeColumn := by
    intro data length
    obtain ⟨first, second, rfl⟩ := List.length_eq_two.mp length
    rfl
  reconstructColumn := by
    intro data known dataLength length agrees enough
    obtain ⟨first, second, rfl⟩ := List.length_eq_two.mp dataLength
    obtain ⟨one, two, parity, rfl⟩ := List.length_eq_three.mp length
    have ofOne : ∀ symbol, one = some symbol → symbol = first := fun symbol known =>
      (Option.some_inj.mp (agrees 0 symbol known)).symm
    have ofTwo : ∀ symbol, two = some symbol → symbol = second := fun symbol known =>
      (Option.some_inj.mp (agrees 1 symbol known)).symm
    have ofParity : ∀ symbol, parity = some symbol → symbol = triple first ^^^ double second :=
      fun symbol known => (Option.some_inj.mp (agrees 2 symbol known)).symm
    cases one with
    | some one =>
      rw [ofOne one rfl]
      cases two with
      | some two =>
        rw [ofTwo two rfl]
        rfl
      | none =>
        cases parity with
        | some parity =>
          rw [ofParity parity rfl]
          show [first, half (triple first ^^^ double second ^^^ triple first)] = [first, second]
          rw [xor_cancel_left, half_double]
        | none => exact absurd enough (by simp)
    | none =>
      cases two with
      | some two =>
        rw [ofTwo two rfl]
        cases parity with
        | some parity =>
          rw [ofParity parity rfl]
          show [third (triple first ^^^ double second ^^^ double second), second] = [first, second]
          rw [xor_cancel_right, third_triple]
        | none => exact absurd enough (by simp)
      | none =>
        cases parity <;> exact absurd enough (by simp)

end Vnt.Fec
