/-
This file reads addresses back from their text. The text of an address is four numbers with dots
between them. The parser takes up to three digits for each of them and no leading zero, so it reads
the text that an address is displayed as, and that one back to the address.
-/

import Vnt.Ipv4

namespace Vnt.Ipv4Addr

/-- One number of an address: one to three digits below 256, without a leading zero. -/
def readNumber (digits : List Char) : Option Nat :=
  if digits = [] ∨ 3 < digits.length ∨ digits.all Char.isDigit = false then none
  else if 1 < digits.length ∧ digits.head? = some '0' then none
  else
    let value := digits.foldl (fun value digit => value * 10 + (digit.toNat - '0'.toNat)) 0
    if value < 256 then some value else none

/-- `Ipv4Addr::from_str`. Texts of more than 15 bytes, which are refused first, have no four such
parts. -/
def parse (text : String) : Option Ipv4Addr :=
  match (text.toList.splitOn '.').map readNumber with
  | [some first, some second, some third, some fourth] =>
    some (UInt32.ofNat (first * 16777216 + second * 65536 + third * 256 + fourth))
  | _ => none

/-- The digits of a number. -/
def digitsOf (number : Nat) : List Char := (toString number).toList

theorem readNumber_digitsOf_fin : ∀ number : Fin 256,
    readNumber (digitsOf number) = some number.val ∧ '.' ∉ digitsOf number := by
  decide +kernel

theorem readNumber_digitsOf {number : Nat} (small : number < 256) :
    readNumber (digitsOf number) = some number :=
  (readNumber_digitsOf_fin ⟨number, small⟩).1

theorem dot_notMem_digitsOf {number : Nat} (small : number < 256) : '.' ∉ digitsOf number :=
  (readNumber_digitsOf_fin ⟨number, small⟩).2

/-- The text of an address is its four numbers with dots between them. -/
theorem toList_display (ip : Ipv4Addr) :
    ip.display.toList = ['.'].intercalate
      [digitsOf (ip.toNat / 16777216), digitsOf (ip.toNat / 65536 % 256),
        digitsOf (ip.toNat / 256 % 256), digitsOf (ip.toNat % 256)] := by
  have dot : (toString ".").toList = ['.'] := rfl
  unfold display digitsOf
  simp [List.intercalate, dot]

/-- An address is read back from its text. -/
theorem parse_display (ip : Ipv4Addr) : parse ip.display = some ip := by
  have bound := ip.toNat_lt
  have first : ip.toNat / 16777216 < 256 := by omega
  have others (divisor : Nat) : ip.toNat / divisor % 256 < 256 := Nat.mod_lt _ (by decide)
  have last : ip.toNat % 256 < 256 := Nat.mod_lt _ (by decide)
  have split : ip.display.toList.splitOn '.' =
      [digitsOf (ip.toNat / 16777216), digitsOf (ip.toNat / 65536 % 256),
        digitsOf (ip.toNat / 256 % 256), digitsOf (ip.toNat % 256)] := by
    rw [toList_display]
    refine List.splitOn_intercalate '.' ?_ (by simp)
    simp [dot_notMem_digitsOf, first, others, last]
  have value : ip.toNat / 16777216 * 16777216 + ip.toNat / 65536 % 256 * 65536 +
      ip.toNat / 256 % 256 * 256 + ip.toNat % 256 = ip.toNat := by omega
  unfold parse
  rw [split]
  simp only [List.map_cons, List.map_nil, readNumber_digitsOf, first, others, last, value,
    UInt32.ofNat_toNat]

example : parse "10.26.0.1" = some 0x0A1A0001 := by decide +kernel
example : parse "10.26.0.01" = none := by decide +kernel

end Vnt.Ipv4Addr
