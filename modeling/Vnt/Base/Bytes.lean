/-
This file develops fixed-width big-endian numbers. A number below `256 ^ width` is read back
from its bytes, and `width` bytes are written back from the number they stand for, so the two
forms of a field of a header can be exchanged freely.
-/

import Mathlib.Algebra.Group.Nat.Defs
import Mathlib.Data.List.Induction

namespace Vnt.Base

/-- The last `width` bytes of a number, the most significant first. -/
def bigEndian : Nat → Nat → List UInt8
  | 0, _ => []
  | width + 1, value => bigEndian width (value / 256) ++ [UInt8.ofNat value]

/-- The number that bytes stand for. -/
def ofBigEndian (bytes : List UInt8) : Nat :=
  bytes.foldl (fun value byte => 256 * value + byte.toNat) 0

@[simp] theorem length_bigEndian (width value : Nat) : (bigEndian width value).length = width := by
  induction width generalizing value with
  | zero => rfl
  | succ width inductionHypothesis =>
    rw [bigEndian, List.length_append, inductionHypothesis]
    rfl

theorem ofBigEndian_append (bytes : List UInt8) (last : UInt8) :
    ofBigEndian (bytes ++ [last]) = 256 * ofBigEndian bytes + last.toNat := by
  unfold ofBigEndian
  rw [List.foldl_append]
  rfl

theorem ofBigEndian_lt (bytes : List UInt8) : ofBigEndian bytes < 256 ^ bytes.length := by
  induction bytes using List.reverseRecOn with
  | nil => decide
  | append_singleton bytes last inductionHypothesis =>
    have below := last.toNat_lt
    rw [ofBigEndian_append, List.length_append, List.length_singleton, Nat.pow_succ]
    omega

theorem ofBigEndian_bigEndian {width value : Nat} (below : value < 256 ^ width) :
    ofBigEndian (bigEndian width value) = value := by
  induction width generalizing value with
  | zero =>
    rw [Nat.pow_zero] at below
    have zero : value = 0 := by omega
    rw [zero]
    rfl
  | succ width inductionHypothesis =>
    rw [Nat.pow_succ] at below
    have quotient : value / 256 < 256 ^ width := by omega
    rw [bigEndian, ofBigEndian_append, inductionHypothesis quotient, UInt8.toNat_ofNat']
    omega

theorem bigEndian_ofBigEndian {width : Nat} (bytes : List UInt8) (length : bytes.length = width) :
    bigEndian width (ofBigEndian bytes) = bytes := by
  induction bytes using List.reverseRecOn generalizing width with
  | nil =>
    rw [← length]
    rfl
  | append_singleton bytes last inductionHypothesis =>
    rw [List.length_append, List.length_singleton] at length
    have below := last.toNat_lt
    have quotient : (256 * ofBigEndian bytes + last.toNat) / 256 = ofBigEndian bytes := by omega
    have remainder : UInt8.ofNat (256 * ofBigEndian bytes + last.toNat) = last := by
      refine UInt8.toNat_inj.mp ?_
      rw [UInt8.toNat_ofNat']
      omega
    rw [← length, bigEndian, ofBigEndian_append, quotient, remainder, inductionHypothesis rfl]

/-- A 32-bit word as four bytes, `u32::to_be_bytes`. -/
def wordBytes (word : UInt32) : List UInt8 := bigEndian 4 word.toNat

/-- `u32::from_be_bytes`. -/
def ofWordBytes (bytes : List UInt8) : UInt32 := UInt32.ofNat (ofBigEndian bytes)

@[simp] theorem length_wordBytes (word : UInt32) : (wordBytes word).length = 4 :=
  length_bigEndian 4 word.toNat

@[simp] theorem ofWordBytes_wordBytes (word : UInt32) : ofWordBytes (wordBytes word) = word := by
  unfold ofWordBytes wordBytes
  rw [ofBigEndian_bigEndian word.toNat_lt, UInt32.ofNat_toNat]

theorem wordBytes_ofWordBytes {bytes : List UInt8} (length : bytes.length = 4) :
    wordBytes (ofWordBytes bytes) = bytes := by
  unfold wordBytes ofWordBytes
  have below : ofBigEndian bytes < 2 ^ 32 := by
    have := ofBigEndian_lt bytes
    rwa [length] at this
  rw [UInt32.toNat_ofNat_of_lt' below, bigEndian_ofBigEndian bytes length]

theorem wordBytes_inj {first second : UInt32} (same : wordBytes first = wordBytes second) :
    first = second := by
  rw [← ofWordBytes_wordBytes first, same, ofWordBytes_wordBytes]

end Vnt.Base
