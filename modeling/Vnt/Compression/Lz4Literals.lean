/-
This file instantiates the compressor by the blocks of the LZ4 format that consist of one run of
literals, with the size in front. Short payloads are written so by every compressor of the
format. It shows that the contract of the compressor can be met for all payloads.
-/

import Vnt.Compression.PacketCompression

namespace Vnt.Lz4Literals

open Vnt.Base

/-- The rest of a length of 15 or more: bytes of 255, and a smaller one. -/
def writeRun (length : Nat) : List UInt8 :=
  List.replicate (length / 255) 255 ++ [UInt8.ofNat (length % 255)]

def readRun : List UInt8 → Option (Nat × List UInt8)
  | [] => none
  | byte :: rest =>
    if byte = 255 then (readRun rest).map fun run => (255 + run.1, run.2)
    else some (byte.toNat, rest)

/-- A block of one run of literals: a token with the length, and the literals. -/
def writeBlock (literals : List UInt8) : List UInt8 :=
  if literals.length < 15 then UInt8.ofNat (16 * literals.length) :: literals
  else 240 :: (writeRun (literals.length - 15) ++ literals)

def readBlock (block : List UInt8) : Option (List UInt8) :=
  match block with
  | [] => none
  | token :: rest =>
    if token = 240 then
      (readRun rest).bind fun run => if run.2.length = 15 + run.1 then some run.2 else none
    else if token.toNat = 16 * rest.length then some rest
    else none

def compressPrependSize (payload : List UInt8) : List UInt8 :=
  (bigEndian 4 payload.length).reverse ++ writeBlock payload

def decompressSizePrepended (bytes : List UInt8) : Except String (List UInt8) :=
  match readBlock (bytes.drop 4) with
  | some payload =>
    if ofBigEndian (bytes.take 4).reverse = payload.length then .ok payload
    else .error "the size does not match"
  | none => .error "not a run of literals"

theorem readRun_writeRun (length : Nat) (rest : List UInt8) :
    readRun (writeRun length ++ rest) = some (length, rest) := by
  have run : ∀ count, readRun (List.replicate count 255 ++ ([UInt8.ofNat (length % 255)] ++ rest)) =
      some (255 * count + length % 255, rest) := by
    intro count
    induction count with
    | zero =>
      have small : (UInt8.ofNat (length % 255)).toNat = length % 255 := by
        rw [UInt8.toNat_ofNat']
        omega
      have notFull : UInt8.ofNat (length % 255) ≠ 255 := by
        intro full
        have value : (255 : UInt8).toNat = 255 := rfl
        rw [full, value] at small
        omega
      rw [List.replicate_zero, List.nil_append, List.singleton_append, readRun, if_neg notFull,
        small]
      simp
    | succ count inductionHypothesis =>
      rw [List.replicate_succ, List.cons_append, readRun, if_pos rfl, inductionHypothesis]
      simp only [Option.map_some, Option.some.injEq, Prod.mk.injEq, and_true]
      omega
  have split : 255 * (length / 255) + length % 255 = length := by omega
  rw [writeRun, List.append_assoc, run, split]

theorem readBlock_writeBlock (literals : List UInt8) :
    readBlock (writeBlock literals) = some literals := by
  unfold writeBlock
  split
  · next short =>
    have token : (UInt8.ofNat (16 * literals.length)).toNat = 16 * literals.length := by
      rw [UInt8.toNat_ofNat']
      omega
    have notLong : UInt8.ofNat (16 * literals.length) ≠ 240 := by
      intro long
      have value : (240 : UInt8).toNat = 240 := rfl
      rw [long, value] at token
      omega
    rw [readBlock, if_neg notLong, if_pos token]
  · next long =>
    rw [readBlock, if_pos rfl, readRun_writeRun, Option.bind_some, if_pos (by dsimp only; omega)]

/-- The compressor that writes literals. -/
def lz4 : Lz4 where
  compressPrependSize := compressPrependSize
  decompressSizePrepended := decompressSizePrepended
  decompress_compress := fun payload short => by
    have size : (bigEndian 4 payload.length).reverse.length = 4 := by simp
    have fits : payload.length < 256 ^ 4 := by omega
    unfold decompressSizePrepended compressPrependSize
    rw [List.drop_left' size, List.take_left' size, readBlock_writeBlock]
    dsimp only
    rw [List.reverse_reverse, ofBigEndian_bigEndian fits, if_pos rfl]

end Vnt.Lz4Literals
