/-
This file instantiates the authenticated cipher by ChaCha20-Poly1305, the one the source names.
The key stream is the ChaCha20 block function on a counter, the tag is Poly1305 over the
ciphertext under a key from the first block. That it opens what it sealed rests on two facts
only: a key stream applied twice cancels, and the tag is a function of the ciphertext.
-/

import Mathlib.Logic.Function.Iterate
import Vnt.Crypto.PacketCrypto

namespace Vnt.ChaCha20Poly1305

open Vnt.Base

/-! ### ChaCha20 -/

def rotateLeft (word : UInt32) (count : UInt32) : UInt32 :=
  (word <<< count) ||| (word >>> (32 - count))

/-- One quarter round on four words of the state. -/
def quarterRound (state : List UInt32) (first second third fourth : Nat) : List UInt32 :=
  let a := state.getD first 0
  let b := state.getD second 0
  let c := state.getD third 0
  let d := state.getD fourth 0
  let a := a + b
  let d := rotateLeft (d ^^^ a) 16
  let c := c + d
  let b := rotateLeft (b ^^^ c) 12
  let a := a + b
  let d := rotateLeft (d ^^^ a) 8
  let c := c + d
  let b := rotateLeft (b ^^^ c) 7
  (((state.set first a).set second b).set third c).set fourth d

/-- A round on the columns and a round on the diagonals. -/
def doubleRound (state : List UInt32) : List UInt32 :=
  [(0, 4, 8, 12), (1, 5, 9, 13), (2, 6, 10, 14), (3, 7, 11, 15),
    (0, 5, 10, 15), (1, 6, 11, 12), (2, 7, 8, 13), (3, 4, 9, 14)].foldl
      (fun state words => quarterRound state words.1 words.2.1 words.2.2.1 words.2.2.2) state

/-- The words of bytes, the least significant byte of each first. -/
def littleWords (count : Nat) (bytes : List UInt8) : List UInt32 :=
  (List.range count).map fun index => ofWordBytes ((bytes.drop (4 * index)).take 4).reverse

/-- The block function: 64 bytes of the key stream. -/
def block (key nonce : List UInt8) (counter : Nat) : List UInt8 :=
  let initial := [0x61707865, 0x3320646E, 0x79622D32, 0x6B206574] ++
    (littleWords 8 key ++ (UInt32.ofNat counter :: littleWords 3 nonce))
  (List.zipWith (· + ·) (doubleRound^[10] initial) initial).flatMap fun word =>
    (wordBytes word).reverse

/-- A byte of the key stream that messages use, from the block 1 on. -/
def keyStream (key nonce : List UInt8) (index : Nat) : UInt8 :=
  (block key nonce (1 + index / 64)).getD (index % 64) 0

/-- Bytes under the key stream. -/
def applyStream (key nonce bytes : List UInt8) : List UInt8 :=
  bytes.mapIdx fun index byte => byte ^^^ keyStream key nonce index

/-! ### Poly1305 -/

/-- The number of bytes with the least significant one first. -/
def littleNumber (bytes : List UInt8) : Nat := ofBigEndian bytes.reverse

/-- Poly1305 of a message under a one-time key. -/
def poly1305 (oneTimeKey message : List UInt8) : List UInt8 :=
  let r := littleNumber (oneTimeKey.take 16) &&& 0x0FFFFFFC0FFFFFFC0FFFFFFC0FFFFFFF
  let s := littleNumber ((oneTimeKey.drop 16).take 16)
  let sum := (List.range ((message.length + 15) / 16)).foldl
    (fun sum index =>
      ((sum + littleNumber ((message.drop (16 * index)).take 16 ++ [1])) * r) % (2 ^ 130 - 5))
    0
  (bigEndian 16 ((sum + s) % 2 ^ 128)).reverse

/-- The tag of a ciphertext without associated data. -/
def tagOf (key nonce ciphertext : List UInt8) : List UInt8 :=
  poly1305 (block key nonce 0)
    (ciphertext ++ List.replicate ((16 - ciphertext.length % 16) % 16) 0 ++
      (List.replicate 8 0 ++ (bigEndian 8 ciphertext.length).reverse))

/-! ### The cipher -/

/-- The longest message under one nonce. -/
def maxLength : Nat := 64 * (2 ^ 32 - 1)

def sealInPlace (key nonce plaintext : List UInt8) : Option (List UInt8 × List UInt8) :=
  if nonce.length = 12 ∧ plaintext.length ≤ maxLength then
    let ciphertext := applyStream key nonce plaintext
    some (ciphertext, tagOf key nonce ciphertext)
  else none

def openInPlace (key nonce bytes : List UInt8) : Option (List UInt8) :=
  let ciphertext := bytes.take (bytes.length - tagLen)
  if tagLen ≤ bytes.length ∧ nonce.length = 12 ∧ ciphertext.length ≤ maxLength ∧
      bytes.drop (bytes.length - tagLen) = tagOf key nonce ciphertext then
    some (applyStream key nonce ciphertext)
  else none

variable (key nonce : List UInt8)

@[simp] theorem length_applyStream (bytes : List UInt8) :
    (applyStream key nonce bytes).length = bytes.length := by
  rw [applyStream, List.length_mapIdx]

/-- The key stream applied twice cancels. -/
theorem applyStream_applyStream (bytes : List UInt8) :
    applyStream key nonce (applyStream key nonce bytes) = bytes := by
  refine List.ext_getElem (by simp) fun index first second => ?_
  simp only [applyStream, List.getElem_mapIdx]
  rw [UInt8.xor_assoc, UInt8.xor_self, UInt8.xor_zero]

@[simp] theorem length_tagOf (ciphertext : List UInt8) :
    (tagOf key nonce ciphertext).length = tagLen := by
  simp [tagOf, poly1305, tagLen]

theorem sealInPlace_eq_some {plaintext ciphertext tag : List UInt8}
    (outcome : sealInPlace key nonce plaintext = some (ciphertext, tag)) :
    nonce.length = 12 ∧ plaintext.length ≤ maxLength ∧
      ciphertext = applyStream key nonce plaintext ∧ tag = tagOf key nonce ciphertext := by
  unfold sealInPlace at outcome
  split at outcome
  · next allowed =>
    cases outcome
    exact ⟨allowed.1, allowed.2, rfl, rfl⟩
  · cases outcome

theorem openInPlace_sealInPlace {plaintext ciphertext tag : List UInt8}
    (outcome : sealInPlace key nonce plaintext = some (ciphertext, tag)) :
    openInPlace key nonce (ciphertext ++ tag) = some plaintext := by
  obtain ⟨nonceLength, short, isCiphertext, isTag⟩ := sealInPlace_eq_some key nonce outcome
  rw [isTag, isCiphertext]
  have split : (applyStream key nonce plaintext ++
      tagOf key nonce (applyStream key nonce plaintext)).length - tagLen =
        (applyStream key nonce plaintext).length := by
    rw [List.length_append, length_tagOf, Nat.add_sub_cancel]
  unfold openInPlace
  simp only [split, List.take_left', List.drop_left']
  rw [if_pos ⟨by simp, nonceLength, by simpa using short, trivial⟩, applyStream_applyStream]

theorem length_openInPlace {ciphertext plaintext : List UInt8}
    (outcome : openInPlace key nonce ciphertext = some plaintext) :
    ciphertext.length = plaintext.length + tagLen := by
  unfold openInPlace at outcome
  dsimp only at outcome
  split at outcome
  · next allowed =>
    cases outcome
    have long := allowed.1
    rw [length_applyStream, List.length_take]
    omega
  · cases outcome

/-- ChaCha20-Poly1305 under a key. -/
def aead : Aead where
  sealInPlace := sealInPlace key
  openInPlace := openInPlace key
  seal_isSome := fun nonce plaintext length short => by
    unfold sealInPlace
    rw [if_pos ⟨length, short⟩]
    rfl
  seal_length := fun nonce plaintext ciphertext tag outcome => by
    obtain ⟨-, -, isCiphertext, isTag⟩ := sealInPlace_eq_some key nonce outcome
    rw [isTag, isCiphertext]
    exact ⟨length_applyStream .., length_tagOf ..⟩
  open_seal := fun nonce _ _ _ outcome => openInPlace_sealInPlace key nonce outcome
  open_length := fun nonce _ _ outcome => length_openInPlace key nonce outcome

end Vnt.ChaCha20Poly1305
