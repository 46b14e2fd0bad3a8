/-
This file embeds the message that a broadcast to a selection of the clients travels in: the
addresses of the selection and the bytes of the packet to pass on. Both programs build the
message from the same description, the client with the addresses as a list and the server with
the addresses as a set, of which only the membership is used. A message that is encoded is read
back.
-/

import Vnt.Base.Bytes
import Vnt.Base.Protobuf
import Vnt.Ipv4

namespace Vnt

open Vnt.Base Vnt.Base.Protobuf

/-- `SelectiveBroadcast`. -/
structure SelectiveBroadcast where
  ips : List Ipv4Addr
  data : List UInt8
  deriving DecidableEq, Repr

namespace SelectiveBroadcast

/-- The packed form of a repeated `fixed32`, each number with its lowest byte first. -/
def packWords (words : List UInt32) : List UInt8 :=
  words.flatMap fun word => (wordBytes word).reverse

/-- The numbers of a packed field. -/
def unpackWords : List UInt8 → Option (List UInt32)
  | [] => some []
  | first :: second :: third :: fourth :: rest =>
    (unpackWords rest).map fun words => ofWordBytes [fourth, third, second, first] :: words
  | _ => none

def fields (broadcast : SelectiveBroadcast) : List Field :=
  bytesField 1 (packWords broadcast.ips) ++ bytesField 2 broadcast.data

/-- Merge one field into the message. -/
def merge (broadcast : SelectiveBroadcast) (field : Field) : Option SelectiveBroadcast :=
  match field with
  | ⟨1, .delimited bytes⟩ =>
    (unpackWords bytes).map fun words => { broadcast with ips := broadcast.ips ++ words }
  | ⟨1, .fixed32 bytes⟩ =>
    some { broadcast with ips := broadcast.ips ++ [ofWordBytes bytes.reverse] }
  | ⟨2, .delimited bytes⟩ => some { broadcast with data := bytes }
  | ⟨1, _⟩ => none
  | ⟨2, _⟩ => none
  | _ => some broadcast

/-- `encode_bytes_mut`. -/
def encode (broadcast : SelectiveBroadcast) : List UInt8 := encodeFields broadcast.fields

/-- `SelectiveBroadcast::from_slice`. -/
def fromSlice (bytes : List UInt8) : Except String SelectiveBroadcast :=
  match (decodeFields bytes).bind fun fields => fields.foldlM merge ⟨[], []⟩ with
  | some broadcast => .ok broadcast
  | none => .error "failed to decode Protobuf message"

theorem unpackWords_packWords (words : List UInt32) :
    unpackWords (packWords words) = some words := by
  induction words with
  | nil => rfl
  | cons word rest inductionHypothesis =>
    obtain ⟨first, second, third, fourth, bytes⟩ :
        ∃ first second third fourth, wordBytes word = [first, second, third, fourth] :=
      ⟨_, _, _, _, rfl⟩
    have unfolded : packWords (word :: rest) =
        fourth :: third :: second :: first :: packWords rest := by
      unfold packWords
      rw [List.flatMap_cons, bytes]
      rfl
    rw [unfolded, unpackWords, inductionHypothesis, ← bytes, ofWordBytes_wordBytes]
    rfl

theorem length_packWords (words : List UInt32) :
    (packWords words).length = 4 * words.length := by
  induction words with
  | nil => rfl
  | cons word rest inductionHypothesis =>
    unfold packWords at inductionHypothesis ⊢
    rw [List.flatMap_cons, List.length_append, inductionHypothesis, List.length_reverse,
      length_wordBytes, List.length_cons]
    omega

theorem foldlM_fields (broadcast : SelectiveBroadcast) :
    broadcast.fields.foldlM merge ⟨[], []⟩ = some broadcast := by
  have ips : (bytesField 1 (packWords broadcast.ips)).foldlM merge ⟨[], []⟩ =
      some ⟨broadcast.ips, []⟩ := by
    unfold bytesField
    split
    · next empty =>
      have none : broadcast.ips = [] := by
        have length := length_packWords broadcast.ips
        rw [empty, List.length_nil] at length
        exact List.length_eq_zero_iff.mp (by omega)
      rw [none]
      rfl
    · rw [List.foldlM_cons]
      simp only [merge, unpackWords_packWords, Option.map_some, List.nil_append]
      rfl
  have data : (bytesField 2 broadcast.data).foldlM merge ⟨broadcast.ips, []⟩ = some broadcast := by
    unfold bytesField
    split
    · next empty =>
      obtain ⟨ips, data⟩ := broadcast
      cases empty
      rfl
    · rfl
  unfold fields
  rw [List.foldlM_append, ips]
  exact data

/-- A message of a size that fits into its length fields is read back. -/
theorem fromSlice_encode {broadcast : SelectiveBroadcast} (ips : broadcast.ips.length < 2 ^ 62)
    (data : broadcast.data.length < 2 ^ 64) : fromSlice broadcast.encode = .ok broadcast := by
  have valid : ∀ field ∈ broadcast.fields, field.Valid := by
    intro field member
    rcases List.mem_append.mp member with first | second
    · refine valid_bytesField (by decide) (by decide) ?_ field first
      rw [length_packWords]
      omega
    · exact valid_bytesField (by decide) (by decide) (by omega) field second
  unfold fromSlice encode
  rw [decodeFields_encodeFields valid, Option.bind_some, foldlM_fields]

example : fromSlice (encode ⟨[0x0A1A0002, 0x0A1A0003], [7, 8]⟩) =
    .ok ⟨[0x0A1A0002, 0x0A1A0003], [7, 8]⟩ := by decide +kernel

end SelectiveBroadcast

end Vnt
