/-
This file embeds the encryption of packets. The cipher is an authenticated cipher under one
key, of which only its contract is used: what it seals under a nonce it opens again under that
nonce. The nonce is put together from the header, the message type standing in the place of the
first byte of the sequence number, so a packet is opened as it was sealed as long as these
fields arrive unchanged; the bytes of the time to live and of the flags are not among them.
-/

import Vnt.Protocol.NetPacket

namespace Vnt

open Vnt.Base

/-- `TAG_LEN`. -/
def tagLen : Nat := 16

/-- An authenticated cipher under one key, without associated data: `seal_in_place_separate_tag`
and `open_in_place`. -/
structure Aead where
  sealInPlace : List UInt8 → List UInt8 → Option (List UInt8 × List UInt8)
  openInPlace : List UInt8 → List UInt8 → Option (List UInt8)
  seal_isSome : ∀ nonce plaintext, nonce.length = 12 → plaintext.length ≤ 64 * (2 ^ 32 - 1) →
    (sealInPlace nonce plaintext).isSome
  seal_length :
    ∀ nonce plaintext ciphertext tag, sealInPlace nonce plaintext = some (ciphertext, tag) →
    ciphertext.length = plaintext.length ∧ tag.length = tagLen
  open_seal :
    ∀ nonce plaintext ciphertext tag, sealInPlace nonce plaintext = some (ciphertext, tag) →
    openInPlace nonce (ciphertext ++ tag) = some plaintext
  open_length : ∀ nonce ciphertext plaintext, openInPlace nonce ciphertext = some plaintext →
    ciphertext.length = plaintext.length + tagLen

/-- `make_nonce`. -/
def makeNonce (header : NetHeader) : List UInt8 :=
  (wordBytes header.seq ++ (wordBytes header.destId ++ wordBytes header.srcId)).set 0
    header.typeByte

theorem length_makeNonce (header : NetHeader) : (makeNonce header).length = 12 := by
  simp [makeNonce]

/-- The nonce is the message type, the last three bytes of the sequence number, the destination
and the source. -/
theorem makeNonce_eq (header : NetHeader) :
    makeNonce header = header.typeByte :: ((wordBytes header.seq).drop 1 ++
      (wordBytes header.destId ++ wordBytes header.srcId)) := by
  unfold makeNonce
  match word : wordBytes header.seq, length_wordBytes header.seq with
  | first :: rest, _ => rfl

/-- Headers with one sequence number have one nonce if and only if they agree on the message
type, the source and the destination. -/
theorem makeNonce_eq_iff {first second : NetHeader} (seq : first.seq = second.seq) :
    makeNonce first = makeNonce second ↔ first.typeByte = second.typeByte ∧
      first.srcId = second.srcId ∧ first.destId = second.destId := by
  rw [makeNonce_eq, makeNonce_eq, seq]
  constructor
  · intro same
    obtain ⟨typeByte, same⟩ := List.cons.inj same
    obtain ⟨dest, src⟩ := List.append_inj (List.append_cancel_left same) (by simp)
    exact ⟨typeByte, wordBytes_inj src, wordBytes_inj dest⟩
  · rintro ⟨typeByte, src, dest⟩
    rw [typeByte, src, dest]

/-- `PacketCrypto`: the cipher of the password, when there is one. -/
structure PacketCrypto where
  crypto : Option Aead

namespace PacketCrypto

/-- `encrypt_reserve`. -/
def encryptReserve (packetCrypto : PacketCrypto) : Nat :=
  if packetCrypto.crypto.isSome then tagLen else 0

/-- `encrypt_in_place`. -/
def encryptInPlace (packetCrypto : PacketCrypto) (packet : NetPacket) : Except String NetPacket :=
  match packetCrypto.crypto with
  | none => .ok packet
  | some aead =>
    let extended := packet.extendEnd tagLen
    let payloadLen := extended.payload.length - tagLen
    match aead.sealInPlace (makeNonce extended.header) (extended.payload.take payloadLen) with
    | some (ciphertext, tag) => .ok { extended with payload := ciphertext ++ tag }
    | none => .error "encrypt failed"

/-- `decrypt_in_place`: the plaintext is written over the front of the payload. -/
def decryptInPlace (packetCrypto : PacketCrypto) (packet : NetPacket) : Except String NetPacket :=
  match packetCrypto.crypto with
  | none => .ok packet
  | some aead =>
    match aead.openInPlace (makeNonce packet.header) packet.payload with
    | some plaintext =>
      .ok (NetPacket.shrinkEnd
        { packet with payload := plaintext ++ packet.payload.drop plaintext.length } tagLen)
    | none => .error "decrypt failed"

variable {packetCrypto : PacketCrypto} {packet received : NetPacket}

theorem take_payload_extendEnd (packet : NetPacket) :
    (packet.extendEnd tagLen).payload.take ((packet.extendEnd tagLen).payload.length - tagLen) =
      packet.payload := by
  have extended : (packet.extendEnd tagLen).payload.length - tagLen = packet.payload.length := by
    simp only [NetPacket.extendEnd, List.length_append, List.length_take, List.length_replicate]
    omega
  rw [extended]
  unfold NetPacket.extendEnd
  rw [List.append_assoc, List.take_left' rfl]

theorem encryptInPlace_some (aead : Aead) (packet : NetPacket) :
    encryptInPlace ⟨some aead⟩ packet =
      match aead.sealInPlace (makeNonce packet.header) packet.payload with
      | some (ciphertext, tag) =>
        .ok { packet with payload := ciphertext ++ tag, tailRoom := packet.tailRoom.drop tagLen }
      | none => .error "encrypt failed" := by
  unfold encryptInPlace
  dsimp only
  rw [take_payload_extendEnd]
  rfl

/-- A packet that is not too long is encrypted. -/
theorem encryptInPlace_ok (packetCrypto : PacketCrypto)
    (short : packet.payload.length ≤ 64 * (2 ^ 32 - 1)) :
    ∃ encrypted, packetCrypto.encryptInPlace packet = .ok encrypted := by
  obtain ⟨_ | aead⟩ := packetCrypto
  · exact ⟨packet, rfl⟩
  · obtain ⟨⟨ciphertext, tag⟩, isSealed⟩ := Option.isSome_iff_exists.mp
      (aead.seal_isSome (makeNonce packet.header) packet.payload (length_makeNonce _) short)
    rw [encryptInPlace_some, isSealed]
    exact ⟨_, rfl⟩

theorem header_encryptInPlace {encrypted : NetPacket}
    (outcome : packetCrypto.encryptInPlace packet = .ok encrypted) :
    encrypted.header = packet.header := by
  obtain ⟨_ | aead⟩ := packetCrypto
  · cases outcome
    rfl
  · rw [encryptInPlace_some] at outcome
    split at outcome <;> cases outcome
    rfl

/-- What was encrypted is decrypted, when the fields of the nonce arrive. -/
theorem decryptInPlace_of_encryptInPlace {encrypted : NetPacket}
    (outcome : packetCrypto.encryptInPlace packet = .ok encrypted)
    (nonce : makeNonce received.header = makeNonce packet.header)
    (payload : received.payload = encrypted.payload) :
    ∃ tailRoom, packetCrypto.decryptInPlace received =
      .ok { received with payload := packet.payload, tailRoom := tailRoom } := by
  obtain ⟨_ | aead⟩ := packetCrypto
  · cases outcome
    rw [← payload]
    exact ⟨received.tailRoom, rfl⟩
  · rw [encryptInPlace_some] at outcome
    split at outcome
    · next ciphertext tag isSealed =>
      cases outcome
      replace payload : received.payload = ciphertext ++ tag := payload
      obtain ⟨cipherLength, tagLength⟩ := aead.seal_length _ _ _ _ isSealed
      have opened : aead.openInPlace (makeNonce received.header) received.payload =
          some packet.payload := by
        rw [nonce, payload]
        exact aead.open_seal _ _ _ _ isSealed
      refine ⟨tag ++ received.tailRoom, ?_⟩
      unfold decryptInPlace
      dsimp only
      rw [opened]
      unfold NetPacket.shrinkEnd
      dsimp only
      rw [payload, List.drop_left' cipherLength]
      rw [List.length_append, tagLength, Nat.add_sub_cancel, List.take_left' rfl,
        List.drop_left' rfl]
    · cases outcome

end PacketCrypto

end Vnt
