/-
This file asks which packets a receiver opens when the cipher is ideal: it opens what was sealed
under the key and nothing else. Only the nonce ties a packet to its header, and the nonce leaves out
the time to live, the flags, the reserved byte and the first byte of the sequence number. Exactly
these four bytes of a sealed packet can be changed by anybody; a change of any other byte is
noticed.
-/

import Vnt.Crypto.ChaCha20Poly1305

namespace Vnt

open Vnt.Base

/-! ### Packets under a cipher -/

/-- `encrypt_in_place`, under what the cipher seals. -/
def encryptWith (sealInPlace : List UInt8 → List UInt8 → Option (List UInt8 × List UInt8))
    (packet : NetPacket) : Except String NetPacket :=
  let extended := packet.extendEnd tagLen
  let payloadLen := extended.payload.length - tagLen
  match sealInPlace (makeNonce extended.header) (extended.payload.take payloadLen) with
  | some (ciphertext, tag) => .ok { extended with payload := ciphertext ++ tag }
  | none => .error "encrypt failed"

/-- `decrypt_in_place`, under what the cipher opens. -/
def decryptWith (openInPlace : List UInt8 → List UInt8 → Option (List UInt8))
    (packet : NetPacket) : Except String NetPacket :=
  match openInPlace (makeNonce packet.header) packet.payload with
  | some plaintext =>
    .ok (NetPacket.shrinkEnd
      { packet with payload := plaintext ++ packet.payload.drop plaintext.length } tagLen)
  | none => .error "decrypt failed"

theorem encryptInPlace_eq (aead : Aead) (packet : NetPacket) :
    PacketCrypto.encryptInPlace ⟨some aead⟩ packet = encryptWith aead.sealInPlace packet := rfl

theorem decryptInPlace_eq (aead : Aead) (packet : NetPacket) :
    PacketCrypto.decryptInPlace ⟨some aead⟩ packet = decryptWith aead.openInPlace packet := rfl

/-- What a receiver makes of bytes from the wire. -/
def openBytes (openInPlace : List UInt8 → List UInt8 → Option (List UInt8)) (bytes : List UInt8) :
    Except String NetPacket :=
  match NetPacket.new (.ofBytes bytes) with
  | .ok packet => decryptWith openInPlace packet
  | .error message => .error message

/-! ### The ideal cipher -/

/-- What an ideal cipher keeps of one message that it sealed. -/
structure Sealing where
  nonce : List UInt8
  ciphertext : List UInt8
  plaintext : List UInt8
  deriving DecidableEq, Repr

/-- An ideal cipher opens what it sealed, and nothing else. -/
def idealOpen (sealings : List Sealing) (nonce ciphertext : List UInt8) : Option (List UInt8) :=
  (sealings.find? fun sealing =>
    decide (sealing.nonce = nonce ∧ sealing.ciphertext = ciphertext)).map Sealing.plaintext

section Sealed

variable (sealInPlace : List UInt8 → List UInt8 → Option (List UInt8 × List UInt8))

/-- The packets that were sealed, of all that were to be. -/
def sealedPackets (packets : List NetPacket) : List NetPacket :=
  packets.filterMap fun packet => (encryptWith sealInPlace packet).toOption

/-- What the cipher keeps of them. -/
def sealings (packets : List NetPacket) : List Sealing :=
  packets.filterMap fun packet => (encryptWith sealInPlace packet).toOption.map fun encrypted =>
    ⟨makeNonce packet.header, encrypted.payload, packet.payload⟩

end Sealed

/-- Byte strings of one length that agree except in the listed positions. -/
def AgreeExcept (positions : List Nat) (first second : List UInt8) : Prop :=
  first.length = second.length ∧
    ∀ position, position ∉ positions → first[position]? = second[position]?

variable {sealInPlace : List UInt8 → List UInt8 → Option (List UInt8 × List UInt8)}
  {packets : List NetPacket} {packet encrypted : NetPacket}

theorem header_encryptWith (outcome : encryptWith sealInPlace packet = .ok encrypted) :
    encrypted.header = packet.header := by
  unfold encryptWith at outcome
  dsimp only at outcome
  split at outcome <;> cases outcome
  rfl

theorem mem_sealedPackets : encrypted ∈ sealedPackets sealInPlace packets ↔
    ∃ plain ∈ packets, encryptWith sealInPlace plain = .ok encrypted := by
  unfold sealedPackets
  rw [List.mem_filterMap]
  refine exists_congr fun plain => and_congr_right fun _ => ?_
  cases encryptWith sealInPlace plain with
  | error message => exact iff_of_false (fun same => nomatch same) (fun same => nomatch same)
  | ok other => exact ⟨fun same => congrArg Except.ok (Option.some_inj.mp same),
      fun same => congrArg some (Except.ok.inj same)⟩

/-- The cipher keeps one entry for each packet that was sealed. -/
theorem mem_sealings {sealing : Sealing} : sealing ∈ sealings sealInPlace packets ↔
    ∃ plain ∈ packets, ∃ encrypted, encryptWith sealInPlace plain = .ok encrypted ∧
      sealing = ⟨makeNonce plain.header, encrypted.payload, plain.payload⟩ := by
  unfold sealings
  rw [List.mem_filterMap]
  refine exists_congr fun plain => and_congr_right fun _ => ?_
  cases encryptWith sealInPlace plain with
  | error message =>
    exact iff_of_false (fun same => nomatch same) (fun ⟨_, same, _⟩ => nomatch same)
  | ok other =>
    constructor
    · intro same
      exact ⟨other, rfl, (Option.some_inj.mp same).symm⟩
    · rintro ⟨encrypted, same, isSealing⟩
      cases same
      exact congrArg some isSealing.symm

/-- The receiver opens a packet exactly when one was sealed under its nonce to its payload. -/
theorem decryptWith_ideal_iff :
    (∃ opened, decryptWith (idealOpen (sealings sealInPlace packets)) packet = .ok opened) ↔
      ∃ encrypted ∈ sealedPackets sealInPlace packets,
        makeNonce encrypted.header = makeNonce packet.header ∧
          encrypted.payload = packet.payload := by
  have opens_iff : (idealOpen (sealings sealInPlace packets) (makeNonce packet.header)
      packet.payload).isSome = true ↔
        ∃ sealing ∈ sealings sealInPlace packets, sealing.nonce = makeNonce packet.header ∧
          sealing.ciphertext = packet.payload := by
    unfold idealOpen
    rw [Option.isSome_map, List.find?_isSome]
    simp only [decide_eq_true_iff]
  have decrypts_iff : (∃ opened, decryptWith (idealOpen (sealings sealInPlace packets)) packet =
      .ok opened) ↔ (idealOpen (sealings sealInPlace packets) (makeNonce packet.header)
        packet.payload).isSome = true := by
    unfold decryptWith
    cases idealOpen (sealings sealInPlace packets) (makeNonce packet.header) packet.payload with
    | none => exact iff_of_false (fun ⟨_, same⟩ => nomatch same) Bool.false_ne_true
    | some plaintext => exact iff_of_true ⟨_, rfl⟩ rfl
  rw [decrypts_iff, opens_iff]
  constructor
  · rintro ⟨sealing, member, nonce, ciphertext⟩
    obtain ⟨plain, isPlain, encrypted, outcome, rfl⟩ := mem_sealings.mp member
    refine ⟨encrypted, mem_sealedPackets.mpr ⟨plain, isPlain, outcome⟩, ?_, ciphertext⟩
    rw [header_encryptWith outcome]
    exact nonce
  · rintro ⟨encrypted, member, nonce, payload⟩
    obtain ⟨plain, isPlain, outcome⟩ := mem_sealedPackets.mp member
    rw [header_encryptWith outcome] at nonce
    exact ⟨_, mem_sealings.mpr ⟨plain, isPlain, encrypted, outcome, rfl⟩, nonce, payload⟩

/-! ### Headers and nonces -/

theorem agreeExcept_one_to_four_iff (first second : List UInt8) :
    AgreeExcept [1, 2, 3, 4] first second ↔
      first.length = second.length ∧ first[0]? = second[0]? ∧ first.drop 5 = second.drop 5 := by
  unfold AgreeExcept
  refine and_congr_right fun _ => ⟨fun agree => ⟨agree 0 (by decide), ?_⟩, ?_⟩
  · refine List.ext_getElem? fun position => ?_
    rw [List.getElem?_drop, List.getElem?_drop]
    refine agree (5 + position) fun member => ?_
    simp only [List.mem_cons, List.not_mem_nil, or_false] at member
    omega
  · rintro ⟨front, rest⟩ position outside
    by_cases zero : position = 0
    · rw [zero]
      exact front
    · simp only [List.mem_cons, List.not_mem_nil, or_false] at outside
      have shifted : position = 5 + (position - 5) := by omega
      rw [shifted, ← List.getElem?_drop, ← List.getElem?_drop, rest]

theorem intoBytes_drop (packet : NetPacket) :
    packet.intoBytes.drop 5 = (wordBytes packet.header.seq).drop 1 ++
      (wordBytes packet.header.srcId ++ (wordBytes packet.header.destId ++ packet.payload)) := by
  match word : wordBytes packet.header.seq, length_wordBytes packet.header.seq with
  | first :: rest, _ =>
    show List.drop 5 (packet.header.toBytes ++ packet.payload) = _
    unfold NetHeader.toBytes
    rw [word]
    simp only [List.cons_append, List.nil_append, List.drop_succ_cons, List.drop_zero,
      List.append_assoc]

/-- Packets agree in every byte but the time to live, the flags, the reserved byte and the first one
of the sequence number, exactly when they have one nonce and one payload. -/
theorem agreeExcept_iff_makeNonce (first second : NetPacket) :
    AgreeExcept [1, 2, 3, 4] first.intoBytes second.intoBytes ↔
      makeNonce first.header = makeNonce second.header ∧ first.payload = second.payload := by
  have length :
      ∀ packet : NetPacket, packet.intoBytes.length = headLength + packet.payload.length :=
    fun packet => by
      show (packet.header.toBytes ++ packet.payload).length = _
      rw [List.length_append, NetHeader.length_toBytes]
  have front : ∀ packet : NetPacket, packet.intoBytes[0]? = some packet.header.typeByte :=
    fun packet => rfl
  have words : ((wordBytes first.header.seq).drop 1).length =
      ((wordBytes second.header.seq).drop 1).length := by
    rw [List.length_drop, List.length_drop, length_wordBytes, length_wordBytes]
  rw [agreeExcept_one_to_four_iff, length, length, front, front, intoBytes_drop, intoBytes_drop,
    makeNonce_eq, makeNonce_eq]
  constructor
  · rintro ⟨-, typeByte, rest⟩
    obtain ⟨seq, rest⟩ := List.append_inj rest words
    obtain ⟨src, rest⟩ := List.append_inj rest (by simp)
    obtain ⟨dest, payload⟩ := List.append_inj rest (by simp)
    exact ⟨by rw [Option.some_inj.mp typeByte, seq, src, dest], payload⟩
  · rintro ⟨nonce, payload⟩
    obtain ⟨typeByte, rest⟩ := List.cons.inj nonce
    obtain ⟨seq, rest⟩ := List.append_inj rest words
    obtain ⟨dest, src⟩ := List.append_inj rest (by simp)
    exact ⟨by rw [payload], by rw [typeByte], by rw [seq, src, dest, payload]⟩

/-- A receiver opens bytes from the wire exactly when they are those of a sealed packet, up to the
time to live, the flags, the reserved byte and the first byte of the sequence number. -/
theorem opens_iff_agrees
    (sealInPlace : List UInt8 → List UInt8 → Option (List UInt8 × List UInt8))
    (packets : List NetPacket) (bytes : List UInt8) :
    (∃ opened, openBytes (idealOpen (sealings sealInPlace packets)) bytes = .ok opened) ↔
      ∃ encrypted ∈ sealedPackets sealInPlace packets,
        AgreeExcept [1, 2, 3, 4] bytes encrypted.intoBytes := by
  unfold openBytes
  cases built : NetPacket.new (.ofBytes bytes) with
  | error message =>
    refine iff_of_false (fun ⟨_, same⟩ => nomatch same) ?_
    rintro ⟨encrypted, -, agree⟩
    have long : headLength ≤ bytes.length := by
      rw [agree.1]
      show headLength ≤ (encrypted.header.toBytes ++ encrypted.payload).length
      rw [List.length_append, NetHeader.length_toBytes]
      exact Nat.le_add_right _ _
    unfold NetPacket.new at built
    split at built
    · next short => exact Nat.not_lt_of_le long short
    · cases built
  | ok packet =>
    have wire : packet.intoBytes = bytes :=
      congrArg TransmissionBytes.intoBytes (NetPacket.intoBuffer_new packet built)
    dsimp only
    rw [decryptWith_ideal_iff, ← wire]
    refine exists_congr fun encrypted => and_congr_right fun _ => ?_
    rw [agreeExcept_iff_makeNonce]
    exact and_congr eq_comm eq_comm

/-- A packet, and what is left of it when somebody sets the flag of error correction. -/
def boundPacket (flagsByte : UInt8) : NetPacket :=
  ⟨[], ⟨0x81, 0x55, flagsByte, 0, 0, 0x0A1A0002, 0x0A1A0003⟩, [1, 2, 3], []⟩

/-- A flag that was set on the way is accepted, although no such packet was sealed. -/
theorem opens_changed_flag :
    ∃ (key : List UInt8) (packets : List NetPacket) (bytes : List UInt8) (opened : NetPacket),
      openBytes (idealOpen (sealings (ChaCha20Poly1305.sealInPlace key) packets)) bytes =
          .ok opened ∧
        ¬∃ encrypted ∈ sealedPackets (ChaCha20Poly1305.sealInPlace key) packets,
          AgreeExcept [1] bytes encrypted.intoBytes := by
  let key : List UInt8 := List.replicate 32 7
  obtain ⟨encrypted, outcome⟩ := PacketCrypto.encryptInPlace_ok
    (⟨some (ChaCha20Poly1305.aead key)⟩ : PacketCrypto)
    (by decide : (boundPacket 0).payload.length ≤ _)
  have header := PacketCrypto.header_encryptInPlace outcome
  have isSealed : encrypted ∈
      sealedPackets (ChaCha20Poly1305.sealInPlace key) [boundPacket 0] :=
    mem_sealedPackets.mpr ⟨boundPacket 0, List.mem_singleton.mpr rfl, outcome⟩
  let changed : NetPacket := ⟨[], (boundPacket fecMask).header, encrypted.payload, []⟩
  have nonce : makeNonce encrypted.header = makeNonce changed.header :=
    (congrArg makeNonce header).trans rfl
  obtain ⟨opened, opens⟩ := decryptWith_ideal_iff.mpr ⟨encrypted, isSealed, nonce, rfl⟩
  refine ⟨key, [boundPacket 0], changed.intoBytes, opened, ?_, ?_⟩
  · unfold openBytes
    rw [NetPacket.new_ofBytes_intoBytes]
    exact opens
  · rintro ⟨other, member, agree⟩
    obtain ⟨plain, isPlain, otherOutcome⟩ := mem_sealedPackets.mp member
    cases List.mem_singleton.mp isPlain
    have flags : changed.intoBytes[2]? = other.intoBytes[2]? := agree.2 2 (by decide)
    have otherFlags : other.intoBytes[2]? = some (boundPacket 0).header.flagsByte :=
      congrArg (fun header : NetHeader => some header.flagsByte) (header_encryptWith otherOutcome)
    rw [otherFlags] at flags
    exact (by decide : fecMask ≠ (0 : UInt8)) (Option.some_inj.mp flags)

end Vnt
