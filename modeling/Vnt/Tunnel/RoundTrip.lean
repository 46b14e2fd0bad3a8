/-
This file proves that the data path gives back what it was given. Each layer has a lemma of its
own: what a layer did to a packet is undone by the receiver's layer on every packet that arrives
with the same payload and with the header fields the layer depends on. The relays between the
two ends touch none of these fields, so the layers compose.
-/

import Vnt.Compression.Lz4Literals
import Vnt.Crypto.ChaCha20Poly1305
import Vnt.Fec.Codec
import Vnt.Tunnel.Inbound
import Vnt.Tunnel.Outbound

namespace Vnt

open Vnt.Base Vnt.Fec Vnt.Tunnel

/-! ### Between the two ends -/

/-- A packet arrived: its payload and its header, apart from the time to live. -/
structure NetPacket.Arrived (sent received : NetPacket) : Prop where
  typeByte : received.header.typeByte = sent.header.typeByte
  flagsByte : received.header.flagsByte = sent.header.flagsByte
  seq : received.header.seq = sent.header.seq
  srcId : received.header.srcId = sent.header.srcId
  destId : received.header.destId = sent.header.destId
  payload : received.payload = sent.payload

namespace NetPacket.Arrived

variable {sent received : NetPacket}

theorem makeNonce (arrived : sent.Arrived received) :
    Vnt.makeNonce received.header = Vnt.makeNonce sent.header :=
  (makeNonce_eq_iff arrived.seq).mpr ⟨arrived.typeByte, arrived.srcId, arrived.destId⟩

theorem decrTtl (arrived : sent.Arrived received) : sent.Arrived received.decrTtl := by
  unfold NetPacket.decrTtl NetHeader.decrTtl
  split
  · exact arrived
  · exact ⟨arrived.typeByte, arrived.flagsByte, arrived.seq, arrived.srcId, arrived.destId,
      arrived.payload⟩

/-- What leaves a chain of relays is read as the packet that entered it. -/
theorem relays (packet : NetPacket) (count : Nat) :
    ∃ received, NetPacket.new (.ofBytes (relay^[count] packet.intoBytes)) = .ok received ∧
      packet.Arrived received := by
  induction count with
  | zero =>
    exact ⟨_, packet.new_ofBytes_intoBytes, ⟨rfl, rfl, rfl, rfl, rfl, rfl⟩⟩
  | succ count inductionHypothesis =>
    obtain ⟨received, outcome, arrived⟩ := inductionHypothesis
    have later := arrived.decrTtl
    rw [Function.iterate_succ_apply', relay_of_new outcome]
    exact ⟨_, received.decrTtl.new_ofBytes_intoBytes, ⟨later.typeByte, later.flagsByte,
      later.seq, later.srcId, later.destId, later.payload⟩⟩

end NetPacket.Arrived

/-! ### Compression -/

namespace PacketCompression

/-- Decompressing any packet with this payload and these flags gives the original payload. -/
def Restores (packetCompression : PacketCompression) (packet : NetPacket)
    (payload : List UInt8) : Prop :=
  ∀ received : NetPacket, received.payload = packet.payload →
    received.header.flagsByte = packet.header.flagsByte →
      ∃ restored, packetCompression.decompress received = .ok restored ∧
        restored.payload = payload ∧ restored.header.typeByte = received.header.typeByte

variable {packetCompression : PacketCompression} {packet : NetPacket}

theorem setFlag_compressed {header : NetHeader} (flags : header.flagsByte = 0) :
    header.setFlag compressedMask true = { header with flagsByte := compressedMask } := by
  unfold NetHeader.setFlag
  rw [flags]
  rfl

/-- Compression succeeds, changes the flags of the header only, makes nothing longer, and is
undone. -/
theorem compress_spec (packetCompression : PacketCompression) (reserve : Nat)
    (flags : packet.header.flagsByte = 0) (short : packet.payload.length < 2 ^ 32) :
    ∃ compressed, packetCompression.compress packet reserve = .ok compressed ∧
      (compressed.header = packet.header ∨
        compressed.header = { packet.header with flagsByte := compressedMask }) ∧
      compressed.payload.length ≤ packet.payload.length ∧
      packetCompression.Restores compressed packet.payload := by
  obtain ⟨_ | compression⟩ := packetCompression
  · refine ⟨packet, rfl, .inl rfl, Nat.le_refl _, fun received payload _ => ?_⟩
    exact ⟨received, rfl, payload, rfl⟩
  · have outcome := compression.compress_eq packet reserve
    split at outcome
    · refine ⟨packet, outcome, .inl rfl, Nat.le_refl _, fun received payload sameFlags => ?_⟩
      have plain : received.isCompressed = false := by
        unfold NetPacket.isCompressed
        rw [sameFlags, flags]
        decide
      exact ⟨received, LZ4Compression.decompress_of_not_compressed plain, payload, rfl⟩
    · next worthwhile =>
      have shorter : (compression.lz4.compressPrependSize packet.payload).length ≤
          packet.payload.length := by omega
      refine ⟨_, outcome, .inr (setFlag_compressed flags), shorter,
        fun received payload sameFlags => ?_⟩
      have flagged : received.isCompressed = true := by
        unfold NetPacket.isCompressed
        rw [sameFlags, setFlag_compressed flags]
        dsimp only
        decide
      exact ⟨_, LZ4Compression.decompress_compressed flagged short payload, rfl, rfl⟩

end PacketCompression

/-! ### The sender -/

namespace Tunnel

variable {codec : FecCodec} {outbound : HybridOutbound} {net : NetworkAddr} {dest : Ipv4Addr}

/-- Up to the wrapping, a packet is the data under its header, compressed. -/
theorem ipv4Prepared_eq {address : Ipv4Addr} (codec : FecCodec) (now : Instant)
    (front tailRoom : List UInt8) {data : List UInt8}
    (isIpv4 : ipv4Destination data = some address) (short : data.length ≤ 65535)
    (routed : outbound.destinationOf net address = some dest) :
    ∃ plain : NetPacket,
      outbound.ipv4Prepared codec now net ⟨front ++ List.replicate headLength 0, data, tailRoom⟩ =
        (outbound.wrap codec now plain).map (fun wrapped => (wrapped.1, some (dest, wrapped.2))) ∧
      (plain.header = outgoingHeader net .turn dest ∨
        plain.header = { outgoingHeader net .turn dest with flagsByte := compressedMask }) ∧
      plain.payload.length ≤ 65535 ∧ outbound.packetCompression.Restores plain data := by
  obtain ⟨plain, outcome, header, shorter, restores⟩ :=
    outbound.packetCompression.compress_spec outbound.packetCrypto.encryptReserve
      (show (NetPacket.mk front (outgoingHeader net .turn dest) data tailRoom).header.flagsByte = 0
        from rfl) (by dsimp only; omega)
  refine ⟨plain, ?_, header, Nat.le_trans shorter short, restores⟩
  unfold HybridOutbound.ipv4Prepared
  simp only [isIpv4, routed, address_eq]
  dsimp only [bind, Except.bind]
  rw [outcome]
  dsimp only
  cases outbound.wrap codec now plain <;> rfl

/-! ### The receiver -/

/-- The steps between the two ends: what arrives of an encrypted packet is decrypted to the
payload it had, under the header it has. -/
theorem decrypted {packetCrypto : PacketCrypto} {packet encrypted received : NetPacket}
    (outcome : packetCrypto.encryptInPlace packet = .ok encrypted)
    (arrived : encrypted.Arrived received) :
    ∃ opened, packetCrypto.decryptInPlace received = .ok opened ∧ packet.Arrived opened ∧
      opened.header = received.header := by
  have header := PacketCrypto.header_encryptInPlace outcome
  obtain ⟨tailRoom, opened⟩ := PacketCrypto.decryptInPlace_of_encryptInPlace outcome
    (arrived.makeNonce.trans (congrArg makeNonce header)) arrived.payload
  refine ⟨_, opened, ⟨?_, ?_, ?_, ?_, ?_, rfl⟩, rfl⟩
  · rw [← header]
    exact arrived.typeByte
  · rw [← header]
    exact arrived.flagsByte
  · rw [← header]
    exact arrived.seq
  · rw [← header]
    exact arrived.srcId
  · rw [← header]
    exact arrived.destId

variable {code : ErasureCode UInt8} {handler : InboundHandler}

/-- A turn packet that is decrypted goes through the decoder when its flag is set. -/
theorem handleClientData_turn {wire : List UInt8} {received opened : NetPacket} (later : Instant)
    (read : NetPacket.new (.ofBytes wire) = .ok received)
    (typeByte : received.header.typeByte = (outgoingHeader net .turn dest).typeByte)
    (decrypts : handler.packetCrypto.decryptInPlace received = .ok opened) :
    handler.handleClientData code codec later wire =
      if opened.isFec = true then
        handler.handleDecoded handler.packetCompression
          (Delivery.mk .turn received.header.srcId received.header.destId)
          (handler.fecDecoder.receive code codec later opened)
      else
        let delivered := InboundHandler.deliverAll handler.packetCompression
          (Delivery.mk .turn received.header.srcId received.header.destId) [opened]
        ⟨handler, delivered.1, delivered.2⟩ := by
  have isTurn : received.msgType = .ok .turn := NetPacket.msgType_of_typeByte typeByte
  unfold InboundHandler.handleClientData
  simp only [read, isTurn, decrypts, reduceCtorEq, if_false]

/-- A packet that decompresses is delivered, whatever comes before the decompression. -/
theorem deliverAll_restored {packetCompression : PacketCompression} {packet restored : NetPacket}
    (deliver : NetPacket → Delivery)
    (outcome : packetCompression.decompress packet = .ok restored) :
    InboundHandler.deliverAll packetCompression deliver [packet] =
      ([deliver restored], .ok ()) := by
  simp only [InboundHandler.deliverAll, outcome]

/-- The header of an outgoing turn packet, compressed or not. -/
def IsTurnHeader (net : NetworkAddr) (dest : Ipv4Addr) (header : NetHeader) : Prop :=
  header = outgoingHeader net .turn dest ∨
    header = { outgoingHeader net .turn dest with flagsByte := compressedMask }

theorem IsTurnHeader.fields {header : NetHeader} (isTurn : IsTurnHeader net dest header) :
    header.typeByte = (outgoingHeader net .turn dest).typeByte ∧ header.srcId = net.ip ∧
      header.destId = dest ∧ header.flagsByte &&& fecMask = 0 ∧
      (header.flagsByte ||| fecMask) &&& fecMask ≠ 0 ∧
      (header.flagsByte ||| fecMask) &&& ~~~fecMask = header.flagsByte := by
  have masks : ∀ flags : UInt8, flags = 0 ∨ flags = compressedMask →
      flags &&& fecMask = 0 ∧ (flags ||| fecMask) &&& fecMask ≠ 0 ∧
        (flags ||| fecMask) &&& ~~~fecMask = flags := by
    rintro flags (rfl | rfl) <;> decide
  rcases isTurn with rfl | rfl
  · exact ⟨rfl, rfl, rfl, masks _ (.inl rfl)⟩
  · exact ⟨rfl, rfl, rfl, masks _ (.inr rfl)⟩

/-- The receiver delivers a turn packet that was not wrapped. -/
theorem delivered_plain {plain encrypted : NetPacket} {payload : List UInt8} (later : Instant)
    (relays : Nat) (isTurn : IsTurnHeader net dest plain.header)
    (restores : handler.packetCompression.Restores plain payload)
    (outcome : handler.packetCrypto.encryptInPlace plain = .ok encrypted) :
    ∃ restored,
      (handler.handleClientData code codec later (relay^[relays] encrypted.intoBytes)).delivered =
        [⟨.turn, net.ip, dest, restored⟩] ∧
      restored.header.typeByte = (outgoingHeader net .turn dest).typeByte ∧
      restored.payload = payload := by
  obtain ⟨typeByte, src, isDest, notFec, -, -⟩ := isTurn.fields
  obtain ⟨received, read, arrived⟩ := NetPacket.Arrived.relays encrypted relays
  obtain ⟨opened, decrypts, same, header⟩ := decrypted outcome arrived
  obtain ⟨restored, decompresses, restoredPayload, restoredType⟩ :=
    restores opened same.payload same.flagsByte
  have isPlain : opened.isFec = false := by
    unfold NetPacket.isFec
    rw [same.flagsByte, notFec]
    rfl
  refine ⟨restored, ?_, restoredType.trans (same.typeByte.trans typeByte), restoredPayload⟩
  rw [handleClientData_turn later read (by rw [← header, same.typeByte, typeByte]) decrypts,
    if_neg (by rw [isPlain]; exact Bool.noConfusion), deliverAll_restored _ decompresses, ← header,
    same.srcId, same.destId, src, isDest]

/-- The receiver unwraps and delivers a turn packet that was wrapped. -/
theorem delivered_wrapped {plain encrypted : NetPacket} {payload : List UInt8} (later : Instant)
    (relays : Nat) (groupId : UInt64) (packetIndex : UInt32) (headRoom : List UInt8)
    (isTurn : IsTurnHeader net dest plain.header) (short : plain.payload.length ≤ 65535)
    (inside : packetIndex.toNat ≤ maxNum)
    (fresh : handler.fecDecoder.groups.lookup (net.ip, groupId) = none)
    (restores : handler.packetCompression.Restores plain payload)
    (outcome : handler.packetCrypto.encryptInPlace
      ⟨headRoom, plain.header.setFlag fecMask true,
        codec.encodeToVec ⟨groupId, packetIndex, plain.payload, none⟩, []⟩ = .ok encrypted) :
    ∃ restored,
      (handler.handleClientData code codec later (relay^[relays] encrypted.intoBytes)).delivered =
        [⟨.turn, net.ip, dest, restored⟩] ∧
      restored.header.typeByte = (outgoingHeader net .turn dest).typeByte ∧
      restored.payload = payload := by
  obtain ⟨typeByte, src, isDest, -, isFlagged, cleared⟩ := isTurn.fields
  obtain ⟨received, read, arrived⟩ := NetPacket.Arrived.relays encrypted relays
  obtain ⟨opened, decrypts, same, header⟩ := decrypted outcome arrived
  have openedType : opened.header.typeByte = plain.header.typeByte := same.typeByte
  have openedFlags : opened.header.flagsByte = plain.header.flagsByte ||| fecMask := same.flagsByte
  have openedSrc : opened.header.srcId = net.ip := same.srcId.trans src
  have openedDest : opened.header.destId = dest := same.destId.trans isDest
  have decodes : codec.decode opened.payload =
      .ok ⟨groupId, packetIndex, plain.payload, none⟩ := by
    rw [same.payload]
    exact codec.decode_encodeToVec _ (by dsimp only; omega)
  have isFec : opened.isFec = true := by
    unfold NetPacket.isFec
    rw [openedFlags]
    exact bne_iff_ne.mpr isFlagged
  have unwrapped := FecDecoder.receive_first code later decodes inside rfl
    (by rw [openedSrc]; exact fresh)
  obtain ⟨restored, decompresses, restoredPayload, restoredType⟩ :=
    restores ⟨[], opened.header.setFlag fecMask false, plain.payload, []⟩ rfl (by
      unfold NetHeader.setFlag
      dsimp only
      rw [openedFlags]
      exact cleared)
  refine ⟨restored, ?_, restoredType.trans (openedType.trans typeByte), restoredPayload⟩
  rw [handleClientData_turn later read (by rw [← header, openedType, typeByte]) decrypts,
    if_pos isFec]
  unfold InboundHandler.handleDecoded
  simp only [unwrapped, Option.getD_some, deliverAll_restored _ decompresses]
  rw [← header, openedSrc, openedDest]

/-- An IPv4 packet of at most 65535 bytes in a buffer with a zeroed head room, with a route to
its destination: whatever the settings of the layers and the number of relays, as long as both
ends have the same and the receiver has no earlier state for the group, the receiver delivers
one turn packet with the payload that was sent. -/
theorem roundTrip (code : ErasureCode UInt8) (codec : FecCodec) (outbound : HybridOutbound)
    (handler : InboundHandler) (net : NetworkAddr) (now later : Instant) (relays : Nat)
    (front data tailRoom : List UInt8) (address dest : Ipv4Addr)
    (sameCrypto : handler.packetCrypto = outbound.packetCrypto)
    (sameCompression : handler.packetCompression = outbound.packetCompression)
    (isIpv4 : ipv4Destination data = some address) (short : data.length ≤ 65535)
    (routed : outbound.destinationOf net address = some dest)
    (fresh : ∀ fecEncoder, outbound.fecEncoder = some fecEncoder →
      handler.fecDecoder.groups.lookup
        (net.ip, (fecEncoder.stateFor now net.ip dest).groupId) = none) :
    ∃ sent restored,
      (outbound.ipv4Outbound codec now net
        ⟨front ++ List.replicate headLength 0, data, tailRoom⟩).2 = .ok (some (dest, sent)) ∧
      (handler.handleClientData code codec later (relay^[relays] sent.intoBytes)).delivered =
        [⟨.turn, net.ip, dest, restored⟩] ∧
      restored.msgType = .ok .turn ∧ restored.payload = data := by
  obtain ⟨plain, prepared, isTurn, fits, restores⟩ :=
    ipv4Prepared_eq codec now front tailRoom isIpv4 short routed
  replace isTurn : IsTurnHeader net dest plain.header := isTurn
  rw [← sameCompression] at restores
  obtain ⟨-, src, isDest, -⟩ := isTurn.fields
  unfold HybridOutbound.ipv4Outbound
  rw [prepared]
  unfold HybridOutbound.wrap
  cases encoder : outbound.fecEncoder with
  | none =>
    obtain ⟨encrypted, outcome⟩ := outbound.packetCrypto.encryptInPlace_ok
      (show plain.payload.length ≤ 64 * (2 ^ 32 - 1) by omega)
    obtain ⟨restored, delivered, typeByte, payload⟩ := delivered_plain later relays isTurn restores
      (sameCrypto ▸ outcome)
    refine ⟨encrypted, restored, ?_, delivered, NetPacket.msgType_of_typeByte typeByte, payload⟩
    simp only [Except.map, outcome]
  | some fecEncoder =>
    have encoded := FecEncoder.encode_eq codec fecEncoder now fits
    rw [src, isDest] at encoded
    have index := (fecEncoder.stateFor now net.ip dest).short
    have inside : (UInt32.ofNat (fecEncoder.stateFor now net.ip dest).currentBatch.length).toNat ≤
        maxNum := by
      unfold batchSize at index
      unfold maxNum
      rw [UInt32.toNat_ofNat']
      omega
    have bounded := codec.length_encodeToVec ⟨(fecEncoder.stateFor now net.ip dest).groupId,
      UInt32.ofNat (fecEncoder.stateFor now net.ip dest).currentBatch.length, plain.payload, none⟩
    obtain ⟨encrypted, outcome⟩ := outbound.packetCrypto.encryptInPlace_ok
      (show (NetPacket.mk plain.headRoom (plain.header.setFlag fecMask true) (codec.encodeToVec
          ⟨(fecEncoder.stateFor now net.ip dest).groupId, UInt32.ofNat
            (fecEncoder.stateFor now net.ip dest).currentBatch.length, plain.payload, none⟩)
              []).payload.length ≤ 64 * (2 ^ 32 - 1) by
        dsimp only at bounded ⊢
        omega)
    obtain ⟨restored, delivered, typeByte, payload⟩ := delivered_wrapped later relays _ _ _ isTurn
      fits inside (fresh fecEncoder encoder) restores (sameCrypto ▸ outcome)
    refine ⟨encrypted, restored, ?_, delivered, NetPacket.msgType_of_typeByte typeByte, payload⟩
    simp only [Except.map, encoded, outcome]

/-- A client of the network `10.26.0.0/24` with a password, compression and error correction. -/
def exampleOutbound : HybridOutbound where
  packetCrypto := ⟨some (ChaCha20Poly1305.aead (List.replicate 32 7))⟩
  packetCompression := .new Lz4Literals.lz4 true
  externalRoute := []
  fecEncoder := some ⟨∅, []⟩

/-- The other end. -/
def exampleHandler : InboundHandler where
  packetCrypto := exampleOutbound.packetCrypto
  packetCompression := exampleOutbound.packetCompression
  fecDecoder := .new 0

/-- An IPv4 packet from `10.26.0.2` to `10.26.0.3` without content. -/
def examplePacket : List UInt8 :=
  [0x45, 0, 0, 20, 0, 0, 0, 0, 64, 1, 0, 0, 10, 26, 0, 2, 10, 26, 0, 3]

theorem roundTrip_examplePacket :
    ∃ sent restored,
      (exampleOutbound.ipv4Outbound protobufCodec 5 ⟨0x0A1A0001, 0x0A1A00FF, 0x0A1A0002, 24⟩
        ⟨[] ++ List.replicate headLength 0, examplePacket, List.replicate 2012 0⟩).2 =
          .ok (some (0x0A1A0003, sent)) ∧
      (exampleHandler.handleClientData ⟨fun _ _ => [], fun _ _ _ => []⟩ protobufCodec 9
        (relay^[3] sent.intoBytes)).delivered =
          [⟨.turn, 0x0A1A0002, 0x0A1A0003, restored⟩] ∧
      restored.msgType = .ok .turn ∧ restored.payload = examplePacket :=
  roundTrip ⟨fun _ _ => [], fun _ _ _ => []⟩ protobufCodec exampleOutbound exampleHandler
    ⟨0x0A1A0001, 0x0A1A00FF, 0x0A1A0002, 24⟩ 5 9 3 [] examplePacket (List.replicate 2012 0)
    0x0A1A0003 0x0A1A0003 rfl rfl (by decide) (by decide) (by decide) fun _ _ => rfl

end Tunnel

end Vnt
