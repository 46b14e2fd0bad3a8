/-
This file embeds the compression of packets. Of the compressor only its contract is used: what
it compresses it decompresses again. A payload that is short, or that does not get shorter, is
left alone, and the flag in the header says whether it was compressed.
-/

import Vnt.Protocol.NetPacket

namespace Vnt

/-- `lz4_flex`: `compress_prepend_size` and `decompress_size_prepended`. -/
structure Lz4 where
  compressPrependSize : List UInt8 → List UInt8
  decompressSizePrepended : List UInt8 → Except String (List UInt8)
  decompress_compress : ∀ payload, payload.length < 2 ^ 32 →
    decompressSizePrepended (compressPrependSize payload) = .ok payload

/-- `LZ4Compression`. -/
structure LZ4Compression where
  lz4 : Lz4
  minSize : Nat

namespace LZ4Compression

/-- `LZ4Compression::new`. -/
def new (lz4 : Lz4) : LZ4Compression := ⟨lz4, 256⟩

def compress (compression : LZ4Compression) (packet : NetPacket) (reserve : Nat) :
    Except String NetPacket := do
  if packet.payload.length < compression.minSize then
    return packet
  let compressed := compression.lz4.compressPrependSize packet.payload
  if compressed.length ≥ packet.payload.length then
    return packet
  let blank ← NetPacket.new (.zeroedSize (headLength + compressed.length) reserve)
  let result ← { blank with header := packet.header }.setPayload compressed
  return result.setCompressedFlag true

def decompress (compression : LZ4Compression) (packet : NetPacket) : Except String NetPacket := do
  if packet.isCompressed = false then
    return packet
  match compression.lz4.decompressSizePrepended packet.payload with
  | .error message => throw s!"decompress failed: {message}"
  | .ok decompressed =>
    let blank ← NetPacket.new (.zeroed (headLength + decompressed.length))
    let result ← { blank with header := packet.header }.setPayload decompressed
    return result.setCompressedFlag false

variable {compression : LZ4Compression} {packet result : NetPacket} {reserve : Nat}

/-- A payload that gets shorter is compressed, any other stays. -/
theorem compress_eq (compression : LZ4Compression) (packet : NetPacket) (reserve : Nat) :
    compression.compress packet reserve = .ok
      (if packet.payload.length < compression.minSize ∨ packet.payload.length ≤
          (compression.lz4.compressPrependSize packet.payload).length then packet
        else
          { headRoom := []
            header := packet.header.setFlag compressedMask true
            payload := compression.lz4.compressPrependSize packet.payload
            tailRoom := List.replicate reserve 0 }) := by
  unfold compress
  by_cases short : packet.payload.length < compression.minSize
  · rw [if_pos short, if_pos (.inl short)]
    rfl
  · rw [if_neg short]
    by_cases longer : packet.payload.length ≤
        (compression.lz4.compressPrependSize packet.payload).length
    · rw [if_pos (show _ ≥ _ from longer), if_pos (.inr longer)]
      rfl
    · rw [if_neg (show ¬_ ≥ _ from longer), if_neg (not_or.mpr ⟨short, longer⟩),
        NetPacket.new_zeroedSize]
      dsimp only [bind, Except.bind]
      rw [NetPacket.setPayload_blank]
      rfl

theorem decompress_of_not_compressed (plain : packet.isCompressed = false) :
    compression.decompress packet = .ok packet := by
  unfold decompress
  rw [if_pos plain]
  rfl

/-- A compressed payload comes back, with the flag cleared. -/
theorem decompress_compressed {payload : List UInt8} (flagged : packet.isCompressed = true)
    (short : payload.length < 2 ^ 32)
    (compressed : packet.payload = compression.lz4.compressPrependSize payload) :
    compression.decompress packet = .ok
      { headRoom := []
        header := packet.header.setFlag compressedMask false
        payload := payload
        tailRoom := [] } := by
  unfold decompress
  rw [if_neg (by rw [flagged]; exact Bool.noConfusion), compressed,
    compression.lz4.decompress_compress payload short]
  dsimp only
  rw [NetPacket.new_zeroed]
  dsimp only [bind, Except.bind]
  rw [NetPacket.setPayload_blank]
  rfl

end LZ4Compression

/-- `PacketCompression`. -/
structure PacketCompression where
  compression : Option LZ4Compression

namespace PacketCompression

/-- `PacketCompression::new`. -/
def new (lz4 : Lz4) (enabled : Bool) : PacketCompression :=
  ⟨if enabled then some (.new lz4) else none⟩

def compress (packetCompression : PacketCompression) (packet : NetPacket) (reserve : Nat) :
    Except String NetPacket :=
  match packetCompression.compression with
  | some compression => compression.compress packet reserve
  | none => .ok packet

def decompress (packetCompression : PacketCompression) (packet : NetPacket) :
    Except String NetPacket :=
  match packetCompression.compression with
  | some compression => compression.decompress packet
  | none => .ok packet

/-- Compression changes nothing of the header but its flag. -/
theorem header_compress {packetCompression : PacketCompression} {packet compressed : NetPacket}
    {reserve : Nat} (outcome : packetCompression.compress packet reserve = .ok compressed) :
    compressed.header = packet.header ∨
      compressed.header = packet.header.setFlag compressedMask true := by
  obtain ⟨_ | compression⟩ := packetCompression
  · cases outcome
    exact .inl rfl
  · have equation := (compression.compress_eq packet reserve).symm.trans outcome
    cases equation
    split
    · exact .inl rfl
    · exact .inr rfl

end PacketCompression

end Vnt
