/-
This file settles under which type the packets are handled that come out of the decoder of
forward error correction. Both ways into a client take the type of the packet that arrived for
all packets that it releases. What is delivered directly has that type; what is completed has the
types it was sent under, and the packets of the parity are turn packets always. So the types are
right exactly when, whenever a packet completes its group, the missing ones have its type.
-/

import Vnt.Fec.Reading
import Vnt.Fec.Recovery
import Vnt.Tunnel.P2pInbound
import Vnt.Tunnel.RoundTrip

namespace Vnt.Tunnel

open Vnt.Base Vnt.Fec

/-! ### Handling by the own type -/

/-- The decompression of packets of a type: those of `Quic` are not compressed. -/
def compressionFor (packetCompression : PacketCompression) (msgType : MsgType) :
    PacketCompression :=
  if msgType = .quic then ⟨none⟩ else packetCompression

/-- Deliver packets one after the other, each under the type of its own header, up to the first
that fails. -/
def deliverOwn (packetCompression : PacketCompression) (src dest : Ipv4Addr) :
    List NetPacket → List Delivery × Except String Unit
  | [] => ([], .ok ())
  | packet :: rest =>
    match packet.msgType with
    | .error message => ([], .error message)
    | .ok msgType =>
      match (compressionFor packetCompression msgType).decompress packet with
      | .error message => ([], .error message)
      | .ok packet =>
        let later := deliverOwn packetCompression src dest rest
        (⟨msgType, src, dest, packet⟩ :: later.1, later.2)

namespace InboundHandler

/-- The decryption of packets of a type: those of `Quic` are not encrypted. -/
def decryptFor (handler : InboundHandler) (msgType : MsgType) (packet : NetPacket) :
    Except String NetPacket :=
  if msgType = .quic then .ok packet else handler.packetCrypto.decryptInPlace packet

end InboundHandler

/-- A way into a client: how it changes the header of a packet before it handles it, and how it
handles it. -/
structure Inbound where
  view : NetPacket → NetPacket
  handle : InboundHandler → Instant → List UInt8 → Handled

/-- The way over a server. -/
def serverInbound (code : ErasureCode UInt8) (codec : FecCodec) : Inbound where
  view := id
  handle := InboundHandler.handleClientData code codec

/-- The direct way from another client. -/
def p2pInbound (code : ErasureCode UInt8) (codec : FecCodec) (p2p : P2pNetwork) : Inbound where
  view := NetPacket.decrTtl
  handle := fun handler now buf => (handler.nextHandle code codec p2p now buf).handled

/-- What the decoder gives out for a packet is delivered by the own types. -/
def ByOwnType (code : ErasureCode UInt8) (codec : FecCodec) (inbound : Inbound)
    (handler : InboundHandler) (now : Instant) (data : List UInt8) : Prop :=
  ∀ received msgType opened packets, NetPacket.new (.ofBytes data) = .ok received →
    received.msgType = .ok msgType →
    handler.decryptFor msgType (inbound.view received) = .ok opened → opened.isFec = true →
    (handler.fecDecoder.receive code codec now opened).2 = .ok (some packets) →
      ((inbound.handle handler now data).delivered, (inbound.handle handler now data).outcome) =
        deliverOwn handler.packetCompression received.header.srcId received.header.destId packets

/-- The same for packets that arrive one after the other. -/
def AllByOwnType (code : ErasureCode UInt8) (codec : FecCodec) (inbound : Inbound) :
    InboundHandler → List (Instant × List UInt8) → Prop
  | _, [] => True
  | handler, (now, data) :: rest =>
    ByOwnType code codec inbound handler now data ∧
      AllByOwnType code codec inbound (inbound.handle handler now data).handler rest

/-! ### Contents -/

/-- The type of a content. -/
def typeOf (content : Content) : Except String MsgType :=
  MsgType.ofByte (content.typeByte &&& 0x7F)

/-- A packet with this content decompresses. -/
def Decompresses (packetCompression : PacketCompression) (content : Content) : Prop :=
  ∃ restored, packetCompression.decompress
    ⟨[], { NetHeader.zero with flagsByte := content.flagsByte }, content.payload, []⟩ = .ok restored

/-- Contents that are reached one after the other all have one type. -/
def OneType (packetCompression : PacketCompression) (msgType : MsgType) : List Content → Prop
  | [] => True
  | content :: rest =>
    typeOf content = .ok msgType ∧
      (Decompresses (compressionFor packetCompression msgType) content →
        OneType packetCompression msgType rest)

variable {code : ErasureCode UInt8} {codec : FecCodec} {packetCompression : PacketCompression}
  {msgType : MsgType} {src dest : Ipv4Addr}

/-- Whether a packet decompresses depends on its content. -/
theorem exists_decompress_iff (packet : NetPacket) :
    (∃ restored, packetCompression.decompress packet = .ok restored) ↔
      Decompresses packetCompression (content packet) := by
  obtain ⟨_ | compression⟩ := packetCompression
  · exact ⟨fun _ => ⟨_, rfl⟩, fun _ => ⟨_, rfl⟩⟩
  · have single : ∀ packet : NetPacket, (∃ restored, compression.decompress packet = .ok restored) ↔
        (packet.header.flagsByte &&& compressedMask != 0) = false ∨
          ∃ data, compression.lz4.decompressSizePrepended packet.payload = .ok data := by
      intro packet
      by_cases plain : packet.isCompressed = false
      · rw [LZ4Compression.decompress_of_not_compressed plain]
        exact ⟨fun _ => .inl plain, fun _ => ⟨_, rfl⟩⟩
      · unfold LZ4Compression.decompress
        rw [if_neg plain]
        cases compression.lz4.decompressSizePrepended packet.payload with
        | error message =>
          constructor
          · rintro ⟨_, failed⟩
            cases failed
          · rintro (isPlain | ⟨_, failed⟩)
            · exact absurd isPlain plain
            · cases failed
        | ok data =>
          refine ⟨fun _ => .inr ⟨data, rfl⟩, fun _ => ?_⟩
          dsimp only
          rw [NetPacket.new_zeroed]
          dsimp only [bind, Except.bind]
          rw [NetPacket.setPayload_blank]
          exact ⟨_, rfl⟩
    exact (single packet).trans (single ⟨[], { NetHeader.zero with
      flagsByte := packet.header.flagsByte }, packet.payload, []⟩).symm

/-- A type of a packet in a group. -/
def IsGroupType (msgType : MsgType) : Prop := msgType = .quic ∨ msgType = .turn

/-- Delivering all packets under one type is delivering each under its own, when the packets that
are reached have that type, and only then. -/
theorem deliverAll_eq_deliverOwn_iff (src dest : Ipv4Addr) (isType : IsGroupType msgType)
    {packets : List NetPacket}
    (typed : ∀ packet ∈ packets, ∃ own, packet.msgType = .ok own ∧ IsGroupType own) :
    InboundHandler.deliverAll (compressionFor packetCompression msgType)
        (Delivery.mk msgType src dest) packets = deliverOwn packetCompression src dest packets ↔
      OneType packetCompression msgType (packets.map content) := by
  induction packets with
  | nil => exact ⟨fun _ => trivial, fun _ => rfl⟩
  | cons packet rest inductionHypothesis =>
    obtain ⟨own, isOwn, ownType⟩ := typed packet List.mem_cons_self
    have later := inductionHypothesis fun other member =>
      typed other (List.mem_cons_of_mem _ member)
    have read : typeOf (content packet) = .ok own := isOwn
    rw [List.map_cons, OneType, read, InboundHandler.deliverAll, deliverOwn, isOwn,
      ← exists_decompress_iff]
    dsimp only
    by_cases same : own = msgType
    · rw [same]
      cases (compressionFor packetCompression msgType).decompress packet with
      | error message => simp
      | ok restored =>
        rw [← later]
        simp [Prod.ext_iff]
    · have different : ¬(Except.ok own : Except String MsgType) = .ok msgType :=
        fun equal => same (Except.ok.inj equal)
      simp only [different, false_and, iff_false]
      rcases isType with rfl | rfl
      · have isTurn : own = .turn := ownType.resolve_left same
        have quic : (compressionFor packetCompression .quic).decompress packet = .ok packet := rfl
        rw [isTurn, quic]
        cases (compressionFor packetCompression .turn).decompress packet with
        | error message => simp
        | ok restored => simp
      · have isQuic : own = .quic := ownType.resolve_right same
        have quic : (compressionFor packetCompression .quic).decompress packet = .ok packet := rfl
        rw [isQuic, quic]
        cases (compressionFor packetCompression .turn).decompress packet with
        | error message => simp
        | ok restored => simp

/-- One more content of the type at the end changes nothing. -/
theorem oneType_append {contents last : List Content}
    (isLast : ∀ content ∈ last, typeOf content = .ok msgType) :
    OneType packetCompression msgType (contents ++ last) ↔
      OneType packetCompression msgType contents := by
  induction contents with
  | nil =>
    refine ⟨fun _ => trivial, fun _ => ?_⟩
    rw [List.nil_append]
    induction last with
    | nil => trivial
    | cons content rest inductionHypothesis =>
      exact ⟨isLast content List.mem_cons_self, fun _ => inductionHypothesis fun other member =>
        isLast other (List.mem_cons_of_mem _ member)⟩
  | cons content rest inductionHypothesis =>
    rw [List.cons_append, OneType, OneType, inductionHypothesis]

/-! ### The packets of a group -/

/-- A group of packets of the two types, with the time to live that their senders set. -/
def IsMixed (batch : Batch) : Prop :=
  ∀ packet ∈ batch.packets, (∃ own, packet.msgType = .ok own ∧ IsGroupType own) ∧
    packet.header.ttlByte = 0x55

/-- The type of the packet of a place; parity is sent as a turn packet. -/
def groupType (batch : Batch) (index : Nat) : MsgType :=
  match batch.packets[index]? with
  | some packet => if packet.msgType = .ok .quic then .quic else .turn
  | none => .turn

/-- `Quic` packets go out as they are, all others encrypted. -/
def encryptFor (packetCrypto : PacketCrypto) (msgType : MsgType) (packet : NetPacket) :
    Except String NetPacket :=
  if msgType = .quic then .ok packet else packetCrypto.encryptInPlace packet

/-- The data are the packet of a place after it went through any number of relays. -/
def Arrives (code : ErasureCode UInt8) (codec : FecCodec) (packetCrypto : PacketCrypto)
    (batch : Batch) (index : Nat) (data : List UInt8) : Prop :=
  ∃ sent relays, encryptFor packetCrypto (groupType batch index) (batch.wire code codec index) =
    .ok sent ∧ data = relay^[relays] sent.intoBytes

variable {batch : Batch} {index : Nat}

theorem isGroupType_groupType (batch : Batch) (index : Nat) :
    IsGroupType (groupType batch index) := by
  unfold groupType
  split
  · split
    · exact .inl rfl
    · exact .inr rfl
  · exact .inr rfl

theorem or_and_self (flags mask : UInt8) : (flags ||| mask) &&& mask = mask := by
  refine UInt8.toBitVec_inj.mp ?_
  simp only [UInt8.toBitVec_and, UInt8.toBitVec_or]
  ext bit inside
  simp only [BitVec.getElem_and, BitVec.getElem_or]
  cases flags.toBitVec[bit] <;> cases mask.toBitVec[bit] <;> rfl

/-- A packet of a group has the type of its place. -/
theorem msgType_of_getElem? (mixed : IsMixed batch) {packet : NetPacket}
    (found : batch.packets[index]? = some packet) :
    packet.msgType = .ok (groupType batch index) := by
  obtain ⟨⟨own, isOwn, isType⟩, -⟩ := mixed packet (List.mem_of_getElem? found)
  unfold groupType
  rw [found]
  dsimp only
  rw [isOwn]
  rcases isType with rfl | rfl
  · rfl
  · rfl

/-- The packet of a place on the wire. -/
theorem wire_spec (code : ErasureCode UInt8) (codec : FecCodec) (mixed : IsMixed batch)
    (index : Nat) :
    (batch.wire code codec index).msgType = .ok (groupType batch index) ∧
      (batch.wire code codec index).isFec = true ∧
      (batch.wire code codec index).header.ttlByte = 0x55 ∧
      (batch.wire code codec index).header.srcId = batch.src ∧
      (batch.wire code codec index).header.destId = batch.dest := by
  cases found : batch.packets[index]? with
  | none =>
    have isFec : ((0 ||| fecMask) &&& fecMask != 0) = true := by decide
    unfold Batch.wire groupType
    rw [found]
    exact ⟨NetPacket.msgType_of_typeByte rfl, isFec, rfl, rfl, rfl⟩
  | some packet =>
    have member := List.mem_of_getElem? found
    have belongs := batch.belong packet member
    have isType := msgType_of_getElem? mixed found
    unfold Batch.wire
    rw [found]
    refine ⟨isType, ?_, (mixed packet member).2, belongs.srcId, belongs.destId⟩
    unfold NetPacket.isFec wrapped NetHeader.setFlag
    dsimp only
    rw [if_pos rfl, or_and_self]
    decide

/-! ### One packet -/

/-- The time to live of a packet whose sender set it to 5, after some relays. -/
def IsLiving (header : NetHeader) : Prop :=
  header.ttlByte ∈ [0x55, 0x54, 0x53, 0x52, 0x51, 0x50]

/-- What a relay makes of the time to live. -/
def decrByte (byte : UInt8) : UInt8 :=
  if byte &&& 0x0F = 0 then byte else (byte &&& 0xF0) ||| ((byte &&& 0x0F) - 1)

theorem ttlByte_decrTtl (header : NetHeader) :
    header.decrTtl.ttlByte = decrByte header.ttlByte := by
  unfold NetHeader.decrTtl decrByte NetHeader.currTtl
  split <;> rfl

theorem IsLiving.decrTtl {header : NetHeader} (living : IsLiving header) :
    IsLiving header.decrTtl ∧ ¬header.decrTtl.maxTtl ≤ header.decrTtl.currTtl := by
  have each : ∀ byte ∈ ([0x55, 0x54, 0x53, 0x52, 0x51, 0x50] : List UInt8),
      decrByte byte ∈ ([0x55, 0x54, 0x53, 0x52, 0x51, 0x50] : List UInt8) ∧
        ¬decrByte byte >>> 4 ≤ decrByte byte &&& 0x0F := by decide +kernel
  unfold IsLiving NetHeader.maxTtl NetHeader.currTtl at *
  rw [ttlByte_decrTtl]
  exact each header.ttlByte living

/-- What leaves a chain of relays still lives. -/
theorem relays_living {packet : NetPacket} (living : IsLiving packet.header) (count : Nat) :
    ∃ received, NetPacket.new (.ofBytes (relay^[count] packet.intoBytes)) = .ok received ∧
      packet.Arrived received ∧ IsLiving received.header := by
  induction count with
  | zero => exact ⟨_, packet.new_ofBytes_intoBytes, ⟨rfl, rfl, rfl, rfl, rfl, rfl⟩, living⟩
  | succ count inductionHypothesis =>
    obtain ⟨received, outcome, arrived, lives⟩ := inductionHypothesis
    have later := arrived.decrTtl
    rw [Function.iterate_succ_apply', relay_of_new outcome]
    exact ⟨_, received.decrTtl.new_ofBytes_intoBytes, ⟨later.typeByte, later.flagsByte,
      later.seq, later.srcId, later.destId, later.payload⟩, lives.decrTtl.1⟩

/-- A way in handles a packet of a group in its layers and under the type of the packet. -/
structure Handles (code : ErasureCode UInt8) (codec : FecCodec) (src dest : Ipv4Addr)
    (inbound : Inbound) : Prop where
  view : ∀ {sent received : NetPacket}, sent.Arrived received →
    sent.Arrived (inbound.view received)
  handle : ∀ {handler : InboundHandler} {data : List UInt8} {received opened : NetPacket}
    {msgType : MsgType} (now : Instant), NetPacket.new (.ofBytes data) = .ok received →
    received.header.srcId = src → received.header.destId = dest → IsLiving received.header →
    received.msgType = .ok msgType →
    handler.decryptFor msgType (inbound.view received) = .ok opened → opened.isFec = true →
      inbound.handle handler now data =
        handler.handleDecoded (compressionFor handler.packetCompression msgType)
          (Delivery.mk msgType src dest) (handler.fecDecoder.receive code codec now opened)

theorem handles_server (src dest : Ipv4Addr) :
    Handles code codec src dest (serverInbound code codec) where
  view := id
  handle := by
    intro handler data received opened msgType now read isSrc isDest _ isType decrypts isFec
    unfold InboundHandler.decryptFor at decrypts
    unfold serverInbound InboundHandler.handleClientData compressionFor
    dsimp only
    rw [read]
    dsimp only
    rw [isType]
    dsimp only
    rw [isSrc, isDest]
    split
    · next quic =>
      rw [if_pos quic] at decrypts
      cases decrypts
      exact if_pos isFec
    · next other =>
      rw [if_neg other] at decrypts
      rw [show handler.packetCrypto.decryptInPlace received = .ok opened from decrypts]
      dsimp only
      rw [if_pos isFec]

theorem handles_p2p {p2p : P2pNetwork} {net : NetworkAddr} (network : p2p.network = some net)
    (isOwn : net.ip = dest) (different : src ≠ dest) :
    Handles code codec src dest (p2pInbound code codec p2p) where
  view := NetPacket.Arrived.decrTtl
  handle := by
    intro handler data received opened msgType now read isSrc isDest living isType decrypts isFec
    have alive : ¬received.decrTtl.header.maxTtl ≤ received.decrTtl.header.currTtl :=
      living.decrTtl.2
    have ids : received.decrTtl.header.srcId = src ∧ received.decrTtl.header.destId = dest := by
      unfold NetPacket.decrTtl NetHeader.decrTtl
      split <;> exact ⟨isSrc, isDest⟩
    unfold InboundHandler.decryptFor at decrypts
    unfold p2pInbound InboundHandler.nextHandle compressionFor
    dsimp only
    rw [read]
    dsimp only
    rw [isType]
    dsimp only
    rw [isSrc, isDest, if_neg different, if_neg alive, network]
    dsimp only
    rw [if_neg (by rw [isOwn, ids.2]; exact fun away => away.1 rfl)]
    unfold InboundHandler.nextHandleOwn
    dsimp only
    rw [ids.1, ids.2]
    split
    · next quic =>
      rw [if_pos quic] at decrypts
      cases decrypts
      exact if_pos isFec
    · next other =>
      rw [if_neg other] at decrypts
      rw [show handler.packetCrypto.decryptInPlace received.decrTtl = .ok opened from decrypts]
      dsimp only
      rw [if_pos isFec]

theorem map_content_delivered {first second : Except String (Option (List NetPacket))}
    (same : contents first = contents second) :
    (delivered first).map content = (delivered second).map content := by
  cases first with
  | error message =>
    cases second with
    | error other => rfl
    | ok packets => cases same
  | ok packets =>
    cases second with
    | error message => cases same
    | ok others =>
      have options : packets.map (List.map content) = others.map (List.map content) :=
        Except.ok.inj same
      cases packets with
      | none =>
        cases others with
        | none => rfl
        | some list => cases options
      | some list =>
        cases others with
        | none => cases options
        | some otherList => exact Option.some.inj options

variable {collection : Collection} {handler : InboundHandler} {inbound : Inbound}

theorem mem_direct {content : Content} (member : content ∈ batch.direct index) :
    ∃ packet, batch.packets[index]? = some packet ∧ content = expected packet := by
  unfold Batch.direct at member
  obtain ⟨packet, found, same⟩ := Option.map_eq_some_iff.mp (Option.mem_toList.mp member)
  exact ⟨packet, found, same.symm⟩

theorem mem_completed {flags : List UInt8} {seen : List Nat} {content : Content}
    (member : content ∈ batch.completed flags seen) :
    ∃ packet ∈ batch.packets, content.typeByte = packet.header.typeByte := by
  unfold Batch.completed at member
  obtain ⟨place, -, found⟩ := List.mem_filterMap.mp member
  obtain ⟨packet, isPacket, rfl⟩ := Option.map_eq_some_iff.mp found
  exact ⟨packet, List.mem_of_getElem? isPacket, rfl⟩

/-- A packet completes its group: it is new, a parity packet is there, a data packet is missing,
and the packets that are there are enough and of one length. -/
def Completes (batch : Batch) (seen : List Nat) (index : Nat) : Prop :=
  index ∉ seen ∧ batch.HasParity (index :: seen) ∧ ¬batch.HasData (index :: seen) ∧
    batch.size ≤ (index :: seen).length ∧ batch.LengthsFit (index :: seen)

/-- The packets that are missing when a packet completes its group. -/
def missing (code : ErasureCode UInt8) (batch : Batch) (seen : List Nat) (index : Nat) :
    List Content :=
  batch.completed (batch.completedFlags code (index :: seen)) (index :: seen)

/-- A packet that completes its group releases the missing ones and itself, any other at most
itself. -/
theorem step_cases (code : ErasureCode UInt8) (batch : Batch) (seen : List Nat) (index : Nat) :
    (¬Completes batch seen index ∧ (((Collection.collecting seen).step code batch index).2 = [] ∨
        ((Collection.collecting seen).step code batch index).2 = batch.direct index)) ∨
      (Completes batch seen index ∧ ((Collection.collecting seen).step code batch index).2 =
        missing code batch seen index ++ batch.direct index) := by
  by_cases known : index ∈ seen
  · have step : (Collection.collecting seen).step code batch index = (.collecting seen, []) :=
      if_pos known
    rw [step]
    exact .inl ⟨fun completes => completes.1 known, .inl rfl⟩
  rw [Collection.step_new known]
  by_cases parity : batch.HasParity (index :: seen)
  · rw [if_neg (not_not.mpr parity)]
    by_cases data : batch.HasData (index :: seen)
    · rw [if_pos data]
      exact .inl ⟨fun completes => completes.2.2.1 data, .inr rfl⟩
    · rw [if_neg data]
      by_cases few : (index :: seen).length < batch.size
      · rw [if_pos few]
        exact .inl ⟨fun completes => Nat.not_lt_of_le completes.2.2.2.1 few, .inr rfl⟩
      · rw [if_neg few]
        by_cases fit : batch.LengthsFit (index :: seen)
        · rw [if_pos fit]
          exact .inr ⟨⟨known, parity, data, Nat.le_of_not_lt few, fit⟩, rfl⟩
        · rw [if_neg fit]
          exact .inl ⟨fun completes => fit completes.2.2.2.2, .inl rfl⟩
  · rw [if_pos parity]
    exact .inl ⟨fun completes => parity completes.2.1, .inr rfl⟩

/-- What a group gives out has one of the two types. -/
theorem exists_typeOf_of_mem_step (mixed : IsMixed batch) {content : Content}
    (member : content ∈ (collection.step code batch index).2) :
    ∃ own, typeOf content = .ok own ∧ IsGroupType own := by
  have fromDirect : content ∈ batch.direct index →
      ∃ packet ∈ batch.packets, content.typeByte = packet.header.typeByte := by
    intro inDirect
    obtain ⟨packet, found, rfl⟩ := mem_direct inDirect
    exact ⟨packet, List.mem_of_getElem? found, rfl⟩
  have fromBatch : ∃ packet ∈ batch.packets, content.typeByte = packet.header.typeByte := by
    cases collection with
    | finished => cases member
    | collecting seen =>
      rcases step_cases code batch seen index with ⟨-, nothing | direct⟩ | ⟨-, completed⟩
      · rw [nothing] at member
        cases member
      · rw [direct] at member
        exact fromDirect member
      · rw [completed] at member
        rcases List.mem_append.mp member with inMissing | inDirect
        · exact mem_completed inMissing
        · exact fromDirect inDirect
  obtain ⟨packet, inBatch, same⟩ := fromBatch
  obtain ⟨⟨own, isOwn, isType⟩, -⟩ := mixed packet inBatch
  refine ⟨own, ?_, isType⟩
  unfold typeOf
  rw [same]
  exact isOwn

/-- What arrives of the packet of a place is opened to a packet that reads as the one sent. -/
theorem exists_opened (handles : Handles code codec batch.src batch.dest inbound)
    (mixed : IsMixed batch) {data : List UInt8}
    (arrives : Arrives code codec handler.packetCrypto batch index data) :
    ∃ received opened, NetPacket.new (.ofBytes data) = .ok received ∧
      received.msgType = .ok (groupType batch index) ∧ received.header.srcId = batch.src ∧
      received.header.destId = batch.dest ∧ IsLiving received.header ∧
      handler.decryptFor (groupType batch index) (inbound.view received) = .ok opened ∧
      opened.isFec = true ∧ SameReading opened (batch.wire code codec index) := by
  obtain ⟨sent, relays, encrypts, rfl⟩ := arrives
  obtain ⟨isType, isFec, ttlByte, source, destination⟩ := wire_spec code codec mixed index
  have header : sent.header = (batch.wire code codec index).header := by
    unfold encryptFor at encrypts
    split at encrypts
    · cases encrypts
      rfl
    · exact PacketCrypto.header_encryptInPlace encrypts
  have living : IsLiving sent.header := by
    unfold IsLiving
    rw [header, ttlByte]
    exact List.mem_cons_self
  obtain ⟨received, read, arrived, lives⟩ := relays_living living relays
  have opens : ∃ opened, handler.decryptFor (groupType batch index) (inbound.view received) =
      .ok opened ∧ (batch.wire code codec index).Arrived opened := by
    unfold InboundHandler.decryptFor
    unfold encryptFor at encrypts
    by_cases quic : groupType batch index = .quic
    · rw [if_pos quic] at encrypts ⊢
      cases encrypts
      exact ⟨_, rfl, handles.view arrived⟩
    · rw [if_neg quic] at encrypts ⊢
      obtain ⟨opened, decrypts, same, -⟩ := decrypted encrypts (handles.view arrived)
      exact ⟨opened, decrypts, same⟩
  obtain ⟨opened, decrypts, same⟩ := opens
  refine ⟨received, opened, read, ?_, ?_, ?_, lives, decrypts, ?_, ?_⟩
  · unfold NetPacket.msgType NetHeader.msgType at isType ⊢
    rw [arrived.typeByte, header]
    exact isType
  · rw [arrived.srcId, header, source]
  · rw [arrived.destId, header, destination]
  · unfold NetPacket.isFec at isFec ⊢
    rw [same.flagsByte]
    exact isFec
  · exact ⟨same.typeByte, same.flagsByte, same.srcId, same.destId, same.payload⟩

/-- A packet of a group is handled by the own types exactly when what it releases is of its type,
and it does to the decoder what it does to the collection. -/
theorem byOwnType_iff (handles : Handles code codec batch.src batch.dest inbound)
    (mixed : IsMixed batch) (mds : code.Mds batch.size batch.parity)
    (shows : FecDecoder.Shows code batch collection handler.fecDecoder)
    (inside : index < batch.size + batch.parity) (now : Instant) {data : List UInt8}
    (arrives : Arrives code codec handler.packetCrypto batch index data) :
    (ByOwnType code codec inbound handler now data ↔
      OneType handler.packetCompression (groupType batch index)
        (collection.step code batch index).2) ∧
    ∃ decoder, (inbound.handle handler now data).handler = { handler with fecDecoder := decoder } ∧
      FecDecoder.Shows code batch (collection.step code batch index).1 decoder := by
  obtain ⟨received, opened, read, isType, source, destination, living, decrypts, isFec, same⟩ :=
    exists_opened handles mixed arrives
  have handled := handles.handle now read source destination living isType decrypts isFec
  obtain ⟨decoders, outcomes⟩ := FecDecoder.contents_receive code codec
    handler.fecDecoder now same
  obtain ⟨shown, given⟩ := shows.receive codec mds inside now
  rw [← decoders] at shown
  rw [← map_content_delivered outcomes] at given
  have kept : (inbound.handle handler now data).handler =
      { handler with fecDecoder := (handler.fecDecoder.receive code codec now opened).1 } := by
    rw [handled]
    unfold InboundHandler.handleDecoded
    split <;> rfl
  refine ⟨?_, _, kept, shown⟩
  rw [← given]
  have typed : ∀ packet ∈ delivered (handler.fecDecoder.receive code codec now opened).2,
      ∃ own, packet.msgType = .ok own ∧ IsGroupType own := by
    intro packet member
    exact exists_typeOf_of_mem_step mixed (given ▸ List.mem_map_of_mem member)
  have isGroup := isGroupType_groupType batch index
  constructor
  · intro byOwnType
    cases outcome : (handler.fecDecoder.receive code codec now opened).2 with
    | error message => trivial
    | ok result =>
      cases result with
      | none => trivial
      | some packets =>
        rw [outcome] at typed
        have equal := byOwnType received _ opened packets read isType decrypts isFec outcome
        refine (deliverAll_eq_deliverOwn_iff _ _ isGroup typed).mp (Eq.trans ?_ equal)
        rw [handled, source, destination]
        unfold InboundHandler.handleDecoded
        rw [outcome]
        rfl
  · intro oneType other msgType otherOpened packets otherRead otherType otherDecrypts _ outcome
    cases read.symm.trans otherRead
    cases isType.symm.trans otherType
    cases decrypts.symm.trans otherDecrypts
    rw [outcome] at oneType typed
    have equal := (deliverAll_eq_deliverOwn_iff batch.src batch.dest isGroup typed).mpr oneType
    rw [source, destination]
    refine Eq.trans ?_ equal
    rw [handled]
    unfold InboundHandler.handleDecoded
    rw [outcome]
    rfl

/-! ### All packets of a group -/

/-- Whenever a packet completes the group, the missing packets that are reached have its type. -/
def CompletesOwnType (code : ErasureCode UInt8) (packetCompression : PacketCompression)
    (batch : Batch) : Collection → List Nat → Prop
  | _, [] => True
  | .finished, _ :: _ => True
  | .collecting seen, index :: rest =>
    (Completes batch seen index →
      OneType packetCompression (groupType batch index) (missing code batch seen index)) ∧
    CompletesOwnType code packetCompression batch
      ((Collection.collecting seen).step code batch index).1 rest

/-- What a packet releases has its type when the missing packets have. -/
theorem oneType_step_iff (mixed : IsMixed batch) (seen : List Nat) :
    OneType packetCompression (groupType batch index)
        ((Collection.collecting seen).step code batch index).2 ↔
      (Completes batch seen index →
        OneType packetCompression (groupType batch index) (missing code batch seen index)) := by
  have isDirect : ∀ content ∈ batch.direct index, typeOf content = .ok (groupType batch index) := by
    intro content member
    obtain ⟨packet, found, rfl⟩ := mem_direct member
    exact msgType_of_getElem? mixed found
  rcases step_cases code batch seen index with ⟨not, nothing | direct⟩ | ⟨completes, released⟩
  · rw [nothing]
    exact ⟨fun _ completes => absurd completes not, fun _ => trivial⟩
  · rw [direct]
    refine ⟨fun _ completes => absurd completes not, fun _ => ?_⟩
    exact (List.nil_append (batch.direct index)).symm ▸ (oneType_append isDirect).mpr trivial
  · rw [released, oneType_append isDirect]
    exact ⟨fun oneType _ => oneType, fun oneType => oneType completes⟩

/-- The packets of a group that arrive, each at its time and as it arrives. -/
structure Arrival where
  now : Instant
  index : Nat
  data : List UInt8

/-- The data that arrive, at their times. -/
def Arrival.timed (arrival : Arrival) : Instant × List UInt8 := (arrival.now, arrival.data)

theorem completesOwnType_finished (code : ErasureCode UInt8)
    (packetCompression : PacketCompression) (batch : Batch) (arrived : List Nat) :
    CompletesOwnType code packetCompression batch .finished arrived := by
  cases arrived <;> trivial

theorem allByOwnType_iff (handles : Handles code codec batch.src batch.dest inbound)
    (mixed : IsMixed batch) (mds : code.Mds batch.size batch.parity)
    (shows : FecDecoder.Shows code batch collection handler.fecDecoder) {arrivals : List Arrival}
    (arrive : ∀ arrival ∈ arrivals, arrival.index < batch.size + batch.parity ∧
      Arrives code codec handler.packetCrypto batch arrival.index arrival.data) :
    AllByOwnType code codec inbound handler (arrivals.map Arrival.timed) ↔
      CompletesOwnType code handler.packetCompression batch collection
        (arrivals.map Arrival.index) := by
  induction arrivals generalizing handler collection with
  | nil => exact ⟨fun _ => by cases collection <;> trivial, fun _ => trivial⟩
  | cons arrival rest inductionHypothesis =>
    obtain ⟨⟨inside, arrives⟩, others⟩ := List.forall_mem_cons.mp arrive
    obtain ⟨one, decoder, next, shown⟩ := byOwnType_iff handles mixed mds shows inside arrival.now
      arrives
    have later : AllByOwnType code codec inbound
        (inbound.handle handler arrival.now arrival.data).handler (rest.map Arrival.timed) ↔
          CompletesOwnType code handler.packetCompression batch
            (collection.step code batch arrival.index).1 (rest.map Arrival.index) := by
      rw [next]
      exact inductionHypothesis shown others
    rw [List.map_cons, List.map_cons]
    cases collection with
    | finished =>
      have stays : (Collection.finished.step code batch arrival.index) = (.finished, []) := rfl
      rw [stays] at one later
      exact ⟨fun _ => completesOwnType_finished _ _ _ _, fun _ =>
        ⟨one.mpr trivial, later.mpr (completesOwnType_finished _ _ _ _)⟩⟩
    | collecting seen =>
      exact and_congr (one.trans (oneType_step_iff mixed seen)) later

/-- The packets of a group are handled by their own types on both ways in exactly when, whenever
one of them completes the group, the missing packets that are reached have its type. -/
theorem ownTypes_iff (codec : FecCodec) (p2p : P2pNetwork) {net : NetworkAddr} {start : Instant}
    {arrivals : List Arrival} (mixed : IsMixed batch) (mds : code.Mds batch.size batch.parity)
    (fresh : handler.fecDecoder = .new start) (network : p2p.network = some net)
    (isOwn : net.ip = batch.dest) (different : batch.src ≠ batch.dest)
    (arrive : ∀ arrival ∈ arrivals, arrival.index < batch.size + batch.parity ∧
      Arrives code codec handler.packetCrypto batch arrival.index arrival.data) :
    (AllByOwnType code codec (serverInbound code codec) handler (arrivals.map Arrival.timed) ∧
        AllByOwnType code codec (p2pInbound code codec p2p) handler
          (arrivals.map Arrival.timed)) ↔
      CompletesOwnType code handler.packetCompression batch (.collecting [])
        (arrivals.map Arrival.index) := by
  have shows : FecDecoder.Shows code batch (.collecting []) handler.fecDecoder := by
    rw [fresh]
    exact FecDecoder.shows_new start
  have server := allByOwnType_iff (handles_server batch.src batch.dest) mixed mds shows arrive
  have direct := allByOwnType_iff (handles_p2p network isOwn different) mixed mds shows arrive
  rw [server, direct, and_self]

/-! ### A group of two types -/

def mixedHeader (typeByte : UInt8) : NetHeader :=
  ⟨typeByte, 0x55, 0, 0, 0, 0x0A1A0002, 0x0A1A0003⟩

/-- A `Quic` packet and then a turn packet of the same length. -/
def mixedBatch : Batch where
  src := 0x0A1A0002
  dest := 0x0A1A0003
  groupId := 0
  packets := [⟨[], mixedHeader 0x91, [1, 2], []⟩, ⟨[], mixedHeader 0x81, [3, 4], []⟩]
  nonempty := List.cons_ne_nil _ _
  fits := by
    rw [List.length_cons, List.length_singleton]
    decide
  belong := by
    intro packet member
    rcases List.mem_pair.mp member with rfl | rfl
    · exact ⟨rfl, rfl, by decide⟩
    · exact ⟨rfl, rfl, by decide⟩

theorem isMixed_mixedBatch : IsMixed mixedBatch := by
  intro packet member
  rcases List.mem_pair.mp member with rfl | rfl
  · exact ⟨⟨.quic, by decide, .inl rfl⟩, rfl⟩
  · exact ⟨⟨.turn, by decide, .inr rfl⟩, rfl⟩

theorem mds_mixedBatch : pairCode.Mds mixedBatch.size mixedBatch.parity := by
  have parity : parityShards 2 = 1 := by decide
  show pairCode.Mds 2 (parityShards 2)
  rw [parity]
  exact mds_pairCode

/-- A receiver without encryption and compression. -/
def mixedHandler : InboundHandler := ⟨⟨none⟩, ⟨none⟩, .new 20⟩

def mixedP2p : P2pNetwork := ⟨some ⟨0x0A1A0001, 0x0A1A00FF, 0x0A1A0003, 24⟩, ⟨∅⟩⟩

/-- The packet of a place as it was sent. -/
def mixedArrival (now : Instant) (index : Nat) : Arrival :=
  ⟨now, index, (mixedBatch.wire pairCode protobufCodec index).intoBytes⟩

theorem arrives_mixedArrival (now : Instant) (index : Nat) :
    Arrives pairCode protobufCodec mixedHandler.packetCrypto mixedBatch
      (mixedArrival now index).index
      (mixedArrival now index).data := by
  refine ⟨mixedBatch.wire pairCode protobufCodec index, 0, ?_, rfl⟩
  unfold encryptFor
  split <;> rfl

theorem inside_mixedBatch {index : Nat} (inside : index < 3) :
    index < mixedBatch.size + mixedBatch.parity := by
  have three : mixedBatch.size + mixedBatch.parity = 3 := by decide
  rwa [three]

/-- The turn packet is lost, and the parity packet brings it back. -/
theorem ownTypes_parity :
    AllByOwnType pairCode protobufCodec (serverInbound pairCode protobufCodec) mixedHandler
        ([mixedArrival 21 0, mixedArrival 22 2].map Arrival.timed) ∧
      AllByOwnType pairCode protobufCodec (p2pInbound pairCode protobufCodec mixedP2p) mixedHandler
        ([mixedArrival 21 0, mixedArrival 22 2].map Arrival.timed) := by
  have turn : missing pairCode mixedBatch [0] 2 = [⟨0x81, 0x10, [3, 4]⟩] := by decide +kernel
  refine (ownTypes_iff protobufCodec mixedP2p isMixed_mixedBatch mds_mixedBatch rfl rfl rfl
    (by decide) fun arrival member => ?_).mpr ⟨fun completes => ?_, fun _ => ?_, trivial⟩
  · rcases List.mem_pair.mp member with rfl | rfl
    · exact ⟨inside_mixedBatch (by decide), arrives_mixedArrival 21 0⟩
    · exact ⟨inside_mixedBatch (by decide), arrives_mixedArrival 22 2⟩
  · exact absurd completes.2.1 (by decide)
  · show OneType ⟨none⟩ (groupType mixedBatch 2) (missing pairCode mixedBatch [0] 2)
    rw [turn]
    exact ⟨by decide, fun _ => trivial⟩

/-- The `Quic` packet is lost: the parity packet brings it back, and it is handled as a turn
packet on both ways in. -/
theorem not_ownTypes_parity : ∃ (batch : Batch) (handler : InboundHandler) (p2p : P2pNetwork)
    (arrivals : List Arrival), IsMixed batch ∧ pairCode.Mds batch.size batch.parity ∧
      (∃ start, handler.fecDecoder = .new start) ∧
      (∀ arrival ∈ arrivals, arrival.index < batch.size + batch.parity ∧
        Arrives pairCode protobufCodec handler.packetCrypto batch arrival.index arrival.data) ∧
      ¬AllByOwnType pairCode protobufCodec (serverInbound pairCode protobufCodec) handler
        (arrivals.map Arrival.timed) ∧
      ¬AllByOwnType pairCode protobufCodec (p2pInbound pairCode protobufCodec p2p) handler
        (arrivals.map Arrival.timed) := by
  have arrive : ∀ arrival ∈ [mixedArrival 21 1, mixedArrival 22 2],
      arrival.index < mixedBatch.size + mixedBatch.parity ∧
        Arrives pairCode protobufCodec mixedHandler.packetCrypto mixedBatch arrival.index
          arrival.data := by
    intro arrival member
    rcases List.mem_pair.mp member with rfl | rfl
    · exact ⟨inside_mixedBatch (by decide), arrives_mixedArrival 21 1⟩
    · exact ⟨inside_mixedBatch (by decide), arrives_mixedArrival 22 2⟩
  have completes : Completes mixedBatch [1] 2 := by
    have fit : mixedBatch.LengthsFit [2, 1] := by decide +kernel
    exact ⟨by decide, by decide, by decide, by decide, fit⟩
  have quic : missing pairCode mixedBatch [1] 2 = [⟨0x91, 0xCB, [1, 2]⟩] := by decide +kernel
  have wrong : ¬CompletesOwnType pairCode mixedHandler.packetCompression mixedBatch
      (.collecting []) ([mixedArrival 21 1, mixedArrival 22 2].map Arrival.index) := by
    intro completesOwnType
    have oneType : OneType ⟨none⟩ (groupType mixedBatch 2) (missing pairCode mixedBatch [1] 2) :=
      completesOwnType.2.1 completes
    rw [quic] at oneType
    exact absurd oneType.1 (by decide)
  have shows : FecDecoder.Shows pairCode mixedBatch (.collecting []) mixedHandler.fecDecoder :=
    FecDecoder.shows_new 20
  refine ⟨mixedBatch, mixedHandler, mixedP2p, [mixedArrival 21 1, mixedArrival 22 2],
    isMixed_mixedBatch, mds_mixedBatch, ⟨20, rfl⟩, arrive, fun ownTypes => wrong ?_,
    fun ownTypes => wrong ?_⟩
  · exact (allByOwnType_iff (handles_server _ _) isMixed_mixedBatch mds_mixedBatch shows arrive).mp
      ownTypes
  · exact (allByOwnType_iff (handles_p2p rfl rfl (by decide)) isMixed_mixedBatch mds_mixedBatch
      shows arrive).mp ownTypes

end Vnt.Tunnel
