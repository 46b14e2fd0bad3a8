/-
This file settles who honours the flag of a compressed packet. A receiver that compresses itself
looks at the flag of what it receives, and either undoes the compression or rejects the packet. A
receiver that does not compress takes every packet as it is, flag or not, and goes on with bytes
that are still compressed. This is the same on all the ways a packet can come.
-/

import Vnt.Compression.Lz4Literals
import Vnt.Tunnel.ServerInbound

namespace Vnt.Tunnel

open Vnt.Base Vnt.Client Vnt.Fec

/-! ### What is gone on with -/

/-- Decompress packets, up to the first that fails. -/
def openAll (packetCompression : PacketCompression) : List NetPacket → List NetPacket
  | [] => []
  | packet :: rest =>
    match packetCompression.decompress packet with
    | .error _ => []
    | .ok opened => opened :: openAll packetCompression rest

/-- The flag was honoured: what is handed on of a flagged packet is its decompressed payload, and
is not flagged. -/
def Honours (lz4 : Lz4) (reached handed : List NetPacket) : Prop :=
  handed.length ≤ reached.length ∧
    ∀ pair ∈ reached.zip handed, pair.1.isCompressed = true →
      lz4.decompressSizePrepended pair.1.payload = .ok pair.2.payload ∧
        pair.2.isCompressed = false

theorem delivered_deliverAll (packetCompression : PacketCompression)
    (deliver : NetPacket → Delivery) (packets : List NetPacket) :
    (InboundHandler.deliverAll packetCompression deliver packets).1 =
      (openAll packetCompression packets).map deliver := by
  induction packets with
  | nil => rfl
  | cons packet rest inductionHypothesis =>
    unfold InboundHandler.deliverAll openAll
    cases packetCompression.decompress packet with
    | error message => rfl
    | ok opened =>
      dsimp only
      rw [List.map_cons, inductionHypothesis]

theorem length_openAll_le (packetCompression : PacketCompression) (packets : List NetPacket) :
    (openAll packetCompression packets).length ≤ packets.length := by
  induction packets with
  | nil => exact Nat.le_refl _
  | cons packet rest inductionHypothesis =>
    unfold openAll
    cases packetCompression.decompress packet with
    | error message => exact Nat.zero_le _
    | ok opened => exact Nat.succ_le_succ inductionHypothesis

theorem isCompressed_setCompressedFlag_false (packet : NetPacket) :
    (packet.setCompressedFlag false).isCompressed = false := by
  have cleared : packet.header.flagsByte &&& ~~~compressedMask &&& compressedMask = 0 := by
    rw [UInt8.and_assoc, UInt8.not_and_self, UInt8.and_zero]
  exact bne_eq_false_iff_eq.mpr cleared

/-- A receiver that compresses gives out the decompressed payload of a flagged packet. -/
theorem decompress_flagged {lz4 : Lz4} {packet opened : NetPacket}
    (decompressed : (LZ4Compression.new lz4).decompress packet = .ok opened)
    (flagged : packet.isCompressed = true) :
    lz4.decompressSizePrepended packet.payload = .ok opened.payload ∧
      opened.isCompressed = false := by
  unfold LZ4Compression.decompress LZ4Compression.new at decompressed
  rw [if_neg (by rw [flagged]; exact Bool.noConfusion)] at decompressed
  dsimp only at decompressed
  split at decompressed
  · cases decompressed
  · next payload isPayload =>
    rw [NetPacket.new_zeroed] at decompressed
    dsimp only [bind, Except.bind] at decompressed
    rw [NetPacket.setPayload_blank] at decompressed
    cases decompressed
    exact ⟨isPayload, isCompressed_setCompressedFlag_false _⟩

/-- Without compression everything is gone on with as it is. -/
theorem openAll_off (lz4 : Lz4) (packets : List NetPacket) :
    openAll (.new lz4 false) packets = packets := by
  induction packets with
  | nil => rfl
  | cons packet rest inductionHypothesis => exact congrArg (packet :: ·) inductionHypothesis

theorem honours_openAll_on (lz4 : Lz4) (packets : List NetPacket) :
    Honours lz4 packets (openAll (.new lz4 true) packets) := by
  refine ⟨length_openAll_le _ packets, ?_⟩
  induction packets with
  | nil => exact fun _ member => (List.not_mem_nil member).elim
  | cons packet rest inductionHypothesis =>
    unfold openAll
    cases decompressed : (PacketCompression.new lz4 true).decompress packet with
    | error message => exact fun _ member => (List.not_mem_nil member).elim
    | ok opened =>
      intro pair member flagged
      rcases List.mem_cons.mp member with rfl | later
      · exact decompress_flagged decompressed flagged
      · exact inductionHypothesis pair later flagged

/-- The flag is honoured on a way exactly if the receiver compresses, or no flagged packet comes. -/
theorem honours_openAll_iff (lz4 : Lz4) (enabled : Bool) (packets : List NetPacket) :
    Honours lz4 packets (openAll (.new lz4 enabled) packets) ↔
      enabled = true ∨ ∀ packet ∈ packets, packet.isCompressed = false := by
  cases enabled with
  | true => exact iff_of_true (honours_openAll_on lz4 packets) (.inl rfl)
  | false =>
    rw [openAll_off, or_iff_right Bool.false_ne_true]
    have zipped : packets.zip packets = packets.map fun packet => (packet, packet) := by
      rw [List.zip_eq_zipWith, List.zipWith_self]
    constructor
    · rintro ⟨-, honoured⟩ packet member
      rw [zipped] at honoured
      refine Bool.eq_false_iff.mpr fun flagged => ?_
      have cleared := (honoured _ (List.mem_map_of_mem member) flagged).2
      exact Bool.noConfusion (flagged.symm.trans cleared)
    · intro plain
      refine ⟨Nat.le_refl _, fun pair member flagged => ?_⟩
      rw [zipped] at member
      obtain ⟨packet, inPackets, rfl⟩ := List.mem_map.mp member
      exact Bool.noConfusion (flagged.symm.trans (plain packet inPackets))

/-! ### The ways a packet can come -/

/-- The types whose payload `handle_server_data` reads. -/
def serverReads : MsgType → Bool
  | .turn | .ping | .pongTurn | .pushClientIps | .rpcRes => true
  | _ => false

/-- The types whose payload is read of what comes from a client over a server, as an IP packet or as
a control message. Data of `Quic` are neither, they are not compressed. -/
def clientReads : MsgType → Bool
  | .turn | .broadcast | .punchStart1 | .punchStart2 => true
  | _ => false

/-- The types whose payload is read of what comes from a client directly. -/
def p2pReads : MsgType → Bool
  | .turn | .broadcast | .excludeBroadcast | .ping | .pong => true
  | _ => false

/-- The packet of a server that reaches the decompression and is read. -/
def reachedServer (data : List UInt8) : List NetPacket :=
  match NetPacket.new (.ofBytes data) with
  | .error _ => []
  | .ok packet =>
    match packet.msgType with
    | .error _ => []
    | .ok msgType => if serverReads msgType = true then [packet] else []

/-- The packets of another client that reach the decompression and are read: what came out of the
cipher, or out of the decoder after it. -/
def reachedOpened (code : ErasureCode UInt8) (codec : FecCodec) (reads : MsgType → Bool)
    (handler : InboundHandler) (now : Instant) (packet : NetPacket) (msgType : MsgType) :
    List NetPacket :=
  if reads msgType = false then []
  else
    match handler.packetCrypto.decryptInPlace packet with
    | .error _ => []
    | .ok packet =>
      if packet.isFec = true then
        match (handler.fecDecoder.receive code codec now packet).2 with
        | .error _ => []
        | .ok packets => packets.getD []
      else [packet]

/-- The packets that came over a server. -/
def reachedClient (code : ErasureCode UInt8) (codec : FecCodec) (handler : InboundHandler)
    (now : Instant) (data : List UInt8) : List NetPacket :=
  match NetPacket.new (.ofBytes data) with
  | .error _ => []
  | .ok packet =>
    match packet.msgType with
    | .error _ => []
    | .ok msgType => reachedOpened code codec clientReads handler now packet msgType

/-- The packets that came directly, and are for the client itself. -/
def reachedP2p (code : ErasureCode UInt8) (codec : FecCodec) (p2p : P2pNetwork)
    (handler : InboundHandler) (now : Instant) (buf : List UInt8) : List NetPacket :=
  match NetPacket.new (.ofBytes buf) with
  | .error _ => []
  | .ok packet =>
    match packet.msgType with
    | .error _ => []
    | .ok msgType =>
      if packet.header.srcId = packet.header.destId then []
      else
        let packet := packet.decrTtl
        if packet.header.maxTtl ≤ packet.header.currTtl then []
        else
          match p2p.network with
          | none => []
          | some net =>
            let dest := packet.header.destId
            if net.ip ≠ dest ∧ dest ≠ Ipv4Addr.broadcast ∧ dest ≠ 0 ∧ dest ≠ net.broadcast then []
            else reachedOpened code codec p2pReads handler now packet msgType

/-- What `handle_server_data` goes on with, and its type. -/
def openServerData (packetCompression : PacketCompression) (data : List UInt8) :
    Except String (MsgType × NetPacket) :=
  match NetPacket.new (.ofBytes data) with
  | .error message => .error message
  | .ok packet =>
    match packet.msgType with
    | .error message => .error message
    | .ok msgType => (packetCompression.decompress packet).map fun opened => (msgType, opened)

/-- The packet of a server whose payload is read. -/
def openedServer (packetCompression : PacketCompression) (data : List UInt8) : List NetPacket :=
  match openServerData packetCompression data with
  | .error _ => []
  | .ok (msgType, packet) => if serverReads msgType = true then [packet] else []

/-- The packets whose payload is read. -/
def openedOf (reads : MsgType → Bool) (deliveries : List Delivery) : List NetPacket :=
  (deliveries.filter fun delivery => reads delivery.msgType).map Delivery.packet

/-! ### What is read of each way -/

theorem handleServerData_eq (messages : InboundMessages) (client : InboundClient)
    (serverId : UInt32) (net : NetworkAddr) (now : Int) (data : List UInt8) :
    client.handleServerData messages serverId net now data =
      match openServerData client.p2p.handler.packetCompression data with
      | .error message => client.ended (.error (.error message))
      | .ok (msgType, packet) =>
        client.processServerData messages serverId net now msgType packet := by
  unfold InboundClient.handleServerData openServerData
  cases NetPacket.new (.ofBytes data) with
  | error message => rfl
  | ok packet =>
    dsimp only
    cases packet.msgType with
    | error message => rfl
    | ok msgType =>
      dsimp only
      cases client.p2p.handler.packetCompression.decompress packet <;> rfl

/-- What is not read makes no difference. -/
theorem processServerData_of_unread (messages : InboundMessages) (client : InboundClient)
    (serverId : UInt32) (net : NetworkAddr) (now : Int) {msgType : MsgType}
    (unread : serverReads msgType = false) (packet other : NetPacket) :
    client.processServerData messages serverId net now msgType packet =
      client.processServerData messages serverId net now msgType other := by
  cases msgType <;> first | rfl | cases unread

theorem process_of_unread (messages : InboundMessages) (client : InboundClient)
    (net : NetworkAddr) (now : Int) {delivery : Delivery}
    (unread : clientReads delivery.msgType = false) (opened : delivery.msgType ≠ .quic)
    (other : NetPacket) :
    client.process messages net now delivery =
      client.process messages net now { delivery with packet := other } := by
  obtain ⟨msgType, src, dest, packet⟩ := delivery
  cases msgType <;> first | rfl | exact absurd rfl opened | cases unread

theorem p2pProcess_of_unread (client : P2pClient) (clock : Clock) (net : NetworkAddr)
    (key : RouteKey) (metric : UInt8) {delivery : Delivery}
    (unread : p2pReads delivery.msgType = false) (opened : delivery.msgType ≠ .quic)
    (other : NetPacket) :
    client.process clock net key metric delivery =
      client.process clock net key metric { delivery with packet := other } := by
  obtain ⟨msgType, src, dest, packet⟩ := delivery
  cases msgType <;> first | rfl | exact absurd rfl opened | cases unread

theorem opened_server (packetCompression : PacketCompression) (data : List UInt8) :
    openedServer packetCompression data = openAll packetCompression (reachedServer data) := by
  unfold openedServer openServerData reachedServer
  cases NetPacket.new (.ofBytes data) with
  | error message => rfl
  | ok packet =>
    dsimp only
    cases packet.msgType with
    | error message => rfl
    | ok msgType =>
      dsimp only
      by_cases isRead : serverReads msgType = true
      · rw [if_pos isRead]
        unfold openAll
        cases packetCompression.decompress packet with
        | error message => rfl
        | ok opened => exact if_pos isRead
      · rw [if_neg isRead]
        cases packetCompression.decompress packet with
        | error message => rfl
        | ok opened => exact if_neg isRead

theorem openedOf_map {reads : MsgType → Bool} {msgType : MsgType} (isRead : reads msgType = true)
    (src dest : Ipv4Addr) (packets : List NetPacket) :
    openedOf reads (packets.map (Delivery.mk msgType src dest)) = packets := by
  unfold openedOf
  rw [List.filter_eq_self.mpr, List.map_map]
  · exact List.map_id packets
  · intro delivery member
    obtain ⟨packet, -, rfl⟩ := List.mem_map.mp member
    exact isRead

theorem openedOf_eq_nil {reads : MsgType → Bool} {deliveries : List Delivery}
    (unread : ∀ delivery ∈ deliveries, reads delivery.msgType = false) :
    openedOf reads deliveries = [] := by
  unfold openedOf
  rw [List.filter_eq_nil_iff.mpr, List.map_nil]
  intro delivery member isRead
  exact Bool.noConfusion (isRead.symm.trans (unread delivery member))

/-- What the decoder gives out is decompressed and delivered. -/
theorem delivered_handleDecoded (handler : InboundHandler) (packetCompression : PacketCompression)
    (deliver : NetPacket → Delivery)
    (received : FecDecoder × Except String (Option (List NetPacket))) :
    (handler.handleDecoded packetCompression deliver received).delivered =
      (openAll packetCompression
        (match received.2 with
          | .error _ => []
          | .ok packets => packets.getD [])).map deliver := by
  unfold InboundHandler.handleDecoded
  cases received.2 with
  | error message => rfl
  | ok packets => exact delivered_deliverAll packetCompression deliver _

theorem opened_nextHandleOwn (code : ErasureCode UInt8) (codec : FecCodec)
    {reads : MsgType → Bool} (quic : reads .quic = false) (handler : InboundHandler)
    (now : Instant) (packet : NetPacket) (msgType : MsgType) :
    openedOf reads (handler.nextHandleOwn code codec now packet msgType).delivered =
      openAll handler.packetCompression
        (reachedOpened code codec reads handler now packet msgType) := by
  unfold reachedOpened
  cases isRead : reads msgType with
  | false =>
    rw [if_pos rfl]
    refine openedOf_eq_nil fun delivery member => ?_
    rw [(mem_delivered_nextHandleOwn member).1]
    exact isRead
  | true =>
    have opened : msgType ≠ .quic := fun same => by
      rw [same, quic] at isRead
      cases isRead
    rw [if_neg (Bool.noConfusion : ¬true = false)]
    unfold InboundHandler.nextHandleOwn
    dsimp only
    rw [if_neg opened]
    cases handler.packetCrypto.decryptInPlace packet with
    | error message => rfl
    | ok decrypted =>
      dsimp only
      split
      · rw [delivered_handleDecoded, openedOf_map isRead]
      · rw [delivered_deliverAll, openedOf_map isRead]

theorem opened_client (code : ErasureCode UInt8) (codec : FecCodec) (handler : InboundHandler)
    (now : Instant) (data : List UInt8) :
    openedOf clientReads (handler.handleClientData code codec now data).delivered =
      openAll handler.packetCompression (reachedClient code codec handler now data) := by
  unfold InboundHandler.handleClientData reachedClient
  cases NetPacket.new (.ofBytes data) with
  | error message => rfl
  | ok packet =>
    dsimp only
    cases packet.msgType with
    | error message => rfl
    | ok msgType =>
      dsimp only
      rw [← opened_nextHandleOwn code codec rfl]
      unfold InboundHandler.nextHandleOwn
      dsimp only
      by_cases isQuic : msgType = .quic
      · rw [if_pos isQuic, if_pos isQuic]
      · rw [if_neg isQuic, if_neg isQuic]
        cases handler.packetCrypto.decryptInPlace packet <;> rfl

theorem opened_p2p (code : ErasureCode UInt8) (codec : FecCodec) (p2p : P2pNetwork)
    (handler : InboundHandler) (now : Instant) (buf : List UInt8) :
    openedOf p2pReads (handler.nextHandle code codec p2p now buf).handled.delivered =
      openAll handler.packetCompression (reachedP2p code codec p2p handler now buf) := by
  unfold InboundHandler.nextHandle reachedP2p
  cases NetPacket.new (.ofBytes buf) with
  | error message => rfl
  | ok packet =>
    dsimp only
    cases packet.msgType with
    | error message => rfl
    | ok msgType =>
      dsimp only
      split
      · rfl
      · split
        · rfl
        · cases p2p.network with
          | none => rfl
          | some net =>
            dsimp only
            split
            · rfl
            · exact opened_nextHandleOwn code codec rfl handler now packet.decrTtl msgType

/-! ### The flag on each way -/

/-- The client with compression on or off. -/
def InboundHandler.configure (handler : InboundHandler) (lz4 : Lz4) (enabled : Bool) :
    InboundHandler :=
  { handler with packetCompression := .new lz4 enabled }

/-- On each way a packet can come the flag is honoured exactly if the receiver compresses, or
nothing that reaches the decompression and is read has the flag. -/
theorem flag_honoured_iff (lz4 : Lz4) (enabled : Bool) (code : ErasureCode UInt8) (codec : FecCodec)
    (p2p : P2pNetwork) (handler : InboundHandler) (now : Instant) (data : List UInt8) :
    (Honours lz4 (reachedServer data)
        (openedServer (handler.configure lz4 enabled).packetCompression data) ↔
      enabled = true ∨ ∀ packet ∈ reachedServer data, packet.isCompressed = false) ∧
    (Honours lz4 (reachedClient code codec (handler.configure lz4 enabled) now data)
        (openedOf clientReads
          ((handler.configure lz4 enabled).handleClientData code codec now data).delivered) ↔
      enabled = true ∨ ∀ packet ∈ reachedClient code codec (handler.configure lz4 enabled) now data,
        packet.isCompressed = false) ∧
    (Honours lz4 (reachedP2p code codec p2p (handler.configure lz4 enabled) now data)
        (openedOf p2pReads
          ((handler.configure lz4 enabled).nextHandle code codec p2p now data).handled.delivered) ↔
      enabled = true ∨
        ∀ packet ∈ reachedP2p code codec p2p (handler.configure lz4 enabled) now data,
          packet.isCompressed = false) := by
  rw [opened_server, opened_client, opened_p2p]
  exact ⟨honours_openAll_iff lz4 enabled _, honours_openAll_iff lz4 enabled _,
    honours_openAll_iff lz4 enabled _⟩

/-- A list of clients from a server, whose payload is compressed and flagged. -/
def flaggedPacket : NetPacket where
  headRoom := []
  header := ⟨13, 0, 0x80, 0, 0, 0, 0⟩
  payload := Lz4Literals.compressPrependSize [8, 1]
  tailRoom := []

/-- A receiver that does not compress reads the compressed bytes as the list. -/
theorem flaggedPacket_read_compressed :
    ¬∀ (lz4 : Lz4) (enabled : Bool) (data : List UInt8),
      Honours lz4 (reachedServer data) (openedServer (.new lz4 enabled) data) := by
  intro always
  have honoured := (always Lz4Literals.lz4 false flaggedPacket.intoBytes).2
  have plain := (honoured (flaggedPacket, flaggedPacket) (by decide) rfl).2
  exact absurd plain (by decide)

end Vnt.Tunnel
