/-
This file follows a broadcast from the client that sends it to the senders that the server puts
it into. The server leaves out the address that the outer header names as the source. A plain
broadcast has the client's address there, but the client builds the packet around a selective
broadcast without a source, so the server leaves out nobody: the client is among the receivers
whenever the selection does not rule it out. The condition is exact for every selection and
every table of senders.
-/

import Vnt.Server.Unicast
import Vnt.Tunnel.Broadcast

namespace Vnt.Server

open Vnt.Base

/-- A broadcast list holds the senders of the selected addresses, the source apart. -/
theorem NetworkState.mem_broadcastList {state : NetworkState} {src : Ipv4Addr}
    {selects : Ipv4Addr → Bool} {sender : Sender} :
    sender ∈ state.broadcastList src selects ↔
      ∃ ip, state.senderMap.lookup ip = some sender ∧ selects ip = true ∧ ip ≠ src := by
  unfold NetworkState.broadcastList
  rw [List.mem_map]
  constructor
  · rintro ⟨⟨ip, found⟩, member, rfl⟩
    obtain ⟨bound, kept⟩ := List.mem_filter.mp member
    obtain ⟨selected, different⟩ := Bool.and_eq_true_iff.mp kept
    exact ⟨ip, (Map.mem_entries_iff _ _ _).mp bound, selected, of_decide_eq_true different⟩
  · rintro ⟨ip, found, selected, different⟩
    refine ⟨⟨ip, sender⟩, List.mem_filter.mpr ⟨(Map.mem_entries_iff _ _ _).mpr found, ?_⟩, rfl⟩
    exact Bool.and_eq_true_iff.mpr ⟨selected, decide_eq_true different⟩

/-- A broadcast, with the traffic that is recorded before it, reaches the senders of its list. -/
theorem exists_trySend_broadcast {sender : Sender} {senders : List Sender} {data : List UInt8}
    {src : Ipv4Addr} {bytes : Nat} :
    (∃ put, HandlerAction.trySend sender put ∈
      .recordTx src bytes :: ControlHandler.broadcast senders data) ↔ sender ∈ senders := by
  unfold ControlHandler.broadcast
  constructor
  · rintro ⟨put, member⟩
    rcases List.mem_cons.mp member with same | member
    · cases same
    · obtain ⟨found, inSenders, same⟩ := List.mem_map.mp member
      cases same
      exact inSenders
  · intro inSenders
    exact ⟨data, List.mem_cons_of_mem _ (List.mem_map.mpr ⟨sender, inSenders, rfl⟩)⟩

end Vnt.Server

namespace Vnt.Tunnel

open Vnt.Base Vnt.Client Vnt.Server

namespace BroadcastForm

/-- The address that the outer header of a broadcast names as its source. -/
def source (form : BroadcastForm) (net : NetworkAddr) : Ipv4Addr :=
  match form with
  | direct => net.ip
  | exclude _ | target _ => 0

/-- The clients that a broadcast is meant for. -/
def selects : BroadcastForm → Ipv4Addr → Bool
  | direct, _ => true
  | exclude ips, ip => !decide (ip ∈ ips)
  | target ips, ip => decide (ip ∈ ips)

/-- The addresses that are listed in the message. -/
def listed : BroadcastForm → List Ipv4Addr
  | direct => []
  | exclude ips | target ips => ips

/-- The lists are not longer than a vector of the source can be. -/
def Fits (form : BroadcastForm) (packet : List UInt8) : Prop :=
  form.listed.length < 2 ^ 62 ∧ packet.length < 2 ^ 64

end BroadcastForm

/-! ### The packet of the client -/

/-- The header of a broadcast of a client, compressed or not. -/
structure IsBroadcastHeader (net : NetworkAddr) (header : NetHeader) : Prop where
  typeByte : header.typeByte = (MsgType.broadcast.toByte &&& 0x7F) ||| 0x80
  ttlByte : header.ttlByte = 0x55
  notGateway : header.flagsByte &&& gatewayMask = 0
  srcId : header.srcId = net.ip

variable (outbound : HybridOutbound) (basic : BasicOutbound) (net : NetworkAddr)
  (codec : HandlerCodec) (now : UInt64) (front data tailRoom : List UInt8) {sent : SentBroadcast}

/-- The packet that a client broadcasts has the client's address as its source. -/
theorem exists_packet (outcome : outbound.ipv4BroadcastOutbound basic net
    ⟨front ++ List.replicate headLength 0, data, tailRoom⟩ = .ok sent) :
    ∃ packet : NetPacket, sent.packet = packet.intoBytes ∧ IsBroadcastHeader net packet.header := by
  unfold HybridOutbound.ipv4BroadcastOutbound HybridOutbound.broadcastPrepared at outcome
  rw [address_eq] at outcome
  dsimp only [bind, Except.bind] at outcome
  split at outcome
  · cases outcome
  · next compressed compresses =>
    split at outcome
    · cases outcome
    · next encrypted encrypts =>
      cases outcome
      refine ⟨encrypted, ?_, ?_⟩
      · unfold BasicOutbound.broadcast
        dsimp only
        split <;> rfl
      · rw [PacketCrypto.header_encryptInPlace encrypts]
        have plainFlags : (0 : UInt8) &&& gatewayMask = 0 := by decide
        have compressedFlags : (0 ||| compressedMask) &&& gatewayMask = 0 := by decide
        rcases PacketCompression.header_compress compresses with same | same
        · rw [same]
          exact ⟨rfl, rfl, plainFlags, rfl⟩
        · rw [same]
          exact ⟨rfl, rfl, compressedFlags, rfl⟩

/-- The packet around a selective broadcast has no source. -/
theorem selectiveMessage_eq (msgType : MsgType) (ips : List Ipv4Addr) (buf : List UInt8) :
    selectiveMessage msgType ips buf = .ok
      ⟨[], ⟨(msgType.toByte &&& 0x7F) ||| 0x80, 0x55, 0, 0, 0, 0, 0⟩,
        (SelectiveBroadcast.mk ips buf).encode, []⟩ := by
  unfold selectiveMessage
  dsimp only [bind, Except.bind]
  rw [NetPacket.new_zeroed]
  rfl

/-! ### The server -/

variable {handler : ControlHandler} {session : Session}

/-- What a confirmed session does with a packet that is not for the gateway. -/
theorem handleData_of_confirmed {packet : NetPacket} {msgType : MsgType}
    (active : handler.session = some session)
    (confirmed : session.registrationStatus = .confirmed)
    (typeByte : packet.header.typeByte = (msgType.toByte &&& 0x7F) ||| 0x80)
    (notGateway : packet.header.flagsByte &&& gatewayMask = 0) :
    (handler.handleData codec now packet.intoBytes).actions =
      .recordTx packet.header.srcId packet.intoBytes.length ::
        (handler.handleType session ⟨[], packet.header, packet.payload, []⟩ msgType).actions := by
  have isType : (NetPacket.mk [] packet.header packet.payload []).msgType = .ok msgType :=
    NetPacket.msgType_of_typeByte typeByte
  have plain : (NetPacket.mk [] packet.header packet.payload []).isGateway = false := by
    unfold NetPacket.isGateway
    rw [notGateway]
    rfl
  unfold ControlHandler.handleData
  rw [active]
  dsimp only
  rw [confirmed]
  dsimp only
  rw [packet.new_ofBytes_intoBytes]
  dsimp only
  rw [isType]
  dsimp only
  rw [plain, if_neg Bool.false_ne_true]

/-- A packet with the full time to live is passed on. -/
theorem exists_decrTtl (packet : NetPacket) (ttlByte : packet.header.ttlByte = 0x55) :
    ∃ passed, decrTtl packet = some passed ∧ passed.header.srcId = packet.header.srcId := by
  have lives : ¬packet.header.currTtl ≤ 1 := by
    unfold NetHeader.currTtl
    rw [ttlByte]
    decide
  unfold decrTtl
  rw [if_neg lives]
  exact ⟨_, rfl, rfl⟩

/-- A selective broadcast of a client goes to all the clients that are picked, as the packet
around it names nobody. -/
theorem exists_trySend_selective {ips : List Ipv4Addr} {inner : NetPacket} {sender : Sender}
    (msgType : MsgType) (pick : List Ipv4Addr → Ipv4Addr → Bool)
    (active : handler.session = some session)
    (confirmed : session.registrationStatus = .confirmed)
    (isSelective : ∀ packet, handler.handleType session packet msgType =
      handler.handleSelective packet pick)
    (ttlByte : inner.header.ttlByte = 0x55) (listed : ips.length < 2 ^ 62)
    (short : inner.intoBytes.length < 2 ^ 64) :
    (∃ put, HandlerAction.trySend sender put ∈ (handler.handleData codec now (NetPacket.intoBytes
        ⟨[], ⟨(msgType.toByte &&& 0x7F) ||| 0x80, 0x55, 0, 0, 0, 0, 0⟩,
          (SelectiveBroadcast.mk ips inner.intoBytes).encode, []⟩)).actions) ↔
      ∃ ip, handler.networkState.senderMap.lookup ip = some sender ∧ pick ips ip = true ∧
        ip ≠ 0 := by
  obtain ⟨passed, decremented, -⟩ :=
    exists_decrTtl ⟨[], inner.header, inner.payload, []⟩ ttlByte
  have decoded : SelectiveBroadcast.fromSlice (SelectiveBroadcast.mk ips inner.intoBytes).encode =
      .ok ⟨ips, inner.intoBytes⟩ := SelectiveBroadcast.fromSlice_encode listed short
  have notGateway : (0 : UInt8) &&& gatewayMask = 0 := by decide
  rw [handleData_of_confirmed codec now active confirmed rfl notGateway, isSelective]
  unfold ControlHandler.handleSelective
  dsimp only
  rw [decoded]
  dsimp only
  rw [inner.new_ofBytes_intoBytes]
  dsimp only
  rw [decremented]
  dsimp only [HandlerResult.done]
  rw [exists_trySend_broadcast, NetworkState.mem_broadcastList]

/-- The server passes a broadcast of a client on to the clients that it is meant for, apart from
the one that the outer header names. -/
theorem exists_trySend_iff (sender : Sender) (form : BroadcastForm) {packet wire : List UInt8}
    (active : handler.session = some session)
    (confirmed : session.registrationStatus = .confirmed)
    (isPacket : ∃ inner : NetPacket, packet = inner.intoBytes ∧ IsBroadcastHeader net inner.header)
    (fits : form.Fits packet) (isWire : form.wire packet = .ok wire) :
    (∃ put, HandlerAction.trySend sender put ∈ (handler.handleData codec now wire).actions) ↔
      ∃ ip, handler.networkState.senderMap.lookup ip = some sender ∧ form.selects ip = true ∧
        ip ≠ form.source net := by
  obtain ⟨inner, rfl, header⟩ := isPacket
  cases form with
  | direct =>
    cases isWire
    obtain ⟨passed, decremented, source⟩ :=
      exists_decrTtl ⟨[], inner.header, inner.payload, []⟩ header.ttlByte
    rw [handleData_of_confirmed codec now active confirmed header.typeByte header.notGateway]
    unfold ControlHandler.handleType
    dsimp only
    rw [decremented]
    dsimp only [HandlerResult.done]
    rw [exists_trySend_broadcast, NetworkState.mem_broadcastList, source, header.srcId]
    rfl
  | exclude ips =>
    rw [BroadcastForm.wire, selectiveMessage_eq] at isWire
    cases isWire
    exact exists_trySend_selective codec now .excludeBroadcast
      (fun ips ip => !decide (ip ∈ ips)) active
      confirmed (fun _ => rfl) header.ttlByte fits.1 fits.2
  | target ips =>
    rw [BroadcastForm.wire, selectiveMessage_eq] at isWire
    cases isWire
    exact exists_trySend_selective codec now .targetBroadcast
      (fun ips ip => decide (ip ∈ ips)) active
      confirmed (fun _ => rfl) header.ttlByte fits.1 fits.2

/-! ### The echo -/

/-- The server does not put the message into the sender of the session it came from. -/
def NoEcho (codec : HandlerCodec) (handler : ControlHandler) (session : Session) (now : UInt64)
    (wire : List UInt8) : Prop :=
  ∀ put, HandlerAction.trySend session.sender put ∉ (handler.handleData codec now wire).actions

/-- A broadcast comes back to the client exactly when the client's sender stands in the table
under an address that the form selects and that is not the one the outer header names: the
client's own for a plain broadcast, and the zero address for a selective one. -/
theorem noEcho_iff (form : BroadcastForm) {wire : List UInt8}
    (active : handler.session = some session)
    (confirmed : session.registrationStatus = .confirmed)
    (outcome : outbound.ipv4BroadcastOutbound basic net
      ⟨front ++ List.replicate headLength 0, data, tailRoom⟩ = .ok sent)
    (fits : form.Fits sent.packet) (isWire : form.wire sent.packet = .ok wire) :
    NoEcho codec handler session now wire ↔
      ∀ ip, handler.networkState.senderMap.lookup ip = some session.sender →
        form.selects ip = true → ip = form.source net := by
  have received := exists_trySend_iff net codec now session.sender form active confirmed
    (exists_packet outbound basic net front data tailRoom outcome) fits isWire
  unfold NoEcho
  rw [← not_exists, received]
  constructor
  · intro nobody ip found selected
    exact not_not.mp fun different => nobody ⟨ip, found, selected, different⟩
  · rintro covered ⟨ip, found, selected, different⟩
    exact different (covered ip found selected)

/-- The address of the client at 10.26.0.2. -/
def exampleNet : NetworkAddr := ⟨0x0A1A0001, 0x0A1A00FF, 0x0A1A0002, 24⟩

/-- The senders of the client at 10.26.0.2 when a server lists two other clients, of which one has
a direct route. -/
def directOutbound : BasicOutbound :=
  { listedOutbound [(0, [0x0A1A0003, 0x0A1A0004])] with
    p2pOutbound := some ⟨fun _ => true, ⟨(∅ : Map Ipv4Addr (List Route)).insert 0x0A1A0003
      [⟨0, 1, 5⟩]⟩⟩ }

/-- A packet to the broadcast address of the network. -/
def exampleDatagram : List UInt8 :=
  [0x45, 0, 0, 20, 0, 0, 0, 0, 64, 17, 0, 0, 10, 26, 0, 2, 10, 26, 0, 255]

/-- Without direct routes the client sends a plain broadcast, and it does not come back. -/
theorem noEcho_direct : ∃ first second session other saved otherSaved sent wire,
    NetworkState.exampleState.register (NetworkState.exampleRequest "a" none false) 1 10 0 0 =
      .ok (first, session, saved) ∧
    first.register (NetworkState.exampleRequest "b" none false) 2 20 1 1 =
      .ok (second, other, otherSaved) ∧
    plainOutbound.ipv4BroadcastOutbound (listedOutbound [(0, [0x0A1A0003])]) exampleNet
      ⟨[] ++ List.replicate headLength 0, exampleDatagram, []⟩ = .ok sent ∧
    ⟨0, .direct⟩ ∈ sent.messages ∧ BroadcastForm.direct.wire sent.packet = .ok wire ∧
    NoEcho ControlHandler.exampleCodec (ControlHandler.listedHandler second session) session 0
      wire := by
  refine ⟨_, _, _, _, _, _, _, _, rfl, rfl, rfl, by decide +kernel, rfl, ?_⟩
  refine (noEcho_iff plainOutbound (listedOutbound [(0, [0x0A1A0003])]) exampleNet
    ControlHandler.exampleCodec 0 [] exampleDatagram [] .direct rfl rfl rfl
    ⟨by decide, by decide +kernel⟩ rfl).mpr ?_
  intro ip found _
  have member := (Map.mem_entries_iff _ _ _).mpr found
  rcases List.mem_cons.mp member with same | rest
  · cases same
  · rcases List.mem_cons.mp rest with same | rest
    · cases same
      rfl
    · cases rest

/-- The client sends the copy over the direct route and an exclude broadcast for the others, and
gets its own packet back. -/
theorem not_noEcho_exclude : ∃ first second session other saved otherSaved sent wire,
    NetworkState.exampleState.register (NetworkState.exampleRequest "a" none false) 1 10 0 0 =
      .ok (first, session, saved) ∧
    first.register (NetworkState.exampleRequest "b" none false) 2 20 1 1 =
      .ok (second, other, otherSaved) ∧
    plainOutbound.ipv4BroadcastOutbound directOutbound exampleNet
      ⟨[] ++ List.replicate headLength 0, exampleDatagram, []⟩ = .ok sent ∧
    ⟨0, .exclude [0x0A1A0003]⟩ ∈ sent.messages ∧
    (BroadcastForm.exclude [0x0A1A0003]).wire sent.packet = .ok wire ∧
    ¬NoEcho ControlHandler.exampleCodec (ControlHandler.listedHandler second session) session 0
      wire := by
  refine ⟨_, _, _, _, _, _, _, _, rfl, rfl, rfl, by decide +kernel, rfl, fun noEcho => ?_⟩
  unfold NoEcho at noEcho
  rw [← not_exists] at noEcho
  refine noEcho ((exists_trySend_iff exampleNet ControlHandler.exampleCodec 0 _
    (.exclude [0x0A1A0003]) rfl rfl (exists_packet plainOutbound directOutbound exampleNet []
      exampleDatagram [] rfl) ⟨by decide, by decide +kernel⟩ rfl).mpr ?_)
  exact ⟨0x0A1A0002, by decide +kernel, by decide +kernel, by decide⟩

end Vnt.Tunnel
