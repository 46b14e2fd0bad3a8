/-
This file settles what becomes of a unicast packet. The server compares the best remote latency
with the latency stored for the local client of the destination, and takes the local path when it
is not slower. The stored latency belongs to the entry of the lease table and outlives the
sender, so the local path may be taken although nobody is there: the packet is dropped, although
a connected peer has a route. The condition under which this happens is exact.
-/

import Vnt.Server.Handler

namespace Vnt.Server

open Vnt.Base

/-- The types of a unicast packet. -/
def isUnicast : MsgType → Bool
  | .turn | .ping | .pong | .punchStart1 | .punchStart2 | .quic => true
  | _ => false

namespace PeerServerManager

variable {manager : PeerServerManager} {accepts : PeerConnection → ServerMessage → Bool}
  {networkCode : String} {targetIp : Ipv4Addr} {data : List UInt8} {route : IpRouteInfo}

/-- The peer of the route takes the message as a datagram. -/
def takes (manager : PeerServerManager) (accepts : PeerConnection → ServerMessage → Bool)
    (message : ServerForwardData) (route : IpRouteInfo) : Bool :=
  (manager.peerInfos route.peerInfo).sendDatagram accepts (.forwardData message)

/-- The remote path over a route is preferred to the local one. -/
def prefers (manager : PeerServerManager) (networkCode : String) (targetIp : Ipv4Addr)
    (route : IpRouteInfo) : Bool :=
  shouldForward (manager.totalLatency route) (manager.localLatency networkCode targetIp)
    (manager.localHasClient networkCode targetIp)

theorem forwardWithBestRoute_of_none (unreachable : manager.bestRoute networkCode targetIp = none) :
    manager.forwardWithBestRoute accepts networkCode targetIp data = none := by
  unfold forwardWithBestRoute
  rw [findBestRoute_eq, unreachable]
  rfl

theorem forwardWithBestRoute_of_some (best : manager.bestRoute networkCode targetIp = some route) :
    manager.forwardWithBestRoute accepts networkCode targetIp data =
      if manager.prefers networkCode targetIp route = true ∧
          manager.takes accepts ⟨networkCode, data⟩ route = true then
        some (route.peerInfo, ⟨networkCode, data⟩)
      else none := by
  unfold forwardWithBestRoute forwardToPeer
  rw [findBestRoute_eq, best, Option.map_some]
  dsimp only
  unfold prefers takes
  split
  · next preferred => simp only [preferred, true_and]
  · next notPreferred => rw [if_neg fun both => notPreferred both.1]

theorem mem_of_bestRoute (best : manager.bestRoute networkCode targetIp = some route) :
    route ∈ manager.routesTo networkCode targetIp ∧ manager.isConnected route = true :=
  List.mem_filter.mp (List.argmin_mem best)

theorem exists_bestRoute (member : route ∈ manager.routesTo networkCode targetIp)
    (connected : manager.isConnected route = true) :
    ∃ best, manager.bestRoute networkCode targetIp = some best := by
  refine Option.ne_none_iff_exists'.mp fun none => ?_
  have empty := List.argmin_eq_none.mp none
  exact List.not_mem_nil (empty ▸ List.mem_filter.mpr ⟨member, connected⟩)

end PeerServerManager

namespace ControlHandler

/-- The action hands the packet over. -/
def isHanding : HandlerAction → Bool
  | .trySend _ _ | .forward _ _ => true
  | _ => false

/-- The destination has a local sender. -/
def HasLocalSender (handler : ControlHandler) (dest : Ipv4Addr) : Prop :=
  ∃ sender, handler.networkState.senderMap.lookup dest = some sender

/-- The destination has a route through a connected peer that takes the packet. -/
def HasRemoteRoute (handler : ControlHandler) (session : Session) (dest : Ipv4Addr)
    (data : List UInt8) : Prop :=
  ∃ manager route, handler.peerManager = some manager ∧
    route ∈ manager.routesTo session.networkCode dest ∧ manager.isConnected route = true ∧
      manager.takes handler.accepts ⟨session.networkCode, data⟩ route = true

/-- The packet is handed over once: to the local sender of the destination, or to a connected
peer with a route. -/
def HandedOnce (handler : ControlHandler) (session : Session) (dest : Ipv4Addr)
    (data : List UInt8) (actions : List HandlerAction) : Prop :=
  (∃ sender, handler.networkState.senderMap.lookup dest = some sender ∧
    actions.filter isHanding = [.trySend sender data]) ∨
  (∃ manager route, handler.peerManager = some manager ∧
    route ∈ manager.routesTo session.networkCode dest ∧ manager.isConnected route = true ∧
      actions.filter isHanding = [.forward route.peerInfo ⟨session.networkCode, data⟩])

/-- A packet for a destination that can be reached is handed over once. -/
def NoBlackHole (handler : ControlHandler) (session : Session) (dest : Ipv4Addr)
    (data : List UInt8) (actions : List HandlerAction) : Prop :=
  handler.HasLocalSender dest ∨ handler.HasRemoteRoute session dest data →
    handler.HandedOnce session dest data actions

/-- The destination has no local sender, and of the connected routes the one with the least
total latency is not preferred to the local path, or its peer does not take the packet. -/
def Shadowed (handler : ControlHandler) (session : Session) (dest : Ipv4Addr)
    (data : List UInt8) : Prop :=
  handler.networkState.senderMap.lookup dest = none ∧
    handler.HasRemoteRoute session dest data ∧
    ∃ manager best, handler.peerManager = some manager ∧
      manager.bestRoute session.networkCode dest = some best ∧
      (manager.prefers session.networkCode dest best = false ∨
        manager.takes handler.accepts ⟨session.networkCode, data⟩ best = false)

variable {handler : ControlHandler} {session : Session} {dest : Ipv4Addr} {data : List UInt8}

theorem filter_deliverLocal_of_some {sender : Sender}
    (present : handler.networkState.senderMap.lookup dest = some sender) :
    (handler.deliverLocal dest data).filter isHanding = [.trySend sender data] := by
  unfold deliverLocal
  rw [present]
  rfl

theorem deliverLocal_of_none (absent : handler.networkState.senderMap.lookup dest = none) :
    handler.deliverLocal dest data = [] := by
  unfold deliverLocal
  rw [absent]

/-- The best connected route is preferred to the local path, and its peer takes the packet. -/
def Forwards (handler : ControlHandler) (session : Session) (dest : Ipv4Addr)
    (data : List UInt8) : Prop :=
  ∃ manager best, handler.peerManager = some manager ∧
    manager.bestRoute session.networkCode dest = some best ∧
    manager.prefers session.networkCode dest best = true ∧
    manager.takes handler.accepts ⟨session.networkCode, data⟩ best = true

theorem handedOnce_of_forwards (forwards : handler.Forwards session dest data) :
    handler.HandedOnce session dest data (handler.handleUnicast session dest data) := by
  obtain ⟨manager, best, hasManager, isBest, preferred, taken⟩ := forwards
  obtain ⟨member, connected⟩ := PeerServerManager.mem_of_bestRoute isBest
  refine .inr ⟨manager, best, hasManager, member, connected, ?_⟩
  unfold handleUnicast
  rw [hasManager]
  dsimp only
  rw [PeerServerManager.forwardWithBestRoute_of_some isBest, if_pos ⟨preferred, taken⟩]
  rfl

theorem handleUnicast_of_not_forwards (stays : ¬handler.Forwards session dest data) :
    handler.handleUnicast session dest data = handler.deliverLocal dest data := by
  unfold handleUnicast
  cases hasManager : handler.peerManager with
  | none => rfl
  | some manager =>
    dsimp only
    cases isBest : manager.bestRoute session.networkCode dest with
    | none => rw [PeerServerManager.forwardWithBestRoute_of_none isBest]
    | some best =>
      rw [PeerServerManager.forwardWithBestRoute_of_some isBest, if_neg]
      exact fun both => stays ⟨manager, best, hasManager, isBest, both⟩

theorem not_handedOnce_nil : ¬handler.HandedOnce session dest data [] := by
  rintro (⟨sender, -, handed⟩ | ⟨manager, route, -, -, -, handed⟩)
  · cases handed
  · cases handed

/-- The unicast arm loses a packet that could be delivered exactly in the shadow of a client
that is gone, or of a peer that does not take it. -/
theorem noBlackHole_handleUnicast_iff :
    handler.NoBlackHole session dest data (handler.handleUnicast session dest data) ↔
      ¬handler.Shadowed session dest data := by
  constructor
  · rintro delivered ⟨absent, remote, manager, best, hasManager, isBest, refused⟩
    have stays : ¬handler.Forwards session dest data := by
      rintro ⟨other, route, isOther, isRoute, preferred, taken⟩
      cases hasManager.symm.trans isOther
      cases isBest.symm.trans isRoute
      rcases refused with notPreferred | notTaken
      · exact absurd preferred (Bool.eq_false_iff.mp notPreferred)
      · exact absurd taken (Bool.eq_false_iff.mp notTaken)
    have handed := delivered (.inr remote)
    rw [handleUnicast_of_not_forwards stays, deliverLocal_of_none absent] at handed
    exact not_handedOnce_nil handed
  · intro clear reachable
    by_cases forwards : handler.Forwards session dest data
    · exact handedOnce_of_forwards forwards
    · rw [handleUnicast_of_not_forwards forwards]
      cases present : handler.networkState.senderMap.lookup dest with
      | some sender => exact .inl ⟨sender, present, filter_deliverLocal_of_some present⟩
      | none =>
        refine absurd ?_ clear
        have remote : handler.HasRemoteRoute session dest data := by
          refine reachable.resolve_left ?_
          rintro ⟨sender, isSender⟩
          cases present.symm.trans isSender
        obtain ⟨manager, route, hasManager, member, connected, taken⟩ := remote
        obtain ⟨best, isBest⟩ := PeerServerManager.exists_bestRoute member connected
        refine ⟨present, ⟨manager, route, hasManager, member, connected, taken⟩, manager, best,
          hasManager, isBest, ?_⟩
        by_cases preferred : manager.prefers session.networkCode dest best = true
        · refine .inr (Bool.eq_false_iff.mpr fun isTaken => ?_)
          exact forwards ⟨manager, best, hasManager, isBest, preferred, isTaken⟩
        · exact .inl (Bool.eq_false_iff.mpr preferred)

/-! ### A unicast packet at the handler -/

/-- The handler of a confirmed session receives a unicast packet with a time to live above 1. -/
structure ReceivesUnicast (handler : ControlHandler) (session : Session) (buf : List UInt8)
    (packet : NetPacket) : Prop where
  active : handler.session = some session
  confirmed : session.registrationStatus = .confirmed
  parsed : NetPacket.new (.ofBytes buf) = .ok packet
  unicast : ∃ msgType : MsgType, packet.msgType = .ok msgType ∧ isUnicast msgType = true
  notGateway : packet.isGateway = false
  lives : 1 < packet.header.currTtl

/-- The packet that is passed on. -/
def passedOn (packet : NetPacket) : NetPacket := (decrTtl packet).getD packet

theorem handleData_of_receivesUnicast {codec : HandlerCodec} {now : UInt64} {buf : List UInt8}
    {packet : NetPacket} (receives : handler.ReceivesUnicast session buf packet) :
    handler.handleData codec now buf =
      .done (.recordTx packet.header.srcId buf.length ::
        handler.handleUnicast session packet.header.destId (passedOn packet).intoBytes) := by
  obtain ⟨active, confirmed, parsed, ⟨msgType, isType, unicast⟩, notGateway, lives⟩ := receives
  have decremented : decrTtl packet = some (passedOn packet) := by
    unfold passedOn decrTtl
    rw [if_neg (by simpa using lives), Option.getD_some]
  have destination : (passedOn packet).header.destId = packet.header.destId := by
    unfold passedOn decrTtl
    rw [if_neg (by simpa using lives), Option.getD_some]
  have handled : handler.handleType session packet msgType =
      .done (handler.handleUnicast session packet.header.destId (passedOn packet).intoBytes) := by
    rw [← destination]
    cases msgType with
    | turn | ping | pong | punchStart1 | punchStart2 | quic =>
      simp only [handleType, decremented]
    | _ => cases unicast
  unfold handleData
  rw [active]
  dsimp only
  rw [confirmed]
  dsimp only
  rw [parsed]
  dsimp only
  rw [isType]
  dsimp only
  rw [notGateway, if_neg Bool.false_ne_true, handled]
  rfl

/-- A unicast packet for a destination that can be reached is handed over once if and only if the
destination is not shadowed. -/
theorem noBlackHole_iff (codec : HandlerCodec) (now : UInt64) (packet : NetPacket)
    {buf : List UInt8} (receives : handler.ReceivesUnicast session buf packet) :
    handler.NoBlackHole session packet.header.destId (passedOn packet).intoBytes
        (handler.handleData codec now buf).actions ↔
      ¬handler.Shadowed session packet.header.destId (passedOn packet).intoBytes := by
  rw [handleData_of_receivesUnicast receives, ← noBlackHole_handleUnicast_iff]
  rfl

/-! ### A client that is gone -/

/-- A codec for packets that are no control messages. -/
def exampleCodec : HandlerCodec where
  isConfirmReg := fun _ => false
  decodeRpcRequest := fun _ => .error "failed to decode Protobuf message"
  encodeClientListResponse := fun _ _ => []
  encodeClientSimpleInfoList := fun _ => []

/-- A turn packet from 10.26.0.2 to 10.26.0.3. -/
def exampleUnicast : NetPacket := ⟨[], ⟨0x81, 0x55, 0, 0, 0, 0x0A1A0002, 0x0A1A0003⟩, [], []⟩

/-- The handler of a session of the example network after the connected peer listed 10.26.0.3,
at 10 ms behind it. -/
def listedHandler (networkState : NetworkState) (session : Session) : ControlHandler where
  session := some session
  networkState := networkState
  peerManager :=
    some (({ networkStates := (∅ : Map String NetworkState).insert "net" networkState
             peerInfos := fun _ => (PeerServerInfo.new "peer" true).setConnected 0 0
             ipToRoutes := ∅ } : PeerServerManager).handleClientInfoResponse 0 []
      [⟨"net", [⟨0x0A1A0003, 10⟩]⟩]).1
  accepts := fun _ _ => true
  senderAlive := true

/-- Two devices register, and the second one has a latency of 5 ms: the packet goes to its local
sender. -/
theorem noBlackHole_online : ∃ first second session other saved otherSaved,
    NetworkState.exampleState.register (NetworkState.exampleRequest "a" none false) 1 10 0 0 =
      .ok (first, session, saved) ∧
    first.register (NetworkState.exampleRequest "b" none false) 2 20 1 1 =
      .ok (second, other, otherSaved) ∧
    (listedHandler (second.updateClientLatency 0x0A1A0003 5) session).NoBlackHole session
      0x0A1A0003 (passedOn exampleUnicast).intoBytes
      ((listedHandler (second.updateClientLatency 0x0A1A0003 5) session).handleData exampleCodec 0
        exampleUnicast.intoBytes).actions := by
  refine ⟨_, _, _, _, _, _, rfl, rfl, ?_⟩
  refine (noBlackHole_iff exampleCodec 0 exampleUnicast
    ⟨rfl, rfl, rfl, ⟨.turn, rfl, rfl⟩, rfl, by decide⟩).mpr ?_
  rintro ⟨absent, -⟩
  cases absent

/-- Two devices register, the second one reports a latency of 5 ms and disconnects, and then a
connected peer lists its address: the packet is lost, although the peer has a route. -/
theorem not_noBlackHole_departed : ∃ first second session other saved otherSaved,
    NetworkState.exampleState.register (NetworkState.exampleRequest "a" none false) 1 10 0 0 =
      .ok (first, session, saved) ∧
    first.register (NetworkState.exampleRequest "b" none false) 2 20 1 1 =
      .ok (second, other, otherSaved) ∧
    ¬(listedHandler ((second.updateClientLatency 0x0A1A0003 5).offlineIp [] "b" 0x0A1A0003 2 2).1
      session).NoBlackHole session 0x0A1A0003 (passedOn exampleUnicast).intoBytes
      ((listedHandler ((second.updateClientLatency 0x0A1A0003 5).offlineIp [] "b" 0x0A1A0003 2
        2).1 session).handleData exampleCodec 0 exampleUnicast.intoBytes).actions := by
  refine ⟨_, _, _, _, _, _, rfl, rfl, fun noBlackHole => ?_⟩
  have handed := noBlackHole (.inr ⟨_, ⟨0, 10⟩, rfl, List.mem_singleton_self _, rfl, rfl⟩)
  exact not_handedOnce_nil handed

end ControlHandler

end Vnt.Server
