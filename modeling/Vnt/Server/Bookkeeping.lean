/-
This file puts the packets of the sessions into the control service: what the handler does with the
latencies and the traffic counters of the devices. Counters are found by an address, and the
handler asks for the address the packet names; a latency is noted for whoever has the address of
the session, in the network state that is found under its code. A session may be superseded, its
device may have expired or been deleted, and its address may have gone to another device, while its
connection is still open.
-/

import Vnt.Server.Counters
import Vnt.Server.Handler

namespace Vnt.Server

open Vnt.Base

/-- What `get_network_state` finds under the network code of a session: the state the session has,
another one that took its place, or none. -/
inductive Provided where
  | same
  | other (network : NetworkState)
  | missing

/-- A packet on a session, and what its handling finds. -/
structure PacketEvent where
  buf : List UInt8
  now : UInt64
  peerManager : Option PeerServerManager
  accepts : PeerConnection → ServerMessage → Bool
  senderAlive : Bool
  provided : Provided

/-- The events of the service, with the traffic of its sessions in place of counters that change by
themselves. -/
inductive BookEvent where
  | service (event : ServiceEvent)
  | receive (randomId : RandomId) (packet : PacketEvent)

namespace ControlService

/-- The handler of a connection when a packet arrives. -/
def packetHandler (state : ControlService) (session : Session) (packet : PacketEvent) :
    ControlHandler where
  session := some session
  networkState := state.network
  peerManager := packet.peerManager
  accepts := packet.accepts
  senderAlive := packet.senderAlive

/-- What an action does to the service, and to the state that is found under the code. -/
def perform (books : ControlService × Provided) : HandlerAction → ControlService × Provided
  | .trySend _ _ | .forward _ _ | .confirmReg => books
  | .recordTx ip bytes =>
    ({ books.1 with heap := books.1.network.recordTxTraffic books.1.heap ip bytes }, books.2)
  | .recordRx ip bytes =>
    ({ books.1 with heap := books.1.network.recordRxTraffic books.1.heap ip bytes }, books.2)
  | .updateClientLatency _ ip latencyMs =>
    match books.2 with
    | .same => ({ books.1 with network := books.1.network.updateClientLatency ip latencyMs }, .same)
    | .other network => (books.1, .other (network.updateClientLatency ip latencyMs))
    | .missing => books

/-- The actions of `handle_data`. -/
def packetActions (codec : HandlerCodec) (state : ControlService) (session : Session)
    (packet : PacketEvent) : List HandlerAction :=
  ((state.packetHandler session packet).handleData codec packet.now packet.buf).actions

/-- `handle_data` on a session. -/
def receive (codec : HandlerCodec) (state : ControlService) (session : Session)
    (packet : PacketEvent) : ControlService × Provided :=
  (state.packetActions codec session packet).foldl perform (state, packet.provided)

/-- The service with its traffic as a machine. -/
def bookMachine (codec : HandlerCodec) : Machine ControlService BookEvent where
  step state
    | .service (.recordTraffic _) => none
    | .service event => state.step event
    | .receive randomId packet =>
      (state.connections.lookup randomId).map fun connection =>
        (state.receive codec connection.session packet).1

end ControlService

/-! ### The actions of a packet -/

/-- The action is no entry in the books. -/
def HandlerAction.Unbooked : HandlerAction → Prop
  | .trySend _ _ | .forward _ _ | .confirmReg => True
  | _ => False

namespace ControlHandler

/-- What a packet on a session does to the books: nothing, one latency, or a transmission, and with
it a delivery when the packet is handed to a local sender. -/
inductive Books (handler : ControlHandler) (session : Session) (buf : List UInt8) :
    List HandlerAction → Prop where
  | unbooked (actions : List HandlerAction) (all : ∀ action ∈ actions, action.Unbooked) :
      Books handler session buf actions
  | latency (packet : NetPacket) (latencyMs : UInt32)
      (confirmed : session.registrationStatus = .confirmed)
      (parsed : NetPacket.new (.ofBytes buf) = .ok packet) (gateway : packet.isGateway = true)
      (pong : packet.msgType = .ok .pong) (alive : handler.senderAlive = true)
      (lives : packet.header.currTtl ≠ 0) (length : packet.payload.length = 8) :
      Books handler session buf
        [.updateClientLatency session.networkCode session.ip latencyMs]
  | transmitted (packet : NetPacket) (msgType : MsgType) (rest : List HandlerAction)
      (confirmed : session.registrationStatus = .confirmed)
      (parsed : NetPacket.new (.ofBytes buf) = .ok packet) (notGateway : packet.isGateway = false)
      (known : packet.msgType = .ok msgType) (all : ∀ action ∈ rest, action.Unbooked) :
      Books handler session buf (.recordTx packet.header.srcId buf.length :: rest)
  | delivered (packet : NetPacket) (msgType : MsgType) (dest : Ipv4Addr) (sender : Sender)
      (data : List UInt8) (confirmed : session.registrationStatus = .confirmed)
      (parsed : NetPacket.new (.ofBytes buf) = .ok packet) (notGateway : packet.isGateway = false)
      (known : packet.msgType = .ok msgType)
      (present : handler.networkState.senderMap.lookup dest = some sender) :
      Books handler session buf [.recordTx packet.header.srcId buf.length,
        .recordRx dest data.length, .trySend sender data]

section Books

variable {codec : HandlerCodec} {handler : ControlHandler} {session : Session} {now : UInt64}
  {buf : List UInt8}

theorem Books.nothing : Books handler session buf [] := .unbooked [] nofun

theorem Books.answer (sender : Sender) (data : List UInt8) :
    Books handler session buf [.trySend sender data] :=
  .unbooked _ (List.forall_mem_singleton.mpr trivial)

theorem books_handlePingTurn (packet : NetPacket) :
    Books handler session buf (handler.handlePingTurn codec session packet).actions := by
  unfold handlePingTurn
  dsimp only
  split
  · exact .answer _ _
  · split
    · exact .nothing
    · split <;> exact .answer _ _

theorem books_handleRpc (packet : NetPacket) :
    Books handler session buf (handler.handleRpc codec session packet).actions := by
  unfold handleRpc
  split
  · exact .nothing
  · exact .nothing
  · exact .answer _ _

theorem books_handleGateway {packet : NetPacket} {msgType : MsgType}
    (confirmed : session.registrationStatus = .confirmed)
    (parsed : NetPacket.new (.ofBytes buf) = .ok packet) (gateway : packet.isGateway = true)
    (known : packet.msgType = .ok msgType) :
    Books handler session buf
      (handler.handleGateway codec session now packet msgType).actions := by
  unfold handleGateway
  split
  · exact .nothing
  · next alive =>
    split
    · exact .nothing
    · next lives =>
      split
      · split
        · exact .answer _ _
        · exact .nothing
        · exact .nothing
      · exact books_handlePingTurn packet
      · unfold handlePong
        split
        · next length =>
          exact .latency packet _ confirmed parsed gateway known
            (Bool.eq_true_of_not_eq_false alive) lives length
        · exact .nothing
      · exact books_handleRpc packet
      · exact .nothing

/-- A packet that is not for the gateway is counted as transmitted, and as received when it is
handed to a local sender. -/
theorem books_handleType {packet : NetPacket} {msgType : MsgType}
    (confirmed : session.registrationStatus = .confirmed)
    (parsed : NetPacket.new (.ofBytes buf) = .ok packet) (notGateway : packet.isGateway = false)
    (known : packet.msgType = .ok msgType) :
    Books handler session buf (.recordTx packet.header.srcId buf.length ::
      (handler.handleType session packet msgType).actions) := by
  have alone : Books handler session buf [.recordTx packet.header.srcId buf.length] :=
    .transmitted packet msgType [] confirmed parsed notGateway known nofun
  have spread (senders : List Sender) (data : List UInt8) :
      Books handler session buf (.recordTx packet.header.srcId buf.length ::
        broadcast senders data) := by
    refine .transmitted packet msgType _ confirmed parsed notGateway known fun action member => ?_
    obtain ⟨sender, -, rfl⟩ := List.mem_map.mp member
    trivial
  have selective (selects : List Ipv4Addr → Ipv4Addr → Bool) :
      Books handler session buf (.recordTx packet.header.srcId buf.length ::
        (handler.handleSelective packet selects).actions) := by
    unfold handleSelective
    split
    · exact alone
    · split
      · exact alone
      · split
        · exact alone
        · exact spread _ _
  have unicast : Books handler session buf (.recordTx packet.header.srcId buf.length ::
      (handler.handleType session packet .turn).actions) := by
    have delivery (dest : Ipv4Addr) (data : List UInt8) :
        Books handler session buf (.recordTx packet.header.srcId buf.length ::
          handler.deliverLocal dest data) := by
      unfold deliverLocal
      split
      · next sender present =>
        exact .delivered packet msgType dest sender data confirmed parsed notGateway known present
      · exact alone
    unfold handleType
    dsimp only
    split
    · exact alone
    · unfold handleUnicast HandlerResult.done
      dsimp only
      split
      · split
        · exact .transmitted packet msgType _ confirmed parsed notGateway known
            (List.forall_mem_singleton.mpr trivial)
        · exact delivery _ _
      · exact delivery _ _
  cases msgType with
  | turn | ping | pong | punchStart1 | punchStart2 | quic => exact unicast
  | broadcast =>
    unfold handleType
    dsimp only
    split
    · exact alone
    · exact spread _ _
  | excludeBroadcast | targetBroadcast => exact selective _
  | _ => exact alone

/-- Every packet on a session is booked in one of the four ways. -/
theorem books_handleData (active : handler.session = some session) :
    Books handler session buf (handler.handleData codec now buf).actions := by
  unfold handleData
  rw [active]
  dsimp only
  split
  · split
    · exact .unbooked _ (List.forall_mem_singleton.mpr trivial)
    · exact .nothing
  · next confirmed =>
    split
    · exact .nothing
    · next packet parsed =>
      split
      · exact .nothing
      · next msgType known =>
        split
        · next gateway => exact books_handleGateway confirmed parsed gateway known
        · next notGateway =>
          exact books_handleType confirmed parsed (Bool.eq_false_of_not_eq_true notGateway) known

end Books

end ControlHandler

/-! ### Sessions that keep to their own books -/

/-- A latency is noted for the device the address is recorded for. -/
theorem NetworkState.getDeviceEntry_updateClientLatency (network : NetworkState) (ip : Ipv4Addr)
    (latencyMs : UInt32) (deviceId : String) :
    (network.updateClientLatency ip latencyMs).getDeviceEntry deviceId =
      if network.leaseState.reservation ip = some deviceId then
        (network.getDeviceEntry deviceId).map fun entry =>
          { entry with latencyMs := some latencyMs }
      else network.getDeviceEntry deviceId := by
  unfold updateClientLatency getDeviceEntry
  cases holder : network.leaseState.reservation ip with
  | none => rfl
  | some holderId =>
    dsimp only
    by_cases same : holderId = deviceId
    · subst same
      rw [if_pos rfl]
      cases known : network.leaseState.deviceMap.lookup holderId with
      | none => exact known
      | some entry => exact AList.lookup_insert _
    · rw [if_neg fun equal => same (Option.some.inj equal)]
      cases network.leaseState.deviceMap.lookup holderId with
      | none => rfl
      | some entry => exact AList.lookup_insert_ne (Ne.symm same)

/-- The entry of the device is the one of this session. -/
def Session.Owns (session : Session) (deviceId : String) (entry : DeviceEntry) : Prop :=
  deviceId = session.deviceId ∧ entry.randomId = session.randomId

/-- The state that is found under the code of a session on this network. -/
def Provided.network (network : NetworkState) : Provided → Option NetworkState
  | .same => some network
  | .other found => some found
  | .missing => none

namespace ControlService

/-- The packet is handed to a session of the device. -/
def HandedTo (state : ControlService) (actions : List HandlerAction) (deviceId : String) : Prop :=
  ∃ sender data randomId connection, .trySend sender data ∈ actions ∧
    state.connections.lookup randomId = some connection ∧
      connection.session.sender = sender ∧ connection.session.deviceId = deviceId

/-- A packet of the session changes the latency and the transmit counter of no entry but its own,
and the receive counter of no device but the one it is handed to. -/
structure KeepsToOwn (codec : HandlerCodec) (state : ControlService) (session : Session)
    (packet : PacketEvent) : Prop where
  latency : ∀ network, packet.provided.network state.network = some network →
    ∃ after, (state.receive codec session packet).2.network
        (state.receive codec session packet).1.network = some after ∧
      ∀ deviceId entry, network.getDeviceEntry deviceId = some entry →
        ¬session.Owns deviceId entry → after.getDeviceEntry deviceId = some entry
  entries : ∀ deviceId entry, state.network.getDeviceEntry deviceId = some entry →
    ¬session.Owns deviceId entry →
      (state.receive codec session packet).1.network.getDeviceEntry deviceId = some entry
  tx : ∀ deviceId entry, state.network.getDeviceEntry deviceId = some entry →
    ¬session.Owns deviceId entry →
      ((state.receive codec session packet).1.heap.get entry.trafficStats).tx =
        (state.heap.get entry.trafficStats).tx
  rx : ∀ deviceId entry, state.network.getDeviceEntry deviceId = some entry →
    ((state.receive codec session packet).1.heap.get entry.trafficStats).rx ≠
        (state.heap.get entry.trafficStats).rx →
      state.HandedTo (state.packetActions codec session packet) deviceId

/-- The condition: whoever has the address of the session when it answers a ping, and whoever the
counters belong to that are found under the source a packet names, is the session itself. -/
def BooksOwn (state : ControlService) (session : Session) (packet : PacketEvent) : Prop :=
  session.registrationStatus = .confirmed →
    ∀ header msgType, NetPacket.new (.ofBytes packet.buf) = .ok header →
      header.msgType = .ok msgType →
        if header.isGateway = true then
          msgType = .pong → packet.senderAlive = true → header.header.currTtl ≠ 0 →
            header.payload.length = 8 →
              ∀ network deviceId entry, packet.provided.network state.network = some network →
                network.leaseState.reservation session.ip = some deviceId →
                  network.getDeviceEntry deviceId = some entry → session.Owns deviceId entry
        else
          ∀ deviceId entry, state.network.getDeviceEntry deviceId = some entry →
            state.network.trafficStatsMap.lookup header.header.srcId = some entry.trafficStats →
              session.Owns deviceId entry

variable {codec : HandlerCodec} {state next : ControlService} {session : Session}
  {packet : PacketEvent}

/-- What is not booked changes nothing. -/
theorem foldl_perform_unbooked {actions : List HandlerAction}
    (all : ∀ action ∈ actions, action.Unbooked) (books : ControlService × Provided) :
    actions.foldl perform books = books := by
  induction actions generalizing books with
  | nil => rfl
  | cons action rest inductionHypothesis =>
    obtain ⟨first, others⟩ := List.forall_mem_cons.mp all
    have unchanged : perform books action = books := by
      cases action with
      | recordTx ip bytes => exact first.elim
      | recordRx ip bytes => exact first.elim
      | updateClientLatency networkCode ip latencyMs => exact first.elim
      | _ => rfl
    rw [List.foldl_cons, unchanged]
    exact inductionHypothesis others books

/-- A packet that changes nothing but counters keeps to the session's own books when the counters
that change are the session's and those of the device it is handed to. -/
theorem keepsToOwn_of_counted {heap : StatsHeap}
    (received : state.receive codec session packet = ({ state with heap := heap }, packet.provided))
    (tx : ∀ deviceId entry, state.network.getDeviceEntry deviceId = some entry →
      ¬session.Owns deviceId entry →
        (heap.get entry.trafficStats).tx = (state.heap.get entry.trafficStats).tx)
    (rx : ∀ deviceId entry, state.network.getDeviceEntry deviceId = some entry →
      (heap.get entry.trafficStats).rx ≠ (state.heap.get entry.trafficStats).rx →
        state.HandedTo (state.packetActions codec session packet) deviceId) :
    state.KeepsToOwn codec session packet where
  latency network found := by
    rw [received]
    exact ⟨network, found, fun _ _ known _ => known⟩
  entries _ _ known _ := by
    rw [received]
    exact known
  tx deviceId entry known foreign := by
    rw [received]
    exact tx deviceId entry known foreign
  rx deviceId entry known changed := by
    rw [received] at changed
    exact rx deviceId entry known changed

/-- A packet that notes a latency keeps to the session's own books when no entry of another one is
recorded for the address of the session. -/
theorem keepsToOwn_of_noted {networkCode : String} {latencyMs : UInt32}
    (received : state.receive codec session packet =
      perform (state, packet.provided) (.updateClientLatency networkCode session.ip latencyMs))
    (own : ∀ network deviceId entry, packet.provided.network state.network = some network →
      network.leaseState.reservation session.ip = some deviceId →
        network.getDeviceEntry deviceId = some entry → session.Owns deviceId entry) :
    state.KeepsToOwn codec session packet := by
  have spared : ∀ network, packet.provided.network state.network = some network →
      ∀ deviceId entry, network.getDeviceEntry deviceId = some entry →
        ¬session.Owns deviceId entry →
          (network.updateClientLatency session.ip latencyMs).getDeviceEntry deviceId =
            some entry := by
    intro network found deviceId entry known foreign
    rw [NetworkState.getDeviceEntry_updateClientLatency, if_neg]
    · exact known
    · exact fun recorded => foreign (own network deviceId entry found recorded known)
  rw [perform] at received
  cases provided : packet.provided with
  | same =>
    rw [provided] at received spared
    have kept := spared state.network rfl
    refine ⟨fun network found => ?_, fun deviceId entry known foreign => ?_,
      fun _ _ _ _ => ?_, fun _ _ _ changed => absurd ?_ changed⟩
    · rw [provided] at found
      cases found
      rw [received]
      exact ⟨_, rfl, kept⟩
    · rw [received]
      exact kept deviceId entry known foreign
    · rw [received]
    · rw [received]
  | other network =>
    rw [provided] at received spared
    have kept := spared network rfl
    refine ⟨fun network found => ?_, fun _ _ known _ => ?_, fun _ _ _ _ => ?_,
      fun _ _ _ changed => absurd ?_ changed⟩
    · rw [provided] at found
      cases found
      rw [received]
      exact ⟨_, rfl, kept⟩
    · rw [received]
      exact known
    · rw [received]
    · rw [received]
  | missing =>
    rw [provided] at received
    refine keepsToOwn_of_counted (received.trans ?_) (fun _ _ _ _ => rfl)
      fun _ _ _ changed => absurd rfl changed
    rw [provided]

/-- A packet that meets the condition keeps to the session's own books; who a delivery is counted
for is the device it is handed to in any case. -/
theorem keepsToOwn_of_booksOwn (owned : state.CountersOwned)
    (condition : state.BooksOwn session packet) : state.KeepsToOwn codec session packet := by
  have books : (state.packetHandler session packet).Books session packet.buf
      (state.packetActions codec session packet) := ControlHandler.books_handleData rfl
  generalize isActions : state.packetActions codec session packet = actions at books
  have received : state.receive codec session packet =
      actions.foldl perform (state, packet.provided) := by
    rw [← isActions]
    rfl
  cases books with
  | unbooked actions all =>
    rw [foldl_perform_unbooked all] at received
    exact keepsToOwn_of_counted received (fun _ _ _ _ => rfl)
      fun _ _ _ changed => absurd rfl changed
  | latency header latencyMs confirmed parsed gateway pong alive lives length =>
    have own := condition confirmed header .pong parsed pong
    rw [if_pos gateway] at own
    rw [List.foldl_cons, List.foldl_nil] at received
    exact keepsToOwn_of_noted received (own rfl alive lives length)
  | transmitted header msgType rest confirmed parsed notGateway known all =>
    rw [List.foldl_cons, foldl_perform_unbooked all] at received
    have own := condition confirmed header msgType parsed known
    rw [if_neg (Bool.eq_false_iff.mp notGateway)] at own
    refine keepsToOwn_of_counted received (fun deviceId entry lookup foreign => ?_)
      fun _ _ _ changed => absurd ?_ changed
    · refine congrArg TrafficStats.tx (state.network.recordTxTraffic_of_ne _ _ _ fun stored => ?_)
      exact foreign (own deviceId entry lookup stored)
    · exact state.network.rx_recordTxTraffic ..
  | delivered header msgType dest sender data confirmed parsed notGateway known present =>
    have own := condition confirmed header msgType parsed known
    rw [if_neg (Bool.eq_false_iff.mp notGateway)] at own
    refine keepsToOwn_of_counted received (fun deviceId entry lookup foreign => ?_)
      fun deviceId entry lookup changed => ?_
    · refine (NetworkState.tx_recordRxTraffic ..).trans (congrArg TrafficStats.tx
        (state.network.recordTxTraffic_of_ne _ _ _ fun stored => ?_))
      exact foreign (own deviceId entry lookup stored)
    · have stored : state.network.trafficStatsMap.lookup dest = some entry.trafficStats := by
        by_contra other
        refine changed ((congrArg TrafficStats.rx
          (NetworkState.recordRxTraffic_of_ne _ _ _ _ other)).trans ?_)
        exact state.network.rx_recordTxTraffic ..
      obtain ⟨connection, active, isDevice, -, isSender⟩ :=
        owned.session dest deviceId entry sender lookup stored present
      rw [isActions]
      refine ⟨sender, data, _, connection, ?_, active, isSender, isDevice⟩
      exact List.mem_cons_of_mem _ (List.mem_cons_of_mem _ List.mem_cons_self)

/-- What a confirmed session does with a packet it can read. -/
theorem packetActions_of_confirmed {header : NetPacket} {msgType : MsgType}
    (confirmed : session.registrationStatus = .confirmed)
    (parsed : NetPacket.new (.ofBytes packet.buf) = .ok header)
    (known : header.msgType = .ok msgType) :
    state.packetActions codec session packet =
      if header.isGateway = true then
        ((state.packetHandler session packet).handleGateway codec session packet.now header
          msgType).actions
      else
        .recordTx header.header.srcId packet.buf.length ::
          ((state.packetHandler session packet).handleType session header msgType).actions := by
  unfold packetActions ControlHandler.handleData
  simp only [packetHandler, confirmed, parsed, known]
  split <;> rfl

/-- An answer to a ping of the gateway is noted. -/
theorem packetActions_pong {header : NetPacket}
    (confirmed : session.registrationStatus = .confirmed)
    (parsed : NetPacket.new (.ofBytes packet.buf) = .ok header) (known : header.msgType = .ok .pong)
    (gateway : header.isGateway = true) (alive : packet.senderAlive = true)
    (lives : header.header.currTtl ≠ 0) (length : header.payload.length = 8) :
    ∃ latencyMs, state.packetActions codec session packet =
      [.updateClientLatency session.networkCode session.ip latencyMs] := by
  have notDropped : (state.packetHandler session packet).senderAlive ≠ false := by
    rw [packetHandler, alive]
    exact Bool.true_eq_false.mp
  rw [packetActions_of_confirmed confirmed parsed known, if_pos gateway,
    ControlHandler.handleGateway, if_neg notDropped, if_neg lives, ControlHandler.handlePong,
    if_pos length]
  exact ⟨_, rfl⟩

/-- A packet that is not for the gateway is counted under its source. -/
theorem tx_receive {header : NetPacket} {msgType : MsgType} {entry : DeviceEntry}
    (confirmed : session.registrationStatus = .confirmed)
    (parsed : NetPacket.new (.ofBytes packet.buf) = .ok header)
    (known : header.msgType = .ok msgType) (notGateway : header.isGateway ≠ true)
    (stored : state.network.trafficStatsMap.lookup header.header.srcId = some entry.trafficStats)
    (inside : entry.trafficStats < state.heap.length) :
    ((state.receive codec session packet).1.heap.get entry.trafficStats).tx =
      ((state.heap.get entry.trafficStats).tx + packet.buf.length) % 2 ^ 64 := by
  have actions := @packetActions_of_confirmed codec state _ _ _ _ confirmed parsed known
  have received : state.receive codec session packet =
      (state.packetActions codec session packet).foldl perform (state, packet.provided) := rfl
  rw [if_neg notGateway] at actions
  have counted := state.network.recordTxTraffic_self state.heap header.header.srcId
    packet.buf.length stored inside
  have books : (state.packetHandler session packet).Books session packet.buf
      (state.packetActions codec session packet) := ControlHandler.books_handleData rfl
  generalize state.packetActions codec session packet = booked at actions books received
  cases books with
  | unbooked booked all =>
    subst actions
    exact (all _ List.mem_cons_self).elim
  | latency header latencyMs confirmed parsed gateway pong alive lives length => cases actions
  | transmitted other kind rest confirmed again _ known all =>
    cases parsed.symm.trans again
    rw [List.foldl_cons, foldl_perform_unbooked all] at received
    rw [received]
    exact congrArg TrafficStats.tx counted
  | delivered other kind dest sender data confirmed again _ known present =>
    cases parsed.symm.trans again
    rw [received]
    exact (NetworkState.tx_recordRxTraffic ..).trans (congrArg TrafficStats.tx counted)

/-- A packet that does not meet the condition is booked for the entry of someone else: it is counted
among what that device sent, or the latency is noted there. -/
theorem exists_foreign_of_not_booksOwn (owned : state.CountersOwned)
    (broken : ¬state.BooksOwn session packet) :
    ∃ deviceId entry, ¬session.Owns deviceId entry ∧
      (state.network.getDeviceEntry deviceId = some entry ∧
          ((state.receive codec session packet).1.heap.get entry.trafficStats).tx =
            ((state.heap.get entry.trafficStats).tx + packet.buf.length) % 2 ^ 64 ∨
        ∃ network after latencyMs, packet.provided.network state.network = some network ∧
          network.getDeviceEntry deviceId = some entry ∧
          (state.receive codec session packet).2.network
            (state.receive codec session packet).1.network = some after ∧
          after.getDeviceEntry deviceId = some { entry with latencyMs := some latencyMs }) := by
  simp only [BooksOwn, not_forall] at broken
  obtain ⟨confirmed, header, msgType, parsed, known, broken⟩ := broken
  split at broken
  · next gateway =>
    simp only [not_forall] at broken
    obtain ⟨rfl, alive, lives, length, network, deviceId, entry, provided, recorded, isEntry,
      foreign⟩ := broken
    obtain ⟨latencyMs, noted⟩ :=
      @packetActions_pong codec state _ _ _ confirmed parsed known gateway alive lives length
    have received : state.receive codec session packet = perform (state, packet.provided)
        (.updateClientLatency session.networkCode session.ip latencyMs) := by
      unfold receive
      rw [noted]
      rfl
    have isNoted : (network.updateClientLatency session.ip latencyMs).getDeviceEntry deviceId =
        some { entry with latencyMs := some latencyMs } := by
      rw [NetworkState.getDeviceEntry_updateClientLatency, if_pos recorded, isEntry]
      rfl
    refine ⟨deviceId, entry, foreign,
      .inr ⟨network, network.updateClientLatency session.ip latencyMs, latencyMs, provided, isEntry,
        ?_, isNoted⟩⟩
    rw [received, perform]
    cases isProvided : packet.provided with
    | same =>
      rw [isProvided] at provided
      cases provided
      rfl
    | other found =>
      rw [isProvided] at provided
      cases provided
      rfl
    | missing =>
      rw [isProvided] at provided
      cases provided
  · next notGateway =>
    simp only [not_forall] at broken
    obtain ⟨deviceId, entry, isEntry, stored, foreign⟩ := broken
    exact ⟨deviceId, entry, foreign, .inl ⟨isEntry, tx_receive confirmed parsed known notGateway
      stored (owned.inside deviceId entry isEntry)⟩⟩

/-! ### Runs -/

/-- Noting a latency changes the lease table only. -/
theorem updateClientLatency_eq (network : NetworkState) (ip : Ipv4Addr) (latencyMs : UInt32) :
    ∃ table, network.updateClientLatency ip latencyMs = { network with leaseState := table } := by
  unfold NetworkState.updateClientLatency
  split
  · exact ⟨network.leaseState, rfl⟩
  · split
    · exact ⟨network.leaseState, rfl⟩
    · exact ⟨_, rfl⟩

/-- What is booked keeps the connections and what the counters belong to. -/
theorem owned_perform {books : ControlService × Provided} (tracked : books.1.Tracked)
    (owned : books.1.CountersOwned) (action : HandlerAction) :
    (perform books action).1.Tracked ∧ (perform books action).1.CountersOwned := by
  have counted (heap : StatsHeap) (length : heap.length = books.1.heap.length) :
      Tracked { books.1 with heap := heap } ∧ CountersOwned { books.1 with heap := heap } := by
    refine ⟨⟨tracked.gateway, tracked.session⟩, ?_⟩
    exact owned.frame length.ge (fun _ entry found => ⟨entry, found, rfl, rfl, rfl⟩)
      (fun _ _ stored => stored) (fun _ _ stored => stored)
      fun _ _ _ live _ _ _ active _ _ => ⟨live, active, rfl, rfl, rfl⟩
  cases action with
  | recordTx ip bytes => exact counted _ (NetworkState.length_recordTxTraffic ..)
  | recordRx ip bytes => exact counted _ (NetworkState.length_recordRxTraffic ..)
  | updateClientLatency networkCode ip latencyMs =>
    obtain ⟨service, provided⟩ := books
    cases provided with
    | same =>
      obtain ⟨table, changed⟩ := updateClientLatency_eq service.network ip latencyMs
      have entries : ∀ deviceId entry,
          (service.network.updateClientLatency ip latencyMs).getDeviceEntry deviceId = some entry →
            ∃ before, service.network.getDeviceEntry deviceId = some before ∧
              entry.trafficStats = before.trafficStats ∧ entry.ip = before.ip ∧
                entry.randomId = before.randomId := by
        intro deviceId entry found
        rw [NetworkState.getDeviceEntry_updateClientLatency] at found
        split at found
        · obtain ⟨before, known, rfl⟩ := Option.map_eq_some_iff.mp found
          exact ⟨before, known, rfl, rfl, rfl⟩
        · exact ⟨entry, found, rfl, rfl, rfl⟩
      unfold perform
      dsimp only
      rw [changed] at entries ⊢
      refine ⟨⟨tracked.gateway, tracked.session⟩, ?_⟩
      exact owned.frame (Nat.le_refl _) entries (fun _ _ stored => stored)
        (fun _ _ stored => stored) fun _ _ _ live _ _ _ active _ _ => ⟨live, active, rfl, rfl, rfl⟩
    | other network => exact ⟨tracked, owned⟩
    | missing => exact ⟨tracked, owned⟩
  | _ => exact ⟨tracked, owned⟩

theorem owned_foldl {actions : List HandlerAction} {books : ControlService × Provided}
    (tracked : books.1.Tracked) (owned : books.1.CountersOwned) :
    (actions.foldl perform books).1.Tracked ∧ (actions.foldl perform books).1.CountersOwned := by
  induction actions generalizing books with
  | nil => exact ⟨tracked, owned⟩
  | cons action rest inductionHypothesis =>
    obtain ⟨trackedNext, ownedNext⟩ := owned_perform tracked owned action
    exact inductionHypothesis trackedNext ownedNext

/-- Every event of the service with its traffic keeps what the counters belong to. -/
theorem owned_bookStep {event : BookEvent} (tracked : state.Tracked) (owned : state.CountersOwned)
    (enabled : (bookMachine codec).step state event = some next) :
    next.Tracked ∧ next.CountersOwned := by
  cases event with
  | service event =>
    have effect (uncounted : ∀ heap, event ≠ .recordTraffic heap)
        (steps : state.step event = some next) : next.Tracked ∧ next.CountersOwned :=
      ⟨tracked.step (step_effect steps), owned.step tracked (step_effect steps) uncounted⟩
    cases event with
    | recordTraffic heap => cases enabled
    | _ => exact effect (fun heap same => by cases same) enabled
  | receive randomId packet =>
    obtain ⟨connection, -, rfl⟩ := Option.map_eq_some_iff.mp enabled
    exact owned_foldl tracked owned

/-- The condition on a step: a packet on a session books for that session only. -/
def BooksOwnPacket (state : ControlService) : BookEvent → Prop
  | .receive randomId packet => ∀ connection, state.connections.lookup randomId = some connection →
      state.BooksOwn connection.session packet
  | .service _ => True

/-- A packet on a session keeps to the session's own books. -/
def KeepsPacket (codec : HandlerCodec) (state : ControlService) : BookEvent → Prop
  | .receive randomId packet => ∀ connection, state.connections.lookup randomId = some connection →
      state.KeepsToOwn codec connection.session packet
  | .service _ => True

/-- In every run in which no packet meets an address or counters that have gone to another session,
each packet keeps to its own session's books. -/
theorem keepsPacket_of_booksOwnPacket (codec : HandlerCodec) (started : state.Started)
    (events : List BookEvent)
    (guarded : (bookMachine codec).Guarded BooksOwnPacket state events) :
    (bookMachine codec).Guarded (KeepsPacket codec) state events := by
  have owned : state.CountersOwned := by
    obtain ⟨database, networkCode, net, leaseDuration, now, -, loaded⟩ := started
    exact countersOwned_load loaded
  have preserved : ∀ (state : ControlService) event next, state.Tracked ∧ state.CountersOwned →
      BooksOwnPacket state event → (bookMachine codec).step state event = some next →
        next.Tracked ∧ next.CountersOwned :=
    fun _ _ _ holds _ enabled => owned_bookStep holds.1 holds.2 enabled
  have keeps : ∀ (state : ControlService) event, state.Tracked ∧ state.CountersOwned →
      BooksOwnPacket state event → KeepsPacket codec state event := by
    rintro state event ⟨-, owned⟩ condition
    cases event with
    | service event => trivial
    | receive randomId packet =>
      exact fun connection active => keepsToOwn_of_booksOwn owned (condition connection active)
  exact guarded.imp preserved keeps ⟨started.tracked, owned⟩

/-! ### A forged source and a reassigned address -/

/-- A codec for runs in which no message of its own is read. -/
def plainCodec : HandlerCodec where
  isConfirmReg := fun _ => false
  decodeRpcRequest := fun _ => .error "failed to decode Protobuf message"
  encodeClientListResponse := fun _ _ => []
  encodeClientSimpleInfoList := fun _ => []

/-- A packet on a session while nothing else goes on. -/
def plainPacket (buf : List UInt8) : PacketEvent :=
  ⟨buf, 100, none, fun _ _ => true, true, .same⟩

/-- Two devices register, the first of them twice. -/
def twoDevices : List BookEvent :=
  [.service (.register (NetworkState.exampleRequest "a" none false) 1 10 0),
    .service (.register (NetworkState.exampleRequest "b" none false) 2 20 0),
    .service (.register (NetworkState.exampleRequest "a" none false) 3 30 0)]

/-- A packet from one address to another that is not for the gateway. -/
def turnPacket (src dest : UInt8) : PacketEvent :=
  plainPacket [0x81, 0x55, 0, 0, 0, 0, 0, 0, 10, 26, 0, src, 10, 26, 0, dest]

/-- The answer to a ping of the gateway that was sent at the time 90. -/
def pongPacket : PacketEvent :=
  plainPacket [0x86, 0x55, 0x40, 0, 0, 0, 0, 0, 10, 26, 0, 2, 10, 26, 0, 1,
    0, 0, 0, 0, 0, 0, 0, 90]

/-- The session that is current sends a packet under its own address. -/
theorem keepsPacket_twoDevices : (bookMachine plainCodec).Guarded (KeepsPacket plainCodec)
    exampleService (twoDevices ++ [.receive 3 (turnPacket 2 3)]) := by
  refine keepsPacket_of_booksOwnPacket plainCodec started_exampleService _ ?_
  refine ⟨trivial, fun first enabled => ?_⟩
  cases Option.some.inj enabled
  refine ⟨trivial, fun second enabled => ?_⟩
  cases Option.some.inj enabled
  refine ⟨trivial, fun third enabled => ?_⟩
  cases Option.some.inj enabled
  refine ⟨fun connection active => ?_, fun _ _ => trivial⟩
  cases Option.some.inj active
  intro confirmed header msgType parsed known
  cases Except.ok.inj parsed
  intro deviceId entry found stored
  have member := (Map.mem_entries_iff _ _ _).mpr found
  rcases List.mem_cons.mp member with same | later
  · cases same
    exact ⟨rfl, rfl⟩
  · cases List.mem_singleton.mp later
    cases Option.some.inj stored

/-- A session counts what it sends for the other device when it names that device's address, and a
session that was superseded still notes its latency for the one that took its place. -/
theorem not_keepsPacket_forged :
    ¬(bookMachine plainCodec).Guarded (KeepsPacket plainCodec) exampleService
        (twoDevices ++ [.receive 3 (turnPacket 3 3)]) ∧
      ¬(bookMachine plainCodec).Guarded (KeepsPacket plainCodec) exampleService
        (twoDevices ++ [.receive 1 pongPacket]) := by
  have reaches : ∃ state first third a b,
      (bookMachine plainCodec).run exampleService twoDevices = some state ∧
      state.connections.lookup 1 = some first ∧ state.connections.lookup 3 = some third ∧
      state.network.getDeviceEntry "a" = some a ∧ state.network.getDeviceEntry "b" = some b ∧
      ¬first.session.Owns "a" a ∧ ¬third.session.Owns "b" b ∧
      ((state.receive plainCodec third.session (turnPacket 3 3)).1.heap.get b.trafficStats).tx ≠
        (state.heap.get b.trafficStats).tx ∧
      (state.receive plainCodec first.session pongPacket).1.network.getDeviceEntry "a" ≠
        some a := by
    refine ⟨_, _, _, _, _, rfl, rfl, rfl, rfl, rfl, ?_, ?_, ?_, ?_⟩
    · exact fun owns => absurd owns.2 (by decide)
    · exact fun owns => absurd owns.1 (by decide)
    · decide
    · decide
  obtain ⟨state, first, third, a, b, reaches, isFirst, isThird, isA, isB, foreignA, foreignB,
    counted, noted⟩ := reaches
  constructor
  · intro keeps
    exact counted (((keeps.of_run reaches).1 third isThird).tx "b" b isB foreignB)
  · intro keeps
    exact noted (((keeps.of_run reaches).1 first isFirst).entries "a" a isA foreignA)

end ControlService

end Vnt.Server
