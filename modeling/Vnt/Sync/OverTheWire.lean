/-
This file carries the client-list protocol down to the bytes that are under way. A ping is the
packet the client builds, the server's handler takes it from its bytes and answers with the bytes of
a packet, and the client's handler takes these from the connection. As long as versions, times and
lists fit into the numbers of the wire, this is the protocol of pings and answers: every run of the
bytes is matched by a run of the messages, with the same table and the same list of the client after
every event.
-/

import Vnt.Base.Simulation
import Vnt.Sync.Convergence
import Vnt.Tunnel.InboundSafety
import Vnt.Tunnel.WireMessages

namespace Vnt.Sync

open Vnt.Base Vnt.Client Vnt.Server Vnt.Tunnel

/-! ### The bytes of a ping -/

/-- `to_be_bytes` of a time. -/
def timeBytes (time : Int) : List UInt8 := bigEndian 8 (time % 2 ^ 64).toNat

/-- `handle_ping`: the packet it sends. -/
def pingPacket (ping : PingTurn) : Except String (List UInt8) := do
  let packet ← NetPacket.new (.zeroed (headLength + (8 + 8)))
  let packet := ((packet.setTtl 1).setMsgType .pingTurn).setGatewayFlag true
  let packet ← packet.setPayload (timeBytes ping.time)
  let payload := timeBytes ping.time ++ bigEndian 8 ping.dataVersion
  return { packet with payload := payload }.intoBytes

/-- The payload of a ping. -/
def pingPayload (ping : PingTurn) : List UInt8 :=
  timeBytes ping.time ++ bigEndian 8 ping.dataVersion

/-- A ping that the wire can hold, of a client whose clock is past its epoch. -/
structure PingFits (ping : PingTurn) : Prop where
  time : 0 ≤ ping.time ∧ ping.time < 2 ^ 63
  dataVersion : ping.dataVersion < 2 ^ 64

theorem pingPacket_eq (ping : PingTurn) :
    pingPacket ping = .ok (gatewayPacket .pingTurn 0 (pingPayload ping)) := by
  unfold pingPacket
  rw [NetPacket.new_zeroed]
  rfl

theorem length_pingPayload (ping : PingTurn) : (pingPayload ping).length = 16 := by
  unfold pingPayload timeBytes
  rw [List.length_append, length_bigEndian, length_bigEndian]

theorem timeOf_timeBytes {time : Int} (fits : -2 ^ 63 ≤ time ∧ time < 2 ^ 63) (rest : List UInt8) :
    timeOf (timeBytes time ++ rest) = time := by
  have bounded : (time % 2 ^ 64).toNat < 256 ^ 8 := by omega
  have kept : ((time % 2 ^ 64).toNat : Int) = time % 2 ^ 64 :=
    Int.toNat_of_nonneg (Int.emod_nonneg _ (by decide))
  unfold timeOf timeBytes
  rw [List.take_left' (length_bigEndian 8 _), ofBigEndian_bigEndian bounded, kept]
  show (time % ((2 ^ 64 : Nat) : Int)).bmod (2 ^ 64) = time
  rw [Int.emod_bmod]
  exact Int.bmod_eq_of_le (by omega) (by omega)

theorem dataVersion_pingPayload {ping : PingTurn} (fits : PingFits ping) :
    ofBigEndian ((pingPayload ping).drop 8) = ping.dataVersion := by
  have bounded := fits.dataVersion
  unfold pingPayload timeBytes
  rw [List.drop_left' (length_bigEndian 8 _), ofBigEndian_bigEndian (by omega)]

/-! ### The bytes of an answer -/

/-- The packet of a reply. -/
def replyPacket : PingReply → List UInt8
  | .pushClientIps list => gatewayPacket .pushClientIps 0 (encodeClientSimpleInfoList list)
  | .pongTurn ping => gatewayPacket .pongTurn 0 (pingPayload ping)

/-- A table of which the version and every list fit into the wire. -/
structure TableFits (table : NetworkStateInner) : Prop where
  dataVersion : table.dataVersion < 2 ^ 64
  devices : table.deviceMap.values.length < 2 ^ 56

/-- A reply that the wire can hold. -/
def ReplyFits : PingReply → Prop
  | .pushClientIps list => Holds list ∧ 0 ≤ list.time
  | .pongTurn ping => PingFits ping

theorem replyFits_answerPing {table : NetworkStateInner} {selfIp : Ipv4Addr} {ping : PingTurn}
    (tableFits : TableFits table) (pingFits : PingFits ping) :
    ReplyFits (table.answerPing selfIp ping) := by
  obtain ⟨lower, upper⟩ := pingFits.time
  unfold NetworkStateInner.answerPing
  cases changed : table.changedClientSimpleList selfIp ping.dataVersion with
  | none => exact pingFits
  | some list =>
    have ofTable : list.dataVersion = table.dataVersion ∧
        list.list.length ≤ table.deviceMap.values.length := by
      unfold NetworkStateInner.changedClientSimpleList at changed
      split at changed
      · cases changed
      · split at changed <;> cases changed <;> exact ⟨rfl, List.length_filterMap_le _ _⟩
    have devices := tableFits.devices
    have size := length_encodeClientSimpleInfoList { list with time := ping.time }
    dsimp only at size
    refine ⟨⟨?_, ⟨by dsimp only; omega, upper⟩, by omega⟩, lower⟩
    rw [ofTable.1]
    exact tableFits.dataVersion

/-- The handler of a confirmed session answers the bytes of a ping as its table answers the
ping. -/
theorem handleData_pingPacket {keySign : String → String} {handler : ControlHandler}
    {session : Session} {clock : UInt64} {ping : PingTurn} (active : handler.session = some session)
    (confirmed : session.registrationStatus = .confirmed) (alive : handler.senderAlive = true)
    (fits : PingFits ping) :
    handler.handleData (wireCodec keySign).toHandlerCodec clock
        (gatewayPacket .pingTurn 0 (pingPayload ping)) =
      .done [.trySend session.sender
        (replyPacket (handler.networkState.leaseState.answerPing session.ip ping))] := by
  obtain ⟨lower, upper⟩ := fits.time
  have time : timeOf (pingPayload ping) = ping.time :=
    timeOf_timeBytes ⟨by omega, upper⟩ (bigEndian 8 ping.dataVersion)
  rw [handleData_gatewayPacket active confirmed]
  unfold ControlHandler.handleGateway
  rw [alive, if_neg Bool.false_ne_true.symm, if_neg (currTtl_gatewayHeader _ _)]
  dsimp only
  unfold ControlHandler.handlePingTurn NetworkStateInner.answerPing
  dsimp only
  rw [length_pingPayload, if_neg (by decide), if_neg (by decide), dataVersion_pingPayload fits]
  cases handler.networkState.leaseState.changedClientSimpleList session.ip ping.dataVersion with
  | none => rfl
  | some list =>
    dsimp only
    rw [show Int.bmod (ofBigEndian ((pingPayload ping).take 8)) (2 ^ 64) = ping.time from time]
    rfl

/-- The client takes the bytes of a reply as the reply. -/
theorem handleServerData_replyPacket {client : InboundClient} {serverId : UInt32}
    {net : NetworkAddr} {now : Int} {reply : PingReply} (fits : ReplyFits reply)
    (later : now < 2 ^ 63) :
    client.handleServerData wireMessages serverId net now (replyPacket reply) =
      ({ client with serverInfo := client.serverInfo.handleReply serverId net.ip now reply } :
        InboundClient).ended (.ok ()) := by
  cases reply with
  | pongTurn ping =>
    obtain ⟨lower, upper⟩ := PingFits.time fits
    have time : timeOf (pingPayload ping) = ping.time :=
      timeOf_timeBytes ⟨by omega, upper⟩ (bigEndian 8 ping.dataVersion)
    unfold replyPacket
    rw [handleServerData_gatewayPacket]
    unfold InboundClient.processServerData InboundClient.handlePongTurn
      ServerInfoCollection.handleReply
    dsimp only
    rw [time, length_pingPayload]
    by_cases passed : now ≥ ping.time
    · rw [if_pos ⟨rfl, passed⟩, if_pos passed]
      unfold elapsed
      rw [if_pos (by omega)]
    · rw [if_neg fun both => passed both.2, if_neg passed]
  | pushClientIps list =>
    obtain ⟨holds, lower⟩ := fits
    have read : wireMessages.clientSimpleInfoList (encodeClientSimpleInfoList list) = .ok list :=
      decode_encodeClientSimpleInfoList holds
    unfold replyPacket
    rw [handleServerData_gatewayPacket]
    unfold InboundClient.processServerData InboundClient.handlePushClientIps
    dsimp only
    rw [read]
    dsimp only
    by_cases passed : now > list.time
    · unfold elapsed
      rw [if_pos passed, if_pos (by omega)]
      rfl
    · rw [if_neg passed]
      rfl

/-! ### The protocol on the wire -/

/-- The two programs and the bytes under way between them, in each direction in order. -/
structure WireSync where
  handler : ControlHandler
  session : Session
  client : InboundClient
  serverId : UInt32
  networkAddr : NetworkAddr
  pings : List (List UInt8)
  answers : List (List UInt8)

/-- An operation on the table, a ping of the client, the server or the client takes the next bytes,
or some are lost. -/
inductive WireEvent where
  | lease (event : LeaseEvent)
  | ping (now : Int)
  | answer (clock : UInt64)
  | receive (now : Int)
  | losePing (index : Nat)
  | loseAnswer (index : Nat)

namespace WireSync

/-- The handler with another table. -/
def withTable (wire : WireSync) (table : NetworkStateInner) : WireSync :=
  { wire with
    handler := { wire.handler with
      networkState := { wire.handler.networkState with leaseState := table } } }

def step (codec : HandlerCodec) (wire : WireSync) : WireEvent → Option WireSync
  | .lease event =>
    let state := wire.handler.networkState
    some (wire.withTable (state.leaseState.apply state.net state.gateway event))
  | .ping now =>
    match pingPacket (wire.client.serverInfo.handlePing wire.serverId now) with
    | .ok bytes => some { wire with pings := wire.pings ++ [bytes] }
    | .error _ => none
  | .answer clock =>
    match wire.pings with
    | bytes :: rest =>
      let result := wire.handler.handleData codec clock bytes
      some { wire with
        pings := rest
        answers := wire.answers ++ result.actions.filterMap (sentTo wire.session.sender) }
    | [] => none
  | .receive now =>
    match wire.answers with
    | bytes :: rest =>
      let processed :=
        wire.client.handleServerData wireMessages wire.serverId wire.networkAddr now bytes
      some { wire with client := processed.client, answers := rest }
    | [] => none
  | .losePing index => some { wire with pings := wire.pings.eraseIdx index }
  | .loseAnswer index => some { wire with answers := wire.answers.eraseIdx index }

/-- The protocol of the bytes as a machine. -/
def machine (keySign : String → String) : Machine WireSync WireEvent where
  step := step (wireCodec keySign).toHandlerCodec

/-- What is needed of an event: the ping fits and so does the table that answers it, and the clock
that a reply meets can be read. -/
def Fits (wire : WireSync) : WireEvent → Prop
  | .ping now => PingFits (wire.client.serverInfo.handlePing wire.serverId now)
  | .answer _ => TableFits wire.handler.networkState.leaseState
  | .receive now => now < 2 ^ 63
  | _ => True

end WireSync

/-- The event of the messages. -/
def WireEvent.shown : WireEvent → SyncEvent
  | .lease event => .lease event
  | .ping now => .ping now
  | .answer _ => .answer
  | .receive now => .receive now
  | .losePing index => .losePing index
  | .loseAnswer index => .loseAnswer index

/-- The bytes stand for the messages: the session is confirmed and of the client, the table and the
client's list are the same, and what is under way is what the messages become. -/
structure Represents (wire : WireSync) (state : ClientSync) : Prop where
  active : wire.handler.session = some wire.session
  confirmed : wire.session.registrationStatus = .confirmed
  alive : wire.handler.senderAlive = true
  session : wire.session.ip = state.selfIp
  networkAddr : wire.networkAddr.ip = state.selfIp
  serverId : wire.serverId = state.serverId
  net : wire.handler.networkState.net = state.net
  gateway : wire.handler.networkState.gateway = state.gateway
  table : wire.handler.networkState.leaseState = state.table
  collection : wire.client.serverInfo = state.collection
  pings : wire.pings = state.pings.map fun ping =>
    gatewayPacket .pingTurn 0 (pingPayload ping.message)
  answers : wire.answers = state.answers.map fun answer => replyPacket (answer.reply state.selfIp)
  pingsFit : ∀ ping ∈ state.pings, PingFits ping.message
  answersFit : ∀ answer ∈ state.answers, ReplyFits (answer.reply state.selfIp)

/-- Each event of the bytes is the one of the messages. -/
theorem simulates (keySign : String → String) : Simulates (WireSync.machine keySign)
    ClientSync.machine WireSync.Fits (fun event => [event.shown]) Represents := by
  refine simulates_of_steps ?_
  intro wire state event next related fits steps
  cases event with
  | lease event =>
    cases steps
    refine ⟨_, rfl, { related with table := ?_ }⟩
    show wire.handler.networkState.leaseState.apply _ _ event = _
    rw [related.table, related.net, related.gateway]
  | ping now =>
    have asks : wire.client.serverInfo.handlePing wire.serverId now =
        state.collection.handlePing state.serverId now := by
      rw [related.collection, related.serverId]
    replace fits : PingFits (wire.client.serverInfo.handlePing wire.serverId now) := fits
    rw [asks] at fits
    replace steps : (match pingPacket (wire.client.serverInfo.handlePing wire.serverId now) with
      | .ok bytes => some { wire with pings := wire.pings ++ [bytes] }
      | .error _ => none) = some next := steps
    rw [asks, pingPacket_eq] at steps
    cases steps
    refine ⟨_, rfl, { related with pings := ?_, pingsFit := ?_ }⟩
    · show wire.pings ++ _ = _
      rw [related.pings, List.map_append]
      rfl
    · exact List.forall_mem_append.mpr ⟨related.pingsFit, List.forall_mem_singleton.mpr fits⟩
  | answer clock =>
    replace fits : TableFits wire.handler.networkState.leaseState := fits
    replace steps : WireSync.step (wireCodec keySign).toHandlerCodec wire (.answer clock) =
      some next := steps
    have underWay := related.pings
    unfold WireSync.step at steps
    cases pings : state.pings with
    | nil =>
      rw [pings, List.map_nil] at underWay
      rw [underWay] at steps
      cases steps
    | cons ping rest =>
      obtain ⟨first, others⟩ := List.forall_mem_cons.mp (pings ▸ related.pingsFit)
      rw [pings, List.map_cons] at underWay
      rw [underWay] at steps
      dsimp only at steps
      rw [handleData_pingPacket related.active related.confirmed related.alive first] at steps
      cases steps
      have isReply : replyPacket (wire.handler.networkState.leaseState.answerPing wire.session.ip
          ping.message) = replyPacket ((Answer.mk ping state.table).reply state.selfIp) := by
        rw [related.table, related.session]
        rfl
      refine ⟨{ state with
        pings := rest
        answers := state.answers ++ [Answer.mk ping state.table]
        applied := none }, ?_, { related with
          pings := rfl, answers := ?_, pingsFit := others, answersFit := ?_ }⟩
      · show ClientSync.step state .answer = _
        unfold ClientSync.step
        rw [pings]
      · show wire.answers ++ [HandlerAction.trySend _ _].filterMap (sentTo wire.session.sender) = _
        rw [related.answers, List.map_append]
        refine congrArg (_ ++ ·) ?_
        have sent : sentTo wire.session.sender (.trySend wire.session.sender (replyPacket
            (wire.handler.networkState.leaseState.answerPing wire.session.ip ping.message))) =
              some (replyPacket ((Answer.mk ping state.table).reply state.selfIp)) := by
          rw [isReply]
          exact if_pos rfl
        rw [List.filterMap_cons_some sent]
        rfl
      · refine List.forall_mem_append.mpr ⟨related.answersFit, List.forall_mem_singleton.mpr ?_⟩
        rw [related.table] at fits
        exact replyFits_answerPing fits first
  | receive now =>
    replace fits : now < 2 ^ 63 := fits
    replace steps : WireSync.step (wireCodec keySign).toHandlerCodec wire (.receive now) =
      some next := steps
    have underWay := related.answers
    unfold WireSync.step at steps
    cases answers : state.answers with
    | nil =>
      rw [answers, List.map_nil] at underWay
      rw [underWay] at steps
      cases steps
    | cons answer rest =>
      obtain ⟨first, others⟩ := List.forall_mem_cons.mp (answers ▸ related.answersFit)
      rw [answers, List.map_cons] at underWay
      rw [underWay] at steps
      dsimp only at steps
      rw [handleServerData_replyPacket first fits] at steps
      cases steps
      refine ⟨state.receive answer rest now, ?_, { related with
        collection := ?_, answers := rfl, answersFit := others }⟩
      · show ClientSync.step state (.receive now) = _
        unfold ClientSync.step
        rw [answers]
      · show wire.client.serverInfo.handleReply _ _ _ _ = state.collection.handleReply _ _ _ _
        rw [related.collection, related.serverId, related.networkAddr]
  | losePing index =>
    cases steps
    refine ⟨_, rfl, { related with pings := ?_, pingsFit := ?_ }⟩
    · show wire.pings.eraseIdx index = _
      rw [related.pings, List.eraseIdx_map]
    · exact fun ping member => related.pingsFit ping (List.mem_of_mem_eraseIdx member)
  | loseAnswer index =>
    cases steps
    refine ⟨_, rfl, { related with answers := ?_, answersFit := ?_ }⟩
    · show wire.answers.eraseIdx index = _
      rw [related.answers, List.eraseIdx_map]
    · exact fun answer member => related.answersFit answer (List.mem_of_mem_eraseIdx member)

/-- Every run of the bytes is a run of the messages: whatever is sent, answered, taken and lost, the
server's table and the client's list are those of the protocol of pings and answers. -/
theorem wire_refines (keySign : String → String) {wire final : WireSync} {state : ClientSync}
    {events : List WireEvent} (related : Represents wire state)
    (fits : (WireSync.machine keySign).Guarded WireSync.Fits wire events)
    (reaches : (WireSync.machine keySign).run wire events = some final) :
    ∃ after, ClientSync.machine.run state (events.map WireEvent.shown) = some after ∧
      Represents final after := by
  obtain ⟨after, follows, represents⟩ := Simulates.run (simulates keySign) related fits reaches
  refine ⟨after, ?_, represents⟩
  rw [← follows]
  exact congrArg _ List.map_eq_flatMap

/-- The server of an empty network, and a client with the address 10.26.0.2. -/
def exampleState : NetworkState where
  networkCode := "net"
  gateway := 0x0A1A0001
  net := NetworkState.exampleNet
  leaseDuration := 0
  senderMap := ∅
  leaseState := NetworkState.buildInitialInnerState NetworkState.exampleNet 0x0A1A0001 0 0 []
  trafficStatsMap := ∅

def exampleSession : Session where
  networkCode := "net"
  deviceId := "b"
  ip := 0x0A1A0002
  randomId := 0
  sender := 10
  registrationStatus := .confirmed

def exampleWire : WireSync where
  handler := ⟨some exampleSession, exampleState, none, fun _ _ => false, true⟩
  session := exampleSession
  client := plainClient
  serverId := 7
  networkAddr := ⟨0x0A1A0001, 0x0A1A00FF, 0x0A1A0002, 24⟩
  pings := []
  answers := []

/-- Another client registers, and the list of the client follows. -/
def exampleEvents : List WireEvent :=
  [.lease (.allocateIp (NetworkState.exampleRequest "a" none false) 3 0 3), .ping 4, .answer 0,
    .receive 5]

theorem wire_refines_example : ∃ final after,
    (WireSync.machine id).run exampleWire exampleEvents = some final ∧
    ClientSync.machine.run (.start NetworkState.exampleNet 0x0A1A0001 [] 0 0x0A1A0002 7)
      (exampleEvents.map WireEvent.shown) = some after ∧
    Represents final after := by
  have related : Represents exampleWire
      (.start NetworkState.exampleNet 0x0A1A0001 [] 0 0x0A1A0002 7) :=
    ⟨rfl, rfl, rfl, rfl, rfl, rfl, rfl, rfl, rfl, rfl, rfl, rfl,
      List.forall_mem_nil _, List.forall_mem_nil _⟩
  have reached : ∃ final, (WireSync.machine id).run exampleWire exampleEvents = some final :=
    ⟨_, rfl⟩
  have fits : (WireSync.machine id).Guarded WireSync.Fits exampleWire exampleEvents := by
    refine ⟨trivial, fun _ first => ?_⟩
    cases first
    refine ⟨⟨by decide, by decide⟩, fun _ second => ?_⟩
    cases second
    exact ⟨⟨by decide, by decide⟩, fun _ _ => ⟨show (5 : Int) < 2 ^ 63 by decide,
      fun _ _ => trivial⟩⟩
  obtain ⟨final, reaches⟩ := reached
  obtain ⟨after, follows, represents⟩ := wire_refines id related fits reaches
  exact ⟨final, after, reaches, follows, represents⟩

end Vnt.Sync
