/-
This file embeds a group of connected servers as a machine. Clients register with any of them,
the packets that arrive on their sessions are handled with the network state of the session, and
what is forwarded to another server is under way as a datagram that may arrive late, more than
once or never. The group keeps what was put into which sender, with the network of the session on
which the packet that caused it had been received, and which registrations got a sender installed.
-/

import Vnt.Server.Handler
import Vnt.Server.Networks

namespace Vnt.Server

open Vnt.Base

/-- What the libraries compute: the messages of the handler, the messages of a registration and the
sign of a secret. -/
structure ServerCodec extends HandlerCodec where
  encodeRegResponse : Ipv4Addr → UInt8 → Ipv4Addr → List UInt8
  encodeErrorResponse : UInt32 → String → List UInt8
  encodeConfirmRegResponse : Bool → List UInt8
  keySign : String → String

/-- What a server knows of its peers, and which server of the group each one is. -/
structure PeerTable where
  peerInfos : PeerId → PeerServerInfo
  ipToRoutes : Map String (Map Ipv4Addr (List IpRouteInfo))
  target : PeerId → Nat

/-- One server of the group. -/
structure GroupServer where
  service : NetworkService
  peers : Option PeerTable

/-- A message on its way to a server, with the network of the session it comes from. -/
structure Datagram where
  networkCode : String
  target : Nat
  message : ServerForwardData
  deriving DecidableEq, Repr

/-- Bytes that were put into a sender of a server, with the network of the session they come
from. -/
structure Put where
  networkCode : String
  server : Nat
  sender : Sender
  data : List UInt8
  deriving DecidableEq, Repr

/-- A registration whose sender a server installed. -/
structure Admission where
  server : Nat
  sender : Sender
  req : RegRequestMsg
  deriving DecidableEq, Repr

/-- What a step leaves outside of the server that takes it. -/
structure Output where
  puts : List Put
  datagrams : List Datagram
  admissions : List Admission
  deriving DecidableEq, Repr

/-- Nothing. -/
def Output.none : Output := ⟨[], [], []⟩

/-- The group of servers. -/
structure Group where
  servers : List GroupServer
  inFlight : List Datagram
  puts : List Put
  admissions : List Admission

/-- One step of a server, and the arrival of a datagram. -/
inductive GroupEvent where
  | register (server : Nat) (req : RegRequestMsg) (sender : Sender)
  | continueRegister (server index : Nat)
  | createState (server index : Nat) (now : SystemTime) (stats : StatsRef)
      (records : List DeviceRecord)
  | allocate (server index : Nat) (randomId : RandomId) (now : SystemTime) (stats : StatsRef)
  | receive (server index : Nat) (now : UInt64) (buf : List UInt8)
      (accepts : PeerConnection → ServerMessage → Bool) (senderAlive : Bool)
      (saved : Except String Unit)
  | close (server index : Nat) (heap : StatsHeap) (now : SystemTime)
  | operate (server : Nat) (state : StateRef) (operation : StateOperation)
  | request (server : Nat) (request : NetworkRequest)
  | finish (server index : Nat) (succeeds : Bool)
  | learn (server : Nat) (peers : Option PeerTable)
  | deliver (index : Nat)

namespace NetworkService

/-- Change a state that sessions may share. -/
def modifyState (service : NetworkService) (ref : StateRef)
    (change : NetworkState → NetworkState) : NetworkService :=
  { service with states := service.states.modify ref change }

/-- `NetworkStateProvider::update_client_latency`. -/
def updateClientLatency (service : NetworkService) (networkCode : String) (ip : Ipv4Addr)
    (latencyMs : UInt32) : NetworkService :=
  match service.provider.lookup networkCode with
  | some ref => service.modifyState ref fun state => state.updateClientLatency ip latencyMs
  | none => service

/-- `Session::drop` when a connection closes. -/
def closeSession (service : NetworkService) (index : Nat) (heap : StatsHeap) (now : SystemTime) :
    Option NetworkService :=
  service.sessions[index]?.map fun live =>
    let session := live.session
    { service with sessions := service.sessions.eraseIdx index }.modifyState live.state
      fun state => state.operate
        (match session.registrationStatus with
        | .confirmed => .offlineIp heap session.deviceId session.ip session.randomId now
        | .pendingConfirmation => .releaseLease session.deviceId session.ip session.randomId)

end NetworkService

namespace GroupServer

/-- The manager of the peers, which shares the network states. -/
def manager (server : GroupServer) : Option PeerServerManager :=
  server.peers.map fun peers =>
    { networkStates := server.service.networkStates
      peerInfos := peers.peerInfos
      ipToRoutes := peers.ipToRoutes }

/-- The handler of a session. -/
def handler (server : GroupServer) (live : LiveSession) (state : NetworkState)
    (accepts : PeerConnection → ServerMessage → Bool) (senderAlive : Bool) : ControlHandler where
  session := some live.session
  networkState := state
  peerManager := server.manager
  accepts := accepts
  senderAlive := senderAlive

/-- `handle_confirm_reg`; the row is saved first. -/
def confirmReg (codec : ServerCodec) (server : GroupServer) (index : Nat) (live : LiveSession)
    (senderAlive : Bool) (saved : Except String Unit) :
    GroupServer × List (Sender × List UInt8) :=
  if senderAlive = false ∨ live.session.registrationStatus ≠ .pendingConfirmation then (server, [])
  else
    match saved with
    | .error message =>
      (server, [(live.session.sender,
        codec.encodeErrorResponse 500 s!"Failed to save registration: {message}")])
    | .ok () =>
      ({ server with
          service := { server.service with
            sessions := server.service.sessions.set index
              { live with session := { live.session with registrationStatus := .confirmed } } } },
        [(live.session.sender, codec.encodeConfirmRegResponse true)])

/-- One action of the handler: what becomes of the server, what it puts into senders, and what it
sends to peers. The counters of the traffic are left out. -/
def perform (codec : ServerCodec) (server : GroupServer) (index : Nat) (live : LiveSession)
    (senderAlive : Bool) (saved : Except String Unit) :
    HandlerAction → GroupServer × List (Sender × List UInt8) × List (Nat × ServerForwardData)
  | .trySend sender data => (server, [(sender, data)], [])
  | .forward peer message =>
    (server, [], (server.peers.map fun peers => (peers.target peer, message)).toList)
  | .recordTx _ _ | .recordRx _ _ => (server, [], [])
  | .updateClientLatency networkCode ip latencyMs =>
    ({ server with service := server.service.updateClientLatency networkCode ip latencyMs }, [], [])
  | .confirmReg =>
    let confirmed := server.confirmReg codec index live senderAlive saved
    (confirmed.1, confirmed.2, [])

/-- The actions of the handler, in order. -/
def performAll (codec : ServerCodec) (index : Nat) (live : LiveSession) (senderAlive : Bool)
    (saved : Except String Unit) (server : GroupServer) :
    List HandlerAction →
      GroupServer × List (Sender × List UInt8) × List (Nat × ServerForwardData)
  | [] => (server, [], [])
  | action :: rest =>
    let first := server.perform codec index live senderAlive saved action
    let later := performAll codec index live senderAlive saved first.1 rest
    (later.1, first.2.1 ++ later.2.1, first.2.2 ++ later.2.2)

/-- `handle_data` on a session. -/
def receive (codec : ServerCodec) (number : Nat) (server : GroupServer) (index : Nat)
    (now : UInt64) (buf : List UInt8) (accepts : PeerConnection → ServerMessage → Bool)
    (senderAlive : Bool) (saved : Except String Unit) : Option (GroupServer × Output) :=
  server.service.sessions[index]?.bind fun live =>
    server.service.states[live.state]?.map fun state =>
      let handler := server.handler live state accepts senderAlive
      let actions := (handler.handleData codec.toHandlerCodec now buf).actions
      let result := performAll codec index live senderAlive saved server actions
      (result.1,
        { puts := result.2.1.map fun put => ⟨live.session.networkCode, number, put.1, put.2⟩
          datagrams := result.2.2.map fun sent => ⟨live.session.networkCode, sent.1, sent.2⟩
          admissions := [] })

/-- The end of `handle_reg`: the session gets its address and the client the response. -/
def allocate (codec : ServerCodec) (number : Nat) (server : GroupServer) (index : Nat)
    (randomId : RandomId) (now : SystemTime) (stats : StatsRef) :
    Option (GroupServer × Output) :=
  (server.service.allocate index randomId now stats).map fun result =>
    ({ server with service := result.1 },
      match result.2 with
      | some (registration, session, state) =>
        { puts := [⟨session.networkCode, number, registration.sender,
            codec.encodeRegResponse session.ip (UInt8.ofNat state.net.prefixLen.val)
              state.gateway⟩]
          datagrams := []
          admissions := [⟨number, registration.sender, registration.req⟩] }
      | none => .none)

/-- One step of a server of the group. -/
def step (codec : ServerCodec) (number : Nat) (server : GroupServer) :
    GroupEvent → Option (GroupServer × Output)
  | .register _ req sender =>
    (server.service.beginRegister codec.keySign req sender).map fun service =>
      ({ server with service := service }, .none)
  | .continueRegister _ index =>
    (server.service.continueRegister index).map fun service =>
      ({ server with service := service }, .none)
  | .createState _ index now stats records =>
    (server.service.createState index now stats records).map fun service =>
      ({ server with service := service }, .none)
  | .allocate _ index randomId now stats => server.allocate codec number index randomId now stats
  | .receive _ index now buf accepts senderAlive saved =>
    server.receive codec number index now buf accepts senderAlive saved
  | .close _ index heap now =>
    (server.service.closeSession index heap now).map fun service =>
      ({ server with service := service }, .none)
  | .operate _ ref operation =>
    some ({ server with
      service := server.service.modifyState ref fun state => state.operate operation }, .none)
  | .request _ request =>
    match server.service.request request with
    | .ok change =>
      some ({ server with
        service := { server.service with changes := change :: server.service.changes } }, .none)
    | .error _ => some (server, .none)
  | .finish _ index succeeds =>
    server.service.changes[index]?.map fun change =>
      let rest := { server.service with changes := server.service.changes.eraseIdx index }
      ({ server with service := if succeeds then rest.applyChange change else rest }, .none)
  | .learn _ peers => some ({ server with peers := peers }, .none)
  | .deliver _ => none

end GroupServer

/-- The server that takes a step, when the event is one of a server. -/
def GroupEvent.server : GroupEvent → Option Nat
  | .register server .. | .continueRegister server _ | .createState server ..
  | .allocate server .. | .receive server .. | .close server .. | .operate server ..
  | .request server _ | .finish server .. | .learn server _ => some server
  | .deliver _ => none

namespace Group

/-- A group whose servers have loaded their networks and know no peers yet. -/
def start (settings : List ServiceSettings) : Group :=
  ⟨settings.map fun settings => ⟨.new settings, none⟩, [], [], []⟩

/-- The group after a step of one of its servers. -/
def commit (group : Group) (number : Nat) (server : GroupServer) (output : Output) : Group where
  servers := group.servers.set number server
  inFlight := group.inFlight ++ output.datagrams
  puts := group.puts ++ output.puts
  admissions := group.admissions ++ output.admissions

/-- A datagram arrives, and stays under way. -/
def deliver (group : Group) (index : Nat) : Option Group :=
  group.inFlight[index]?.bind fun datagram =>
    group.servers[datagram.target]?.bind fun server =>
      server.manager.map fun manager =>
        match manager.handleForwardData datagram.message with
        | some (sender, data) =>
          { group with
            puts := group.puts ++ [⟨datagram.networkCode, datagram.target, sender, data⟩] }
        | none => group

/-- The group as a machine. -/
def machine (codec : ServerCodec) : Machine Group GroupEvent where
  step := fun group event =>
    match event with
    | .deliver index => group.deliver index
    | _ =>
      event.server.bind fun number =>
        group.servers[number]?.bind fun server =>
          (server.step codec number event).map fun result =>
            group.commit number result.1 result.2

end Group

end Vnt.Server
