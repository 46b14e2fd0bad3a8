/-
This file embeds what a server knows of the servers it is connected to. Each peer has a shared
record with its latency and its connection, and the routes say through which peers an address of
a network can be reached and how far it is behind them. The routes follow the lists of clients
the peers send, and a unicast packet goes to the best route unless the local client is nearer.
-/

import Mathlib.Data.List.MinMax
import Mathlib.Data.List.Sort
import Vnt.Protocol.NetPacket
import Vnt.Server.NetworkState

namespace Vnt.Server

open Vnt.Base

/-- The identity of a shared `PeerServerInfo`. -/
abbrev PeerId : Type := Nat

/-- The sending half of the queue of a peer's loop. -/
abbrev PeerSender : Type := Nat

/-- A handle of a QUIC connection. -/
abbrev PeerConnection : Type := Nat

/-- `DEFAULT_CLIENT_LATENCY_MS`. -/
def defaultClientLatencyMs : UInt32 := 10

/-- `DEFAULT_SERVER_LATENCY_MS`. -/
def defaultServerLatencyMs : UInt32 := 10

/-- `MAX_ROUTES_PER_IP`. -/
def maxRoutesPerIp : Nat := 5

/-! ### The messages between servers -/

/-- `ServerForwardData`. -/
structure ServerForwardData where
  networkCode : String
  data : List UInt8
  deriving DecidableEq, Repr

/-- `ClientLatencyInfo`. -/
structure ClientLatencyInfo where
  ip : Ipv4Addr
  latencyMs : UInt32
  deriving DecidableEq, Repr

/-- `NetworkInfo`. -/
structure NetworkInfo where
  networkCode : String
  clients : List ClientLatencyInfo
  deriving DecidableEq, Repr

/-- `ServerMessage`, by its payload. -/
inductive ServerMessage where
  | authReq (tokenHash : String)
  | authRes (success : Bool) (message : String)
  | pingReq (timestamp : UInt64)
  | pingRes (requestTimestamp responseTimestamp : UInt64)
  | forwardData (forward : ServerForwardData)
  | clientInfoReq (networkCodes : List String)
  | clientInfoRes (networks : List NetworkInfo)
  deriving DecidableEq, Repr

/-! ### The record of a peer -/

/-- `PeerServerInfoInner`. -/
structure PeerServerInfo where
  addr : String
  latencyMs : UInt32
  sender : Option PeerSender
  connection : Option PeerConnection
  connected : Bool
  isOutbound : Bool
  deriving DecidableEq, Repr

namespace PeerServerInfo

/-- `PeerServerInfo::new`. -/
def new (addr : String) (isOutbound : Bool) : PeerServerInfo :=
  ⟨addr, defaultServerLatencyMs, none, none, false, isOutbound⟩

def setConnected (info : PeerServerInfo) (sender : PeerSender) (connection : PeerConnection) :
    PeerServerInfo :=
  { info with sender := some sender, connection := some connection, connected := true }

def setDisconnected (info : PeerServerInfo) : PeerServerInfo :=
  { info with sender := none, connection := none, connected := false }

def updateLatency (info : PeerServerInfo) (latency : UInt32) : PeerServerInfo :=
  { info with latencyMs := latency }

/-- `PeerServerInfo::send_datagram`; `accepts` tells which messages a connection takes as a
datagram. -/
def sendDatagram (info : PeerServerInfo) (accepts : PeerConnection → ServerMessage → Bool)
    (message : ServerMessage) : Bool :=
  match info.connection with
  | some connection => accepts connection message
  | none => false

end PeerServerInfo

/-- `IpRouteInfo`. -/
structure IpRouteInfo where
  peerInfo : PeerId
  clientLatencyMs : UInt32
  deriving DecidableEq, Repr

/-- `PeerServerManager`, with the records its peers share. -/
structure PeerServerManager where
  networkStates : Map String NetworkState
  peerInfos : PeerId → PeerServerInfo
  ipToRoutes : Map String (Map Ipv4Addr (List IpRouteInfo))

namespace PeerServerManager

/-- `IpRouteInfo::total_latency`; the sum wraps as it does without overflow checks. -/
def totalLatency (manager : PeerServerManager) (route : IpRouteInfo) : UInt32 :=
  (manager.peerInfos route.peerInfo).latencyMs + route.clientLatencyMs + 2

/-- The routes to an address of a network. -/
def routesTo (manager : PeerServerManager) (networkCode : String) (ip : Ipv4Addr) :
    List IpRouteInfo :=
  ((manager.ipToRoutes.lookup networkCode).bind fun ipMap => ipMap.lookup ip).getD []

/-- `PeerServerInfo` as it is after a change of the shared record. -/
def updatePeer (manager : PeerServerManager) (peer : PeerId)
    (change : PeerServerInfo → PeerServerInfo) : PeerServerManager :=
  { manager with
    peerInfos := Function.update manager.peerInfos peer (change (manager.peerInfos peer)) }

/-! ### The lists of clients -/

/-- The answer for one network in `handle_client_info_request`. -/
def clientsOf (state : NetworkState) : List ClientLatencyInfo :=
  state.senderMap.keys.map fun ip =>
    { ip := ip
      latencyMs := ((state.getDeviceEntryByIp ip).bind DeviceEntry.latencyMs).getD
        defaultClientLatencyMs }

/-- `handle_client_info_request`. -/
def handleClientInfoRequest (manager : PeerServerManager) (networkCodes : List String) :
    List NetworkInfo :=
  networkCodes.map fun networkCode =>
    { networkCode := networkCode
      clients :=
        match manager.networkStates.lookup networkCode with
        | some state => clientsOf state
        | none => [] }

/-- The latency of the route through a peer is renewed, or the route is added. -/
def renewRoute (peer : PeerId) (latencyMs : UInt32) : List IpRouteInfo → List IpRouteInfo
  | [] => [⟨peer, latencyMs⟩]
  | route :: rest =>
    if route.peerInfo = peer then { route with clientLatencyMs := latencyMs } :: rest
    else route :: renewRoute peer latencyMs rest

/-- The routes of one address after its client was listed by the peer. -/
def addRoute (manager : PeerServerManager) (peer : PeerId) (client : ClientLatencyInfo)
    (ipMap : Map Ipv4Addr (List IpRouteInfo)) : Map Ipv4Addr (List IpRouteInfo) :=
  ipMap.insert client.ip
    (match ipMap.lookup client.ip with
    | some routes =>
      ((renewRoute peer client.latencyMs routes).insertionSort
        fun first second => manager.totalLatency first ≤ manager.totalLatency second).take
          maxRoutesPerIp
    | none => [⟨peer, client.latencyMs⟩])

/-- The routes that do not go through the peer, `none` when there are none. -/
def withoutPeer (peer : PeerId) (routes : List IpRouteInfo) : Option (List IpRouteInfo) :=
  match routes.filter fun route => route.peerInfo ≠ peer with
  | [] => none
  | rest => some rest

/-- One network of a list the peer sent. -/
def syncNetwork (manager : PeerServerManager) (peer : PeerId) (network : NetworkInfo) :
    PeerServerManager :=
  let ipMap := (manager.ipToRoutes.lookup network.networkCode).getD ∅
  let listed := network.clients.foldl (fun ipMap client => manager.addRoute peer client ipMap) ipMap
  let synced := listed.retain fun ip routes =>
    if ip ∈ network.clients.map ClientLatencyInfo.ip then
      if routes = [] then none else some routes
    else withoutPeer peer routes
  { manager with ipToRoutes := manager.ipToRoutes.insert network.networkCode synced }

/-- `handle_client_info_response`: the manager and the networks the peer has listed so far. -/
def handleClientInfoResponse (manager : PeerServerManager) (peer : PeerId)
    (networkCodes : List String) (networks : List NetworkInfo) :
    PeerServerManager × List String :=
  (networks.foldl (fun manager network => manager.syncNetwork peer network) manager,
    networks.foldl (fun codes network => codes.insert network.networkCode) networkCodes)

/-- `cleanup_routes`. -/
def cleanupRoutes (manager : PeerServerManager) (peer : PeerId) (networkCodes : List String) :
    PeerServerManager :=
  { manager with
    ipToRoutes := manager.ipToRoutes.retain fun networkCode ipMap =>
      some (if networkCode ∈ networkCodes then ipMap.retain fun _ routes => withoutPeer peer routes
        else ipMap) }

/-! ### The choice of a route -/

/-- The loop of `find_best_route`. -/
def pickBest (manager : PeerServerManager) :
    Option (PeerId × UInt32) → List IpRouteInfo → Option (PeerId × UInt32)
  | best, [] => best
  | best, route :: rest =>
    if (manager.peerInfos route.peerInfo).connected = true then
      match best with
      | none => manager.pickBest (some (route.peerInfo, manager.totalLatency route)) rest
      | some (_, currentBest) =>
        if manager.totalLatency route < currentBest then
          manager.pickBest (some (route.peerInfo, manager.totalLatency route)) rest
        else manager.pickBest best rest
    else manager.pickBest best rest

/-- The latency stored for the local client with an address. -/
def localLatency (manager : PeerServerManager) (networkCode : String) (targetIp : Ipv4Addr) :
    Option UInt32 :=
  ((manager.networkStates.lookup networkCode).bind fun state =>
    state.getDeviceEntryByIp targetIp).bind DeviceEntry.latencyMs

/-- `find_best_route`: the best peer, the latency through it and the local latency. -/
def findBestRoute (manager : PeerServerManager) (networkCode : String) (targetIp : Ipv4Addr) :
    Option (PeerId × UInt32 × Option UInt32) :=
  (manager.pickBest none (manager.routesTo networkCode targetIp)).map fun best =>
    (best.1, best.2, manager.localLatency networkCode targetIp)

/-- There is a local sender for the address. -/
def localHasClient (manager : PeerServerManager) (networkCode : String) (targetIp : Ipv4Addr) :
    Bool :=
  match manager.networkStates.lookup networkCode with
  | some state => (state.senderMap.lookup targetIp).isSome
  | none => false

/-- The choice between the remote and the local path in `forward_with_best_route`. -/
def shouldForward (remoteLatency : UInt32) (localLatency : Option UInt32)
    (localHasClient : Bool) : Bool :=
  match localLatency with
  | some localLat => decide (remoteLatency < localLat)
  | none =>
    if localHasClient = true then decide (remoteLatency < defaultClientLatencyMs) else true

/-- `forward_to_peer`: the message handed to the connection of the peer, `none` for `false`. -/
def forwardToPeer (manager : PeerServerManager)
    (accepts : PeerConnection → ServerMessage → Bool) (peer : PeerId) (networkCode : String)
    (data : List UInt8) : Option (PeerId × ServerForwardData) :=
  if (manager.peerInfos peer).sendDatagram accepts (.forwardData ⟨networkCode, data⟩) = true then
    some (peer, ⟨networkCode, data⟩)
  else none

/-- `forward_with_best_route`: what was handed to which peer, `none` for `false`. -/
def forwardWithBestRoute (manager : PeerServerManager)
    (accepts : PeerConnection → ServerMessage → Bool) (networkCode : String) (targetIp : Ipv4Addr)
    (data : List UInt8) : Option (PeerId × ServerForwardData) :=
  match manager.findBestRoute networkCode targetIp with
  | some (peer, remoteLatency, localLatency) =>
    if shouldForward remoteLatency localLatency
        (manager.localHasClient networkCode targetIp) = true then
      manager.forwardToPeer accepts peer networkCode data
    else none
  | none => none

/-- `handle_forward_data`: what is put into which sender. -/
def handleForwardData (manager : PeerServerManager) (forward : ServerForwardData) :
    Option (Sender × List UInt8) :=
  (manager.networkStates.lookup forward.networkCode).bind fun state =>
    match NetPacket.new (.ofBytes forward.data) with
    | .error _ => none
    | .ok packet =>
      (state.senderMap.lookup packet.header.destId).map fun sender => (sender, packet.intoBytes)

/-! ### What the loop finds -/

/-- The peer of a route is connected. -/
def isConnected (manager : PeerServerManager) (route : IpRouteInfo) : Bool :=
  (manager.peerInfos route.peerInfo).connected

/-- The connected route with the least total latency, the first one when there are several. -/
def bestRoute (manager : PeerServerManager) (networkCode : String) (targetIp : Ipv4Addr) :
    Option IpRouteInfo :=
  ((manager.routesTo networkCode targetIp).filter manager.isConnected).argmin
    fun route => (manager.totalLatency route).toNat

/-- What the loop keeps of a route. -/
def candidate (manager : PeerServerManager) (route : IpRouteInfo) : PeerId × UInt32 :=
  (route.peerInfo, manager.totalLatency route)

theorem pickBest_eq (manager : PeerServerManager) (best : Option IpRouteInfo)
    (routes : List IpRouteInfo) :
    manager.pickBest (best.map manager.candidate) routes =
      ((routes.filter manager.isConnected).foldl
        (List.argAux fun first second =>
          (manager.totalLatency first).toNat < (manager.totalLatency second).toNat) best).map
        manager.candidate := by
  induction routes generalizing best with
  | nil => cases best <;> rfl
  | cons route rest inductionHypothesis =>
    unfold pickBest
    cases connected : (manager.peerInfos route.peerInfo).connected with
    | false =>
      rw [if_neg Bool.false_ne_true, List.filter_cons_of_neg (by simp [isConnected, connected])]
      exact inductionHypothesis best
    | true =>
      rw [if_pos rfl, List.filter_cons_of_pos (by simp [isConnected, connected]), List.foldl_cons]
      cases best with
      | none => exact inductionHypothesis (some route)
      | some current =>
        simp only [Option.map_some, candidate, UInt32.lt_iff_toNat_lt]
        by_cases better :
            (manager.totalLatency route).toNat < (manager.totalLatency current).toNat
        · rw [if_pos better]
          simp only [List.argAux, if_pos better]
          exact inductionHypothesis (some route)
        · rw [if_neg better]
          simp only [List.argAux, if_neg better]
          exact inductionHypothesis (some current)

/-- The loop finds the best route. -/
theorem findBestRoute_eq (manager : PeerServerManager) (networkCode : String)
    (targetIp : Ipv4Addr) :
    manager.findBestRoute networkCode targetIp =
      (manager.bestRoute networkCode targetIp).map fun route =>
        (route.peerInfo, manager.totalLatency route,
          manager.localLatency networkCode targetIp) := by
  unfold findBestRoute bestRoute List.argmin
  rw [← Option.map_none (f := manager.candidate), pickBest_eq, Option.map_map]
  rfl

end PeerServerManager

end Vnt.Server
