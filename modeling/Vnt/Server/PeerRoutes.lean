/-
This file settles whether the routes of a server go through peers it is connected to. A loop enters
routes through its peer and takes them away again when its connection ends. But the loop of a peer
the server connects to may also be stopped from outside while it waits, and then nobody takes its
routes away; and a peer may be taken off the list of peers while its loop runs. All routes are live
exactly when neither happens to a peer that routes go through.
-/

import Vnt.Base.Machine
import Vnt.Server.PeerServer

namespace Vnt.Server

open Vnt.Base

/-! ### The list of a peer, one entry at a time -/

/-- One access to the routes while a list is handled: a client is entered, or the addresses of a
network that are not listed lose their routes through the peer. -/
inductive RouteStep where
  | list (networkCode : String) (client : ClientLatencyInfo)
  | retain (networkCode : String) (synced : List Ipv4Addr)
  deriving DecidableEq, Repr

def RouteStep.networkCode : RouteStep → String
  | list networkCode _ => networkCode
  | retain networkCode _ => networkCode

/-- The accesses for one network of the list. -/
def NetworkInfo.steps (network : NetworkInfo) : List RouteStep :=
  network.clients.map (RouteStep.list network.networkCode) ++
    [.retain network.networkCode (network.clients.map ClientLatencyInfo.ip)]

namespace PeerServerManager

/-- The routes of a network. -/
def ipMap (manager : PeerServerManager) (networkCode : String) : Map Ipv4Addr (List IpRouteInfo) :=
  (manager.ipToRoutes.lookup networkCode).getD ∅

def setIpMap (manager : PeerServerManager) (networkCode : String)
    (ipMap : Map Ipv4Addr (List IpRouteInfo)) : PeerServerManager :=
  { manager with ipToRoutes := manager.ipToRoutes.insert networkCode ipMap }

/-- One access of `handle_client_info_response`. -/
def routeStep (manager : PeerServerManager) (peer : PeerId) : RouteStep → PeerServerManager
  | .list networkCode client =>
    manager.setIpMap networkCode (manager.addRoute peer client (manager.ipMap networkCode))
  | .retain networkCode synced =>
    manager.setIpMap networkCode ((manager.ipMap networkCode).retain fun ip routes =>
      if ip ∈ synced then if routes = [] then none else some routes else withoutPeer peer routes)

/-- A route through the peer. -/
def RoutesThrough (manager : PeerServerManager) (peer : PeerId) : Prop :=
  ∃ networkCode ip, ∃ route ∈ manager.routesTo networkCode ip, route.peerInfo = peer

variable {manager : PeerServerManager} {peer : PeerId} {networkCode other : String} {ip : Ipv4Addr}
  {route : IpRouteInfo}

theorem ipMap_setIpMap (routes : Map Ipv4Addr (List IpRouteInfo)) :
    (manager.setIpMap networkCode routes).ipMap networkCode = routes := by
  unfold ipMap setIpMap
  rw [AList.lookup_insert]
  rfl

theorem setIpMap_setIpMap (first second : Map Ipv4Addr (List IpRouteInfo)) :
    (manager.setIpMap networkCode first).setIpMap networkCode second =
      manager.setIpMap networkCode second := by
  unfold setIpMap
  rw [AList.insert_insert]

/-- The clients of a network are entered one after the other. -/
theorem foldl_routeStep_list (clients : List ClientLatencyInfo)
    (routes : Map Ipv4Addr (List IpRouteInfo)) :
    (clients.map (RouteStep.list networkCode)).foldl (fun manager step =>
        manager.routeStep peer step) (manager.setIpMap networkCode routes) =
      manager.setIpMap networkCode (clients.foldl (fun routes client =>
        manager.addRoute peer client routes) routes) := by
  induction clients generalizing routes with
  | nil => rfl
  | cons client rest inductionHypothesis =>
    rw [List.map_cons, List.foldl_cons, List.foldl_cons]
    have first : (manager.setIpMap networkCode routes).routeStep peer (.list networkCode client) =
        manager.setIpMap networkCode (manager.addRoute peer client routes) := by
      change ((manager.setIpMap networkCode routes).setIpMap networkCode
        (manager.addRoute peer client ((manager.setIpMap networkCode routes).ipMap
          networkCode))) = _
      rw [ipMap_setIpMap, setIpMap_setIpMap]
    rw [first]
    exact inductionHypothesis _

/-- Without interference the accesses for a network are what the handler makes of it. -/
theorem foldl_routeStep_steps (manager : PeerServerManager) (peer : PeerId)
    (network : NetworkInfo) :
    network.steps.foldl (fun manager step => manager.routeStep peer step) manager =
      manager.syncNetwork peer network := by
  unfold NetworkInfo.steps
  rw [List.foldl_append]
  cases clients : network.clients with
  | nil =>
    unfold syncNetwork
    rw [clients]
    rfl
  | cons client rest =>
    change (List.foldl _ (manager.setIpMap network.networkCode _)
      (rest.map (RouteStep.list network.networkCode))).routeStep peer (.retain _ _) = _
    rw [foldl_routeStep_list]
    change (manager.setIpMap network.networkCode _).setIpMap network.networkCode
      (Map.retain ((manager.setIpMap network.networkCode _).ipMap network.networkCode) _) = _
    rw [ipMap_setIpMap, setIpMap_setIpMap]
    unfold syncNetwork
    rw [clients]
    rfl

/-! ### What an access changes -/

theorem routesTo_eq : manager.routesTo networkCode ip =
    ((manager.ipMap networkCode).lookup ip).getD [] := by
  unfold routesTo ipMap
  cases manager.ipToRoutes.lookup networkCode <;> rfl

theorem routesTo_setIpMap (routes : Map Ipv4Addr (List IpRouteInfo)) :
    (manager.setIpMap networkCode routes).routesTo other ip =
      if other = networkCode then (routes.lookup ip).getD [] else manager.routesTo other ip := by
  unfold routesTo setIpMap
  dsimp only
  rw [Map.lookup_insert_eq]
  split <;> rfl

theorem mem_renewRoute {latencyMs : UInt32} {routes : List IpRouteInfo}
    (member : route ∈ renewRoute peer latencyMs routes) :
    route ∈ routes ∨ route.peerInfo = peer := by
  induction routes with
  | nil => exact .inr (congrArg IpRouteInfo.peerInfo (List.mem_singleton.mp member))
  | cons first rest inductionHypothesis =>
    unfold renewRoute at member
    split at member
    · next same =>
      rcases List.mem_cons.mp member with rfl | later
      · exact .inr same
      · exact .inl (List.mem_cons_of_mem _ later)
    · rcases List.mem_cons.mp member with rfl | later
      · exact .inl List.mem_cons_self
      · exact (inductionHypothesis later).imp_left (List.mem_cons_of_mem _)

/-- A client that is entered adds at most a route through the peer, at its own place. -/
theorem mem_routesTo_list {client : ClientLatencyInfo}
    (member : route ∈ (manager.routeStep peer (.list networkCode client)).routesTo other ip) :
    route ∈ manager.routesTo other ip ∨
      other = networkCode ∧ ip = client.ip ∧ route.peerInfo = peer := by
  unfold routeStep at member
  dsimp only at member
  rw [routesTo_setIpMap] at member
  split at member
  · next same =>
    unfold addRoute at member
    rw [Map.lookup_insert_eq] at member
    split at member
    · next sameIp =>
      rw [Option.getD_some] at member
      split at member
      · next routes found =>
        rcases mem_renewRoute (List.mem_insertionSort _ |>.mp (List.mem_of_mem_take member)) with
          before | through
        · rw [same, sameIp, routesTo_eq, found]
          exact .inl before
        · exact .inr ⟨same, sameIp, through⟩
      · exact .inr ⟨same, sameIp, congrArg IpRouteInfo.peerInfo (List.mem_singleton.mp member)⟩
    · rw [same, routesTo_eq]
      exact .inl member
  · exact .inl member

theorem mem_withoutPeer {routes rest : List IpRouteInfo}
    (kept : withoutPeer peer routes = some rest)
    (member : route ∈ rest) : route ∈ routes ∧ route.peerInfo ≠ peer := by
  unfold withoutPeer at kept
  split at kept
  · cases kept
  · cases kept
    obtain ⟨before, differs⟩ := List.mem_filter.mp member
    exact ⟨before, of_decide_eq_true differs⟩

theorem mem_routesTo_retain {synced : List Ipv4Addr}
    (member : route ∈ (manager.routeStep peer (.retain networkCode synced)).routesTo other ip) :
    route ∈ manager.routesTo other ip := by
  unfold routeStep at member
  dsimp only at member
  rw [routesTo_setIpMap] at member
  split at member
  · next same =>
    rw [Map.lookup_retain] at member
    rw [same, routesTo_eq]
    cases found : (manager.ipMap networkCode).lookup ip with
    | none =>
      rw [found] at member
      cases member
    | some routes =>
      rw [found, Option.bind_some] at member
      split at member
      · split at member
        · cases member
        · exact member
      · cases kept : withoutPeer peer routes with
        | none =>
          rw [kept] at member
          cases member
        | some rest =>
          rw [kept] at member
          exact (mem_withoutPeer kept member).1
  · exact member

/-- What is left after a network was cleaned up does not go through the peer there. -/
theorem mem_routesTo_cleanupRoutes
    (member : route ∈ (manager.cleanupRoutes peer [networkCode]).routesTo other ip) :
    route ∈ manager.routesTo other ip ∧ (other = networkCode → route.peerInfo ≠ peer) := by
  unfold cleanupRoutes routesTo at member
  unfold routesTo
  dsimp only at member
  rw [Map.lookup_retain] at member
  cases found : manager.ipToRoutes.lookup other with
  | none =>
    rw [found] at member
    cases member
  | some routes =>
    rw [found, Option.bind_some, Option.bind_some] at member
    rw [Option.bind_some]
    by_cases cleaned : other ∈ [networkCode]
    · rw [if_pos cleaned, Map.lookup_retain] at member
      cases isRoutes : routes.lookup ip with
      | none =>
        rw [isRoutes] at member
        cases member
      | some list =>
        rw [isRoutes, Option.bind_some] at member
        cases kept : withoutPeer peer list with
        | none =>
          rw [kept] at member
          cases member
        | some rest =>
          rw [kept] at member
          obtain ⟨before, differs⟩ := mem_withoutPeer kept member
          exact ⟨before, fun _ => differs⟩
    · rw [if_neg cleaned] at member
      exact ⟨member, fun same => absurd (List.mem_singleton.mpr same) cleaned⟩

end PeerServerManager

/-! ### The manager with its loops -/

/-- How far `run_peer_communication_loop` is: it waits, it handles a list, it takes the routes away
at its end, or it has returned or was dropped. -/
inductive LoopStage where
  | waiting
  | syncing (steps : List RouteStep)
  | cleaning
  | ended
  deriving DecidableEq, Repr

/-- The loop of a peer, with the networks the peer has listed and that are not cleaned up yet. -/
structure PeerLoop where
  stage : LoopStage
  networkCodes : List String
  deriving DecidableEq, Repr

/-- `PeerServerManager` with the list of peers, the loops, and what the calls of
`remove_outbound_peer` under way have collected. -/
structure PeerNetwork where
  manager : PeerServerManager
  peerServers : List PeerId
  loops : Map PeerId PeerLoop
  removals : List (List PeerId)

inductive PeerEvent where
  | connect (peer : PeerId) (addr : String) (isOutbound : Bool) (sender : PeerSender)
      (connection : PeerConnection)
  | clientInfoResponse (peer : PeerId) (networks : List NetworkInfo)
  | routeStep (peer : PeerId)
  | pingResponse (peer : PeerId) (latency : UInt32)
  | close (peer : PeerId)
  | cleanup (peer : PeerId)
  | leave (peer : PeerId)
  | stop (peer : PeerId)
  | collect (serverAddr : String)
  | remove (index : Nat)

namespace PeerNetwork

/-- A server that has no peers yet. -/
def start (networkStates : Map String NetworkState) (peerInfos : PeerId → PeerServerInfo) :
    PeerNetwork :=
  ⟨⟨networkStates, peerInfos, ∅⟩, [], ∅, []⟩

def setLoop (network : PeerNetwork) (peer : PeerId) (loop : PeerLoop) : PeerNetwork :=
  { network with loops := network.loops.insert peer loop }

/-- A peer is connected and its loop starts. -/
def connect (network : PeerNetwork) (peer : PeerId) (addr : String) (isOutbound : Bool)
    (sender : PeerSender) (connection : PeerConnection) : Option PeerNetwork :=
  if (network.loops.lookup peer).isSome = true then none
  else
    some ({ network with
      manager := network.manager.updatePeer peer fun _ =>
        (PeerServerInfo.new addr isOutbound).setConnected sender connection
      peerServers := network.peerServers ++ [peer] }.setLoop peer ⟨.waiting, []⟩)

/-- The loop reads a list of clients. -/
def clientInfoResponse (network : PeerNetwork) (peer : PeerId) (networks : List NetworkInfo) :
    Option PeerNetwork :=
  (network.loops.lookup peer).bind fun loop =>
    match loop.stage with
    | .waiting =>
      some (network.setLoop peer
        ⟨.syncing (networks.flatMap NetworkInfo.steps),
          networks.foldl (fun codes info => codes.insert info.networkCode) loop.networkCodes⟩)
    | _ => none

/-- The next access for the list, or the loop waits again. -/
def routeStep (network : PeerNetwork) (peer : PeerId) : Option PeerNetwork :=
  (network.loops.lookup peer).bind fun loop =>
    match loop.stage with
    | .syncing [] => some (network.setLoop peer { loop with stage := .waiting })
    | .syncing (step :: rest) =>
      some ({ network with manager := network.manager.routeStep peer step }.setLoop peer
        { loop with stage := .syncing rest })
    | _ => none

/-- The loop ends by itself. -/
def close (network : PeerNetwork) (peer : PeerId) : Option PeerNetwork :=
  (network.loops.lookup peer).bind fun loop =>
    match loop.stage with
    | .waiting =>
      some ({ network with
        manager := network.manager.updatePeer peer PeerServerInfo.setDisconnected }.setLoop peer
          { loop with stage := .cleaning })
    | _ => none

/-- `cleanup_routes` for the next network. -/
def cleanup (network : PeerNetwork) (peer : PeerId) : Option PeerNetwork :=
  (network.loops.lookup peer).bind fun loop =>
    match loop.stage, loop.networkCodes with
    | .cleaning, networkCode :: rest =>
      some ({ network with
        manager := network.manager.cleanupRoutes peer [networkCode] }.setLoop peer
          { loop with networkCodes := rest })
    | _, _ => none

/-- The peer leaves the list, and the loop returns. -/
def leave (network : PeerNetwork) (peer : PeerId) : Option PeerNetwork :=
  (network.loops.lookup peer).bind fun loop =>
    match loop.stage, loop.networkCodes with
    | .cleaning, [] =>
      some ({ network with
        peerServers := network.peerServers.filter fun other => other ≠ peer }.setLoop peer
          { loop with stage := .ended })
    | _, _ => none

/-- The loop of a peer the server has connected to is dropped where it waits. -/
def stop (network : PeerNetwork) (peer : PeerId) : Option PeerNetwork :=
  (network.loops.lookup peer).bind fun loop =>
    match loop.stage with
    | .waiting =>
      if (network.manager.peerInfos peer).isOutbound = true then
        some (network.setLoop peer { loop with stage := .ended })
      else none
    | _ => none

/-- `remove_outbound_peer` looks for the peers with an address. -/
def collect (network : PeerNetwork) (serverAddr : String) : PeerNetwork :=
  let found := network.peerServers.filter fun peer =>
    decide ((network.manager.peerInfos peer).addr = serverAddr) &&
      (network.manager.peerInfos peer).isOutbound
  { network with
    manager := found.foldl (fun manager peer =>
      manager.updatePeer peer PeerServerInfo.setDisconnected) network.manager
    removals := network.removals ++ [found] }

/-- `remove_outbound_peer` takes them off the list. -/
def remove (network : PeerNetwork) (index : Nat) : Option PeerNetwork :=
  network.removals[index]?.map fun found =>
    { network with
      peerServers := network.peerServers.filter fun peer => peer ∉ found
      removals := network.removals.eraseIdx index }

/-- The manager as a machine. -/
def machine : Machine PeerNetwork PeerEvent where
  step network event :=
    match event with
    | .connect peer addr isOutbound sender connection =>
      network.connect peer addr isOutbound sender connection
    | .clientInfoResponse peer networks => network.clientInfoResponse peer networks
    | .routeStep peer => network.routeStep peer
    | .pingResponse peer latency =>
      some { network with
        manager := network.manager.updatePeer peer fun info => info.updateLatency latency }
    | .close peer => network.close peer
    | .cleanup peer => network.cleanup peer
    | .leave peer => network.leave peer
    | .stop peer => network.stop peer
    | .collect serverAddr => some (network.collect serverAddr)
    | .remove index => network.remove index

/-! ### Live routes -/

/-- The loop of a peer has not returned and was not dropped. -/
def Runs (network : PeerNetwork) (peer : PeerId) : Prop :=
  ∃ loop, network.loops.lookup peer = some loop ∧ loop.stage ≠ .ended

/-- Every route goes through a peer that is on the list and whose loop runs. -/
def LiveRoutes (network : PeerNetwork) : Prop :=
  ∀ networkCode ip, ∀ route ∈ network.manager.routesTo networkCode ip,
    route.peerInfo ∈ network.peerServers ∧ network.Runs route.peerInfo

/-- What a step needs. A loop is stopped, and a peer is taken off the list, only when no route goes
through the peer; and a route through a peer is kept only while the peer is on the list. -/
def keepsLive (network : PeerNetwork) : PeerEvent → Prop
  | .routeStep peer => ∀ loop networkCode client rest, network.loops.lookup peer = some loop →
    loop.stage = .syncing (.list networkCode client :: rest) →
      (∃ route ∈ (network.manager.routeStep peer (.list networkCode client)).routesTo networkCode
        client.ip, route.peerInfo = peer) → peer ∈ network.peerServers
  | .stop peer => ∀ loop, network.loops.lookup peer = some loop → loop.stage = .waiting →
    (network.manager.peerInfos peer).isOutbound = true → ¬network.manager.RoutesThrough peer
  | .remove index => ∀ found, network.removals[index]? = some found →
    ∀ peer ∈ found, ¬network.manager.RoutesThrough peer
  | _ => True

/-- The routes through the peer of a running loop are in the networks the loop will clean up, and so
are those it is about to enter. -/
structure Confined (network : PeerNetwork) : Prop where
  routes : ∀ networkCode ip, ∀ route ∈ network.manager.routesTo networkCode ip,
    ∃ loop, network.loops.lookup route.peerInfo = some loop ∧
      (loop.stage ≠ .ended → networkCode ∈ loop.networkCodes)
  steps : ∀ peer loop steps, network.loops.lookup peer = some loop →
    loop.stage = .syncing steps → ∀ step ∈ steps, step.networkCode ∈ loop.networkCodes

variable {network next : PeerNetwork} {peer : PeerId} {loop : PeerLoop}

/-- A step of one loop keeps the routes confined when the routes of its peer stay where it will
clean up. -/
theorem Confined.of_step (confined : network.Confined)
    (loops : next.loops = network.loops.insert peer loop)
    (routes : ∀ networkCode ip, ∀ route ∈ next.manager.routesTo networkCode ip,
      (route ∈ network.manager.routesTo networkCode ip ∨ route.peerInfo = peer) ∧
        (route.peerInfo = peer → loop.stage ≠ .ended → networkCode ∈ loop.networkCodes))
    (steps : ∀ steps, loop.stage = .syncing steps →
      ∀ step ∈ steps, step.networkCode ∈ loop.networkCodes) : next.Confined where
  routes networkCode ip route member := by
    obtain ⟨origin, own⟩ := routes networkCode ip route member
    rw [loops, Map.lookup_insert_eq]
    by_cases same : route.peerInfo = peer
    · rw [if_pos same]
      exact ⟨loop, rfl, own same⟩
    · rw [if_neg same]
      exact confined.routes networkCode ip route (origin.resolve_right same)
  steps other found list isLoop isStage := by
    rw [loops, Map.lookup_insert_eq] at isLoop
    split at isLoop
    · cases isLoop
      exact steps list isStage
    · exact confined.steps other found list isLoop isStage

/-- What changes neither the routes nor the loops keeps them confined. -/
theorem Confined.frame (confined : network.Confined)
    (sameLoops : next.loops = network.loops)
    (sameRoutes : next.manager.ipToRoutes = network.manager.ipToRoutes) : next.Confined where
  routes networkCode ip route member := by
    unfold PeerServerManager.routesTo at member
    rw [sameRoutes] at member
    rw [sameLoops]
    exact confined.routes networkCode ip route member
  steps := by
    rw [sameLoops]
    exact confined.steps

/-- The routes of a running loop's peer are where it will clean up. -/
theorem Confined.codes (confined : network.Confined)
    (found : network.loops.lookup peer = some loop) (running : loop.stage ≠ .ended)
    {networkCode : String} {ip : Ipv4Addr} {route : IpRouteInfo}
    (member : route ∈ network.manager.routesTo networkCode ip) (same : route.peerInfo = peer) :
    networkCode ∈ loop.networkCodes := by
  obtain ⟨other, isLoop, inCodes⟩ := confined.routes networkCode ip route member
  rw [same] at isLoop
  cases found.symm.trans isLoop
  exact inCodes running

theorem subset_foldl_insert (networks : List NetworkInfo) (codes : List String) :
    codes ⊆ networks.foldl (fun codes info => codes.insert info.networkCode) codes ∧
      ∀ info ∈ networks, info.networkCode ∈
        networks.foldl (fun codes info => codes.insert info.networkCode) codes := by
  induction networks generalizing codes with
  | nil => exact ⟨List.Subset.refl _, fun _ member => nomatch member⟩
  | cons info rest inductionHypothesis =>
    obtain ⟨kept, all⟩ := inductionHypothesis (codes.insert info.networkCode)
    refine ⟨fun code member => kept (List.mem_insert_of_mem member), fun other member => ?_⟩
    rcases List.mem_cons.mp member with rfl | inRest
    · exact kept List.mem_insert_self
    · exact all other inRest

theorem networkCode_of_mem_steps {info : NetworkInfo} {step : RouteStep}
    (member : step ∈ info.steps) : step.networkCode = info.networkCode := by
  unfold NetworkInfo.steps at member
  rcases List.mem_append.mp member with isList | isRetain
  · obtain ⟨client, -, rfl⟩ := List.mem_map.mp isList
    rfl
  · rw [List.mem_singleton.mp isRetain]
    rfl

/-- What one access enters goes through its peer, in its network. -/
theorem mem_routesTo_routeStep {manager : PeerServerManager} {step : RouteStep}
    {networkCode : String} {ip : Ipv4Addr} {route : IpRouteInfo}
    (member : route ∈ (manager.routeStep peer step).routesTo networkCode ip) :
    route ∈ manager.routesTo networkCode ip ∨
      networkCode = step.networkCode ∧ route.peerInfo = peer := by
  cases step with
  | list code client =>
    rcases PeerServerManager.mem_routesTo_list member with before | ⟨same, -, through⟩
    · exact .inl before
    · exact .inr ⟨same, through⟩
  | retain code synced => exact .inl (PeerServerManager.mem_routesTo_retain member)

theorem ipToRoutes_collect {serverAddr : String} :
    (network.collect serverAddr).manager.ipToRoutes = network.manager.ipToRoutes := by
  unfold collect
  dsimp only
  generalize network.peerServers.filter _ = found
  generalize network.manager = manager
  induction found generalizing manager with
  | nil => rfl
  | cons first rest inductionHypothesis => exact inductionHypothesis _

/-- The routes stay confined in every step. -/
theorem Confined.step (confined : network.Confined) {event : PeerEvent}
    (enabled : machine.step network event = some next) : next.Confined := by
  cases event with
  | connect peer addr isOutbound sender connection =>
    change network.connect peer addr isOutbound sender connection = some next at enabled
    unfold PeerNetwork.connect at enabled
    split at enabled
    · cases enabled
    · next fresh =>
      cases enabled
      refine confined.of_step rfl (fun networkCode ip route member => ⟨.inl member, ?_⟩)
        fun steps isStage => nomatch isStage
      intro same
      obtain ⟨loop, isLoop, -⟩ := confined.routes networkCode ip route member
      rw [← same, isLoop] at fresh
      exact absurd rfl fresh
  | clientInfoResponse peer networks =>
    obtain ⟨loop, found, enabled⟩ := Option.bind_eq_some_iff.mp enabled
    split at enabled
    · next isStage =>
      cases enabled
      obtain ⟨kept, all⟩ := subset_foldl_insert networks loop.networkCodes
      refine confined.of_step rfl (fun networkCode ip route member => ⟨.inl member, ?_⟩) ?_
      · intro same _
        exact kept (confined.codes found (by rw [isStage]; nofun) member same)
      · intro steps isSteps step isStep
        cases isSteps
        obtain ⟨info, isInfo, inSteps⟩ := List.mem_flatMap.mp isStep
        rw [networkCode_of_mem_steps inSteps]
        exact all info isInfo
    · cases enabled
  | routeStep peer =>
    obtain ⟨loop, found, enabled⟩ := Option.bind_eq_some_iff.mp enabled
    split at enabled
    · next isStage =>
      cases enabled
      refine confined.of_step rfl (fun networkCode ip route member => ⟨.inl member, ?_⟩)
        fun steps isSteps => nomatch isSteps
      intro same _
      exact confined.codes found (by rw [isStage]; nofun) member same
    · next step rest isStage =>
      cases enabled
      have within := confined.steps peer loop _ found isStage
      refine confined.of_step rfl (fun networkCode ip route member => ?_) ?_
      · rcases mem_routesTo_routeStep member with before | ⟨isCode, through⟩
        · refine ⟨.inl before, fun same _ => ?_⟩
          exact confined.codes found (by rw [isStage]; nofun) before same
        · exact ⟨.inr through, fun _ _ => isCode ▸ within step List.mem_cons_self⟩
      · intro steps isSteps other member
        cases isSteps
        exact within other (List.mem_cons_of_mem _ member)
    · cases enabled
  | pingResponse peer latency =>
    cases enabled
    exact confined.frame rfl rfl
  | close peer =>
    obtain ⟨loop, found, enabled⟩ := Option.bind_eq_some_iff.mp enabled
    split at enabled
    · next isStage =>
      cases enabled
      refine confined.of_step rfl (fun networkCode ip route member => ⟨.inl member, ?_⟩)
        fun steps isSteps => nomatch isSteps
      intro same _
      exact confined.codes found (by rw [isStage]; nofun) member same
    · cases enabled
  | cleanup peer =>
    obtain ⟨loop, found, enabled⟩ := Option.bind_eq_some_iff.mp enabled
    split at enabled
    · next networkCode rest isStage isCodes =>
      cases enabled
      refine confined.of_step rfl (fun other ip route member => ?_) fun steps isSteps => ?_
      · obtain ⟨before, differs⟩ := PeerServerManager.mem_routesTo_cleanupRoutes member
        refine ⟨.inl before, fun same _ => ?_⟩
        have inCodes := confined.codes found (by rw [isStage]; nofun) before same
        rw [isCodes] at inCodes
        rcases List.mem_cons.mp inCodes with isCode | inRest
        · exact absurd same (differs isCode)
        · exact inRest
      · change loop.stage = _ at isSteps
        rw [isStage] at isSteps
        cases isSteps
    · cases enabled
  | leave peer =>
    obtain ⟨loop, found, enabled⟩ := Option.bind_eq_some_iff.mp enabled
    split at enabled
    · cases enabled
      refine confined.of_step rfl (fun networkCode ip route member => ⟨.inl member, ?_⟩)
        fun steps isSteps => nomatch isSteps
      exact fun _ running => absurd rfl running
    · cases enabled
  | stop peer =>
    obtain ⟨loop, found, enabled⟩ := Option.bind_eq_some_iff.mp enabled
    split at enabled
    · split at enabled <;> cases enabled
      refine confined.of_step rfl (fun networkCode ip route member => ⟨.inl member, ?_⟩)
        fun steps isSteps => nomatch isSteps
      exact fun _ running => absurd rfl running
    · cases enabled
  | collect serverAddr =>
    cases enabled
    exact confined.frame rfl ipToRoutes_collect
  | remove index =>
    obtain ⟨found, -, same⟩ := Option.map_eq_some_iff.mp enabled
    exact same ▸ confined.frame rfl rfl

/-! ### What one step needs -/

/-- A step of a running loop keeps the routes live that were, and those through its own peer while
that one is on the list. -/
theorem LiveRoutes.of_step (live : network.LiveRoutes)
    (loops : next.loops = network.loops.insert peer loop) (running : loop.stage ≠ .ended)
    (servers : network.peerServers ⊆ next.peerServers)
    (routes : ∀ networkCode ip, ∀ route ∈ next.manager.routesTo networkCode ip,
      route ∈ network.manager.routesTo networkCode ip ∨
        route.peerInfo = peer ∧ peer ∈ next.peerServers) : next.LiveRoutes := by
  intro networkCode ip route member
  have runs : route.peerInfo = peer ∨ network.Runs route.peerInfo → next.Runs route.peerInfo := by
    intro either
    unfold Runs
    rw [loops, Map.lookup_insert_eq]
    by_cases same : route.peerInfo = peer
    · rw [if_pos same]
      exact ⟨loop, rfl, running⟩
    · rw [if_neg same]
      exact either.resolve_left same
  rcases routes networkCode ip route member with before | ⟨through, onList⟩
  · obtain ⟨isServer, isRunning⟩ := live networkCode ip route before
    exact ⟨servers isServer, runs (.inr isRunning)⟩
  · exact ⟨through ▸ onList, runs (.inl through)⟩

theorem LiveRoutes.frame (live : network.LiveRoutes) (sameLoops : next.loops = network.loops)
    (sameServers : next.peerServers = network.peerServers)
    (sameRoutes : next.manager.ipToRoutes = network.manager.ipToRoutes) : next.LiveRoutes := by
  intro networkCode ip route member
  unfold PeerServerManager.routesTo at member
  rw [sameRoutes] at member
  unfold Runs
  rw [sameLoops, sameServers]
  exact live networkCode ip route member

/-- A loop that ends leaves live routes exactly when none went through its peer. -/
theorem liveRoutes_ended_iff (live : network.LiveRoutes)
    (sameRoutes : next.manager.ipToRoutes = network.manager.ipToRoutes)
    (loops : next.loops = network.loops.insert peer loop) (ended : loop.stage = .ended)
    (servers : ∀ other ∈ network.peerServers, other ≠ peer → other ∈ next.peerServers) :
    next.LiveRoutes ↔ ¬network.manager.RoutesThrough peer := by
  have sameTo : ∀ networkCode ip, next.manager.routesTo networkCode ip =
      network.manager.routesTo networkCode ip := by
    intro networkCode ip
    unfold PeerServerManager.routesTo
    rw [sameRoutes]
  constructor
  · rintro still ⟨networkCode, ip, route, member, through⟩
    obtain ⟨-, found, isLoop, running⟩ := still networkCode ip route (sameTo _ _ ▸ member)
    rw [through, loops, AList.lookup_insert] at isLoop
    cases isLoop
    exact running ended
  · intro none networkCode ip route member
    rw [sameTo] at member
    have different : route.peerInfo ≠ peer := fun through =>
      none ⟨networkCode, ip, route, member, through⟩
    obtain ⟨isServer, found, isLoop, running⟩ := live networkCode ip route member
    refine ⟨servers _ isServer different, found, ?_, running⟩
    rw [loops]
    exact (AList.lookup_insert_ne different).trans isLoop

theorem liveRoutes_routeStep_iff (live : network.LiveRoutes)
    (enabled : network.routeStep peer = some next) :
    next.LiveRoutes ↔ network.keepsLive (.routeStep peer) := by
  obtain ⟨loop, found, enabled⟩ := Option.bind_eq_some_iff.mp enabled
  split at enabled
  · next isStage =>
    cases enabled
    refine iff_of_true (live.of_step rfl nofun (List.Subset.refl _) fun _ _ _ => .inl) ?_
    intro other networkCode client rest isLoop otherStage
    cases found.symm.trans isLoop
    cases isStage.symm.trans otherStage
  · next step rest isStage =>
    cases enabled
    cases step with
    | retain code synced =>
      refine iff_of_true (live.of_step rfl nofun (List.Subset.refl _) fun _ _ _ member =>
        .inl (PeerServerManager.mem_routesTo_retain member)) ?_
      intro other networkCode client later isLoop otherStage
      cases found.symm.trans isLoop
      cases isStage.symm.trans otherStage
    | list code client =>
      constructor
      · rintro still other networkCode otherClient later isLoop otherStage
          ⟨route, member, through⟩
        cases found.symm.trans isLoop
        cases isStage.symm.trans otherStage
        exact through ▸ (still code client.ip route member).1
      · intro kept
        refine live.of_step rfl nofun (List.Subset.refl _) fun networkCode ip route member => ?_
        rcases PeerServerManager.mem_routesTo_list member with before | ⟨isCode, isIp, through⟩
        · exact .inl before
        · rw [isCode, isIp] at member
          exact .inr ⟨through,
            kept loop code client rest found isStage ⟨route, member, through⟩⟩
  · cases enabled

/-- A step leaves all routes live exactly when it meets its condition. -/
theorem liveRoutes_step_iff (confined : network.Confined) (live : network.LiveRoutes)
    {event : PeerEvent} (enabled : machine.step network event = some next) :
    next.LiveRoutes ↔ network.keepsLive event := by
  cases event with
  | connect peer addr isOutbound sender connection =>
    refine iff_of_true ?_ trivial
    change network.connect peer addr isOutbound sender connection = some next at enabled
    unfold PeerNetwork.connect at enabled
    split at enabled
    · cases enabled
    · cases enabled
      exact live.of_step rfl nofun (List.subset_append_left _ _) fun _ _ _ => .inl
  | clientInfoResponse peer networks =>
    refine iff_of_true ?_ trivial
    obtain ⟨loop, found, enabled⟩ := Option.bind_eq_some_iff.mp enabled
    split at enabled <;> cases enabled
    exact live.of_step rfl nofun (List.Subset.refl _) fun _ _ _ => .inl
  | routeStep peer => exact liveRoutes_routeStep_iff live enabled
  | pingResponse peer latency =>
    cases enabled
    exact iff_of_true (live.frame rfl rfl rfl) trivial
  | close peer =>
    refine iff_of_true ?_ trivial
    obtain ⟨loop, found, enabled⟩ := Option.bind_eq_some_iff.mp enabled
    split at enabled <;> cases enabled
    exact live.of_step rfl nofun (List.Subset.refl _) fun _ _ _ => .inl
  | cleanup peer =>
    refine iff_of_true ?_ trivial
    obtain ⟨loop, found, enabled⟩ := Option.bind_eq_some_iff.mp enabled
    split at enabled
    · next networkCode rest isStage isCodes =>
      cases enabled
      exact live.of_step rfl (by rw [isStage]; nofun) (List.Subset.refl _) fun _ _ _ member =>
        .inl (PeerServerManager.mem_routesTo_cleanupRoutes member).1
    · cases enabled
  | leave peer =>
    obtain ⟨loop, found, enabled⟩ := Option.bind_eq_some_iff.mp enabled
    split at enabled
    · next isStage isCodes =>
      cases enabled
      refine iff_of_true ?_ trivial
      have none : ¬network.manager.RoutesThrough peer := by
        rintro ⟨networkCode, ip, route, member, through⟩
        have inCodes := confined.codes found (by rw [isStage]; nofun) member through
        rw [isCodes] at inCodes
        cases inCodes
      have left : ({ network with
          peerServers := network.peerServers.filter fun other => other ≠ peer }.setLoop peer
            { loop with stage := .ended }).LiveRoutes ↔ ¬network.manager.RoutesThrough peer :=
        liveRoutes_ended_iff live rfl rfl rfl fun other isServer different =>
          List.mem_filter.mpr ⟨isServer, decide_eq_true different⟩
      exact left.mpr none
    · cases enabled
  | stop peer =>
    obtain ⟨loop, found, enabled⟩ := Option.bind_eq_some_iff.mp enabled
    split at enabled
    · next isStage =>
      split at enabled
      · next isOutbound =>
        cases enabled
        have stopped : (network.setLoop peer { loop with stage := .ended }).LiveRoutes ↔
            ¬network.manager.RoutesThrough peer :=
          liveRoutes_ended_iff live rfl rfl rfl fun other isServer _ => isServer
        exact stopped.trans ⟨fun none other isLoop _ _ => none,
          fun kept => kept loop found isStage isOutbound⟩
      · cases enabled
    · cases enabled
  | collect serverAddr =>
    cases enabled
    refine iff_of_true (live.frame rfl rfl ?_) trivial
    exact ipToRoutes_collect
  | remove index =>
    obtain ⟨found, isFound, same⟩ := Option.map_eq_some_iff.mp enabled
    subst same
    constructor
    · rintro still other isOther peer inFound ⟨networkCode, ip, route, member, through⟩
      cases isFound.symm.trans isOther
      have onList := (still networkCode ip route member).1
      have notFound := of_decide_eq_true (List.mem_filter.mp onList).2
      exact notFound (through ▸ inFound)
    · intro kept networkCode ip route member
      obtain ⟨isServer, running⟩ := live networkCode ip route member
      refine ⟨List.mem_filter.mpr ⟨isServer, decide_eq_true fun inFound => ?_⟩, running⟩
      exact kept found isFound _ inFound ⟨networkCode, ip, route, member, rfl⟩

theorem keepsLive_of_disabled {event : PeerEvent} (disabled : machine.step network event = none) :
    network.keepsLive event := by
  cases event with
  | routeStep peer =>
    intro loop networkCode client rest found isStage
    change network.routeStep peer = none at disabled
    unfold PeerNetwork.routeStep at disabled
    rw [found, Option.bind_some, isStage] at disabled
    cases disabled
  | stop peer =>
    intro loop found isStage isOutbound
    change network.stop peer = none at disabled
    unfold PeerNetwork.stop at disabled
    rw [found, Option.bind_some, isStage] at disabled
    dsimp only at disabled
    rw [if_pos isOutbound] at disabled
    cases disabled
  | remove index =>
    intro found isFound
    change network.removals[index]?.map _ = none at disabled
    rw [isFound] at disabled
    cases disabled
  | _ => trivial

/-- Every route goes through a peer on the list whose loop runs, throughout a run, if and only if no
loop is stopped and no peer is taken off the list while routes go through it, and no route is
entered through a peer that is off the list. -/
theorem liveRoutes_throughout_iff (networkStates : Map String NetworkState)
    (peerInfos : PeerId → PeerServerInfo) (events : List PeerEvent) :
    machine.Throughout LiveRoutes (start networkStates peerInfos) events ↔
      machine.Guarded keepsLive (start networkStates peerInfos) events :=
  Machine.throughout_iff_guarded (fun _ _ _ confined enabled => confined.step enabled)
    (fun _ _ _ confined live enabled => liveRoutes_step_iff confined live enabled)
    (fun _ _ disabled => keepsLive_of_disabled disabled)
    ⟨fun _ _ _ member => (nomatch member), fun _ _ _ isLoop => (nomatch isLoop)⟩
    (fun _ _ _ member => nomatch member)

/-- A peer lists a client, and its loop is stopped. -/
def stopAfterList : List PeerEvent :=
  [.connect 0 "10.0.0.2:2224" true 0 0, .clientInfoResponse 0 [⟨"net", [⟨0x0A1A0003, 10⟩]⟩],
    .routeStep 0, .routeStep 0, .routeStep 0, .stop 0]

/-- Its routes stay. -/
theorem not_liveRoutes_stopAfterList : ∃ final,
    machine.run (start ∅ fun _ => .new "" false) stopAfterList = some final ∧
      ¬final.LiveRoutes := by
  have reaches : ∃ final, machine.run (start ∅ fun _ => .new "" false) stopAfterList =
      some final ∧ final.manager.routesTo "net" 0x0A1A0003 = [⟨0, 10⟩] ∧
        final.loops.lookup 0 = some ⟨.ended, ["net"]⟩ := ⟨_, rfl, rfl, rfl⟩
  obtain ⟨final, isFinal, isRoute, isEnded⟩ := reaches
  refine ⟨final, isFinal, fun live => ?_⟩
  obtain ⟨-, loop, isLoop, running⟩ := live "net" 0x0A1A0003 ⟨0, 10⟩ (by
    rw [isRoute]
    exact List.mem_singleton.mpr rfl)
  cases isEnded.symm.trans isLoop
  exact running rfl

end PeerNetwork

end Vnt.Server
