/-
This file proves what a list of clients does to the routes. For each listed address the peer's route
takes the listed latency, at the place of its older one or else at the end, and the routes with the
least total latencies stay; at the other addresses of a listed network only the routes through the
peer go. The routes of other peers keep their contents, and other networks stay as they are.
-/

import Vnt.Base.Ranking
import Vnt.Server.PeerRoutes

namespace Vnt.Server

open Vnt.Base

/-- Networks with distinct codes whose clients have distinct addresses. -/
structure DistinctNetworks (networks : List NetworkInfo) : Prop where
  codes : (networks.map NetworkInfo.networkCode).Nodup
  ips : ∀ network ∈ networks, (network.clients.map ClientLatencyInfo.ip).Nodup

/-- The routes of one address: at least one, not too many, and one for each peer. -/
structure ValidRoutes (routes : List IpRouteInfo) : Prop where
  single : (routes.map IpRouteInfo.peerInfo).Nodup
  present : routes ≠ []
  short : routes.length ≤ maxRoutesPerIp

namespace PeerServerManager

variable {manager : PeerServerManager} {peer : PeerId} {latencyMs : UInt32}
  {routes : List IpRouteInfo} {route : IpRouteInfo} {ip : Ipv4Addr}

/-- A server that answers for distinct networks lists distinct networks. -/
theorem distinct_handleClientInfoRequest (manager : PeerServerManager) {networkCodes : List String}
    (distinct : networkCodes.Nodup) :
    DistinctNetworks (manager.handleClientInfoRequest networkCodes) where
  codes := by
    unfold handleClientInfoRequest
    rw [List.map_map]
    exact (List.map_id networkCodes).symm ▸ distinct
  ips := by
    intro network member
    obtain ⟨networkCode, -, rfl⟩ := List.mem_map.mp member
    dsimp only
    split
    · next state _ =>
      unfold clientsOf
      rw [List.map_map]
      exact (List.map_id state.senderMap.keys).symm ▸ state.senderMap.nodupKeys
    · exact List.nodup_nil

/-! ### The latency of a route -/

/-- The sum that the total latency of a route stands for. -/
def trueLatency (manager : PeerServerManager) (route : IpRouteInfo) : Nat :=
  (manager.peerInfos route.peerInfo).latencyMs.toNat + route.clientLatencyMs.toNat + 2

theorem toNat_totalLatency (manager : PeerServerManager) (route : IpRouteInfo) :
    (manager.totalLatency route).toNat = manager.trueLatency route % 2 ^ 32 := by
  unfold totalLatency trueLatency
  rw [UInt32.toNat_add, UInt32.toNat_add, Nat.mod_add_mod]
  rfl

/-- The latency of a route does not overflow. -/
def Small (manager : PeerServerManager) (route : IpRouteInfo) : Prop :=
  manager.trueLatency route < 2 ^ 32

/-- Latencies that do not overflow are ordered as their sums are. -/
theorem Small.le_iff {first second : IpRouteInfo} (smallFirst : manager.Small first)
    (smallSecond : manager.Small second) :
    manager.totalLatency first ≤ manager.totalLatency second ↔
      manager.trueLatency first ≤ manager.trueLatency second := by
  rw [UInt32.le_iff_toNat_le, toNat_totalLatency, toNat_totalLatency, Nat.mod_eq_of_lt smallFirst,
    Nat.mod_eq_of_lt smallSecond]

/-! ### The routes of a listed address -/

/-- A route with the listed latency when it goes through the peer. -/
def listedAs (peer : PeerId) (latencyMs : UInt32) (route : IpRouteInfo) : IpRouteInfo :=
  if route.peerInfo = peer then ⟨peer, latencyMs⟩ else route

theorem listedAs_of_ne (differs : route.peerInfo ≠ peer) : listedAs peer latencyMs route = route :=
  if_neg differs

theorem peerInfo_listedAs (route : IpRouteInfo) :
    (listedAs peer latencyMs route).peerInfo = route.peerInfo := by
  unfold listedAs
  split
  · next same => exact same.symm
  · rfl

/-- The routes to an address with the one its peer lists: where its older one was, or else last. -/
def withListed (peer : PeerId) (latencyMs : UInt32) (routes : List IpRouteInfo) :
    List IpRouteInfo :=
  if peer ∈ routes.map IpRouteInfo.peerInfo then routes.map (listedAs peer latencyMs)
  else routes ++ [⟨peer, latencyMs⟩]

theorem renewRoute_eq (single : (routes.map IpRouteInfo.peerInfo).Nodup) :
    renewRoute peer latencyMs routes = withListed peer latencyMs routes := by
  induction routes with
  | nil => rfl
  | cons first rest inductionHypothesis =>
    obtain ⟨fresh, single⟩ := List.nodup_cons.mp (List.map_cons ▸ single)
    have renewed := inductionHypothesis single
    unfold renewRoute withListed
    rw [List.map_cons, List.map_cons]
    split
    · next same =>
      have others : rest.map (listedAs peer latencyMs) = rest := by
        refine (List.map_congr_left fun route member => ?_).trans (List.map_id rest)
        exact listedAs_of_ne fun through =>
          fresh (List.mem_map.mpr ⟨route, member, through.trans same.symm⟩)
      rw [if_pos (List.mem_cons.mpr (.inl same.symm)), others, listedAs, if_pos same, ← same]
    · next differs =>
      rw [renewed, listedAs_of_ne differs]
      unfold withListed
      by_cases inRest : peer ∈ rest.map IpRouteInfo.peerInfo
      · rw [if_pos inRest, if_pos (List.mem_cons_of_mem _ inRest)]
      · have absent : peer ∉ first.peerInfo :: rest.map IpRouteInfo.peerInfo :=
          List.not_mem_cons_of_ne_of_not_mem (Ne.symm differs) inRest
        rw [if_neg inRest, if_neg absent, List.cons_append]

theorem mem_withListed_own (through : route.peerInfo = peer) :
    route ∈ withListed peer latencyMs routes ↔ route.clientLatencyMs = latencyMs := by
  have same : route.clientLatencyMs = latencyMs ↔ route = ⟨peer, latencyMs⟩ := by
    rw [← through]
    cases route
    simp
  rw [same]
  unfold withListed
  split
  · next known =>
    obtain ⟨older, member, isPeer⟩ := List.mem_map.mp known
    rw [List.mem_map]
    constructor
    · rintro ⟨origin, -, rfl⟩
      rw [peerInfo_listedAs] at through
      exact if_pos through
    · rintro rfl
      exact ⟨older, member, if_pos isPeer⟩
  · next unknown =>
    rw [List.mem_append, List.mem_singleton]
    exact or_iff_right fun member => unknown (List.mem_map.mpr ⟨route, member, through⟩)

theorem mem_withListed_other (differs : route.peerInfo ≠ peer) :
    route ∈ withListed peer latencyMs routes ↔ route ∈ routes := by
  unfold withListed
  split
  · rw [List.mem_map]
    constructor
    · rintro ⟨origin, member, rfl⟩
      rw [peerInfo_listedAs] at differs
      rwa [listedAs_of_ne differs]
    · exact fun member => ⟨route, member, listedAs_of_ne differs⟩
  · rw [List.mem_append, List.mem_singleton]
    exact or_iff_left fun same => differs (congrArg IpRouteInfo.peerInfo same)

theorem single_withListed (single : (routes.map IpRouteInfo.peerInfo).Nodup) :
    ((withListed peer latencyMs routes).map IpRouteInfo.peerInfo).Nodup := by
  unfold withListed
  split
  · rw [List.map_map]
    have same : IpRouteInfo.peerInfo ∘ listedAs peer latencyMs = IpRouteInfo.peerInfo :=
      funext peerInfo_listedAs
    rwa [same]
  · next unknown =>
    rw [List.map_append, List.map_singleton, ← List.concat_eq_append]
    exact single.concat unknown

/-- What the handler makes of the routes of a listed address. -/
def enter (manager : PeerServerManager) (peer : PeerId) (latencyMs : UInt32)
    (routes : List IpRouteInfo) : List IpRouteInfo :=
  ((renewRoute peer latencyMs routes).insertionSort
    fun first second => manager.totalLatency first ≤ manager.totalLatency second).take
      maxRoutesPerIp

theorem lookup_addRoute (client : ClientLatencyInfo) (ipMap : Map Ipv4Addr (List IpRouteInfo)) :
    (manager.addRoute peer client ipMap).lookup ip =
      if ip = client.ip then
        some (manager.enter peer client.latencyMs ((ipMap.lookup client.ip).getD []))
      else ipMap.lookup ip := by
  unfold addRoute
  rw [Map.lookup_insert_eq]
  cases ipMap.lookup client.ip <;> rfl

theorem length_renewRoute : 0 < (renewRoute peer latencyMs routes).length := by
  cases routes with
  | nil => exact Nat.one_pos
  | cons first rest =>
    unfold renewRoute
    split <;> exact Nat.succ_pos _

/-- A listed address has valid routes when it had at most one route for each peer. -/
theorem valid_enter (single : (routes.map IpRouteInfo.peerInfo).Nodup) :
    ValidRoutes (manager.enter peer latencyMs routes) where
  single := by
    have permuted := (List.perm_insertionSort (fun first second =>
      manager.totalLatency first ≤ manager.totalLatency second)
        (renewRoute peer latencyMs routes)).map IpRouteInfo.peerInfo
    have renewed := @single_withListed peer latencyMs routes single
    rw [← renewRoute_eq single] at renewed
    exact ((List.take_sublist _ _).map _).nodup (permuted.nodup_iff.mpr renewed)
  present := by
    have some : 0 < (renewRoute peer latencyMs routes).length := length_renewRoute
    unfold enter
    rw [← List.length_pos_iff, List.length_take, List.length_insertionSort]
    exact Nat.lt_min.mpr ⟨by decide, some⟩
  short := List.length_take_le _ _

/-- A route is among the first ones of its address by total latency, when the peer lists the
address: earlier routes win ties. -/
def AmongFirst (manager : PeerServerManager) (peer : PeerId) (latencyMs : UInt32)
    (routes : List IpRouteInfo) (route : IpRouteInfo) : Prop :=
  Ranking.rank manager.trueLatency (withListed peer latencyMs routes) route < maxRoutesPerIp

/-- The routes that stay at a listed address. -/
theorem mem_enter_iff (single : (routes.map IpRouteInfo.peerInfo).Nodup)
    (small : ∀ route ∈ withListed peer latencyMs routes, manager.Small route) :
    route ∈ manager.enter peer latencyMs routes ↔
      route ∈ withListed peer latencyMs routes ∧
        manager.AmongFirst peer latencyMs routes route := by
  unfold enter AmongFirst
  rw [renewRoute_eq single]
  exact Ranking.mem_take_insertionSort_iff (single_withListed single).of_map
    (fun first isFirst second isSecond => (small first isFirst).le_iff (small second isSecond)) _

/-! ### The routes of a listed network -/

/-- What the handler makes of the routes of a listed network. -/
def syncedMap (manager : PeerServerManager) (peer : PeerId) (clients : List ClientLatencyInfo)
    (ipMap : Map Ipv4Addr (List IpRouteInfo)) : Map Ipv4Addr (List IpRouteInfo) :=
  (clients.foldl (fun ipMap client => manager.addRoute peer client ipMap) ipMap).retain
    fun ip routes =>
      if ip ∈ clients.map ClientLatencyInfo.ip then if routes = [] then none else some routes
      else withoutPeer peer routes

theorem syncNetwork_eq (manager : PeerServerManager) (peer : PeerId) (network : NetworkInfo) :
    manager.syncNetwork peer network = manager.setIpMap network.networkCode
      (manager.syncedMap peer network.clients (manager.ipMap network.networkCode)) := rfl

theorem lookup_foldl_addRoute_of_absent {clients : List ClientLatencyInfo}
    (absent : ip ∉ clients.map ClientLatencyInfo.ip) (ipMap : Map Ipv4Addr (List IpRouteInfo)) :
    (clients.foldl (fun ipMap client => manager.addRoute peer client ipMap) ipMap).lookup ip =
      ipMap.lookup ip := by
  induction clients generalizing ipMap with
  | nil => rfl
  | cons client rest inductionHypothesis =>
    rw [List.map_cons, List.mem_cons, not_or] at absent
    rw [List.foldl_cons, inductionHypothesis absent.2, lookup_addRoute, if_neg absent.1]

/-- Of clients with distinct addresses each one is entered once. -/
theorem lookup_foldl_addRoute_of_mem {clients : List ClientLatencyInfo} {client : ClientLatencyInfo}
    (distinct : (clients.map ClientLatencyInfo.ip).Nodup) (member : client ∈ clients)
    (ipMap : Map Ipv4Addr (List IpRouteInfo)) :
    (clients.foldl (fun ipMap client => manager.addRoute peer client ipMap) ipMap).lookup
        client.ip =
      some (manager.enter peer client.latencyMs ((ipMap.lookup client.ip).getD [])) := by
  induction clients generalizing ipMap with
  | nil => cases member
  | cons first rest inductionHypothesis =>
    obtain ⟨fresh, distinct⟩ := List.nodup_cons.mp (List.map_cons ▸ distinct)
    rw [List.foldl_cons]
    rcases List.mem_cons.mp member with rfl | later
    · rw [lookup_foldl_addRoute_of_absent fresh, lookup_addRoute, if_pos rfl]
    · have differs : client.ip ≠ first.ip := fun same =>
        fresh (List.mem_map.mpr ⟨client, later, same⟩)
      rw [inductionHypothesis distinct later, lookup_addRoute, if_neg differs]

/-- The routes of a listed address are entered. -/
theorem lookup_syncedMap_of_mem {clients : List ClientLatencyInfo} {client : ClientLatencyInfo}
    (distinct : (clients.map ClientLatencyInfo.ip).Nodup) (member : client ∈ clients)
    (ipMap : Map Ipv4Addr (List IpRouteInfo)) (nonempty : manager.enter peer client.latencyMs
      ((ipMap.lookup client.ip).getD []) ≠ []) :
    (manager.syncedMap peer clients ipMap).lookup client.ip =
      some (manager.enter peer client.latencyMs ((ipMap.lookup client.ip).getD [])) := by
  unfold syncedMap
  rw [Map.lookup_retain, lookup_foldl_addRoute_of_mem distinct member, Option.bind_some,
    if_pos (List.mem_map_of_mem member), if_neg nonempty]

/-- The other addresses of a listed network lose their routes through the peer. -/
theorem lookup_syncedMap_of_absent {clients : List ClientLatencyInfo}
    (absent : ip ∉ clients.map ClientLatencyInfo.ip) (ipMap : Map Ipv4Addr (List IpRouteInfo)) :
    (manager.syncedMap peer clients ipMap).lookup ip =
      (ipMap.lookup ip).bind (withoutPeer peer) := by
  unfold syncedMap
  rw [Map.lookup_retain, lookup_foldl_addRoute_of_absent absent]
  congr 1
  funext routes
  exact if_neg absent

/-! ### The networks of a list -/

theorem ipMap_setIpMap_of_ne {networkCode other : String} (differs : other ≠ networkCode)
    (ipMap : Map Ipv4Addr (List IpRouteInfo)) :
    (manager.setIpMap networkCode ipMap).ipToRoutes.lookup other =
      manager.ipToRoutes.lookup other :=
  AList.lookup_insert_ne differs

theorem lookup_foldl_syncNetwork {networks : List NetworkInfo} {networkCode : String}
    (unlisted : networkCode ∉ networks.map NetworkInfo.networkCode) :
    (networks.foldl (fun manager network => manager.syncNetwork peer network)
      manager).ipToRoutes.lookup networkCode = manager.ipToRoutes.lookup networkCode := by
  induction networks generalizing manager with
  | nil => rfl
  | cons first rest inductionHypothesis =>
    rw [List.map_cons, List.mem_cons, not_or] at unlisted
    rw [List.foldl_cons, inductionHypothesis unlisted.2, syncNetwork_eq,
      ipMap_setIpMap_of_ne unlisted.1]

/-- Of networks with distinct codes each one is handled once. -/
theorem ipMap_foldl_syncNetwork {networks : List NetworkInfo} {network : NetworkInfo}
    (distinct : (networks.map NetworkInfo.networkCode).Nodup) (member : network ∈ networks) :
    (networks.foldl (fun manager network => manager.syncNetwork peer network) manager).ipMap
        network.networkCode =
      manager.syncedMap peer network.clients (manager.ipMap network.networkCode) := by
  induction networks generalizing manager with
  | nil => cases member
  | cons first rest inductionHypothesis =>
    obtain ⟨fresh, distinct⟩ := List.nodup_cons.mp (List.map_cons ▸ distinct)
    rw [List.foldl_cons]
    rcases List.mem_cons.mp member with rfl | later
    · unfold ipMap
      rw [lookup_foldl_syncNetwork fresh]
      exact ipMap_setIpMap _
    · have differs : network.networkCode ≠ first.networkCode := fun same =>
        fresh (List.mem_map.mpr ⟨network, later, same⟩)
      have same : (manager.syncNetwork peer first).ipMap network.networkCode =
          manager.ipMap network.networkCode := by
        unfold ipMap
        rw [syncNetwork_eq, ipMap_setIpMap_of_ne differs]
      rw [inductionHypothesis distinct later, same]
      rfl

/-! ### Valid routes -/

/-- Every address with an entry has valid routes. -/
def ValidTable (manager : PeerServerManager) : Prop :=
  ∀ networkCode ip routes, (manager.ipMap networkCode).lookup ip = some routes → ValidRoutes routes

theorem ValidTable.single (valid : manager.ValidTable) (networkCode : String) (ip : Ipv4Addr) :
    ((manager.routesTo networkCode ip).map IpRouteInfo.peerInfo).Nodup := by
  rw [routesTo_eq]
  cases found : (manager.ipMap networkCode).lookup ip with
  | none => exact List.nodup_nil
  | some routes => exact (valid networkCode ip routes found).single

/-- What is left without a peer is valid again. -/
theorem valid_withoutPeer {rest : List IpRouteInfo} (valid : ValidRoutes routes)
    (kept : withoutPeer peer routes = some rest) : ValidRoutes rest := by
  unfold withoutPeer at kept
  split at kept
  · cases kept
  · next nonempty =>
    have same := Option.some.inj kept
    have part : rest.Sublist routes := same ▸ List.filter_sublist
    refine ⟨(part.map _).nodup valid.single, ?_, part.length_le.trans valid.short⟩
    exact fun empty => nonempty (same.trans empty)

theorem ValidTable.setIpMap (valid : manager.ValidTable) {networkCode : String}
    {ipMap : Map Ipv4Addr (List IpRouteInfo)}
    (routes : ∀ ip routes, ipMap.lookup ip = some routes → ValidRoutes routes) :
    (manager.setIpMap networkCode ipMap).ValidTable := by
  intro other ip found isFound
  by_cases same : other = networkCode
  · subst same
    rw [ipMap_setIpMap] at isFound
    exact routes ip found isFound
  · unfold PeerServerManager.ipMap at isFound
    rw [ipMap_setIpMap_of_ne same] at isFound
    exact valid other ip found isFound

theorem ValidTable.routeStep (valid : manager.ValidTable) (step : RouteStep) :
    (manager.routeStep peer step).ValidTable := by
  cases step with
  | list networkCode client =>
    refine valid.setIpMap fun ip routes found => ?_
    rw [lookup_addRoute] at found
    split at found
    · cases found
      refine valid_enter ?_
      rw [← routesTo_eq]
      exact valid.single networkCode client.ip
    · exact valid networkCode ip routes found
  | retain networkCode synced =>
    refine valid.setIpMap fun ip routes found => ?_
    rw [Map.lookup_retain] at found
    obtain ⟨before, isBefore, kept⟩ := Option.bind_eq_some_iff.mp found
    have was := valid networkCode ip before isBefore
    split at kept
    · rw [if_neg was.present] at kept
      cases kept
      exact was
    · exact valid_withoutPeer was kept

theorem ValidTable.cleanupRoutes (valid : manager.ValidTable) (networkCodes : List String) :
    (manager.cleanupRoutes peer networkCodes).ValidTable := by
  intro networkCode ip routes found
  have isMap : (manager.cleanupRoutes peer networkCodes).ipMap networkCode =
      if networkCode ∈ networkCodes then
        (manager.ipMap networkCode).retain fun _ routes => withoutPeer peer routes
      else manager.ipMap networkCode := by
    unfold ipMap PeerServerManager.cleanupRoutes
    dsimp only
    rw [Map.lookup_retain]
    cases manager.ipToRoutes.lookup networkCode with
    | none => split <;> rfl
    | some ipMap => split <;> rfl
  rw [isMap] at found
  split at found
  · rw [Map.lookup_retain] at found
    obtain ⟨before, isBefore, kept⟩ := Option.bind_eq_some_iff.mp found
    exact valid_withoutPeer (valid networkCode ip before isBefore) kept
  · exact valid networkCode ip routes found

theorem ValidTable.frame {next : PeerServerManager} (valid : manager.ValidTable)
    (same : next.ipToRoutes = manager.ipToRoutes) : next.ValidTable := by
  intro networkCode ip routes found
  unfold ipMap at found
  rw [same] at found
  exact valid networkCode ip routes found

end PeerServerManager

namespace PeerNetwork

/-- Every access to the routes keeps them valid. -/
theorem validTable_step {network next : PeerNetwork} {event : PeerEvent}
    (valid : network.manager.ValidTable) (enabled : machine.step network event = some next) :
    next.manager.ValidTable := by
  cases event with
  | connect peer addr isOutbound sender connection =>
    change network.connect peer addr isOutbound sender connection = some next at enabled
    unfold connect at enabled
    split at enabled <;> cases enabled
    exact valid.frame rfl
  | clientInfoResponse peer networks =>
    obtain ⟨loop, -, enabled⟩ := Option.bind_eq_some_iff.mp enabled
    split at enabled <;> cases enabled
    exact valid
  | routeStep peer =>
    obtain ⟨loop, -, enabled⟩ := Option.bind_eq_some_iff.mp enabled
    split at enabled
    · cases enabled
      exact valid
    · cases enabled
      exact valid.routeStep _
    · cases enabled
  | pingResponse peer latency =>
    cases enabled
    exact valid.frame rfl
  | close peer =>
    obtain ⟨loop, -, enabled⟩ := Option.bind_eq_some_iff.mp enabled
    split at enabled <;> cases enabled
    exact valid.frame rfl
  | cleanup peer =>
    obtain ⟨loop, -, enabled⟩ := Option.bind_eq_some_iff.mp enabled
    split at enabled <;> cases enabled
    exact valid.cleanupRoutes _
  | leave peer =>
    obtain ⟨loop, -, enabled⟩ := Option.bind_eq_some_iff.mp enabled
    split at enabled <;> cases enabled
    exact valid
  | stop peer =>
    obtain ⟨loop, -, enabled⟩ := Option.bind_eq_some_iff.mp enabled
    split at enabled
    · split at enabled <;> cases enabled
      exact valid
    · cases enabled
  | collect serverAddr =>
    cases enabled
    exact valid.frame ipToRoutes_collect
  | remove index =>
    obtain ⟨found, -, same⟩ := Option.map_eq_some_iff.mp enabled
    exact same ▸ valid

/-- The routes of a server are valid after every run. -/
theorem validTable_of_run {networkStates : Map String NetworkState}
    {peerInfos : PeerId → PeerServerInfo} {events : List PeerEvent} {network : PeerNetwork}
    (reaches : machine.run (start networkStates peerInfos) events = some network) :
    network.manager.ValidTable :=
  Machine.run_induction (fun _ network => network.manager.ValidTable)
    (fun _ _ _ found => nomatch found)
    (fun _ _ _ _ _ valid enabled => validTable_step valid enabled) reaches

end PeerNetwork

/-! ### The effect of a list -/

namespace PeerServerManager

/-- What a list of a peer does to the routes: in the listed networks every address has at most one
route for each peer, the peer has a route exactly where it lists the address and its route is among
the first ones, with the listed latency, the routes of other peers stay unless they are cut off
there, and no list is empty or too long. The networks that are not listed stay as they are. -/
structure ExactUpdate (manager next : PeerServerManager) (peer : PeerId)
    (networks : List NetworkInfo) : Prop where
  single : ∀ network ∈ networks, ∀ ip,
    ((next.routesTo network.networkCode ip).map IpRouteInfo.peerInfo).Nodup
  own : ∀ network ∈ networks, ∀ ip route, route.peerInfo = peer →
    (route ∈ next.routesTo network.networkCode ip ↔
      ∃ client ∈ network.clients, client.ip = ip ∧ route.clientLatencyMs = client.latencyMs ∧
        manager.AmongFirst peer client.latencyMs (manager.routesTo network.networkCode ip) route)
  others : ∀ network ∈ networks, ∀ ip route, route.peerInfo ≠ peer →
    (route ∈ next.routesTo network.networkCode ip ↔
      route ∈ manager.routesTo network.networkCode ip ∧
        ∀ client ∈ network.clients, client.ip = ip →
          manager.AmongFirst peer client.latencyMs (manager.routesTo network.networkCode ip) route)
  lists : ∀ network ∈ networks, ∀ ip routes,
    (next.ipMap network.networkCode).lookup ip = some routes →
      routes ≠ [] ∧ routes.length ≤ maxRoutesPerIp
  unlisted : ∀ networkCode ∉ networks.map NetworkInfo.networkCode,
    next.ipToRoutes.lookup networkCode = manager.ipToRoutes.lookup networkCode

/-- The latencies of the routes to the listed addresses do not overflow. -/
def SmallLatencies (manager : PeerServerManager) (peer : PeerId) (networks : List NetworkInfo) :
    Prop :=
  ∀ network ∈ networks, ∀ client ∈ network.clients,
    ∀ route ∈ withListed peer client.latencyMs (manager.routesTo network.networkCode client.ip),
      manager.Small route

variable {manager next : PeerServerManager} {peer : PeerId} {network : NetworkInfo}
  {client : ClientLatencyInfo} {ip : Ipv4Addr} {route : IpRouteInfo}

/-- One network of the list, whose routes were valid and are now what the handler makes of them. -/
structure Synced (manager next : PeerServerManager) (peer : PeerId) (network : NetworkInfo) :
    Prop where
  valid : manager.ValidTable
  synced : next.ipMap network.networkCode =
    manager.syncedMap peer network.clients (manager.ipMap network.networkCode)
  distinct : (network.clients.map ClientLatencyInfo.ip).Nodup
  small : ∀ client ∈ network.clients,
    ∀ route ∈ withListed peer client.latencyMs (manager.routesTo network.networkCode client.ip),
      manager.Small route

namespace Synced

theorem valid_entered (update : Synced manager next peer network) (client : ClientLatencyInfo) :
    ValidRoutes (manager.enter peer client.latencyMs
      (manager.routesTo network.networkCode client.ip)) :=
  valid_enter (update.valid.single network.networkCode client.ip)

theorem lookup_of_listed (update : Synced manager next peer network)
    (isClient : client ∈ network.clients) :
    (next.ipMap network.networkCode).lookup client.ip = some (manager.enter peer client.latencyMs
      (manager.routesTo network.networkCode client.ip)) := by
  have entered : ValidRoutes (manager.enter peer client.latencyMs
    (manager.routesTo network.networkCode client.ip)) := update.valid_entered client
  rw [routesTo_eq] at entered ⊢
  rw [update.synced, lookup_syncedMap_of_mem update.distinct isClient _ entered.present]

theorem routesTo_of_listed (update : Synced manager next peer network)
    (isClient : client ∈ network.clients) :
    next.routesTo network.networkCode client.ip = manager.enter peer client.latencyMs
      (manager.routesTo network.networkCode client.ip) := by
  rw [routesTo_eq, update.lookup_of_listed isClient, Option.getD_some]

theorem routesTo_of_unlisted (update : Synced manager next peer network)
    (absent : ip ∉ network.clients.map ClientLatencyInfo.ip) :
    next.routesTo network.networkCode ip =
      (manager.routesTo network.networkCode ip).filter fun route => route.peerInfo ≠ peer := by
  rw [routesTo_eq, routesTo_eq, update.synced, lookup_syncedMap_of_absent absent]
  cases (manager.ipMap network.networkCode).lookup ip with
  | none => rfl
  | some routes =>
    rw [Option.bind_some, Option.getD_some]
    unfold withoutPeer
    split
    · next empty => exact empty.symm
    · rfl

/-- An address is listed with one latency. -/
theorem eq_of_listed (update : Synced manager next peer network)
    (isClient : client ∈ network.clients) {other : ClientLatencyInfo}
    (isOther : other ∈ network.clients) (same : other.ip = client.ip) : other = client :=
  List.inj_on_of_nodup_map update.distinct isOther isClient same

theorem single (update : Synced manager next peer network) (ip : Ipv4Addr) :
    ((next.routesTo network.networkCode ip).map IpRouteInfo.peerInfo).Nodup := by
  by_cases isListed : ip ∈ network.clients.map ClientLatencyInfo.ip
  · obtain ⟨client, isClient, rfl⟩ := List.mem_map.mp isListed
    rw [update.routesTo_of_listed isClient]
    exact (update.valid_entered client).single
  · rw [update.routesTo_of_unlisted isListed]
    exact (List.filter_sublist.map _).nodup (update.valid.single _ _)

theorem lists (update : Synced manager next peer network) (ip : Ipv4Addr)
    {routes : List IpRouteInfo}
    (found : (next.ipMap network.networkCode).lookup ip = some routes) :
    routes ≠ [] ∧ routes.length ≤ maxRoutesPerIp := by
  by_cases isListed : ip ∈ network.clients.map ClientLatencyInfo.ip
  · obtain ⟨client, isClient, rfl⟩ := List.mem_map.mp isListed
    rw [update.lookup_of_listed isClient] at found
    cases found
    have entered : ValidRoutes (manager.enter peer client.latencyMs
      (manager.routesTo network.networkCode client.ip)) := update.valid_entered client
    exact ⟨entered.present, entered.short⟩
  · rw [update.synced, lookup_syncedMap_of_absent isListed] at found
    obtain ⟨before, isBefore, kept⟩ := Option.bind_eq_some_iff.mp found
    have rest := valid_withoutPeer (update.valid network.networkCode ip before isBefore) kept
    exact ⟨rest.present, rest.short⟩

theorem mem_routesTo_of_listed (update : Synced manager next peer network)
    (isClient : client ∈ network.clients) :
    route ∈ next.routesTo network.networkCode client.ip ↔
      route ∈ withListed peer client.latencyMs
          (manager.routesTo network.networkCode client.ip) ∧
        manager.AmongFirst peer client.latencyMs
          (manager.routesTo network.networkCode client.ip) route := by
  rw [update.routesTo_of_listed isClient]
  exact mem_enter_iff (update.valid.single _ _) (update.small client isClient)

/-- The peer has a route where it lists the address and the route is among the first. -/
theorem own (update : Synced manager next peer network) (ip : Ipv4Addr)
    (through : route.peerInfo = peer) :
    route ∈ next.routesTo network.networkCode ip ↔
      ∃ client ∈ network.clients, client.ip = ip ∧ route.clientLatencyMs = client.latencyMs ∧
        manager.AmongFirst peer client.latencyMs (manager.routesTo network.networkCode ip)
          route := by
  by_cases isListed : ip ∈ network.clients.map ClientLatencyInfo.ip
  · obtain ⟨client, isClient, rfl⟩ := List.mem_map.mp isListed
    rw [update.mem_routesTo_of_listed isClient, mem_withListed_own through]
    constructor
    · exact fun ⟨latency, first⟩ => ⟨client, isClient, rfl, latency, first⟩
    · rintro ⟨other, isOther, same, latency, first⟩
      cases update.eq_of_listed isClient isOther same
      exact ⟨latency, first⟩
  · rw [update.routesTo_of_unlisted isListed]
    constructor
    · exact fun member => absurd through (of_decide_eq_true (List.mem_filter.mp member).2)
    · rintro ⟨client, isClient, rfl, -⟩
      exact absurd (List.mem_map_of_mem isClient) isListed

/-- A route through another peer goes only where it is cut off. -/
theorem others (update : Synced manager next peer network) (ip : Ipv4Addr)
    (differs : route.peerInfo ≠ peer) :
    route ∈ next.routesTo network.networkCode ip ↔
      route ∈ manager.routesTo network.networkCode ip ∧
        ∀ client ∈ network.clients, client.ip = ip →
          manager.AmongFirst peer client.latencyMs (manager.routesTo network.networkCode ip)
            route := by
  by_cases isListed : ip ∈ network.clients.map ClientLatencyInfo.ip
  · obtain ⟨client, isClient, rfl⟩ := List.mem_map.mp isListed
    rw [update.mem_routesTo_of_listed isClient, mem_withListed_other differs]
    refine and_congr_right fun _ => ⟨fun first other isOther same => ?_,
      fun all => all client isClient rfl⟩
    cases update.eq_of_listed isClient isOther same
    exact first
  · rw [update.routesTo_of_unlisted isListed, List.mem_filter, decide_eq_true_eq]
    refine and_congr_right fun _ => ⟨fun _ client isClient same => ?_, fun _ => differs⟩
    exact absurd (same ▸ List.mem_map_of_mem isClient) isListed

end Synced

/-- A list updates valid routes exactly. -/
theorem exactUpdate_of_validTable {networks : List NetworkInfo} (valid : manager.ValidTable)
    (distinct : DistinctNetworks networks) (small : manager.SmallLatencies peer networks)
    (codes : List String) :
    manager.ExactUpdate (manager.handleClientInfoResponse peer codes networks).1 peer networks := by
  have update : ∀ network ∈ networks, Synced manager
      (manager.handleClientInfoResponse peer codes networks).1 peer network :=
    fun network isNetwork => ⟨valid, ipMap_foldl_syncNetwork distinct.codes isNetwork,
      distinct.ips network isNetwork, small network isNetwork⟩
  refine ⟨fun network isNetwork ip => ?_, fun network isNetwork ip route through => ?_,
    fun network isNetwork ip route differs => ?_, fun network isNetwork ip routes found => ?_,
    fun networkCode unlisted => lookup_foldl_syncNetwork unlisted⟩
  · exact (update network isNetwork).single ip
  · exact (update network isNetwork).own ip through
  · exact (update network isNetwork).others ip differs
  · exact (update network isNetwork).lists ip found

end PeerServerManager

/-- In every state that a server reaches, a list of a peer updates the routes exactly. -/
theorem PeerNetwork.exactUpdate_of_run {networkStates : Map String NetworkState}
    {peerInfos : PeerId → PeerServerInfo} {events : List PeerEvent} {network : PeerNetwork}
    (reaches : machine.run (start networkStates peerInfos) events = some network) {peer : PeerId}
    {networks : List NetworkInfo} (distinct : DistinctNetworks networks)
    (small : network.manager.SmallLatencies peer networks) (codes : List String) :
    network.manager.ExactUpdate (network.manager.handleClientInfoResponse peer codes networks).1
      peer networks :=
  PeerServerManager.exactUpdate_of_validTable (validTable_of_run reaches) distinct small codes

/-! ### A route that is cut off -/

/-- Six peers connect, and the first five list one address each at its own latency. -/
def fiveLists : List PeerEvent :=
  (List.range 6).map (fun peer => .connect peer "" false 0 0) ++
    (List.range 5).flatMap fun peer =>
      [.clientInfoResponse peer [⟨"net", [⟨0x0A1A0003, UInt32.ofNat (10 * peer)⟩]⟩],
        .routeStep peer, .routeStep peer, .routeStep peer]

/-- The sixth one is nearer than the last two and takes the place of the last one. -/
theorem PeerNetwork.exactUpdate_fiveLists : ∃ network,
    machine.run (start ∅ fun _ => .new "" false) fiveLists = some network ∧
      network.manager.ExactUpdate (network.manager.handleClientInfoResponse 5 []
        [⟨"net", [⟨0x0A1A0003, 25⟩]⟩]).1 5 [⟨"net", [⟨0x0A1A0003, 25⟩]⟩] := by
  refine ⟨_, rfl, exactUpdate_of_run (show machine.run _ fiveLists = _ from rfl) ?_ ?_ []⟩
  · exact ⟨by decide, by decide⟩
  · unfold PeerServerManager.SmallLatencies PeerServerManager.Small
    decide

end Vnt.Server
