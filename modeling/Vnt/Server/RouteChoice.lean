/-
This file settles when the latency of a route is the sum it stands for. The two latencies come from
a clock and from another server and may have any value, and their sum wraps: a route whose sum is
too large looks like the best one. The latencies of the routes to an address are exact, and the
route with the least sum is chosen, exactly when no sum exceeds the numbers it is computed in.
-/

import Vnt.Server.RouteUpdate

namespace Vnt.Server

open Vnt.Base

namespace PeerServerManager

variable {manager : PeerServerManager} {networkCode : String} {targetIp : Ipv4Addr}
  {route : IpRouteInfo}

/-- A latency is exact when its sum is small. -/
theorem toNat_totalLatency_eq_iff (manager : PeerServerManager) (route : IpRouteInfo) :
    (manager.totalLatency route).toNat = manager.trueLatency route ↔ manager.Small route := by
  rw [toNat_totalLatency]
  unfold Small
  omega

/-- A route to the address goes through the connected peer, has the latency, and no route through a
connected peer has a smaller one. -/
def Nearest (manager : PeerServerManager) (networkCode : String) (targetIp : Ipv4Addr)
    (peer : PeerId) (latency : Nat) : Prop :=
  ∃ chosen ∈ manager.routesTo networkCode targetIp, chosen.peerInfo = peer ∧
    manager.isConnected chosen = true ∧ manager.trueLatency chosen = latency ∧
      ∀ other ∈ manager.routesTo networkCode targetIp, manager.isConnected other = true →
        latency ≤ manager.trueLatency other

/-- The latencies of the routes to an address are the sums they stand for, and the peer that is
found for it is a nearest one with its latency: none is found only when no peer with a route is
connected. -/
structure ExactChoice (manager : PeerServerManager) (networkCode : String)
    (targetIp : Ipv4Addr) : Prop where
  sums : ∀ route ∈ manager.routesTo networkCode targetIp,
    (manager.totalLatency route).toNat = manager.trueLatency route
  nearest : ∀ peer latency localLatency,
    manager.findBestRoute networkCode targetIp = some (peer, latency, localLatency) →
      manager.Nearest networkCode targetIp peer latency.toNat
  finds : manager.findBestRoute networkCode targetIp = none →
    ∀ route ∈ manager.routesTo networkCode targetIp, manager.isConnected route = false

theorem mem_connected : route ∈ (manager.routesTo networkCode targetIp).filter
    manager.isConnected ↔ route ∈ manager.routesTo networkCode targetIp ∧
      manager.isConnected route = true := List.mem_filter

/-- The best route is a nearest one when the sums of the connected routes are small. -/
theorem nearest_bestRoute (small : ∀ route ∈ manager.routesTo networkCode targetIp,
      manager.isConnected route = true → manager.Small route) {chosen : IpRouteInfo}
    (best : manager.bestRoute networkCode targetIp = some chosen) :
    manager.Nearest networkCode targetIp chosen.peerInfo (manager.totalLatency chosen).toNat := by
  have exactLatency : ∀ route ∈ manager.routesTo networkCode targetIp,
      manager.isConnected route = true →
        (manager.totalLatency route).toNat = manager.trueLatency route :=
    fun route member connected =>
      (toNat_totalLatency_eq_iff manager route).mpr (small route member connected)
  obtain ⟨member, connected⟩ := mem_connected.mp (List.argmin_mem best)
  refine ⟨chosen, member, rfl, connected, (exactLatency chosen member connected).symm, ?_⟩
  intro other isOther otherConnected
  rw [← exactLatency other isOther otherConnected]
  exact List.le_of_mem_argmin (f := fun route => (manager.totalLatency route).toNat)
    (mem_connected.mpr ⟨isOther, otherConnected⟩) best

theorem bestRoute_eq_none (none : manager.bestRoute networkCode targetIp = none)
    (member : route ∈ manager.routesTo networkCode targetIp) :
    manager.isConnected route = false := by
  have empty := List.argmin_eq_none.mp none
  refine Bool.not_eq_true _ |>.mp fun connected => ?_
  have inConnected := mem_connected.mpr ⟨member, connected⟩
  rw [empty] at inConnected
  cases inConnected

/-- The choice of a route is exact if and only if the sums of the routes to the address fit. -/
theorem exactChoice_iff (manager : PeerServerManager) (networkCode : String)
    (targetIp : Ipv4Addr) :
    manager.ExactChoice networkCode targetIp ↔
      ∀ route ∈ manager.routesTo networkCode targetIp, manager.Small route := by
  constructor
  · intro exactChoice route member
    exact (toNat_totalLatency_eq_iff manager route).mp (exactChoice.sums route member)
  · intro small
    refine ⟨fun route member => ?_, fun peer latency localLatency found => ?_,
      fun missing route member => ?_⟩
    · exact (toNat_totalLatency_eq_iff manager route).mpr (small route member)
    · rw [findBestRoute_eq] at found
      obtain ⟨chosen, best, same⟩ := Option.map_eq_some_iff.mp found
      cases same
      exact nearest_bestRoute (fun route member _ => small route member) best
    · rw [findBestRoute_eq, Option.map_eq_none_iff] at missing
      exact bestRoute_eq_none missing member

end PeerServerManager

/-- Two peers list an address, the second one at a latency that no client can have. -/
def wrappedLists : List PeerEvent :=
  [.connect 0 "10.0.0.2:2224" true 0 0, .connect 1 "10.0.0.3:2224" true 1 1,
    .clientInfoResponse 0 [⟨"net", [⟨0x0A1A0003, 20⟩]⟩], .routeStep 0, .routeStep 0, .routeStep 0,
    .clientInfoResponse 1 [⟨"net", [⟨0x0A1A0003, 4294967284⟩]⟩], .routeStep 1, .routeStep 1,
    .routeStep 1]

/-- The second one is chosen, at no latency at all. -/
theorem PeerNetwork.not_exactChoice_wrapped : ∃ network,
    machine.run (start ∅ fun _ => .new "" false) wrappedLists = some network ∧
      network.manager.findBestRoute "net" 0x0A1A0003 = some (1, 0, none) ∧
        ¬ network.manager.ExactChoice "net" 0x0A1A0003 := by
  have reaches : ∃ network, machine.run (start ∅ fun _ => .new "" false) wrappedLists =
      some network ∧ network.manager.findBestRoute "net" 0x0A1A0003 = some (1, 0, none) ∧
        network.manager.routesTo "net" 0x0A1A0003 = [⟨1, 4294967284⟩, ⟨0, 20⟩] ∧
          network.manager.totalLatency ⟨1, 4294967284⟩ = 0 := ⟨_, rfl, rfl, rfl, rfl⟩
  obtain ⟨network, isNetwork, found, routes, wrapped⟩ := reaches
  refine ⟨network, isNetwork, found, fun exactChoice => ?_⟩
  have sum := exactChoice.sums ⟨1, 4294967284⟩ (routes ▸ List.mem_cons_self)
  rw [wrapped] at sum
  exact Nat.succ_ne_zero _ sum.symm

end Vnt.Server
