/-
This file states what every reachable state of the control service has, whatever the order of
the events: the network and its gateway belong together, every connection is stored under the
random number of its session, and the lease table is well formed. The last part needs one
thing from outside the lease table: when the service restarts, the rows it loads must have
different addresses.
-/

import Vnt.Server.ServiceSteps

namespace Vnt.Server

open Vnt.Base

namespace ControlService

/-- The network is one the service can serve, and the connections are stored under the random
numbers of their sessions, all of them drawn before. -/
structure Tracked (state : ControlService) : Prop where
  gateway : NetworkState.gatewayOf state.network.net = some state.network.gateway
  session : ∀ randomId connection, state.connections.lookup randomId = some connection →
    connection.session.randomId = randomId ∧ randomId ∈ state.usedIds ∧
      connection.session.networkCode = state.network.networkCode

/-- The lease table of the service is well formed. -/
def WellFormed (state : ControlService) : Prop :=
  state.network.leaseState.WellFormed state.network.net state.network.gateway

/-- The rows a restart loads have different addresses. -/
def LoadsDistinct (state : ControlService) : ServiceEvent → Prop
  | .restart _ true => state.database.Distinct state.network.networkCode
  | _ => True

variable {state next : ControlService} {event : ServiceEvent}

/-- What a started service looks like. -/
theorem load_eq_some {database : Database} {networkCode : String} {net : Ipv4Net}
    {leaseDuration : Nat} {usedIds : List RandomId} {now : SystemTime} {answered : Bool}
    (loaded : load database networkCode net leaseDuration usedIds now answered = some next) :
    ∃ gateway, NetworkState.gatewayOf net = some gateway ∧
      next.network = ⟨networkCode, gateway, net, leaseDuration, ∅,
        NetworkState.buildInitialInnerState net gateway now 0
          (if answered then database.loadAllDevices networkCode else []), ∅⟩ ∧
      next.database = database ∧ next.connections = ∅ ∧ next.saves = [] ∧
      next.senderRemovals = [] ∧ next.usedIds = usedIds := by
  unfold load NetworkState.newFromDb at loaded
  rw [Option.map_map, Option.map_eq_some_iff] at loaded
  obtain ⟨gateway, gatewayIs, rfl⟩ := loaded
  exact ⟨gateway, gatewayIs, rfl, rfl, rfl, rfl, rfl, rfl⟩

/-- A connection after one connection was stored is the stored one or was there before. -/
theorem lookup_connection_insert {connections : Map RandomId Connection} {randomId other : RandomId}
    {new connection : Connection}
    (known : (connections.insert randomId new).lookup other = some connection) :
    (other = randomId ∧ connection = new) ∨ connections.lookup other = some connection := by
  rw [Map.lookup_insert_eq] at known
  split at known
  · next same => exact .inl ⟨same, (Option.some.inj known).symm⟩
  · exact .inr known

theorem lookup_connection_erase {connections : Map RandomId Connection} {randomId other : RandomId}
    {connection : Connection}
    (known : (connections.erase randomId).lookup other = some connection) :
    other ≠ randomId ∧ connections.lookup other = some connection := by
  rw [Map.lookup_erase_eq] at known
  split at known
  · cases known
  · next different => exact ⟨different, known⟩

/-- Storing a connection again with the same session numbers keeps the connections tracked. -/
theorem Tracked.insert (tracked : state.Tracked) {randomId : RandomId} {connection new : Connection}
    (known : state.connections.lookup randomId = some connection)
    (sameId : new.session.randomId = connection.session.randomId)
    (sameCode : new.session.networkCode = connection.session.networkCode) (other : RandomId)
    (found : Connection)
    (lookup : (state.connections.insert randomId new).lookup other = some found) :
    found.session.randomId = other ∧ other ∈ state.usedIds ∧
      found.session.networkCode = state.network.networkCode := by
  rcases lookup_connection_insert lookup with ⟨rfl, rfl⟩ | before
  · rw [sameId, sameCode]
    exact tracked.session other connection known
  · exact tracked.session other found before

theorem Tracked.close (tracked : state.Tracked) {randomId : RandomId} (other : RandomId)
    (found : Connection)
    (lookup : (state.connections.erase randomId).lookup other = some found) :
    found.session.randomId = other ∧ other ∈ state.usedIds ∧
      found.session.networkCode = state.network.networkCode :=
  tracked.session other found (lookup_connection_erase lookup).2

/-- Every event keeps the connections tracked. -/
theorem Tracked.step (tracked : state.Tracked) (effect : Effect state event next) :
    next.Tracked := by
  cases effect with
  | registered req randomId sender now table ip old sameNetwork fresh allocation =>
    refine ⟨?_, fun other found lookup => ?_⟩
    · rw [enroll_network, NetworkState.installAddress_net, NetworkState.installAddress_gateway]
      exact tracked.gateway
    · rw [enroll_network, NetworkState.installAddress_networkCode]
      rcases lookup_connection_insert lookup with ⟨rfl, rfl⟩ | before
      · exact ⟨rfl, List.mem_cons_self, sameNetwork⟩
      · obtain ⟨sameId, used, sameCode⟩ := tracked.session other found before
        exact ⟨sameId, List.mem_cons_of_mem _ used, sameCode⟩
  | wentOffline randomId connection now sent entry known current =>
    exact ⟨tracked.gateway, tracked.close⟩
  | aborted randomId connection now sent entry known current =>
    exact ⟨tracked.gateway, tracked.close⟩
  | superseded randomId connection now sent known stale =>
    exact ⟨tracked.gateway, tracked.close⟩
  | confirmationRead randomId connection entry known found =>
    exact ⟨tracked.gateway, tracked.insert known rfl rfl⟩
  | confirmationSkipped randomId connection known unknown =>
    exact ⟨tracked.gateway, tracked.insert known rfl rfl⟩
  | confirmationSaved randomId connection entry record known saving =>
    exact ⟨tracked.gateway, tracked.insert known rfl rfl⟩
  | confirmationFailed randomId connection known =>
    exact ⟨tracked.gateway, tracked.insert known rfl rfl⟩
  | marked randomId connection written known returned =>
    exact ⟨tracked.gateway, tracked.insert known rfl rfl⟩
  | deletedFromMemory deviceId deletions =>
    refine ⟨?_, fun other found lookup => ?_⟩
    · rw [NetworkState.removeDeviceFromMemory_net, NetworkState.removeDeviceFromMemory_gateway]
      exact tracked.gateway
    · rw [NetworkState.removeDeviceFromMemory_networkCode]
      exact tracked.session other found lookup
  | restarted now answered next loaded =>
    obtain ⟨gateway, gatewayIs, network, -, connections, -⟩ := load_eq_some loaded
    refine ⟨?_, fun other found lookup => ?_⟩
    · rw [network]
      exact gatewayIs
    · rw [connections] at lookup
      simp at lookup
  | _ => exact ⟨tracked.gateway, tracked.session⟩

/-- Every event keeps the lease table well formed, a restart on distinct rows included. -/
theorem WellFormed.step (wellFormed : state.WellFormed) (tracked : state.Tracked)
    (effect : Effect state event next) (distinct : state.LoadsDistinct event) :
    next.WellFormed := by
  cases effect with
  | registered req randomId sender now table ip old sameNetwork fresh allocation =>
    unfold WellFormed
    rw [enroll_network, NetworkState.installAddress_net, NetworkState.installAddress_gateway]
    exact NetworkStateInner.WellFormed.allocation wellFormed tracked.gateway allocation
  | wentOffline randomId connection now sent entry known current =>
    exact NetworkStateInner.WellFormed.insert_same wellFormed current.1 (by rfl) (by rfl) _
  | aborted randomId connection now sent entry known current =>
    have removed :=
      NetworkStateInner.WellFormed.removeEntry wellFormed connection.session.deviceId
    exact removed.of_eq removed.keyed rfl rfl
  | expired deviceIds collected =>
    exact NetworkStateInner.WellFormed.removeDevices wellFormed deviceIds
  | deletedFromMemory deviceId deletions =>
    unfold WellFormed
    rw [NetworkState.removeDeviceFromMemory_leaseState, NetworkState.removeDeviceFromMemory_net,
      NetworkState.removeDeviceFromMemory_gateway]
    exact NetworkStateInner.WellFormed.removeDeviceFromMemory wellFormed deviceId
  | restarted now answered next loaded =>
    obtain ⟨gateway, gatewayIs, network, -⟩ := load_eq_some loaded
    unfold WellFormed
    rw [network]
    refine NetworkStateInner.wellFormed_buildInitialInnerState ?_
    cases answered with
    | true => exact Database.Distinct.separate _ distinct
    | false => exact List.Pairwise.nil
  | _ => exact wellFormed

/-- Every event keeps the entries under their own identifiers. -/
theorem keyed_step (keyed : state.network.leaseState.Keyed) (effect : Effect state event next) :
    next.network.leaseState.Keyed := by
  cases effect with
  | registered req randomId sender now table ip old sameNetwork fresh allocation =>
    exact keyed.allocation allocation
  | wentOffline randomId connection now sent entry known current =>
    exact keyed.insert (keyed _ entry current.1)
  | aborted randomId connection now sent entry known current =>
    exact keyed.removeEntry connection.session.deviceId
  | expired deviceIds collected =>
    exact NetworkStateInner.removeDevices_induction _ deviceIds keyed (fun _ holds => holds)
      fun _ deviceId _ holds => holds.removeEntry deviceId
  | deletedFromMemory deviceId deletions =>
    rw [NetworkState.removeDeviceFromMemory_leaseState]
    rcases state.network.leaseState.removeDeviceFromMemory_eq deviceId with unchanged | changed
    · rwa [unchanged]
    · rw [changed]
      exact keyed.removeEntry deviceId
  | restarted now answered next loaded =>
    obtain ⟨gateway, -, network, -⟩ := load_eq_some loaded
    rw [network]
    exact NetworkStateInner.keyed_buildInitialInnerState _
  | _ => exact keyed

/-- A service that was just started. -/
def Started (state : ControlService) : Prop :=
  ∃ database networkCode net leaseDuration now, database.Distinct networkCode ∧
    load database networkCode net leaseDuration [] now true = some state

theorem tracked_load {database : Database} {networkCode : String} {net : Ipv4Net}
    {leaseDuration : Nat} {usedIds : List RandomId} {now : SystemTime} {answered : Bool}
    (loaded : load database networkCode net leaseDuration usedIds now answered = some state) :
    state.Tracked := by
  obtain ⟨gateway, gatewayIs, network, -, connections, -⟩ := load_eq_some loaded
  refine ⟨?_, fun randomId connection known => ?_⟩
  · rw [network]
    exact gatewayIs
  · rw [connections] at known
    simp at known

theorem Started.tracked (started : state.Started) : state.Tracked := by
  obtain ⟨database, networkCode, net, leaseDuration, now, -, loaded⟩ := started
  exact tracked_load loaded

theorem Started.wellFormed (started : state.Started) : state.WellFormed := by
  obtain ⟨database, networkCode, net, leaseDuration, now, distinct, loaded⟩ := started
  obtain ⟨gateway, gatewayIs, network, -⟩ := load_eq_some loaded
  unfold WellFormed
  rw [network]
  exact NetworkStateInner.wellFormed_buildInitialInnerState (distinct.separate)

/-- The service of the example network, started on a database without rows. -/
def exampleService : ControlService :=
  ⟨NetworkState.exampleState, .empty, [], ∅, [], [], [], [], .idle, []⟩

theorem started_exampleService : exampleService.Started := by
  refine ⟨.empty, "net", NetworkState.exampleNet, 86400000000000, 0, ?_, rfl⟩
  intro first second ip stored
  simp [Database.stored, Database.empty] at stored

end ControlService

end Vnt.Server
