/-
This file settles for which gateways the administrator gets back the gateway that was given. What is
kept of a gateway is the address below it with the mask, and wherever the gateway is needed it is
the address after the network address. So it is the one that was given when the address below it is
a network address, and else it is another one, although the network was accepted.
-/

import Vnt.Server.NetworkReload
import Vnt.Server.RegistrationResult
import Vnt.Server.UsableAddress

namespace Vnt.Server

open Vnt.Base

/-! ### The network below a gateway -/

/-- The address below the gateway is a network address. -/
def FirstHost (gateway : Ipv4Addr) (netmask : UInt8) : Prop :=
  (gateway.toNat - 1) % 2 ^ (32 - netmask.toNat) = 0

instance (gateway : Ipv4Addr) (netmask : UInt8) : Decidable (FirstHost gateway netmask) :=
  inferInstanceAs (Decidable (_ = _))

variable {gateway : Ipv4Addr} {netmask : UInt8} {net : Ipv4Net}

/-- The network that is built of a gateway is the address below it with the mask. -/
theorem build_eq_ok
    (built : NetworkService.buildNetworkFromGateway gateway netmask.toNat = .ok net) :
    gateway.toNat ≠ 0 ∧ net.addr = gateway - 1 ∧ net.prefixLen.val = netmask.toNat := by
  unfold NetworkService.buildNetworkFromGateway Ipv4Net.new at built
  split at built
  · cases built
  · next notZero =>
    split at built
    · next found isNet =>
      cases built
      split at isNet <;> cases isNet
      exact ⟨notZero, rfl, rfl⟩
    · cases built

theorem toNat_below (notZero : gateway.toNat ≠ 0) : (gateway - 1).toNat = gateway.toNat - 1 :=
  UInt32.toNat_sub_of_le gateway 1 (UInt32.le_iff_toNat_le.mpr (Nat.pos_of_ne_zero notZero))

/-- The address after the network address is the gateway when the gateway is the first host. -/
theorem network_succ_eq_iff
    (built : NetworkService.buildNetworkFromGateway gateway netmask.toNat = .ok net) :
    net.network + 1 = gateway ↔ FirstHost gateway netmask := by
  obtain ⟨notZero, isAddr, isMask⟩ := build_eq_ok built
  have first : net.network = net.addr ↔ FirstHost gateway netmask := by
    rw [net.network_eq_addr_iff, isAddr, toNat_below notZero, isMask]
    rfl
  rw [← first, isAddr]
  constructor
  · rintro rfl
    exact (UInt32.add_sub_cancel _ _).symm
  · intro same
    rw [same, UInt32.sub_add_cancel]

/-- No addition overflows for a network that was built of a gateway. -/
theorem gatewayOf_build
    (built : NetworkService.buildNetworkFromGateway gateway netmask.toNat = .ok net) :
    NetworkState.gatewayOf net = some (net.network + 1) := by
  obtain ⟨notZero, isAddr, -⟩ := build_eq_ok built
  have bound := gateway.toNat_lt
  have below := UInt32.le_iff_toNat_le.mp net.network_le_addr
  rw [isAddr, toNat_below notZero] at below
  unfold NetworkState.gatewayOf
  rw [if_pos (by omega)]

/-! ### The addresses a state hands out -/

namespace NetworkState

variable {state next start : NetworkState} {ip : Ipv4Addr}

/-- After some registrations and other operations, a registration gets the address. -/
def HandsOut (start : NetworkState) (ip : Ipv4Addr) : Prop :=
  ∃ events reached req randomId sender now stats next session entry,
    stateMachine.run start events = some reached ∧
      reached.register req randomId sender now stats = .ok (next, session, entry) ∧
        session.ip = ip

/-- The gateway, and no device has its address. -/
structure SparesGateway (state : NetworkState) (gateway : Ipv4Addr) : Prop where
  isGateway : state.gateway = gateway
  free : ∀ deviceId, state.lease deviceId ≠ some gateway

theorem lease_updateClientLatency (other : Ipv4Addr) (latencyMs : UInt32) :
    (state.updateClientLatency other latencyMs).leaseState.lease = state.leaseState.lease := by
  unfold updateClientLatency
  split
  · rfl
  · split
    · rfl
    · next entry known => exact NetworkStateInner.lease_insert_same known (by rfl) _

theorem lease_offlineIp (heap : StatsHeap) (other : String) (place : Ipv4Addr)
    (randomId : RandomId) (now : SystemTime) :
    (state.offlineIp heap other place randomId now).1.leaseState.lease =
      state.leaseState.lease := by
  have same := state.leaseState.lease_offlineIp place randomId now heap state.networkCode other
  unfold offlineIp
  split
  · next table record outcome =>
    rw [outcome] at same
    exact same
  · rfl

theorem lookup_releaseLease (other deviceId : String) (place : Ipv4Addr) (randomId : RandomId) :
    (state.releaseLease other place randomId).1.getDeviceEntry deviceId = none ∨
      (state.releaseLease other place randomId).1.getDeviceEntry deviceId =
        state.getDeviceEntry deviceId := by
  unfold releaseLease getDeviceEntry NetworkStateInner.releasePreRegisteredIp
  dsimp only
  split
  · rw [Map.lookup_erase_eq]
    exact ite_eq_or_eq _ _ _
  · exact .inr rfl

/-- Only a registration gives a device an address. -/
theorem lease_operate (operation : StateOperation) (deviceId : String) :
    (state.operate operation).lease deviceId = none ∨
      (state.operate operation).lease deviceId = state.lease deviceId := by
  have of_entry : ∀ changed : NetworkState,
      changed.getDeviceEntry deviceId = none ∨
        changed.getDeviceEntry deviceId = state.getDeviceEntry deviceId →
      changed.lease deviceId = none ∨ changed.lease deviceId = state.lease deviceId := by
    intro changed entry
    exact entry.imp (fun gone => congrArg (·.bind DeviceEntry.ip) gone)
      (fun same => congrArg (·.bind DeviceEntry.ip) same)
  cases operation with
  | updateClientLatency other latencyMs =>
    exact .inr (congrFun (lease_updateClientLatency other latencyMs) deviceId)
  | offlineIp heap other place randomId now =>
    exact .inr (congrFun (lease_offlineIp heap other place randomId now) deviceId)
  | releaseLease other place randomId =>
    exact of_entry _ (lookup_releaseLease other deviceId place randomId)
  | removeSender place => exact .inr rfl
  | removeStats place => exact .inr rfl
  | removeDeviceFromMemory other =>
    have entry := state.getDeviceEntry_removeDeviceFromMemory other deviceId
    exact of_entry _ (entry ▸ ite_eq_or_eq _ _ _)
  | removeDevices others =>
    have entry := state.getDeviceEntry_removeDevices others deviceId
    exact of_entry _ (entry ▸ ite_eq_or_eq _ _ _)

theorem gateway_operate {operation : StateOperation} :
    (state.operate operation).gateway = state.gateway := by
  cases operation with
  | updateClientLatency other latencyMs =>
    change (state.updateClientLatency other latencyMs).gateway = state.gateway
    unfold updateClientLatency
    split
    · rfl
    · split <;> rfl
  | offlineIp heap other place randomId now =>
    change (state.offlineIp heap other place randomId now).1.gateway = state.gateway
    unfold offlineIp
    split <;> rfl
  | removeDeviceFromMemory other => exact removeDeviceFromMemory_gateway state other
  | _ => rfl

/-- What is registered is not the gateway, and the gateway stays free. -/
theorem SparesGateway.register {req : RegRequestMsg} {randomId : RandomId} {sender : Sender}
    {now : SystemTime} {stats : StatsRef} {session : Session} {entry : Option DeviceEntry}
    (spares : state.SparesGateway gateway)
    (succeeds : state.register req randomId sender now stats = .ok (next, session, entry)) :
    session.ip ≠ gateway ∧ next.SparesGateway gateway := by
  obtain ⟨table, ip, old, allocation, rfl, rfl, -⟩ := register_cases succeeds
  have notGateway : ip ≠ gateway := by
    rcases allocation.own_or_unreserved with own | ⟨-, other, -⟩
    · rintro rfl
      exact spares.free req.deviceId own
    · exact spares.isGateway ▸ other
  refine ⟨notGateway, ?_, fun deviceId holds => ?_⟩
  · rw [installAddress_gateway]
    exact spares.isGateway
  · unfold lease at holds
    rw [installAddress_leaseState, allocation.lease, Function.update_apply] at holds
    split at holds
    · exact notGateway (Option.some.inj holds)
    · exact spares.free deviceId holds

theorem SparesGateway.step {event : StateEvent} (spares : state.SparesGateway gateway)
    (enabled : stateMachine.step state event = some next) : next.SparesGateway gateway := by
  rcases stateMachine_cases enabled with ⟨req, randomId, sender, now, stats, session, entry,
    outcome⟩ | rfl | ⟨operation, rfl⟩
  · exact (spares.register outcome).2
  · exact spares
  · refine ⟨gateway_operate.trans spares.isGateway, fun deviceId holds => ?_⟩
    rcases lease_operate operation deviceId with gone | same
    · rw [gone] at holds
      cases holds
    · exact spares.free deviceId (same.symm.trans holds)

/-- A state hands out its gateway only when a device has that address already. -/
theorem SparesGateway.not_handsOut (spares : start.SparesGateway gateway) :
    ¬start.HandsOut gateway := by
  rintro ⟨events, reached, req, randomId, sender, now, stats, next, session, entry, reaches,
    succeeds, isGateway⟩
  have later : reached.SparesGateway gateway :=
    Machine.run_induction (fun _ state => state.SparesGateway gateway) spares
      (fun _ _ _ _ _ spares enabled => spares.step enabled) reaches
  exact (later.register succeeds).1 isGateway

/-- What a device has is handed out to it when it registers. -/
theorem handsOut_of_lease {deviceId : String} (holds : start.lease deviceId = some ip) :
    start.HandsOut ip := by
  let req : RegRequestMsg :=
    ⟨start.networkCode, deviceId, none, "name", "1.0", none, false, .normal⟩
  have offers : start.offered req = some ip := by
    unfold offered
    rw [holds]
    exact if_pos (.inl rfl)
  obtain ⟨table, old, allocated⟩ := allocateIp_of_offered 0 0 0 offers
  refine ⟨[], start, req, 0, 0, 0, 0, start.installAddress table deviceId ip old 0,
    Session.new req ip 0 0, table.deviceMap.lookup deviceId, rfl, ?_, rfl⟩
  unfold NetworkState.register allocateIpAndGetEntry
  rw [allocated]

end NetworkState

/-! ### Where the gateway comes back -/

/-- The network an operation sets, with its gateway and its mask. -/
def AdminOperation.sets : AdminOperation → Option (String × Ipv4Addr × UInt8)
  | .addNetwork networkCode gateway netmask _ _ => some (networkCode, gateway, netmask)
  | .updateNetwork networkCode gateway netmask _ _ => some (networkCode, gateway, netmask)
  | .deleteNetwork _ => none
  | .deleteDevice _ _ => none

namespace AdminService

/-- The gateway of a network is the same in the state that is created for it, in what is shown of
it and in what is loaded of an open database, and that state hands it out to nobody. -/
structure GatewayKept (service : AdminService) (networkCode : String) (gateway : Ipv4Addr) :
    Prop where
  created : ∀ now stats, ∃ state, service.createdState networkCode now stats = some state ∧
    state.gateway = gateway ∧ ¬state.HandsOut gateway
  shown : (∃ info ∈ service.getNetworkInfo, info.networkCode = networkCode) ∧
    ∀ info ∈ service.getNetworkInfo, info.networkCode = networkCode → info.gateway = gateway
  reloaded : ∀ tables, service.pool = some tables → ∃ network,
    (managedNetworksFromRecords tables.loadAllNetworks).lookup networkCode = some network ∧
      NetworkState.gatewayOf network.network.config.net = some gateway

/-- The gateway is the first host of its network. A network that is added has no device left that
was stored with the address of the gateway, and one that is updated has a row in an open
database. -/
def KeepsGateway (service : AdminService) : AdminOperation → Prop
  | .addNetwork networkCode gateway netmask _ _ =>
    FirstHost gateway netmask ∧ ∀ row ∈ service.deviceRows networkCode, row.ip ≠ some gateway
  | .updateNetwork networkCode gateway netmask _ _ =>
    FirstHost gateway netmask ∧ ∀ tables, service.pool = some tables →
      (tables.networks.lookup networkCode).isSome = true
  | .deleteNetwork _ => True
  | .deleteDevice _ _ => True

variable {service after : AdminService} {networkCode : String} {network : SourcedNetwork}
  {tables : Tables} {record : NetworkRecord}

/-- The devices of a network are different ones. -/
theorem pairwise_deviceRows (service : AdminService) (networkCode : String) :
    (service.deviceRows networkCode).Pairwise fun first second =>
      first.deviceId ≠ second.deviceId := by
  unfold deviceRows
  split
  · exact List.Pairwise.nil
  · next tables _ => exact tables.devices.pairwise_deviceId_loadAllDevices networkCode

/-- The state that is created for a network keeps the gateway when it is the first host and no
device is stored with it. -/
theorem created_iff
    (built : NetworkService.buildNetworkFromGateway gateway netmask.toNat = .ok net)
    (entered : service.dbNets.lookup networkCode = some network)
    (isNet : network.network.config.net = net) :
    (∀ now stats, ∃ state, service.createdState networkCode now stats = some state ∧
        state.gateway = gateway ∧ ¬state.HandsOut gateway) ↔
      FirstHost gateway netmask ∧
        ∀ row ∈ service.deviceRows networkCode, row.ip ≠ some gateway := by
  have created : ∀ now stats, ∃ state, service.createdState networkCode now stats = some state ∧
      state.gateway = net.network + 1 ∧
        state.leaseState = NetworkState.buildInitialInnerState net (net.network + 1) now stats
          (service.deviceRows networkCode) := by
    intro now stats
    unfold createdState NetworkState.newFromDb
    rw [entered, Option.bind_some]
    dsimp only
    rw [isNet, gatewayOf_build built]
    exact ⟨_, rfl, rfl, rfl⟩
  rw [← network_succ_eq_iff built]
  constructor
  · intro kept
    obtain ⟨state, isState, isGateway, spared⟩ := kept 0 0
    obtain ⟨other, isOther, known, leases⟩ := created 0 0
    cases isState.symm.trans isOther
    refine ⟨known.symm.trans isGateway, fun row member holds => spared ?_⟩
    have lease : state.lease row.deviceId = row.ip := by
      unfold NetworkState.lease
      rw [leases]
      exact NetworkStateInner.lease_loadRecords (service.pairwise_deviceRows networkCode) member
    exact NetworkState.handsOut_of_lease (lease.trans holds)
  · rintro ⟨same, free⟩ now stats
    obtain ⟨state, isState, isGateway, leases⟩ := created now stats
    have spares : state.SparesGateway gateway := by
      refine ⟨isGateway.trans same, fun deviceId holds => ?_⟩
      unfold NetworkState.lease at holds
      rw [leases] at holds
      obtain ⟨entry, found, isIp⟩ := NetworkStateInner.lease_eq_some.mp holds
      obtain ⟨row, member, counters, -, rfl⟩ :=
        NetworkStateInner.lookup_buildInitialInnerState found
      exact free row member isIp
    exact ⟨state, isState, spares.isGateway, spares.not_handsOut⟩

/-- What is shown of a network. -/
theorem shown_iff
    (built : NetworkService.buildNetworkFromGateway gateway netmask.toNat = .ok net)
    (entered : service.dbNets.lookup networkCode = some network)
    (isNet : network.network.config.net = net) :
    ((∃ info ∈ service.getNetworkInfo, info.networkCode = networkCode) ∧
        ∀ info ∈ service.getNetworkInfo, info.networkCode = networkCode →
          info.gateway = gateway) ↔ FirstHost gateway netmask := by
  have member : service.networkInfo networkCode network ∈ service.getNetworkInfo :=
    mem_getNetworkInfo.mpr ⟨networkCode, network, entered, rfl⟩
  have isGateway : (service.networkInfo networkCode network).gateway = net.network + 1 := by
    rw [← isNet]
    rfl
  rw [← network_succ_eq_iff built, ← isGateway]
  constructor
  · rintro ⟨-, all⟩
    exact all _ member rfl
  · intro same
    refine ⟨⟨_, member, rfl⟩, fun info isInfo isCode => ?_⟩
    obtain ⟨code, other, found, rfl⟩ := mem_getNetworkInfo.mp isInfo
    cases isCode
    cases entered.symm.trans found
    exact same

/-- What is loaded of a row with the text of a gateway. -/
theorem reloaded_iff {leaseDuration : Nat}
    (built : NetworkService.buildNetworkFromGateway gateway netmask.toNat = .ok net)
    (found : tables.networks.lookup networkCode = some record)
    (holds : record.Holds gateway netmask leaseDuration) :
    (∃ network,
        (managedNetworksFromRecords tables.loadAllNetworks).lookup networkCode = some network ∧
          NetworkState.gatewayOf network.network.config.net = some gateway) ↔
      FirstHost gateway netmask := by
  rw [lookup_managedNetworks, found, Option.bind_some, ← network_succ_eq_iff built,
    holds.toManaged built]
  constructor
  · rintro ⟨network, same, isGateway⟩
    cases same
    rw [gatewayOf_build built] at isGateway
    exact Option.some.inj isGateway
  · intro same
    exact ⟨_, rfl, (gatewayOf_build built).trans (congrArg some same)⟩

/-- The gateway that an accepted operation sets comes back from where it is needed, if and only if
it is the first host of its network and nothing of the network is left behind or missing in the
database. -/
theorem gatewayKept_iff {faults : Faults} {now : Int} {operation : AdminOperation}
    (sets : operation.sets = some (networkCode, gateway, netmask))
    (accepted : (service.run faults now operation).2 = .ok ()) :
    (service.run faults now operation).1.GatewayKept networkCode gateway ↔
      service.KeepsGateway operation := by
  cases operation with
  | addNetwork code given mask leaseDuration secret =>
    cases sets
    obtain ⟨net, network, built, isConfig, entered, sameRows, stored⟩ := addNetwork_eq_ok accepted
    have isNet := congrArg NetworkConfig.net isConfig
    have created := created_iff built entered isNet
    rw [sameRows] at created
    constructor
    · intro kept
      exact created.mp kept.created
    · intro keeps
      refine ⟨created.mpr keeps, (shown_iff built entered isNet).mpr keeps.1, ?_⟩
      intro tables isOpen
      obtain ⟨record, found, holds⟩ := stored tables isOpen
      exact (reloaded_iff built found holds).mpr keeps.1
  | updateNetwork code given mask leaseDuration secret =>
    cases sets
    obtain ⟨net, network, built, isConfig, entered, noRows, stored⟩ := updateNetwork_eq_ok accepted
    have isNet := congrArg NetworkConfig.net isConfig
    have created := created_iff built entered isNet
    rw [noRows] at created
    constructor
    · intro kept
      have first := (created.mp kept.created).1
      refine ⟨first, fun tables isOpen => ?_⟩
      have after : (service.run faults now (.updateNetwork networkCode gateway netmask
          leaseDuration secret)).1.pool =
            some (tables.updateNetwork networkCode gateway netmask leaseDuration secret) := by
        exact stored.trans (isOpen ▸ rfl)
      obtain ⟨found, same, -⟩ := kept.reloaded _ after
      rw [lookup_managedNetworks, lookup_updateNetwork] at same
      cases known : tables.networks.lookup networkCode with
      | some record => rfl
      | none =>
        rw [known] at same
        cases same
    · rintro ⟨first, rows⟩
      refine ⟨created.mpr ⟨first, fun row member => ?_⟩,
        (shown_iff built entered isNet).mpr first, fun after isOpen => ?_⟩
      · cases member
      · obtain ⟨tables, isPool, rfl⟩ := Option.map_eq_some_iff.mp (stored.symm.trans isOpen)
        obtain ⟨record, known⟩ := Option.isSome_iff_exists.mp (rows tables isPool)
        have found := lookup_updateNetwork tables networkCode gateway netmask leaseDuration secret
        rw [known] at found
        exact (reloaded_iff built found (holds_edit ..)).mpr first
  | deleteNetwork code => cases sets
  | deleteDevice code deviceId => cases sets

/-- The gateway 10.27.0.1 of a network with the mask 24 comes back. -/
theorem gatewayKept_firstHost :
    (exampleAdmin.run ⟨none, none, none, none, none⟩ 0
        (.addNetwork "lab" 0x0A1B0001 24 none "Secret-Of-The-Network-0002")).1.GatewayKept "lab"
      0x0A1B0001 := by
  refine (gatewayKept_iff rfl (by decide +kernel)).mpr ⟨by decide, ?_⟩
  have noRows : exampleAdmin.deviceRows "lab" = [] := by rfl
  rw [noRows]
  intro row member
  cases member

/-- The gateway 10.27.0.5 of a network with the mask 24 is accepted, and does not come back. -/
theorem not_gatewayKept_fifthHost :
    (exampleAdmin.run ⟨none, none, none, none, none⟩ 0
        (.addNetwork "lab" 0x0A1B0005 24 none "Secret-Of-The-Network-0002")).2 = .ok () ∧
      ¬(exampleAdmin.run ⟨none, none, none, none, none⟩ 0
        (.addNetwork "lab" 0x0A1B0005 24 none "Secret-Of-The-Network-0002")).1.GatewayKept "lab"
          0x0A1B0005 := by
  have accepted : (exampleAdmin.run ⟨none, none, none, none, none⟩ 0
      (.addNetwork "lab" 0x0A1B0005 24 none "Secret-Of-The-Network-0002")).2 = .ok () := by
    decide +kernel
  refine ⟨accepted, fun kept => ?_⟩
  obtain ⟨net, network, built, isConfig, entered, -⟩ := addNetwork_eq_ok accepted
  have first := (shown_iff built entered (congrArg NetworkConfig.net isConfig)).mp kept.shown
  revert first
  decide

end AdminService

end Vnt.Server
