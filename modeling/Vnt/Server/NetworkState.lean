/-
This file embeds the state the server keeps for one network: the lease table under its lock,
the map from addresses to the senders of the connected sessions, and the map from addresses
to traffic counters. The operations are given at the granularity at which they can be
interleaved. What runs under the table's lock is one step, together with the map operations
made while it is held; the abort of a pre-registration gives the lock back before it touches
the two maps, so its two later operations are separate functions.
-/

import Vnt.Server.LeaseTable

namespace Vnt.Server

open Vnt.Base

structure NetworkState where
  networkCode : String
  gateway : Ipv4Addr
  net : Ipv4Net
  leaseDuration : Nat
  senderMap : Map Ipv4Addr Sender
  leaseState : NetworkStateInner
  trafficStatsMap : Map Ipv4Addr StatsRef

/-- What a successful registration leaves with the connection. -/
structure Session where
  networkCode : String
  deviceId : String
  ip : Ipv4Addr
  randomId : RandomId
  sender : Sender
  registrationStatus : RegistrationStatus
  deriving DecidableEq, Repr

/-- The session of a request that was given an address. -/
def Session.new (req : RegRequestMsg) (ip : Ipv4Addr) (randomId : RandomId) (sender : Sender) :
    Session where
  networkCode := req.networkCode
  deviceId := req.deviceId
  ip := ip
  randomId := randomId
  sender := sender
  registrationStatus :=
    match req.registrationMode with
    | .normal => .confirmed
    | .preRegister => .pendingConfirmation

namespace NetworkState

/-- The address a device holds. -/
def lease (state : NetworkState) (deviceId : String) : Option Ipv4Addr :=
  state.leaseState.lease deviceId

/-- `NetworkState::get_device_entry`. -/
def getDeviceEntry (state : NetworkState) (deviceId : String) : Option DeviceEntry :=
  state.leaseState.deviceMap.lookup deviceId

/-- `NetworkState::get_device_entry_by_ip`. -/
def getDeviceEntryByIp (state : NetworkState) (ip : Ipv4Addr) : Option DeviceEntry :=
  (state.leaseState.reservation ip).bind fun deviceId =>
    state.leaseState.deviceMap.lookup deviceId

/-- `NetworkState::update_client_latency`. -/
def updateClientLatency (state : NetworkState) (ip : Ipv4Addr) (latencyMs : UInt32) :
    NetworkState :=
  match state.leaseState.reservation ip with
  | none => state
  | some deviceId =>
    match state.leaseState.deviceMap.lookup deviceId with
    | none => state
    | some entry =>
      { state with
        leaseState :=
          { state.leaseState with
            deviceMap := state.leaseState.deviceMap.insert deviceId
              { entry with latencyMs := some latencyMs } } }

/-- `NetworkState::is_device_online`. -/
def isDeviceOnline (state : NetworkState) (deviceId : String) : Bool :=
  match state.getDeviceEntry deviceId with
  | some entry => entry.isConnected
  | none => false

/-- Drop the sender and the counters of an address. -/
def forgetAddress (state : NetworkState) (ip : Ipv4Addr) : NetworkState :=
  { state with
    senderMap := state.senderMap.erase ip
    trafficStatsMap := state.trafficStatsMap.erase ip }

/-- `NetworkState::offline_ip`. -/
def offlineIp (state : NetworkState) (heap : StatsHeap) (deviceId : String) (ip : Ipv4Addr)
    (randomId : RandomId) (now : SystemTime) : NetworkState × Option DeviceRecord :=
  match state.leaseState.offlineIp heap state.networkCode deviceId ip randomId now with
  | (table, some record) => ({ state with leaseState := table }.forgetAddress ip, some record)
  | (_, none) => (state, none)

/-- `NetworkState::remove_device_from_memory`: the new state and the address that was freed. -/
def removeDeviceFromMemory (state : NetworkState) (deviceId : String) :
    NetworkState × Option Ipv4Addr :=
  let removed := { state with leaseState := state.leaseState.removeDeviceFromMemory deviceId }
  match state.lease deviceId with
  | some ip => (removed.forgetAddress ip, some ip)
  | none => (removed, none)

/-- The part of `NetworkState::release_pre_registered_ip` that runs under the lock; it tells
whether the sender and the counters of the address are to be dropped afterwards. -/
def releaseLease (state : NetworkState) (deviceId : String) (ip : Ipv4Addr)
    (randomId : RandomId) : NetworkState × Bool :=
  ({ state with leaseState := state.leaseState.releasePreRegisteredIp deviceId ip randomId },
    state.leaseState.ownsPreRegistration deviceId ip randomId)

/-- `sender_map.remove`, after the lock was given back. -/
def removeSender (state : NetworkState) (ip : Ipv4Addr) : NetworkState :=
  { state with senderMap := state.senderMap.erase ip }

/-- `traffic_stats_map.remove`, after the lock was given back. -/
def removeStats (state : NetworkState) (ip : Ipv4Addr) : NetworkState :=
  { state with trafficStatsMap := state.trafficStatsMap.erase ip }

/-- `NetworkState::release_pre_registered_ip` without interference. -/
def releasePreRegisteredIp (state : NetworkState) (deviceId : String) (ip : Ipv4Addr)
    (randomId : RandomId) : NetworkState :=
  match state.releaseLease deviceId ip randomId with
  | (released, true) => (released.removeSender ip).removeStats ip
  | (released, false) => released

/-- The senders and counters after an allocation: those of the old address go, those of the
new address are the ones of this registration. -/
def installAddress (state : NetworkState) (table : NetworkStateInner) (deviceId : String)
    (ip : Ipv4Addr) (old : Option Ipv4Addr) (sender : Sender) : NetworkState :=
  let forgotten :=
    match old with
    | some oldIp => state.forgetAddress oldIp
    | none => state
  { forgotten with
    leaseState := table
    senderMap := forgotten.senderMap.insert ip sender
    trafficStatsMap :=
      match table.deviceMap.lookup deviceId with
      | some entry => forgotten.trafficStatsMap.insert ip entry.trafficStats
      | none => forgotten.trafficStatsMap }

/-- `NetworkState::allocate_ip_and_get_entry`: the new state, the address, the old address
and a clone of the entry. -/
def allocateIpAndGetEntry (state : NetworkState) (req : RegRequestMsg) (randomId : RandomId)
    (sender : Sender) (now : SystemTime) (stats : StatsRef) :
    Except String (NetworkState × Ipv4Addr × Option Ipv4Addr × Option DeviceEntry) :=
  match state.leaseState.allocateIp state.net state.gateway req randomId now stats with
  | .ok (table, ip, old) =>
    .ok (state.installAddress table req.deviceId ip old sender, ip, old,
      table.deviceMap.lookup req.deviceId)
  | .error message => .error message

/-- `NetworkState::collect_expired_devices`. -/
def collectExpiredDevices (state : NetworkState) (now : SystemTime) : List String :=
  state.leaseState.collectExpiredDevices state.leaseDuration now

/-- `NetworkState::remove_devices`; the sender map is left as it is. -/
def removeDevices (state : NetworkState) (deviceIds : List String) : NetworkState :=
  { state with leaseState := state.leaseState.removeDevices deviceIds }

/-- The part of `ControlService::register` from the allocation on: the new state, the session
and the clone of the entry, which a normal registration stores. -/
def register (state : NetworkState) (req : RegRequestMsg) (randomId : RandomId)
    (sender : Sender) (now : SystemTime) (stats : StatsRef) :
    Except String (NetworkState × Session × Option DeviceEntry) :=
  match state.allocateIpAndGetEntry req randomId sender now stats with
  | .ok (next, ip, _, entry) => .ok (next, Session.new req ip randomId sender, entry)
  | .error message => .error message

/-- `Session::drop` without interference: the new state and the record a confirmed session
stores. -/
def dropSession (state : NetworkState) (heap : StatsHeap) (session : Session)
    (now : SystemTime) : NetworkState × Option DeviceRecord :=
  match session.registrationStatus with
  | .confirmed => state.offlineIp heap session.deviceId session.ip session.randomId now
  | .pendingConfirmation =>
    (state.releasePreRegisteredIp session.deviceId session.ip session.randomId, none)

/-! ### Loading a network from the database -/

/-- One record of the loading loop, with the reference its counters are stored under. -/
def loadRecord (net : Ipv4Net) (gateway : Ipv4Addr) (now : SystemTime)
    (table : NetworkStateInner) (stats : StatsRef) (record : DeviceRecord) : NetworkStateInner :=
  let entry := DeviceEntry.fromRecord record stats now
  { dataVersion := max table.dataVersion entry.dataVersion
    deviceMap := table.deviceMap.insert entry.deviceId entry
    deviceIpMap :=
      match entry.ip with
      | some ip =>
        if net.contains ip = true ∧ gateway ≠ ip then table.deviceIpMap.insert ip entry.deviceId
        else table.deviceIpMap
      | none => table.deviceIpMap }

/-- The loading loop; the counters of the records go under consecutive references. -/
def loadRecords (net : Ipv4Net) (gateway : Ipv4Addr) (now : SystemTime) :
    NetworkStateInner → StatsRef → List DeviceRecord → NetworkStateInner
  | table, _, [] => table
  | table, stats, record :: rest =>
    loadRecords net gateway now (loadRecord net gateway now table stats record) (stats + 1) rest

/-- `NetworkState::build_initial_inner_state` on the records the database returned; without
an answer of the database the list is empty. -/
def buildInitialInnerState (net : Ipv4Net) (gateway : Ipv4Addr) (now : SystemTime)
    (stats : StatsRef) (records : List DeviceRecord) : NetworkStateInner :=
  loadRecords net gateway now .empty stats records

/-- The gateway of a network, `none` when the addition overflows. -/
def gatewayOf (net : Ipv4Net) : Option Ipv4Addr :=
  if net.network.toNat + 1 < 2 ^ 32 then some (net.network + 1) else none

/-- `NetworkState::new_from_db` on the records of the network. -/
def newFromDb (networkCode : String) (net : Ipv4Net) (leaseDuration : Nat) (now : SystemTime)
    (stats : StatsRef) (records : List DeviceRecord) : Option NetworkState :=
  (gatewayOf net).map fun gateway =>
    { networkCode := networkCode
      gateway := gateway
      net := net
      leaseDuration := leaseDuration
      senderMap := ∅
      leaseState := buildInitialInnerState net gateway now stats records
      trafficStatsMap := ∅ }

/-! ### What the operations change -/

/-- A successful registration is an allocation whose address got the sender of the request. -/
theorem register_cases {state next : NetworkState} {req : RegRequestMsg} {randomId : RandomId}
    {sender : Sender} {now : SystemTime} {stats : StatsRef} {session : Session}
    {entry : Option DeviceEntry}
    (succeeds : state.register req randomId sender now stats = .ok (next, session, entry)) :
    ∃ table ip old,
      NetworkStateInner.Allocation state.leaseState state.net state.gateway req randomId now stats
        (table, ip, old) ∧
      next = state.installAddress table req.deviceId ip old sender ∧
      session = Session.new req ip randomId sender ∧
      entry = table.deviceMap.lookup req.deviceId := by
  unfold register allocateIpAndGetEntry at succeeds
  cases outcome : state.leaseState.allocateIp state.net state.gateway req randomId now stats with
  | error message =>
    rw [outcome] at succeeds
    cases succeeds
  | ok result =>
    rw [outcome] at succeeds
    cases succeeds
    exact ⟨_, _, _, NetworkStateInner.allocateIp_cases outcome, rfl, rfl, rfl⟩

section Frames

variable (state : NetworkState) (table : NetworkStateInner) (deviceId : String) (ip : Ipv4Addr)
  (old : Option Ipv4Addr) (sender : Sender) (randomId : RandomId)

@[simp] theorem installAddress_leaseState :
    (state.installAddress table deviceId ip old sender).leaseState = table := rfl

@[simp] theorem installAddress_net :
    (state.installAddress table deviceId ip old sender).net = state.net := by
  cases old <;> rfl

@[simp] theorem installAddress_gateway :
    (state.installAddress table deviceId ip old sender).gateway = state.gateway := by
  cases old <;> rfl

@[simp] theorem installAddress_networkCode :
    (state.installAddress table deviceId ip old sender).networkCode = state.networkCode := by
  cases old <;> rfl

theorem installAddress_senderMap (other : Ipv4Addr) :
    (state.installAddress table deviceId ip old sender).senderMap.lookup other =
      if other = ip then some sender
      else if old = some other then none else state.senderMap.lookup other := by
  unfold installAddress
  rw [Map.lookup_insert_eq]
  split
  · rfl
  · cases old with
    | none => rw [if_neg (Option.some_ne_none other).symm]
    | some oldIp =>
      show (state.senderMap.erase oldIp).lookup other = _
      rw [Map.lookup_erase_eq]
      simp only [Option.some.injEq, eq_comm]

@[simp] theorem removeDeviceFromMemory_net :
    (state.removeDeviceFromMemory deviceId).1.net = state.net := by
  unfold removeDeviceFromMemory
  cases state.lease deviceId <;> rfl

@[simp] theorem removeDeviceFromMemory_gateway :
    (state.removeDeviceFromMemory deviceId).1.gateway = state.gateway := by
  unfold removeDeviceFromMemory
  cases state.lease deviceId <;> rfl

@[simp] theorem removeDeviceFromMemory_networkCode :
    (state.removeDeviceFromMemory deviceId).1.networkCode = state.networkCode := by
  unfold removeDeviceFromMemory
  cases state.lease deviceId <;> rfl

@[simp] theorem removeDeviceFromMemory_leaseState :
    (state.removeDeviceFromMemory deviceId).1.leaseState =
      state.leaseState.removeDeviceFromMemory deviceId := by
  unfold removeDeviceFromMemory
  cases state.lease deviceId <;> rfl

/-- Deleting a device from memory drops the sender of its address. -/
theorem removeDeviceFromMemory_senderMap (other : Ipv4Addr) :
    (state.removeDeviceFromMemory deviceId).1.senderMap.lookup other =
      if state.lease deviceId = some other then none else state.senderMap.lookup other := by
  unfold removeDeviceFromMemory
  cases state.lease deviceId with
  | none => rw [if_neg (Option.some_ne_none other).symm]
  | some held =>
    refine (Map.lookup_erase_eq ..).trans ?_
    simp only [Option.some.injEq, eq_comm]

theorem getDeviceEntry_removeDevices (deviceIds : List String) (other : String) :
    (state.removeDevices deviceIds).getDeviceEntry other =
      if other ∈ deviceIds then none else state.getDeviceEntry other :=
  NetworkStateInner.lookup_removeDevices ..

theorem getDeviceEntry_removeDeviceFromMemory (other : String) :
    (state.removeDeviceFromMemory deviceId).1.getDeviceEntry other =
      if other = deviceId then none else state.getDeviceEntry other := by
  unfold getDeviceEntry
  rw [removeDeviceFromMemory_leaseState, NetworkStateInner.lookup_removeDeviceFromMemory]

/-- An abort without interference leaves the table that its locked part leaves. -/
theorem releasePreRegisteredIp_leaseState :
    (state.releasePreRegisteredIp deviceId ip randomId).leaseState =
      state.leaseState.releasePreRegisteredIp deviceId ip randomId := by
  unfold releasePreRegisteredIp releaseLease
  cases state.leaseState.ownsPreRegistration deviceId ip randomId <;> rfl

end Frames

/-! ### The network the concrete runs are on -/

/-- The network `10.26.0.0/24`. -/
def exampleNet : Ipv4Net := ⟨0x0A1A0000, 24⟩

/-- The state of the example network before any device is known. -/
def exampleState : NetworkState :=
  ⟨"net", 0x0A1A0001, exampleNet, 86400000000000, ∅, .empty, ∅⟩

/-- A registration request of the example network. -/
def exampleRequest (deviceId : String) (ip : Option Ipv4Addr) (ipVariable : Bool) :
    RegRequestMsg :=
  ⟨"net", deviceId, ip, "name", "1.0", none, ipVariable, .normal⟩

/-- A pre-registration request of the example network. -/
def examplePreRegistration (deviceId : String) : RegRequestMsg :=
  { exampleRequest deviceId none false with registrationMode := .preRegister }

end NetworkState

end Vnt.Server
