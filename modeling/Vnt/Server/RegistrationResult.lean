/-
This file settles what a registration leaves in the lease table. The allocation is embedded once
more, statement by statement on the table it changes, so that a failure keeps what was changed
before it; it changes nothing before it fails. A success leaves an entry of this registration with
the newest version of the table, and no other entry changes. But an entry that is used again keeps
the name and the version of the registration that made it.
-/

import Vnt.Base.Machine
import Vnt.Server.ClientList
import Vnt.Server.Networks

namespace Vnt.Server

open Vnt.Base

namespace NetworkStateInner

/-! ### The allocation on the table itself -/

/-- A method on the table: what it has changed stays when it fails. -/
abbrev Method (Value : Type) : Type := EStateM String NetworkStateInner Value

section Methods

variable (net : Ipv4Net) (gateway : Ipv4Addr) (req : RegRequestMsg) (randomId : RandomId)
  (now : SystemTime) (stats : StatsRef)

/-- `self.find_available_ip(net, gateway)?`. -/
def searchIp : Method Ipv4Addr := do
  match (← get).findAvailableIp net gateway with
  | .ok ip => return ip
  | .error message => throw message

/-- `self.data_version += 1`. -/
def raiseVersion : Method Unit :=
  modify fun table => { table with dataVersion := table.dataVersion + 1 }

/-- Write to the entry that `self.device_map.get_mut(&reg_req.device_id)` borrows. -/
def patchEntry (change : DeviceEntry → DeviceEntry) : Method Unit :=
  modify fun table =>
    match table.deviceMap.lookup req.deviceId with
    | some entry =>
      { table with deviceMap := table.deviceMap.insert req.deviceId (change entry) }
    | none => table

/-- `self.device_ip_map.insert(ip, device_entry.device_id.clone())`. -/
def reserveIp (ip : Ipv4Addr) : Method Unit :=
  modify fun table =>
    match table.deviceMap.lookup req.deviceId with
    | some entry => { table with deviceIpMap := table.deviceIpMap.insert ip entry.deviceId }
    | none => table

/-- What a registration on the address of the entry writes to it. -/
def refreshEntry : Method Unit := do
  patchEntry req fun entry => { entry with isConnected := true }
  patchEntry req fun entry => { entry with disconnectTime := none }
  patchEntry req fun entry => { entry with randomId := randomId }
  patchEntry req fun entry => { entry with lastConnectTime := now }
  raiseVersion
  let dataVersion := (← get).dataVersion
  patchEntry req fun entry => { entry with dataVersion := dataVersion }
  patchEntry req fun entry => { entry with keySign := req.keySign }

/-- The version is raised and a new entry is stored. -/
def storeEntry (ip : Ipv4Addr) : Method Unit := do
  raiseVersion
  let dataVersion := (← get).dataVersion
  modify fun table => table.addDevice
    { deviceId := req.deviceId
      ip := some ip
      randomId := randomId
      deviceName := req.name
      deviceVersion := req.version
      isConnected := true
      lastConnectTime := now
      disconnectTime := none
      dataVersion := dataVersion
      keySign := req.keySign
      latencyMs := none
      trafficStats := stats }

/-- The end of `allocate_ip`, after the loop. -/
def storeAvailable (old : Option Ipv4Addr) : Method (Ipv4Addr × Option Ipv4Addr) := do
  let ip ← searchIp net gateway
  storeEntry req randomId now stats ip
  return (ip, old)

/-- The loop of `allocate_ip` and what follows its `break`. -/
def storeExpected (ip : Ipv4Addr) (old : Option Ipv4Addr) :
    Method (Ipv4Addr × Option Ipv4Addr) := do
  let fallback := storeAvailable net gateway req randomId now stats old
  if ip = gateway then
    if req.ipVariable then fallback else throw "此IP为网关IP，不允许使用"
  else if net.contains ip = false then
    if req.ipVariable then fallback else throw s!"IP网段错误，应使用{net.display}网段中的IP"
  else
    match (← get).reservation ip with
    | some id =>
      if req.ipVariable then fallback
      else
        match (← get).deviceMap.lookup id with
        | some other => throw s!"IP重复，设备{other.deviceName}[{other.deviceId}]已使用此IP"
        | none => throw "IP重复，服务端数据错误"
    | none =>
      match old with
      | some oldIp =>
        modify fun table => { table with deviceIpMap := table.deviceIpMap.erase oldIp }
      | none => pure ()
      storeEntry req randomId now stats ip
      return (ip, old)

/-- `allocate_ip`, with the table as it is when it returns. -/
def allocateInPlace : Method (Ipv4Addr × Option Ipv4Addr) := do
  let existing := (← get).deviceMap.lookup req.deviceId
  let allocateNew (old : Option Ipv4Addr) :=
    match req.ip with
    | some ip => storeExpected net gateway req randomId now stats ip old
    | none => storeAvailable net gateway req randomId now stats old
  match existing with
  | some entry =>
    if req.ip = none ∨ entry.ip = req.ip then
      match entry.ip with
      | some ip =>
        refreshEntry req randomId now
        return (ip, none)
      | none =>
        let ip ← searchIp net gateway
        refreshEntry req randomId now
        patchEntry req fun entry => { entry with ip := some ip }
        reserveIp req ip
        return (ip, none)
    else allocateNew entry.ip
  | none => allocateNew none

end Methods

/-! ### A failure changes nothing -/

/-- The result of a call that leaves the table as it is when it fails. -/
def returned (table : NetworkStateInner) :
    Except String (NetworkStateInner × Ipv4Addr × Option Ipv4Addr) →
      EStateM.Result String NetworkStateInner (Ipv4Addr × Option Ipv4Addr)
  | .ok (next, ip, old) => .ok (ip, old) next
  | .error message => .error message table

variable {table : NetworkStateInner} {net : Ipv4Net} {gateway : Ipv4Addr} {req : RegRequestMsg}
  {randomId : RandomId} {now : SystemTime} {stats : StatsRef} {entry : DeviceEntry}

theorem run_searchIp (table : NetworkStateInner) :
    (searchIp net gateway).run table =
      match table.findAvailableIp net gateway with
      | .ok ip => .ok ip table
      | .error message => .error message table := by
  unfold searchIp
  rw [EStateM.run_bind, EStateM.run_get]
  dsimp only
  cases table.findAvailableIp net gateway <;> rfl

/-- The table with a version and an entry of the device. -/
def withEntry (table : NetworkStateInner) (req : RegRequestMsg) (version : Nat)
    (entry : DeviceEntry) : NetworkStateInner :=
  { table with
    dataVersion := version
    deviceMap := table.deviceMap.insert req.deviceId entry }

theorem run_patchEntry (known : table.deviceMap.lookup req.deviceId = some entry)
    (change : DeviceEntry → DeviceEntry) :
    (patchEntry req change).run table =
      .ok () (table.withEntry req table.dataVersion (change entry)) := by
  unfold patchEntry
  rw [EStateM.run_modify, known]
  rfl

theorem run_patchEntry_withEntry (version : Nat) (change : DeviceEntry → DeviceEntry) :
    (patchEntry req change).run (table.withEntry req version entry) =
      .ok () (table.withEntry req version (change entry)) := by
  have known : (table.withEntry req version entry).deviceMap.lookup req.deviceId = some entry :=
    AList.lookup_insert _
  rw [run_patchEntry known]
  unfold withEntry
  rw [AList.insert_insert]

theorem run_raiseVersion_withEntry (version : Nat) :
    raiseVersion.run (table.withEntry req version entry) =
      .ok () (table.withEntry req (version + 1) entry) := rfl

theorem run_reserveIp_withEntry (version : Nat) (ip : Ipv4Addr) :
    (reserveIp req ip).run (table.withEntry req version entry) =
      .ok () { table.withEntry req version entry with
        deviceIpMap := table.deviceIpMap.insert ip entry.deviceId } := by
  have known : (table.withEntry req version entry).deviceMap.lookup req.deviceId = some entry :=
    AList.lookup_insert _
  unfold reserveIp
  rw [EStateM.run_modify, known]
  rfl

/-- The statements on the entry that is used again write what the allocation stores. -/
theorem run_refreshEntry (known : table.deviceMap.lookup req.deviceId = some entry) :
    (refreshEntry req randomId now).run table =
      .ok () (table.withEntry req (table.dataVersion + 1)
        (table.refreshed entry req randomId now)) := by
  unfold refreshEntry
  simp only [EStateM.run_bind, EStateM.run_get, run_patchEntry known, run_patchEntry_withEntry,
    run_raiseVersion_withEntry]
  rfl

theorem run_storeEntry (table : NetworkStateInner) (ip : Ipv4Addr) :
    (storeEntry req randomId now stats ip).run table =
      .ok () (table.searchLease req ip randomId now stats) := rfl

theorem run_storeAvailable (table : NetworkStateInner) (old : Option Ipv4Addr) :
    (storeAvailable net gateway req randomId now stats old).run table =
      table.returned (table.allocateAvailable net gateway req old randomId now stats) := by
  unfold storeAvailable allocateAvailable
  rw [EStateM.run_bind, run_searchIp]
  cases table.findAvailableIp net gateway with
  | error message => rfl
  | ok ip =>
    dsimp only
    rw [EStateM.run_bind, run_storeEntry]
    rfl

theorem run_storeExpected (table : NetworkStateInner) (ip : Ipv4Addr) (old : Option Ipv4Addr) :
    (storeExpected net gateway req randomId now stats ip old).run table =
      table.returned (table.allocateExpected net gateway req ip old randomId now stats) := by
  have fallback : (storeAvailable net gateway req randomId now stats old).run table =
      table.returned (table.allocateAvailable net gateway req old randomId now stats) :=
    run_storeAvailable table old
  unfold storeExpected allocateExpected
  dsimp only
  split
  · split
    · exact fallback
    · rfl
  split
  · split
    · exact fallback
    · rfl
  rw [EStateM.run_bind, EStateM.run_get]
  dsimp only
  cases table.reservation ip with
  | some id =>
    dsimp only
    split
    · exact fallback
    · rw [EStateM.run_bind, EStateM.run_get]
      dsimp only
      cases table.deviceMap.lookup id <;> rfl
  | none => cases old <;> rfl

/-- The statements of `allocate_ip` do what the allocation says, and a call that fails leaves the
table as it was. -/
theorem run_allocateInPlace (table : NetworkStateInner) :
    (allocateInPlace net gateway req randomId now stats).run table =
      table.returned (table.allocateIp net gateway req randomId now stats) := by
  unfold allocateInPlace allocateIp
  rw [EStateM.run_bind, EStateM.run_get]
  dsimp only
  cases known : table.deviceMap.lookup req.deviceId with
  | none =>
    dsimp only
    cases req.ip with
    | none => exact run_storeAvailable table none
    | some ip => exact run_storeExpected table ip none
  | some entry =>
    dsimp only
    split
    · cases entry.ip with
      | some ip =>
        dsimp only
        rw [EStateM.run_bind, run_refreshEntry known]
        rfl
      | none =>
        dsimp only
        rw [EStateM.run_bind, run_searchIp]
        cases table.findAvailableIp net gateway with
        | error message => rfl
        | ok ip =>
          dsimp only
          rw [EStateM.run_bind, run_refreshEntry known]
          dsimp only
          rw [EStateM.run_bind, run_patchEntry_withEntry]
          dsimp only
          rw [EStateM.run_bind, run_reserveIp_withEntry]
          rfl
    · cases req.ip with
      | none => exact run_storeAvailable table entry.ip
      | some ip => exact run_storeExpected table ip entry.ip

/-! ### The entry of the device -/

/-- The device has an entry that the registration uses again: the request wishes no address or the
one of the entry, and an entry without an address can get one. -/
def Reuses (net : Ipv4Net) (gateway : Ipv4Addr) (table : NetworkStateInner) (req : RegRequestMsg)
    (entry : DeviceEntry) : Prop :=
  table.deviceMap.lookup req.deviceId = some entry ∧ (req.ip = none ∨ entry.ip = req.ip) ∧
    (entry.ip = none → ∃ ip, table.findAvailableIp net gateway = .ok ip)

/-- An entry that is used again keeps its name and its version. -/
theorem Reuses.succeeds (reuses : table.Reuses net gateway req entry) :
    ∃ next ip stored,
      table.allocateIp net gateway req randomId now stats = .ok (next, ip, none) ∧
        next.deviceMap.lookup req.deviceId = some stored ∧
          stored.deviceName = entry.deviceName ∧ stored.deviceVersion = entry.deviceVersion := by
  obtain ⟨known, matching, available⟩ := reuses
  unfold allocateIp
  rw [known]
  dsimp only
  rw [if_pos matching]
  cases holds : entry.ip with
  | some ip => exact ⟨_, _, _, rfl, AList.lookup_insert _, rfl, rfl⟩
  | none =>
    obtain ⟨ip, found⟩ := available holds
    rw [found]
    exact ⟨_, _, _, rfl, AList.lookup_insert _, rfl, rfl⟩

/-- An allocation uses an entry again, or it stores the name and the version of the request. -/
theorem Allocation.names {result : NetworkStateInner × Ipv4Addr × Option Ipv4Addr}
    (allocation : Allocation table net gateway req randomId now stats result) :
    ∃ stored, result.1.deviceMap.lookup req.deviceId = some stored ∧
      stored.keySign = req.keySign ∧
        ((∃ entry, table.Reuses net gateway req entry ∧ stored.deviceName = entry.deviceName ∧
            stored.deviceVersion = entry.deviceVersion) ∨
          stored.deviceName = req.name ∧ stored.deviceVersion = req.version) := by
  cases allocation with
  | kept entry ip known holds matching =>
    refine ⟨_, AList.lookup_insert _, rfl, .inl ⟨entry, ⟨known, ?_, ?_⟩, rfl, rfl⟩⟩
    · exact matching.imp_right fun wished => holds.trans wished.symm
    · exact fun free => absurd (free.symm.trans holds) nofun
  | filled entry ip known holds matching found =>
    refine ⟨_, AList.lookup_insert _, rfl, .inl ⟨entry, ⟨known, ?_, ?_⟩, rfl, rfl⟩⟩
    · exact .inl matching
    · exact fun _ => ⟨ip, found⟩
  | granted ip wish differs notGateway inside unreserved =>
    exact ⟨_, AList.lookup_insert _, rfl, .inr ⟨rfl, rfl⟩⟩
  | searched ip reason found => exact ⟨_, AList.lookup_insert _, rfl, .inr ⟨rfl, rfl⟩⟩

/-- The device has a connected entry with the address, the data of this registration and the newest
version of the table, newer than every other entry, and the other entries are as they were. -/
structure Enrolled (table next : NetworkStateInner) (req : RegRequestMsg) (randomId : RandomId)
    (ip : Ipv4Addr) (entry : DeviceEntry) : Prop where
  stored : next.deviceMap.lookup req.deviceId = some entry
  connected : entry.isConnected = true
  address : entry.ip = some ip
  name : entry.deviceName = req.name
  version : entry.deviceVersion = req.version
  keySign : entry.keySign = req.keySign
  random : entry.randomId = randomId
  newest : entry.dataVersion = next.dataVersion
  newer : ∀ deviceId other, deviceId ≠ req.deviceId →
    next.deviceMap.lookup deviceId = some other → other.dataVersion < entry.dataVersion
  others : ∀ deviceId, deviceId ≠ req.deviceId →
    next.deviceMap.lookup deviceId = table.deviceMap.lookup deviceId

/-- What is promised of a registration: the device is enrolled, or nothing has changed. -/
def Promised (table : NetworkStateInner) (req : RegRequestMsg) (randomId : RandomId) :
    EStateM.Result String NetworkStateInner (Ipv4Addr × Option Ipv4Addr) → Prop
  | .ok (ip, _) next => ∃ entry, table.Enrolled next req randomId ip entry
  | .error _ next => next = table

/-- The registration uses an entry again that was made under another name or version. -/
def ReusesStale (net : Ipv4Net) (gateway : Ipv4Addr) (table : NetworkStateInner)
    (req : RegRequestMsg) : Prop :=
  ∃ entry, table.Reuses net gateway req entry ∧
    ¬(entry.deviceName = req.name ∧ entry.deviceVersion = req.version)

/-- An allocation in a table without newer entries enrolls the device when what it stores has the
name and the version of the request. -/
theorem Allocation.enrolled {result : NetworkStateInner × Ipv4Addr × Option Ipv4Addr}
    (allocation : Allocation table net gateway req randomId now stats result)
    (bounded : table.Bounded) (fresh : ¬table.ReusesStale net gateway req) :
    ∃ entry, table.Enrolled result.1 req randomId result.2.1 entry := by
  obtain ⟨entry, stored, address, random, connected, newest⟩ := allocation.entry
  obtain ⟨same, found, keySign, origin⟩ := allocation.names
  cases stored.symm.trans found
  have raised := allocation.dataVersion
  have names : entry.deviceName = req.name ∧ entry.deviceVersion = req.version := by
    rcases origin with ⟨old, reuses, name, version⟩ | names
    · have current := not_not.mp fun differs => fresh ⟨old, reuses, differs⟩
      exact ⟨name.trans current.1, version.trans current.2⟩
    · exact names
  refine ⟨entry, stored, connected, address, names.1, names.2, keySign, random, newest,
    fun deviceId other differs known => ?_, fun deviceId => allocation.lookup_other⟩
  rw [allocation.lookup_other differs] at known
  have upTo := bounded deviceId other known
  omega

/-- In a table without newer entries a registration keeps its promise if and only if it does not use
an entry again that was made under another name or version. -/
theorem promised_iff_of_bounded (bounded : table.Bounded) :
    table.Promised req randomId
        ((allocateInPlace net gateway req randomId now stats).run table) ↔
      ¬table.ReusesStale net gateway req := by
  rw [run_allocateInPlace]
  constructor
  · rintro promised ⟨entry, reuses, differs⟩
    obtain ⟨next, ip, stored, succeeds, known, name, version⟩ := reuses.succeeds
    rw [succeeds] at promised
    obtain ⟨found, enrolled⟩ := promised
    cases known.symm.trans enrolled.stored
    exact differs ⟨name.symm.trans enrolled.name, version.symm.trans enrolled.version⟩
  · intro fresh
    cases outcome : table.allocateIp net gateway req randomId now stats with
    | error message => rfl
    | ok result => exact (allocateIp_cases outcome).enrolled bounded fresh

end NetworkStateInner

/-! ### The tables a server reaches -/

/-- A registration, or another operation on the state of a network. -/
inductive StateEvent where
  | register (req : RegRequestMsg) (randomId : RandomId) (sender : Sender) (now : SystemTime)
      (stats : StatsRef)
  | operate (operation : StateOperation)

namespace NetworkState

variable {state next : NetworkState}

/-- The state of a network as a machine. -/
def stateMachine : Machine NetworkState StateEvent where
  step state
    | .register req randomId sender now stats =>
      match state.register req randomId sender now stats with
      | .ok (next, _, _) => some next
      | .error _ => some state
    | .operate operation => some (state.operate operation)

theorem bounded_updateClientLatency (bounded : state.leaseState.Bounded) (ip : Ipv4Addr)
    (latencyMs : UInt32) : (state.updateClientLatency ip latencyMs).leaseState.Bounded := by
  unfold updateClientLatency
  split
  · exact bounded
  split
  · exact bounded
  · next deviceId _ _ entry known =>
    intro other found lookup
    dsimp only at lookup
    rw [Map.lookup_insert_eq] at lookup
    split at lookup
    · cases lookup
      exact bounded deviceId entry known
    · exact bounded other found lookup

theorem bounded_operate (bounded : state.leaseState.Bounded) (operation : StateOperation) :
    (state.operate operation).leaseState.Bounded := by
  have applied (event : LeaseEvent) :
      (state.leaseState.apply state.net state.gateway event).Bounded :=
    bounded.continues (NetworkStateInner.continues_apply _ _ _ event)
  cases operation with
  | updateClientLatency ip latencyMs => exact bounded_updateClientLatency bounded ip latencyMs
  | offlineIp heap deviceId ip randomId now =>
    have offline := applied (.offlineIp heap state.networkCode deviceId ip randomId now)
    change (state.offlineIp heap deviceId ip randomId now).1.leaseState.Bounded
    unfold offlineIp
    split
    · next table record outcome =>
      unfold NetworkStateInner.apply at offline
      dsimp only at offline
      rw [outcome] at offline
      exact offline
    · exact bounded
  | releaseLease deviceId ip randomId =>
    exact applied (.releasePreRegisteredIp deviceId ip randomId)
  | removeSender ip => exact bounded
  | removeStats ip => exact bounded
  | removeDeviceFromMemory deviceId =>
    change (state.removeDeviceFromMemory deviceId).1.leaseState.Bounded
    rw [removeDeviceFromMemory_leaseState]
    exact applied (.removeDeviceFromMemory deviceId)
  | removeDevices deviceIds => exact applied (.removeDevices deviceIds)

/-- A step is a registration that succeeds or changes nothing, or another operation. -/
theorem stateMachine_cases {event : StateEvent}
    (enabled : stateMachine.step state event = some next) :
    (∃ req randomId sender now stats session entry,
      state.register req randomId sender now stats = .ok (next, session, entry)) ∨
      next = state ∨ ∃ operation, next = state.operate operation := by
  cases event with
  | register req randomId sender now stats =>
    unfold stateMachine at enabled
    dsimp only at enabled
    split at enabled
    · next registered session entry outcome =>
      cases enabled
      exact .inl ⟨req, randomId, sender, now, stats, session, entry, outcome⟩
    · cases enabled
      exact .inr (.inl rfl)
  | operate operation =>
    cases enabled
    exact .inr (.inr ⟨operation, rfl⟩)

/-- No entry is newer than the table after every step. -/
theorem bounded_step (bounded : state.leaseState.Bounded) {event : StateEvent}
    (enabled : stateMachine.step state event = some next) : next.leaseState.Bounded := by
  rcases stateMachine_cases enabled with ⟨req, randomId, sender, now, stats, session, entry,
    outcome⟩ | rfl | ⟨operation, rfl⟩
  · obtain ⟨table, ip, old, allocation, rfl, -, -⟩ := register_cases outcome
    exact bounded.continues allocation.continues
  · exact bounded
  · exact bounded_operate bounded operation

/-- In every state that a network reaches from its records, a registration keeps its promise if and
only if it does not use an entry again that was made under another name or version. -/
theorem promised_iff {networkCode : String} {net : Ipv4Net} {leaseDuration : Nat}
    {loadedAt : SystemTime} {counters : StatsRef} {records : List DeviceRecord}
    {start : NetworkState} {events : List StateEvent}
    (loads : newFromDb networkCode net leaseDuration loadedAt counters records = some start)
    (reaches : stateMachine.run start events = some state) (req : RegRequestMsg)
    (randomId : RandomId) (now : SystemTime) (stats : StatsRef) :
    state.leaseState.Promised req randomId
        ((NetworkStateInner.allocateInPlace state.net state.gateway req randomId now stats).run
          state.leaseState) ↔
      ¬state.leaseState.ReusesStale state.net state.gateway req := by
  have initially : start.leaseState.Bounded := by
    obtain ⟨gateway, -, rfl⟩ := Option.map_eq_some_iff.mp loads
    exact NetworkStateInner.bounded_buildInitialInnerState _ _ _ _ _
  have bounded : state.leaseState.Bounded :=
    Machine.run_induction (fun _ state => state.leaseState.Bounded) initially
      (fun _ _ _ _ _ holds enabled => bounded_step holds enabled) reaches
  exact NetworkStateInner.promised_iff_of_bounded bounded

/-! ### A device under another name -/

/-- A device of the example network registers. -/
def registeredOnce : List StateEvent := [.register (exampleRequest "a" none false) 1 10 0 0]

/-- It registers once more as it did before. -/
theorem promised_again : ∃ start state,
    newFromDb "net" exampleNet 0 0 0 [] = some start ∧
      stateMachine.run start registeredOnce = some state ∧
        state.leaseState.Promised (exampleRequest "a" none false) 2
          ((NetworkStateInner.allocateInPlace state.net state.gateway
            (exampleRequest "a" none false) 2 1 1).run state.leaseState) := by
  have registers : ∃ start state stored, newFromDb "net" exampleNet 0 0 0 [] = some start ∧
      stateMachine.run start registeredOnce = some state ∧
        state.leaseState.deviceMap.lookup "a" = some stored ∧ stored.deviceName = "name" ∧
          stored.deviceVersion = "1.0" := ⟨_, _, _, rfl, rfl, rfl, rfl, rfl⟩
  obtain ⟨start, state, stored, loads, reaches, isStored, name, version⟩ := registers
  refine ⟨start, state, loads, reaches, (promised_iff loads reaches _ 2 1 1).mpr ?_⟩
  rintro ⟨entry, ⟨known, -⟩, differs⟩
  cases isStored.symm.trans known
  exact differs ⟨name, version⟩

/-- It registers under another name, and its entry keeps the old one. -/
theorem not_promised_renamed : ∃ start state,
    newFromDb "net" exampleNet 0 0 0 [] = some start ∧
      stateMachine.run start registeredOnce = some state ∧
        ¬state.leaseState.Promised { exampleRequest "a" none false with name := "other" } 2
          ((NetworkStateInner.allocateInPlace state.net state.gateway
            { exampleRequest "a" none false with name := "other" } 2 1 1).run
              state.leaseState) := by
  refine ⟨_, _, rfl, rfl, ?_⟩
  rintro ⟨entry, enrolled⟩
  have stored := enrolled.stored
  cases stored
  exact absurd enrolled.name (by decide)

end NetworkState

end Vnt.Server
