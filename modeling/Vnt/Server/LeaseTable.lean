/-
This file embeds the lease table of one network: the devices the server knows, the reverse
map from addresses to devices, and the version counter that every change advances. The
operations are the ones that run under the table's lock. The allocation has four ways to
succeed, and `Allocation` lists them with everything each of them checks and does; the later
files read the allocation through it and never unfold the function.
-/

import Vnt.Base.Map
import Vnt.Server.Device

namespace Vnt.Server

open Vnt.Base

/-- `dataVersion` is a `u64` of the source, taken without its bound: an operation raises it by at
most one, so no table that was changed fewer than 2^64 times reaches the bound. -/
structure NetworkStateInner where
  dataVersion : Nat
  deviceMap : Map String DeviceEntry
  deviceIpMap : Map Ipv4Addr String

namespace NetworkStateInner

/-- The table of a network without devices. -/
def empty : NetworkStateInner := ⟨0, ∅, ∅⟩

/-- The address a device holds. -/
def lease (table : NetworkStateInner) (deviceId : String) : Option Ipv4Addr :=
  (table.deviceMap.lookup deviceId).bind DeviceEntry.ip

/-- The device the reverse map records for an address. -/
def reservation (table : NetworkStateInner) (ip : Ipv4Addr) : Option String :=
  table.deviceIpMap.lookup ip

/-! ### The operations -/

/-- `NetworkStateInner::add_device`. -/
def addDevice (table : NetworkStateInner) (entry : DeviceEntry) : NetworkStateInner where
  dataVersion := table.dataVersion
  deviceMap := table.deviceMap.insert entry.deviceId entry
  deviceIpMap :=
    match entry.ip with
    | some ip => table.deviceIpMap.insert ip entry.deviceId
    | none => table.deviceIpMap

/-- `NetworkStateInner::find_available_ip`: the first address of the search range that is
neither the gateway nor reserved. -/
def findAvailableIp (table : NetworkStateInner) (net : Ipv4Net) (gateway : Ipv4Addr) :
    Except String Ipv4Addr :=
  match (addrRange (net.network + 1) net.broadcast).find?
    fun ip => decide (ip ≠ gateway) && (table.reservation ip).isNone with
  | some ip => .ok ip
  | none => .error "IP exhaustion"

/-- The entry of a device that registers again on the address it has. -/
def refreshed (table : NetworkStateInner) (entry : DeviceEntry) (req : RegRequestMsg)
    (randomId : RandomId) (now : SystemTime) : DeviceEntry :=
  { entry with
    isConnected := true
    disconnectTime := none
    randomId := randomId
    lastConnectTime := now
    dataVersion := table.dataVersion + 1
    keySign := req.keySign }

/-- The entry of a device that registers on a new address. -/
def newEntry (table : NetworkStateInner) (req : RegRequestMsg) (ip : Ipv4Addr)
    (randomId : RandomId) (now : SystemTime) (stats : StatsRef) : DeviceEntry where
  deviceId := req.deviceId
  ip := some ip
  randomId := randomId
  deviceName := req.name
  deviceVersion := req.version
  isConnected := true
  lastConnectTime := now
  disconnectTime := none
  dataVersion := table.dataVersion + 1
  keySign := req.keySign
  latencyMs := none
  trafficStats := stats

/-- The table after a registration kept the address of the entry. -/
def keepLease (table : NetworkStateInner) (entry : DeviceEntry) (req : RegRequestMsg)
    (randomId : RandomId) (now : SystemTime) : NetworkStateInner :=
  { table with
    dataVersion := table.dataVersion + 1
    deviceMap := table.deviceMap.insert req.deviceId (table.refreshed entry req randomId now) }

/-- The table after a registration gave an address to an entry that had none. -/
def fillLease (table : NetworkStateInner) (entry : DeviceEntry) (req : RegRequestMsg)
    (ip : Ipv4Addr) (randomId : RandomId) (now : SystemTime) : NetworkStateInner where
  dataVersion := table.dataVersion + 1
  deviceMap := table.deviceMap.insert req.deviceId
    { table.refreshed entry req randomId now with ip := some ip }
  deviceIpMap := table.deviceIpMap.insert ip entry.deviceId

/-- The table after the wished address was granted; the reverse entry of the old address is
dropped. -/
def grantLease (table : NetworkStateInner) (req : RegRequestMsg) (ip : Ipv4Addr)
    (old : Option Ipv4Addr) (randomId : RandomId) (now : SystemTime) (stats : StatsRef) :
    NetworkStateInner :=
  { table with
    dataVersion := table.dataVersion + 1
    deviceIpMap :=
      match old with
      | some oldIp => table.deviceIpMap.erase oldIp
      | none => table.deviceIpMap }.addDevice (table.newEntry req ip randomId now stats)

/-- The table after the search found an address; the reverse entry of an old address
stays. -/
def searchLease (table : NetworkStateInner) (req : RegRequestMsg) (ip : Ipv4Addr)
    (randomId : RandomId) (now : SystemTime) (stats : StatsRef) : NetworkStateInner :=
  { table with dataVersion := table.dataVersion + 1 }.addDevice
    (table.newEntry req ip randomId now stats)

/-- The fallback of the allocation: search an address and store a new entry. -/
def allocateAvailable (table : NetworkStateInner) (net : Ipv4Net) (gateway : Ipv4Addr)
    (req : RegRequestMsg) (old : Option Ipv4Addr) (randomId : RandomId) (now : SystemTime)
    (stats : StatsRef) : Except String (NetworkStateInner × Ipv4Addr × Option Ipv4Addr) := do
  let ip ← table.findAvailableIp net gateway
  return (table.searchLease req ip randomId now stats, ip, old)

/-- The wished-address loop of the allocation, which runs at most once. A `break` of the loop
is the fallback. -/
def allocateExpected (table : NetworkStateInner) (net : Ipv4Net) (gateway : Ipv4Addr)
    (req : RegRequestMsg) (ip : Ipv4Addr) (old : Option Ipv4Addr) (randomId : RandomId)
    (now : SystemTime) (stats : StatsRef) :
    Except String (NetworkStateInner × Ipv4Addr × Option Ipv4Addr) :=
  let fallback := table.allocateAvailable net gateway req old randomId now stats
  if ip = gateway then
    if req.ipVariable then fallback else .error "此IP为网关IP，不允许使用"
  else if net.contains ip = false then
    if req.ipVariable then fallback else .error s!"IP网段错误，应使用{net.display}网段中的IP"
  else
    match table.reservation ip with
    | some id =>
      if req.ipVariable then fallback
      else
        match table.deviceMap.lookup id with
        | some other => .error s!"IP重复，设备{other.deviceName}[{other.deviceId}]已使用此IP"
        | none => .error "IP重复，服务端数据错误"
    | none => .ok (table.grantLease req ip old randomId now stats, ip, old)

/-- `NetworkStateInner::allocate_ip`: the new table, the address and the old address. -/
def allocateIp (table : NetworkStateInner) (net : Ipv4Net) (gateway : Ipv4Addr)
    (req : RegRequestMsg) (randomId : RandomId) (now : SystemTime) (stats : StatsRef) :
    Except String (NetworkStateInner × Ipv4Addr × Option Ipv4Addr) :=
  let allocateNew (old : Option Ipv4Addr) :=
    match req.ip with
    | some ip => table.allocateExpected net gateway req ip old randomId now stats
    | none => table.allocateAvailable net gateway req old randomId now stats
  match table.deviceMap.lookup req.deviceId with
  | some entry =>
    if req.ip = none ∨ entry.ip = req.ip then
      match entry.ip with
      | some ip => .ok (table.keepLease entry req randomId now, ip, none)
      | none => do
        let ip ← table.findAvailableIp net gateway
        return (table.fillLease entry req ip randomId now, ip, none)
    else allocateNew entry.ip
  | none => allocateNew none

/-- `NetworkStateInner::offline_ip`: the new table and the record to store, `none` when the
session is not the current one of the device. -/
def offlineIp (table : NetworkStateInner) (heap : StatsHeap) (networkCode deviceId : String)
    (ip : Ipv4Addr) (randomId : RandomId) (now : SystemTime) :
    NetworkStateInner × Option DeviceRecord :=
  match table.deviceMap.lookup deviceId with
  | none => (table, none)
  | some entry =>
    if entry.randomId ≠ randomId then (table, none)
    else if entry.ip ≠ some ip then (table, none)
    else
      let offline := { entry with
        dataVersion := table.dataVersion + 1
        isConnected := false
        disconnectTime := some now }
      ({ table with
          dataVersion := table.dataVersion + 1
          deviceMap := table.deviceMap.insert deviceId offline },
        some (offline.toRecord heap networkCode))

/-- `NetworkStateInner::collect_expired_devices`. -/
def collectExpiredDevices (table : NetworkStateInner) (leaseDuration : Nat) (now : SystemTime) :
    List String :=
  table.deviceMap.entries.filterMap fun entry =>
    if entry.2.isConnected then none
    else
      match entry.2.disconnectTime with
      | some disconnectTime => if disconnectTime + leaseDuration > now then none else some entry.1
      | none => none

/-- Drop the entry of a device and the reverse entry of its address. -/
def removeEntry (table : NetworkStateInner) (deviceId : String) : NetworkStateInner :=
  match table.deviceMap.lookup deviceId with
  | none => table
  | some entry =>
    { table with
      deviceMap := table.deviceMap.erase deviceId
      deviceIpMap :=
        match entry.ip with
        | some ip => table.deviceIpMap.erase ip
        | none => table.deviceIpMap }

/-- `NetworkStateInner::remove_devices`. -/
def removeDevices (table : NetworkStateInner) (deviceIds : List String) : NetworkStateInner :=
  if deviceIds.isEmpty then table
  else deviceIds.foldl removeEntry { table with dataVersion := table.dataVersion + 1 }

/-- The part of `NetworkState::remove_device_from_memory` that changes the table. -/
def removeDeviceFromMemory (table : NetworkStateInner) (deviceId : String) : NetworkStateInner :=
  match table.deviceMap.lookup deviceId with
  | none => table
  | some _ => { table.removeEntry deviceId with dataVersion := table.dataVersion + 1 }

/-- Whether `NetworkState::release_pre_registered_ip` finds the entry of its session. -/
def ownsPreRegistration (table : NetworkStateInner) (deviceId : String) (ip : Ipv4Addr)
    (randomId : RandomId) : Bool :=
  match table.deviceMap.lookup deviceId with
  | some entry => decide (entry.randomId = randomId) && decide (entry.ip = some ip)
  | none => false

/-- The locked part of `NetworkState::release_pre_registered_ip`. -/
def releasePreRegisteredIp (table : NetworkStateInner) (deviceId : String) (ip : Ipv4Addr)
    (randomId : RandomId) : NetworkStateInner :=
  if table.ownsPreRegistration deviceId ip randomId then
    { dataVersion := table.dataVersion + 1
      deviceMap := table.deviceMap.erase deviceId
      deviceIpMap := table.deviceIpMap.erase ip }
  else table

/-! ### The ways an allocation succeeds -/

/-- A successful search: an address of the range that is not the gateway and not reserved. -/
theorem findAvailableIp_ok {table : NetworkStateInner} {net : Ipv4Net} {gateway ip : Ipv4Addr}
    (found : table.findAvailableIp net gateway = .ok ip) :
    ip ∈ addrRange (net.network + 1) net.broadcast ∧ ip ≠ gateway ∧
      table.reservation ip = none := by
  unfold findAvailableIp at found
  split at found
  · next first search =>
    cases found
    have holds := List.find?_some search
    simp only [Bool.and_eq_true, decide_eq_true_eq, Option.isNone_iff_eq_none] at holds
    exact ⟨List.mem_of_find?_eq_some search, holds.1, holds.2⟩
  · cases found

/-- The search succeeds when an address is left. -/
theorem exists_findAvailableIp {table : NetworkStateInner} {net : Ipv4Net} {gateway ip : Ipv4Addr}
    (member : ip ∈ addrRange (net.network + 1) net.broadcast) (notGateway : ip ≠ gateway)
    (unreserved : table.reservation ip = none) :
    ∃ found, table.findAvailableIp net gateway = .ok found := by
  unfold findAvailableIp
  split
  · next first search => exact ⟨first, rfl⟩
  · next search =>
    have taken := List.find?_eq_none.mp search ip member
    simp [notGateway, unreserved] at taken

/-- The requests the wished-address loop leaves by `break`: the client accepts another
address, and the wished one is the gateway, outside the network or reserved. -/
def WishBlocked (table : NetworkStateInner) (net : Ipv4Net) (gateway : Ipv4Addr)
    (req : RegRequestMsg) (wish : Ipv4Addr) : Prop :=
  req.ip = some wish ∧ req.ipVariable = true ∧
    (wish = gateway ∨ net.contains wish = false ∨ table.reservation wish ≠ none)

/-- How an allocation can succeed. The four constructors are the four successful returns of
`allocate_ip`, each with the checks made before it. -/
inductive Allocation (table : NetworkStateInner) (net : Ipv4Net) (gateway : Ipv4Addr)
    (req : RegRequestMsg) (randomId : RandomId) (now : SystemTime) (stats : StatsRef) :
    NetworkStateInner × Ipv4Addr × Option Ipv4Addr → Prop where
  | kept (entry : DeviceEntry) (ip : Ipv4Addr)
      (known : table.deviceMap.lookup req.deviceId = some entry) (holds : entry.ip = some ip)
      (matching : req.ip = none ∨ req.ip = some ip) :
      Allocation table net gateway req randomId now stats
        (table.keepLease entry req randomId now, ip, none)
  | filled (entry : DeviceEntry) (ip : Ipv4Addr)
      (known : table.deviceMap.lookup req.deviceId = some entry) (holds : entry.ip = none)
      (matching : req.ip = none) (found : table.findAvailableIp net gateway = .ok ip) :
      Allocation table net gateway req randomId now stats
        (table.fillLease entry req ip randomId now, ip, none)
  | granted (ip : Ipv4Addr) (wish : req.ip = some ip) (differs : table.lease req.deviceId ≠ some ip)
      (notGateway : ip ≠ gateway) (inside : net.contains ip = true)
      (unreserved : table.reservation ip = none) :
      Allocation table net gateway req randomId now stats
        (table.grantLease req ip (table.lease req.deviceId) randomId now stats, ip,
          table.lease req.deviceId)
  | searched (ip : Ipv4Addr)
      (reason : (req.ip = none ∧ table.deviceMap.lookup req.deviceId = none) ∨
        ∃ wish, table.WishBlocked net gateway req wish ∧ table.lease req.deviceId ≠ some wish)
      (found : table.findAvailableIp net gateway = .ok ip) :
      Allocation table net gateway req randomId now stats
        (table.searchLease req ip randomId now stats, ip, table.lease req.deviceId)

section Inversion

variable {table : NetworkStateInner} {net : Ipv4Net} {gateway : Ipv4Addr} {req : RegRequestMsg}
  {randomId : RandomId} {now : SystemTime} {stats : StatsRef}
  {result : NetworkStateInner × Ipv4Addr × Option Ipv4Addr}

theorem allocateAvailable_cases {old : Option Ipv4Addr}
    (succeeds : table.allocateAvailable net gateway req old randomId now stats = .ok result) :
    ∃ ip, table.findAvailableIp net gateway = .ok ip ∧
      result = (table.searchLease req ip randomId now stats, ip, old) := by
  unfold allocateAvailable at succeeds
  cases search : table.findAvailableIp net gateway with
  | error message => rw [search] at succeeds; cases succeeds
  | ok ip =>
    rw [search] at succeeds
    cases succeeds
    exact ⟨ip, rfl, rfl⟩

theorem allocateExpected_cases {ip : Ipv4Addr} {old : Option Ipv4Addr}
    (succeeds : table.allocateExpected net gateway req ip old randomId now stats = .ok result) :
    (ip ≠ gateway ∧ net.contains ip = true ∧ table.reservation ip = none ∧
        result = (table.grantLease req ip old randomId now stats, ip, old)) ∨
      ((req.ipVariable = true ∧
          (ip = gateway ∨ net.contains ip = false ∨ table.reservation ip ≠ none)) ∧
        table.allocateAvailable net gateway req old randomId now stats = .ok result) := by
  unfold allocateExpected at succeeds
  split at succeeds
  · next isGateway =>
    split at succeeds
    · next variable_ => exact .inr ⟨⟨variable_, .inl isGateway⟩, succeeds⟩
    · cases succeeds
  · next notGateway =>
    split at succeeds
    · next outside =>
      split at succeeds
      · next variable_ => exact .inr ⟨⟨variable_, .inr (.inl outside)⟩, succeeds⟩
      · cases succeeds
    · next inside =>
      split at succeeds
      · next id reserved =>
        split at succeeds
        · next variable_ =>
          refine .inr ⟨⟨variable_, .inr (.inr ?_)⟩, succeeds⟩
          rw [reserved]
          exact Option.some_ne_none id
        · split at succeeds <;> cases succeeds
      · next unreserved =>
        cases succeeds
        exact .inl ⟨notGateway, by simpa using inside, unreserved, rfl⟩

/-- Every success of `allocate_ip` is one of the four. -/
theorem allocateIp_cases
    (succeeds : table.allocateIp net gateway req randomId now stats = .ok result) :
    Allocation table net gateway req randomId now stats result := by
  have allocateNew : ∀ old, table.lease req.deviceId = old →
      (req.ip = none → table.deviceMap.lookup req.deviceId = none) →
      (∀ wish, req.ip = some wish → old ≠ some wish) →
      (match req.ip with
        | some ip => table.allocateExpected net gateway req ip old randomId now stats
        | none => table.allocateAvailable net gateway req old randomId now stats) = .ok result →
      Allocation table net gateway req randomId now stats result := by
    intro old held unknown differs succeeds
    subst held
    split at succeeds
    · next wish wished =>
      rcases allocateExpected_cases succeeds with
        ⟨notGateway, inside, unreserved, rfl⟩ | ⟨⟨variable_, blocked⟩, succeeds⟩
      · exact .granted wish wished (differs wish wished) notGateway inside unreserved
      · obtain ⟨ip, found, rfl⟩ := allocateAvailable_cases succeeds
        exact .searched ip (.inr ⟨wish, ⟨wished, variable_, blocked⟩, differs wish wished⟩) found
    · next noWish =>
      obtain ⟨ip, found, rfl⟩ := allocateAvailable_cases succeeds
      exact .searched ip (.inl ⟨noWish, unknown noWish⟩) found
  unfold allocateIp at succeeds
  cases known : table.deviceMap.lookup req.deviceId with
  | none =>
    rw [known] at succeeds
    have held : table.lease req.deviceId = none := by rw [lease, known]; rfl
    refine allocateNew none held (fun _ => known) (fun wish _ => ?_) succeeds
    exact (Option.some_ne_none wish).symm
  | some entry =>
    rw [known] at succeeds
    have held : table.lease req.deviceId = entry.ip := by rw [lease, known]; rfl
    dsimp only at succeeds
    split at succeeds
    · next matching =>
      split at succeeds
      · next ip holds =>
        cases succeeds
        exact .kept entry ip known holds (matching.imp id fun same => same.symm.trans holds)
      · next holds =>
        cases search : table.findAvailableIp net gateway with
        | error message => rw [search] at succeeds; cases succeeds
        | ok ip =>
          rw [search] at succeeds
          cases succeeds
          exact .filled entry ip known holds
            (matching.elim id fun same => same.symm.trans holds) search
    · next different =>
      refine allocateNew entry.ip held (fun noWish => absurd (.inl noWish) different) ?_ succeeds
      exact fun wish wished same => different (.inr (same.trans wished.symm))

end Inversion

/-! ### What the operations do to leases and reservations -/

theorem lease_of_lookup {table : NetworkStateInner} {deviceId : String} {entry : DeviceEntry}
    (known : table.deviceMap.lookup deviceId = some entry) : table.lease deviceId = entry.ip := by
  rw [lease, known, Option.bind_some]

theorem lease_of_unknown {table : NetworkStateInner} {deviceId : String}
    (unknown : table.deviceMap.lookup deviceId = none) : table.lease deviceId = none := by
  rw [lease, unknown, Option.bind_none]

/-- Who holds an address is an entry with that address. -/
theorem lease_eq_some {table : NetworkStateInner} {deviceId : String} {ip : Ipv4Addr} :
    table.lease deviceId = some ip ↔
      ∃ entry, table.deviceMap.lookup deviceId = some entry ∧ entry.ip = some ip :=
  Option.bind_eq_some_iff

theorem lease_insert (version : Nat) (devices : Map String DeviceEntry)
    (reservations : Map Ipv4Addr String) (deviceId : String) (entry : DeviceEntry) :
    (NetworkStateInner.mk version (devices.insert deviceId entry) reservations).lease =
      Function.update (NetworkStateInner.mk version devices reservations).lease deviceId
        entry.ip := by
  funext other
  simp only [lease, Map.lookup_insert_eq, Function.update_apply]
  split <;> rfl

/-- Rewriting the entry of a device without changing its address changes no lease. -/
theorem lease_insert_same {table : NetworkStateInner} {deviceId : String}
    {old new : DeviceEntry} (known : table.deviceMap.lookup deviceId = some old)
    (sameIp : new.ip = old.ip) (version : Nat) :
    (NetworkStateInner.mk version (table.deviceMap.insert deviceId new) table.deviceIpMap).lease =
      table.lease := by
  rw [lease_insert]
  show Function.update table.lease deviceId new.ip = table.lease
  rw [sameIp, ← lease_of_lookup known, Function.update_eq_self]

theorem reservation_insert (version : Nat) (devices : Map String DeviceEntry)
    (reservations : Map Ipv4Addr String) (ip : Ipv4Addr) (deviceId : String) :
    (NetworkStateInner.mk version devices (reservations.insert ip deviceId)).reservation =
      Function.update (NetworkStateInner.mk version devices reservations).reservation ip
        (some deviceId) := by
  funext other
  simp only [reservation, Map.lookup_insert_eq, Function.update_apply]

theorem reservation_erase (version : Nat) (devices : Map String DeviceEntry)
    (reservations : Map Ipv4Addr String) (ip : Ipv4Addr) :
    (NetworkStateInner.mk version devices (reservations.erase ip)).reservation =
      Function.update (NetworkStateInner.mk version devices reservations).reservation ip none := by
  funext other
  simp only [reservation, Map.lookup_erase_eq, Function.update_apply]

section Effects

variable (table : NetworkStateInner) (entry : DeviceEntry) (req : RegRequestMsg) (ip : Ipv4Addr)
  (old : Option Ipv4Addr) (randomId : RandomId) (now : SystemTime) (stats : StatsRef)

theorem lease_keepLease (known : table.deviceMap.lookup req.deviceId = some entry) :
    (table.keepLease entry req randomId now).lease = table.lease :=
  lease_insert_same known (by rfl) _

theorem reservation_keepLease :
    (table.keepLease entry req randomId now).reservation = table.reservation := rfl

theorem lease_fillLease :
    (table.fillLease entry req ip randomId now).lease =
      Function.update table.lease req.deviceId (some ip) := by
  unfold fillLease
  rw [lease_insert]
  rfl

theorem reservation_fillLease :
    (table.fillLease entry req ip randomId now).reservation =
      Function.update table.reservation ip (some entry.deviceId) := by
  unfold fillLease
  rw [reservation_insert]
  rfl

theorem lease_grantLease :
    (table.grantLease req ip old randomId now stats).lease =
      Function.update table.lease req.deviceId (some ip) := by
  unfold grantLease addDevice
  rw [lease_insert]
  rfl

theorem reservation_grantLease_none :
    (table.grantLease req ip none randomId now stats).reservation =
      Function.update table.reservation ip (some req.deviceId) := by
  simp only [grantLease, addDevice, newEntry]
  rw [reservation_insert]
  rfl

theorem reservation_grantLease_some (oldIp : Ipv4Addr) :
    (table.grantLease req ip (some oldIp) randomId now stats).reservation =
      Function.update (Function.update table.reservation oldIp none) ip (some req.deviceId) := by
  simp only [grantLease, addDevice, newEntry]
  rw [reservation_insert, reservation_erase]
  rfl

theorem lease_searchLease :
    (table.searchLease req ip randomId now stats).lease =
      Function.update table.lease req.deviceId (some ip) := by
  unfold searchLease addDevice
  rw [lease_insert]
  rfl

theorem reservation_searchLease :
    (table.searchLease req ip randomId now stats).reservation =
      Function.update table.reservation ip (some req.deviceId) := by
  simp only [searchLease, addDevice, newEntry]
  rw [reservation_insert]
  rfl

variable (heap : StatsHeap) (networkCode deviceId : String)

/-- Going offline either changes nothing or rewrites the entry of the device in place. -/
theorem offlineIp_cases :
    table.offlineIp heap networkCode deviceId ip randomId now = (table, none) ∨
      ∃ entry, table.deviceMap.lookup deviceId = some entry ∧ entry.randomId = randomId ∧
        entry.ip = some ip ∧
        table.offlineIp heap networkCode deviceId ip randomId now =
          ({ table with
              dataVersion := table.dataVersion + 1
              deviceMap := table.deviceMap.insert deviceId { entry with
                dataVersion := table.dataVersion + 1
                isConnected := false
                disconnectTime := some now } },
            some ({ entry with
              dataVersion := table.dataVersion + 1
              isConnected := false
              disconnectTime := some now }.toRecord heap networkCode)) := by
  unfold offlineIp
  split
  · exact .inl rfl
  · next entry known =>
    split
    · exact .inl rfl
    · next sameId =>
      split
      · exact .inl rfl
      · next sameIp => exact .inr ⟨entry, known, not_not.mp sameId, not_not.mp sameIp, rfl⟩

theorem lease_offlineIp :
    (table.offlineIp heap networkCode deviceId ip randomId now).1.lease = table.lease := by
  rcases table.offlineIp_cases ip randomId now heap networkCode deviceId with
    unchanged | ⟨entry, known, -, -, changed⟩
  · rw [unchanged]
  · rw [changed]
    exact lease_insert_same known (by rfl) _

theorem reservation_offlineIp :
    (table.offlineIp heap networkCode deviceId ip randomId now).1.reservation =
      table.reservation := by
  rcases table.offlineIp_cases ip randomId now heap networkCode deviceId with
    unchanged | ⟨entry, -, -, -, changed⟩
  · rw [unchanged]
  · rw [changed]
    rfl

theorem lookup_removeEntry (other : String) :
    (table.removeEntry deviceId).deviceMap.lookup other =
      if other = deviceId then none else table.deviceMap.lookup other := by
  unfold removeEntry
  split
  · next unknown =>
    split
    · next same => rw [same, unknown]
    · rfl
  · exact Map.lookup_erase_eq ..

theorem lease_removeEntry :
    (table.removeEntry deviceId).lease = Function.update table.lease deviceId none := by
  funext other
  simp only [lease, lookup_removeEntry, Function.update_apply]
  split <;> rfl

theorem reservation_removeEntry :
    (table.removeEntry deviceId).reservation =
      match table.lease deviceId with
      | some held => Function.update table.reservation held none
      | none => table.reservation := by
  unfold removeEntry
  split
  · next unknown => rw [lease_of_unknown unknown]
  · next entry known =>
    rw [lease_of_lookup known]
    cases entry.ip with
    | none => rfl
    | some held => exact reservation_erase ..

/-- A pre-registration that still owns its entry is dropped as any entry is. -/
theorem releasePreRegisteredIp_of_owns
    (owns : table.ownsPreRegistration deviceId ip randomId = true) :
    table.releasePreRegisteredIp deviceId ip randomId =
      { table.removeEntry deviceId with dataVersion := table.dataVersion + 1 } := by
  unfold releasePreRegisteredIp
  rw [if_pos owns]
  unfold ownsPreRegistration at owns
  split at owns
  · next entry known =>
    simp only [Bool.and_eq_true, decide_eq_true_eq] at owns
    simp only [removeEntry, known, owns.2]
  · cases owns

theorem removeDeviceFromMemory_eq :
    table.removeDeviceFromMemory deviceId = table ∨
      table.removeDeviceFromMemory deviceId =
        { table.removeEntry deviceId with dataVersion := table.dataVersion + 1 } := by
  unfold removeDeviceFromMemory
  split
  · exact .inl rfl
  · exact .inr rfl

end Effects

/-! ### What every allocation leaves -/

namespace Allocation

variable {table : NetworkStateInner} {net : Ipv4Net} {gateway : Ipv4Addr} {req : RegRequestMsg}
  {randomId : RandomId} {now : SystemTime} {stats : StatsRef}
  {result : NetworkStateInner × Ipv4Addr × Option Ipv4Addr}

/-- The device has a connected entry of this registration with the address and the newest
version of the table. -/
theorem entry (allocation : Allocation table net gateway req randomId now stats result) :
    ∃ entry, result.1.deviceMap.lookup req.deviceId = some entry ∧ entry.ip = some result.2.1 ∧
      entry.randomId = randomId ∧ entry.isConnected = true ∧
      entry.dataVersion = result.1.dataVersion := by
  cases allocation with
  | kept entry ip known holds matching =>
    exact ⟨_, AList.lookup_insert _, holds, rfl, rfl, rfl⟩
  | filled entry ip known holds matching found =>
    exact ⟨_, AList.lookup_insert _, rfl, rfl, rfl, rfl⟩
  | granted ip wish differs notGateway inside unreserved =>
    exact ⟨_, AList.lookup_insert _, rfl, rfl, rfl, rfl⟩
  | searched ip reason found =>
    exact ⟨_, AList.lookup_insert _, rfl, rfl, rfl, rfl⟩

/-- The entries of the other devices are not touched. -/
theorem lookup_other (allocation : Allocation table net gateway req randomId now stats result)
    {other : String} (different : other ≠ req.deviceId) :
    result.1.deviceMap.lookup other = table.deviceMap.lookup other := by
  cases allocation <;> exact AList.lookup_insert_ne different

theorem dataVersion (allocation : Allocation table net gateway req randomId now stats result) :
    result.1.dataVersion = table.dataVersion + 1 := by
  cases allocation <;> rfl

/-- The device holds the address, and the other leases stay. -/
theorem lease (allocation : Allocation table net gateway req randomId now stats result) :
    result.1.lease = Function.update table.lease req.deviceId (some result.2.1) := by
  cases allocation with
  | kept entry ip known holds matching =>
    rw [lease_keepLease _ _ _ _ _ known, ← holds, ← lease_of_lookup known,
      Function.update_eq_self]
  | filled entry ip known holds matching found => exact lease_fillLease ..
  | granted ip wish differs notGateway inside unreserved => exact lease_grantLease ..
  | searched ip reason found => exact lease_searchLease ..

/-- The address was the device's own or not reserved, and then it is an address of the
network or of the search range other than the gateway. -/
theorem own_or_unreserved
    (allocation : Allocation table net gateway req randomId now stats result) :
    table.lease req.deviceId = some result.2.1 ∨
      table.reservation result.2.1 = none ∧ result.2.1 ≠ gateway ∧
        (net.contains result.2.1 = true ∨
          result.2.1 ∈ addrRange (net.network + 1) net.broadcast) := by
  cases allocation with
  | kept entry ip known holds matching => exact .inl ((lease_of_lookup known).trans holds)
  | filled entry ip known holds matching found =>
    obtain ⟨member, notGateway, unreserved⟩ := findAvailableIp_ok found
    exact .inr ⟨unreserved, notGateway, .inr member⟩
  | granted ip wish differs notGateway inside unreserved =>
    exact .inr ⟨unreserved, notGateway, .inl inside⟩
  | searched ip reason found =>
    obtain ⟨member, notGateway, unreserved⟩ := findAvailableIp_ok found
    exact .inr ⟨unreserved, notGateway, .inr member⟩

/-- The reported old address is the one the device held; it is not reported when it stays. -/
theorem old (allocation : Allocation table net gateway req randomId now stats result) :
    result.2.2 = table.lease req.deviceId ∨
      result.2.2 = none ∧ (table.lease req.deviceId = some result.2.1 ∨
        table.lease req.deviceId = none) := by
  cases allocation with
  | kept entry ip known holds matching =>
    exact .inr ⟨rfl, .inl ((lease_of_lookup known).trans holds)⟩
  | filled entry ip known holds matching found =>
    exact .inr ⟨rfl, .inr ((lease_of_lookup known).trans holds)⟩
  | granted ip wish differs notGateway inside unreserved => exact .inl rfl
  | searched ip reason found => exact .inl rfl

end Allocation

/-- What each single removal and the advance of the counter preserve, the sweep preserves. -/
theorem removeDevices_induction (property : NetworkStateInner → Prop) {table : NetworkStateInner}
    (deviceIds : List String) (initial : property table)
    (advance : ∀ table : NetworkStateInner, property table →
      property { table with dataVersion := table.dataVersion + 1 })
    (remove : ∀ table deviceId, deviceId ∈ deviceIds → property table →
      property (table.removeEntry deviceId)) :
    property (table.removeDevices deviceIds) := by
  have fold : ∀ (ids : List String), (∀ id ∈ ids, id ∈ deviceIds) → ∀ start, property start →
      property (ids.foldl removeEntry start) := by
    intro ids
    induction ids with
    | nil => exact fun _ _ holds => holds
    | cons id rest inductionHypothesis =>
      intro inside start holds
      exact inductionHypothesis (fun id member => inside id (List.mem_cons_of_mem _ member)) _
        (remove start id (inside id List.mem_cons_self) holds)
  unfold removeDevices
  split
  · exact initial
  · exact fold deviceIds (fun _ member => member) _ (advance table initial)

/-- The sweep drops the entries of its devices and no others. -/
theorem lookup_removeDevices (table : NetworkStateInner) (deviceIds : List String)
    (other : String) :
    (table.removeDevices deviceIds).deviceMap.lookup other =
      if other ∈ deviceIds then none else table.deviceMap.lookup other := by
  have fold : ∀ (ids : List String) (start : NetworkStateInner),
      (ids.foldl removeEntry start).deviceMap.lookup other =
        if other ∈ ids then none else start.deviceMap.lookup other := by
    intro ids
    induction ids with
    | nil => simp
    | cons id rest inductionHypothesis =>
      intro start
      rw [List.foldl_cons, inductionHypothesis, lookup_removeEntry]
      by_cases same : other = id
      · simp [same]
      · simp [same]
  unfold removeDevices
  split
  · next isEmpty => simp [List.isEmpty_iff.mp isEmpty]
  · exact fold deviceIds _

theorem lookup_removeDeviceFromMemory (table : NetworkStateInner) (deviceId other : String) :
    (table.removeDeviceFromMemory deviceId).deviceMap.lookup other =
      if other = deviceId then none else table.deviceMap.lookup other := by
  unfold removeDeviceFromMemory
  split
  · next unknown =>
    split
    · next same => rw [same, unknown]
    · rfl
  · exact lookup_removeEntry ..

end NetworkStateInner

end Vnt.Server
