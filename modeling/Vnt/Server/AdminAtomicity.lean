/-
This file settles whether an operation of the administrator that fails leaves everything as it was.
Each operation checks its arguments, executes a statement of the database, and changes what the
server keeps in memory. Adding and deleting a network do so in this order. Updating a network builds
the new network only after the statement, and deleting a device takes it out of memory before the
statement, so these two may fail halfway.
-/

import Vnt.Server.Database
import Vnt.Server.Networks

namespace Vnt.Server

open Vnt.Base

/-! ### The tables and the service -/

inductive NetworkSource where
  | config
  | manual
  | deviceRegister
  deriving DecidableEq, Repr

/-- A row of the table of networks. -/
structure NetworkRecord where
  networkCode : String
  gateway : String
  netmask : UInt8
  secret : String
  leaseDuration : Int
  source : NetworkSource
  createdAt : Int
  deriving DecidableEq, Repr

/-- The tables of the networks and of the devices. -/
structure Tables where
  networks : Map String NetworkRecord
  devices : Database

/-- `ManagedNetwork` with its source. -/
structure SourcedNetwork where
  network : ManagedNetwork
  source : NetworkSource
  deriving DecidableEq, Repr

/-- `ControlService` as far as the operations of the administrator change it: the tables, when the
database was opened, the networks, and the states found under their codes. -/
structure AdminService where
  defaultLeaseDuration : Nat
  pool : Option Tables
  dbNets : Map String SourcedNetwork
  states : Map String NetworkState

/-- With which message each statement fails, if it does. -/
structure Faults where
  saveNetwork : Option String
  networkHasDevices : Option String
  updateNetwork : Option String
  deleteNetwork : Option String
  deleteDevice : Option String

inductive AdminOperation where
  | addNetwork (networkCode : String) (gateway : Ipv4Addr) (netmask : UInt8)
      (leaseDuration : Option Nat) (secret : String)
  | updateNetwork (networkCode : String) (gateway : Ipv4Addr) (netmask : UInt8)
      (leaseDuration : Nat) (secret : String)
  | deleteNetwork (networkCode : String)
  | deleteDevice (networkCode deviceId : String)

/-- `as_secs` of a duration in nanoseconds, as `i64`. -/
def leaseSeconds (leaseDuration : Nat) : Int := Int.bmod (leaseDuration / 1000000000) (2 ^ 64)

/-- The values `UPDATE networks` sets. -/
def NetworkRecord.edit (record : NetworkRecord) (gateway : Ipv4Addr) (netmask : UInt8)
    (leaseDuration : Nat) (secret : String) : NetworkRecord :=
  { record with
    gateway := gateway.display
    netmask := netmask
    secret := secret
    leaseDuration := leaseSeconds leaseDuration }

namespace Tables

/-- `save_network`. -/
def saveNetwork (tables : Tables) (record : NetworkRecord) : Tables :=
  { tables with networks := tables.networks.insert record.networkCode record }

/-- `update_network`. -/
def updateNetwork (tables : Tables) (networkCode : String) (gateway : Ipv4Addr) (netmask : UInt8)
    (leaseDuration : Nat) (secret : String) : Tables :=
  match tables.networks.lookup networkCode with
  | none => tables
  | some record =>
    { tables with
      networks := tables.networks.insert networkCode
        (record.edit gateway netmask leaseDuration secret) }

/-- `delete_network`. -/
def deleteNetwork (tables : Tables) (networkCode : String) : Tables :=
  { tables with networks := tables.networks.erase networkCode }

/-- `delete_device`. -/
def deleteDevice (tables : Tables) (networkCode deviceId : String) : Tables :=
  { tables with devices := tables.devices.execute (.deleteDevice networkCode deviceId) }

end Tables

namespace AdminService

/-- Execute a statement. A database that was not opened is passed over. -/
def execute (service : AdminService) (fault : Option String) (statement : Tables → Tables) :
    Except String AdminService :=
  match service.pool with
  | none => .ok service
  | some tables =>
    match fault with
    | some message => .error message
    | none => .ok { service with pool := some (statement tables) }

/-- `network_has_devices`. -/
def networkHasDevices (service : AdminService) (fault : Option String) (networkCode : String) :
    Except String Bool :=
  match service.pool with
  | none => .ok false
  | some tables =>
    match fault with
    | some message => .error message
    | none => .ok !(tables.devices.loadAllDevices networkCode).isEmpty

/-- `all > 0` for the state of a network. -/
def stateHasDevices (service : AdminService) (networkCode : String) : Bool :=
  match service.states.lookup networkCode with
  | none => false
  | some state => decide (0 < state.count.1)

/-- Add or replace a network in memory. -/
def enterNetwork (service : AdminService) (networkCode : String) (network : SourcedNetwork) :
    AdminService :=
  { service with dbNets := service.dbNets.insert networkCode network }

/-- Forget the state of a network. -/
def forgetState (service : AdminService) (networkCode : String) : AdminService :=
  { service with states := service.states.erase networkCode }

/-- The checks of `add_network`. -/
def checkAdd (service : AdminService) (networkCode : String) (gateway : Ipv4Addr)
    (netmask : UInt8) (secret : String) : Except String Ipv4Net := do
  validateNetworkCodeValue networkCode "network_code"
  validateNetworkSecretValue networkCode secret
  if (service.dbNets.lookup networkCode).isSome then
    throw s!"network_code '{networkCode}' already exists"
  if (service.dbNets.lookup networkCode).isSome then throw s!"网络编号 '{networkCode}' 已存在"
  NetworkService.buildNetworkFromGateway gateway netmask.toNat

/-- `add_network`. -/
def addNetwork (service : AdminService) (faults : Faults) (createdAt : Int) (networkCode : String)
    (gateway : Ipv4Addr) (netmask : UInt8) (leaseDuration : Option Nat) (secret : String) :
    AdminService × Except String Unit :=
  match service.checkAdd networkCode gateway netmask secret with
  | .error message => (service, .error message)
  | .ok net =>
    let leaseDuration := leaseDuration.getD service.defaultLeaseDuration
    let record := ⟨networkCode, gateway.display, netmask, secret, leaseSeconds leaseDuration,
      .manual, createdAt⟩
    match service.execute faults.saveNetwork fun tables => tables.saveNetwork record with
    | .error message => (service, .error message)
    | .ok stored =>
      (stored.enterNetwork networkCode ⟨⟨⟨net, leaseDuration⟩, secret⟩, .manual⟩, .ok ())

/-- The checks of `update_network`, with the source of the network. -/
def checkUpdate (service : AdminService) (faults : Faults) (networkCode secret : String) :
    Except String NetworkSource := do
  validateNetworkSecretValue networkCode secret
  let found ← match service.dbNets.lookup networkCode with
    | some found => pure found
    | none => throw s!"网络编号 '{networkCode}' 不存在"
  if ← service.networkHasDevices faults.networkHasDevices networkCode then
    throw "网络下存在设备，无法编辑"
  if service.stateHasDevices networkCode then throw "网络下存在设备，无法编辑"
  return found.source

/-- `update_network`. -/
def updateNetwork (service : AdminService) (faults : Faults) (networkCode : String)
    (gateway : Ipv4Addr) (netmask : UInt8) (leaseDuration : Nat) (secret : String) :
    AdminService × Except String Unit :=
  match service.checkUpdate faults networkCode secret with
  | .error message => (service, .error message)
  | .ok source =>
    match service.execute faults.updateNetwork fun tables =>
        tables.updateNetwork networkCode gateway netmask leaseDuration secret with
    | .error message => (service, .error message)
    | .ok stored =>
      -- the network is built after the statement
      match NetworkService.buildNetworkFromGateway gateway netmask.toNat with
      | .error message => (stored, .error message)
      | .ok net =>
        ((stored.enterNetwork networkCode ⟨⟨⟨net, leaseDuration⟩, secret⟩, source⟩).forgetState
          networkCode, .ok ())

/-- The checks of `delete_network`. -/
def checkDelete (service : AdminService) (faults : Faults) (networkCode : String) :
    Except String Unit := do
  if networkCode = defaultNetworkCode then throw "the default network cannot be deleted"
  if (service.dbNets.lookup networkCode).isNone then throw s!"网络编号 '{networkCode}' 不存在"
  if ← service.networkHasDevices faults.networkHasDevices networkCode then
    throw "网络下存在设备，无法删除"
  if service.stateHasDevices networkCode then throw "网络下存在设备，无法删除"

/-- `delete_network`. -/
def deleteNetwork (service : AdminService) (faults : Faults) (networkCode : String) :
    AdminService × Except String Unit :=
  match service.checkDelete faults networkCode with
  | .error message => (service, .error message)
  | .ok () =>
    match service.execute faults.deleteNetwork fun tables => tables.deleteNetwork networkCode with
    | .error message => (service, .error message)
    | .ok stored =>
      ({ stored with dbNets := stored.dbNets.erase networkCode }.forgetState networkCode, .ok ())

/-- Take a device out of the memory of its network. -/
def removeFromMemory (service : AdminService) (networkCode deviceId : String) : AdminService :=
  match service.states.lookup networkCode with
  | none => service
  | some state =>
    { service with
      states := service.states.insert networkCode (state.removeDeviceFromMemory deviceId).1 }

/-- The device has a connection. -/
def isOnline (service : AdminService) (networkCode deviceId : String) : Bool :=
  match service.states.lookup networkCode with
  | none => false
  | some state => state.isDeviceOnline deviceId

/-- `delete_device`. -/
def deleteDevice (service : AdminService) (faults : Faults) (networkCode deviceId : String) :
    AdminService × Except String Unit :=
  if service.isOnline networkCode deviceId = true then (service, .error "设备在线，无法删除")
  else
    -- the device leaves memory before the statement
    let removed := service.removeFromMemory networkCode deviceId
    match removed.execute faults.deleteDevice fun tables =>
        tables.deleteDevice networkCode deviceId with
    | .error message => (removed, .error message)
    | .ok stored => (stored, .ok ())

/-- An operation, with the service after it and how it ended. -/
def run (service : AdminService) (faults : Faults) (now : Int) :
    AdminOperation → AdminService × Except String Unit
  | .addNetwork networkCode gateway netmask leaseDuration secret =>
    service.addNetwork faults now networkCode gateway netmask leaseDuration secret
  | .updateNetwork networkCode gateway netmask leaseDuration secret =>
    service.updateNetwork faults networkCode gateway netmask leaseDuration secret
  | .deleteNetwork networkCode => service.deleteNetwork faults networkCode
  | .deleteDevice networkCode deviceId => service.deleteDevice faults networkCode deviceId

/-! ### What an operation that fails leaves -/

/-- The tables, the networks and the states are what they were. -/
structure Unchanged (before after : AdminService) : Prop where
  networkRows : ∀ networkCode,
    (after.pool.bind fun tables => tables.networks.lookup networkCode) =
      before.pool.bind fun tables => tables.networks.lookup networkCode
  deviceRows : ∀ key, (after.pool.bind fun tables => tables.devices.rows.lookup key) =
    before.pool.bind fun tables => tables.devices.rows.lookup key
  dbNets : ∀ networkCode, after.dbNets.lookup networkCode = before.dbNets.lookup networkCode
  states : ∀ networkCode, after.states.lookup networkCode = before.states.lookup networkCode

/-- An operation that fails changes nothing. -/
def AtomicOnError (service : AdminService) (faults : Faults) (now : Int)
    (operation : AdminOperation) : Prop :=
  ∀ message, (service.run faults now operation).2 = .error message →
    service.Unchanged (service.run faults now operation).1

/-- What `update_network` checks before its statement. -/
structure Editable (service : AdminService) (faults : Faults) (networkCode secret : String) :
    Prop where
  secret : validateNetworkSecretValue networkCode secret = .ok ()
  configured : (service.dbNets.lookup networkCode).isSome = true
  noRows : service.networkHasDevices faults.networkHasDevices networkCode = .ok false
  noDevices : service.stateHasDevices networkCode = false

/-- An operation that fails halfway: an update to a network that cannot be built, of a row that it
changes, or the deletion of a known device that is offline, when its statement fails. -/
def FailsHalfway (service : AdminService) (faults : Faults) : AdminOperation → Prop
  | .updateNetwork networkCode gateway netmask leaseDuration secret =>
    service.Editable faults networkCode secret ∧ (gateway = 0 ∨ 32 < netmask.toNat) ∧
      faults.updateNetwork = none ∧ ∃ tables record, service.pool = some tables ∧
        tables.networks.lookup networkCode = some record ∧
          record.edit gateway netmask leaseDuration secret ≠ record
  | .deleteDevice networkCode deviceId =>
    (∃ state entry, service.states.lookup networkCode = some state ∧
      state.getDeviceEntry deviceId = some entry ∧ entry.isConnected = false) ∧
        service.pool.isSome = true ∧ faults.deleteDevice.isSome = true
  | _ => False

variable {service : AdminService} {faults : Faults} {networkCode deviceId secret : String}

theorem Unchanged.refl (service : AdminService) : service.Unchanged service :=
  ⟨fun _ => rfl, fun _ => rfl, fun _ => rfl, fun _ => rfl⟩

theorem execute_eq_error {fault : Option String} {statement : Tables → Tables} {message : String} :
    service.execute fault statement = .error message ↔
      service.pool.isSome = true ∧ fault = some message := by
  unfold execute
  cases service.pool with
  | none => exact ⟨(fun outcome => nomatch outcome), (fun failed => nomatch failed.1)⟩
  | some tables =>
    cases fault with
    | none => exact ⟨(fun outcome => nomatch outcome), (fun failed => nomatch failed.2)⟩
    | some other =>
      exact ⟨fun outcome => ⟨rfl, congrArg some (Except.error.inj outcome)⟩,
        fun failed => congrArg Except.error (Option.some.inj failed.2)⟩

theorem execute_eq_ok {fault : Option String} {statement : Tables → Tables} {stored : AdminService}
    (outcome : service.execute fault statement = .ok stored) :
    service.pool = none ∧ stored = service ∨
      ∃ tables, service.pool = some tables ∧ fault = none ∧
        stored = { service with pool := some (statement tables) } := by
  unfold execute at outcome
  cases isPool : service.pool with
  | none =>
    rw [isPool] at outcome
    cases outcome
    exact .inl ⟨rfl, rfl⟩
  | some tables =>
    rw [isPool] at outcome
    cases fault with
    | none =>
      cases outcome
      exact .inr ⟨tables, rfl, rfl, rfl⟩
    | some message => cases outcome

/-- A network can be built unless the gateway is the first address of all or the mask is too
long. -/
theorem buildNetworkFromGateway_eq_error {gateway : Ipv4Addr} {netmask : Nat} :
    (∃ message, NetworkService.buildNetworkFromGateway gateway netmask = .error message) ↔
      gateway = 0 ∨ 32 < netmask := by
  unfold NetworkService.buildNetworkFromGateway Ipv4Net.new
  have isZero : gateway.toNat = 0 ↔ gateway = 0 :=
    ⟨fun zero => UInt32.toNat_inj.mp zero, fun zero => congrArg UInt32.toNat zero⟩
  by_cases zero : gateway.toNat = 0
  · rw [if_pos zero]
    exact ⟨fun _ => .inl (isZero.mp zero), fun _ => ⟨_, rfl⟩⟩
  · rw [if_neg zero]
    by_cases valid : netmask < 33
    · rw [dif_pos valid]
      refine ⟨(fun ⟨message, outcome⟩ => nomatch outcome), fun bad => ?_⟩
      rcases bad with isGateway | tooLong
      · exact absurd (isZero.mpr isGateway) zero
      · omega
    · rw [dif_neg valid]
      exact ⟨fun _ => .inr (by omega), fun _ => ⟨_, rfl⟩⟩

/-- The checks of an update are passed by what may be edited. -/
theorem checkUpdate_eq_ok :
    (∃ source, service.checkUpdate faults networkCode secret = .ok source) ↔
      service.Editable faults networkCode secret := by
  unfold checkUpdate
  constructor
  · rintro ⟨source, outcome⟩
    cases valid : validateNetworkSecretValue networkCode secret with
    | error message =>
      rw [valid] at outcome
      cases outcome
    | ok _ =>
      rw [valid] at outcome
      cases configured : service.dbNets.lookup networkCode with
      | none =>
        rw [configured] at outcome
        cases outcome
      | some found =>
        rw [configured] at outcome
        cases asked : service.networkHasDevices faults.networkHasDevices networkCode with
        | error message =>
          rw [asked] at outcome
          cases outcome
        | ok inDatabase =>
          rw [asked] at outcome
          cases inDatabase with
          | true => cases outcome
          | false =>
            cases devices : service.stateHasDevices networkCode with
            | true =>
              rw [devices] at outcome
              cases outcome
            | false => exact ⟨valid, by rw [configured]; rfl, asked, devices⟩
  · rintro ⟨valid, configured, asked, devices⟩
    obtain ⟨found, isFound⟩ := Option.isSome_iff_exists.mp configured
    rw [valid, isFound, asked, devices]
    exact ⟨found.source, rfl⟩

/-- The statement of an update leaves the tables as they are when it changes no row. -/
theorem networks_updateNetwork {tables : Tables} {gateway : Ipv4Addr} {netmask : UInt8}
    {leaseDuration : Nat}
    (same : ∀ record, tables.networks.lookup networkCode = some record →
      record.edit gateway netmask leaseDuration secret = record) (other : String) :
    (tables.updateNetwork networkCode gateway netmask leaseDuration secret).networks.lookup other =
      tables.networks.lookup other := by
  unfold Tables.updateNetwork
  split
  · rfl
  · next record known =>
    dsimp only
    rw [Map.lookup_insert_eq, same record known]
    split
    · next isCode => rw [isCode, known]
    · rfl

/-- The row of a network after its update. -/
theorem lookup_updateNetwork (tables : Tables) (networkCode : String) (gateway : Ipv4Addr)
    (netmask : UInt8) (leaseDuration : Nat) (secret : String) :
    (tables.updateNetwork networkCode gateway netmask leaseDuration secret).networks.lookup
        networkCode =
      (tables.networks.lookup networkCode).map fun record =>
        record.edit gateway netmask leaseDuration secret := by
  unfold Tables.updateNetwork
  split
  · next unknown =>
    rw [unknown]
    rfl
  · next record known =>
    rw [known]
    exact AList.lookup_insert _

theorem devices_updateNetwork {tables : Tables} {gateway : Ipv4Addr} {netmask : UInt8}
    {leaseDuration : Nat} :
    (tables.updateNetwork networkCode gateway netmask leaseDuration secret).devices =
      tables.devices := by
  unfold Tables.updateNetwork
  split <;> rfl

theorem atomic_addNetwork {createdAt : Int} {gateway : Ipv4Addr} {netmask : UInt8}
    {leaseDuration : Option Nat} {message : String}
    (failed : (service.addNetwork faults createdAt networkCode gateway netmask leaseDuration
      secret).2 = .error message) :
    (service.addNetwork faults createdAt networkCode gateway netmask leaseDuration secret).1 =
      service := by
  unfold addNetwork at *
  split at failed
  · next isError => rfl
  · dsimp only at failed ⊢
    split at failed
    · rfl
    · cases failed

theorem atomic_deleteNetwork {message : String}
    (failed : (service.deleteNetwork faults networkCode).2 = .error message) :
    (service.deleteNetwork faults networkCode).1 = service := by
  unfold deleteNetwork at *
  split at failed
  · rfl
  · split at failed
    · rfl
    · cases failed

section UpdateNetwork

variable {tables : Tables} {gateway : Ipv4Addr} {netmask : UInt8} {leaseDuration : Nat}

/-- The service after the statement of an update that changes no row. -/
theorem unchanged_of_untouched (isPool : service.pool = some tables)
    (untouched : ∀ record, tables.networks.lookup networkCode = some record →
      record.edit gateway netmask leaseDuration secret = record) :
    service.Unchanged { service with
      pool := some (tables.updateNetwork networkCode gateway netmask leaseDuration secret) } := by
  refine ⟨fun code => ?_, fun key => ?_, fun _ => rfl, fun _ => rfl⟩
  · rw [isPool]
    exact networks_updateNetwork untouched code
  · rw [isPool]
    exact congrArg (fun devices => devices.rows.lookup key) devices_updateNetwork

/-- The service after the statement of an update that changes a row. -/
theorem not_unchanged_of_differs {record : NetworkRecord} (isPool : service.pool = some tables)
    (known : tables.networks.lookup networkCode = some record)
    (differs : record.edit gateway netmask leaseDuration secret ≠ record) :
    ¬service.Unchanged { service with
      pool := some (tables.updateNetwork networkCode gateway netmask leaseDuration secret) } := by
  intro unchanged
  have row := unchanged.networkRows networkCode
  rw [isPool, Option.bind_some, Option.bind_some, lookup_updateNetwork, known] at row
  exact differs (Option.some.inj row)

/-- A network that cannot be built is told after the statement. -/
theorem updateNetwork_of_unbuildable (editable : service.Editable faults networkCode secret)
    (unbuildable : gateway = 0 ∨ 32 < netmask.toNat) (noFault : faults.updateNetwork = none)
    (isPool : service.pool = some tables) :
    ∃ message, service.updateNetwork faults networkCode gateway netmask leaseDuration secret =
      ({ service with
        pool := some (tables.updateNetwork networkCode gateway netmask leaseDuration secret) },
        .error message) := by
  obtain ⟨source, checked⟩ := checkUpdate_eq_ok.mpr editable
  obtain ⟨message, notBuilt⟩ := buildNetworkFromGateway_eq_error.mpr unbuildable
  refine ⟨message, ?_⟩
  unfold updateNetwork execute
  rw [checked, isPool, noFault]
  dsimp only
  rw [notBuilt]

/-- An update that fails leaves the service as it was, or fails after its statement. -/
theorem updateNetwork_eq_error {message : String}
    (failed : (service.updateNetwork faults networkCode gateway netmask leaseDuration secret).2 =
      .error message) :
    (service.updateNetwork faults networkCode gateway netmask leaseDuration secret).1 = service ∨
      (service.Editable faults networkCode secret ∧ (gateway = 0 ∨ 32 < netmask.toNat) ∧
        faults.updateNetwork = none ∧ ∃ tables, service.pool = some tables ∧
          (service.updateNetwork faults networkCode gateway netmask leaseDuration secret).1 =
            { service with
              pool := some
                (tables.updateNetwork networkCode gateway netmask leaseDuration secret) }) := by
  unfold updateNetwork at failed ⊢
  cases checked : service.checkUpdate faults networkCode secret with
  | error other => exact .inl rfl
  | ok source =>
    rw [checked] at failed
    dsimp only at failed ⊢
    cases executed : service.execute faults.updateNetwork (fun tables =>
        tables.updateNetwork networkCode gateway netmask leaseDuration secret) with
    | error other => exact .inl rfl
    | ok stored =>
      rw [executed] at failed
      dsimp only at failed ⊢
      cases built : NetworkService.buildNetworkFromGateway gateway netmask.toNat with
      | ok net =>
        rw [built] at failed
        cases failed
      | error other =>
        rcases execute_eq_ok executed with ⟨-, same⟩ | ⟨tables, isPool, noFault, same⟩
        · exact .inl same
        · exact .inr ⟨checkUpdate_eq_ok.mp ⟨source, checked⟩,
            buildNetworkFromGateway_eq_error.mp ⟨other, built⟩, noFault, tables, isPool, same⟩

theorem atomicOnError_updateNetwork_iff {now : Int} :
    service.AtomicOnError faults now
        (.updateNetwork networkCode gateway netmask leaseDuration secret) ↔
      ¬service.FailsHalfway faults
        (.updateNetwork networkCode gateway netmask leaseDuration secret) := by
  unfold AtomicOnError run
  dsimp only
  constructor
  · rintro atomic ⟨editable, unbuildable, noFault, tables, record, isPool, known, differs⟩
    obtain ⟨message, outcome⟩ := updateNetwork_of_unbuildable editable unbuildable noFault isPool
    have unchanged := atomic message (congrArg Prod.snd outcome)
    rw [outcome] at unchanged
    exact not_unchanged_of_differs isPool known differs unchanged
  · intro whole message failed
    rcases updateNetwork_eq_error failed with
      same | ⟨editable, unbuildable, noFault, tables, isPool, stored⟩
    · rw [same]
      exact .refl service
    · rw [stored]
      refine unchanged_of_untouched isPool fun record known => ?_
      by_contra differs
      exact whole ⟨editable, unbuildable, noFault, tables, record, isPool, known, differs⟩

end UpdateNetwork

/-- A device that is not known leaves nothing behind. -/
theorem removeDeviceFromMemory_of_unknown {state : NetworkState}
    (unknown : state.getDeviceEntry deviceId = none) :
    (state.removeDeviceFromMemory deviceId).1 = state := by
  unfold NetworkState.getDeviceEntry at unknown
  unfold NetworkState.removeDeviceFromMemory NetworkState.lease NetworkStateInner.lease
    NetworkStateInner.removeDeviceFromMemory
  rw [unknown]
  rfl

theorem pool_removeFromMemory :
    (service.removeFromMemory networkCode deviceId).pool = service.pool := by
  unfold removeFromMemory
  split
  · rfl
  · rfl

theorem removeFromMemory_of_unknown (unknown : ∀ state,
      service.states.lookup networkCode = some state → state.getDeviceEntry deviceId = none) :
    service.Unchanged (service.removeFromMemory networkCode deviceId) := by
  unfold removeFromMemory
  cases isState : service.states.lookup networkCode with
  | none => exact .refl service
  | some state =>
    refine ⟨fun _ => rfl, fun _ => rfl, fun _ => rfl, fun code => ?_⟩
    dsimp only
    rw [Map.lookup_insert_eq, removeDeviceFromMemory_of_unknown (unknown state isState)]
    split
    · next isCode => rw [isCode, isState]
    · rfl

/-- A device that is known is gone from memory afterwards. -/
theorem not_unchanged_removeFromMemory {state : NetworkState} {entry : DeviceEntry}
    (isState : service.states.lookup networkCode = some state)
    (isEntry : state.getDeviceEntry deviceId = some entry) :
    ¬service.Unchanged (service.removeFromMemory networkCode deviceId) := by
  intro unchanged
  have stays := unchanged.states networkCode
  unfold removeFromMemory at stays
  rw [isState] at stays
  dsimp only at stays
  rw [AList.lookup_insert] at stays
  have gone : (state.removeDeviceFromMemory deviceId).1.getDeviceEntry deviceId = none := by
    unfold NetworkState.getDeviceEntry
    rw [NetworkState.removeDeviceFromMemory_leaseState,
      NetworkStateInner.lookup_removeDeviceFromMemory, if_pos rfl]
  rw [Option.some.inj stays, isEntry] at gone
  cases gone

/-- A device that is known is online when it is connected. -/
theorem isOnline_of_known {state : NetworkState} {entry : DeviceEntry}
    (isState : service.states.lookup networkCode = some state)
    (isEntry : state.getDeviceEntry deviceId = some entry) :
    service.isOnline networkCode deviceId = entry.isConnected := by
  unfold isOnline
  rw [isState]
  dsimp only
  unfold NetworkState.isDeviceOnline
  rw [isEntry]

/-- The statement of a deletion fails after the device has left memory. -/
theorem deleteDevice_of_fault {message : String}
    (offline : service.isOnline networkCode deviceId = false)
    (opened : service.pool.isSome = true) (isFault : faults.deleteDevice = some message) :
    service.deleteDevice faults networkCode deviceId =
      (service.removeFromMemory networkCode deviceId, .error message) := by
  unfold deleteDevice
  rw [offline, if_neg Bool.false_ne_true]
  dsimp only
  rw [execute_eq_error.mpr ⟨(congrArg Option.isSome pool_removeFromMemory).trans opened, isFault⟩]

/-- A deletion fails as the device is online, or as its statement fails. -/
theorem deleteDevice_eq_error {message : String}
    (failed : (service.deleteDevice faults networkCode deviceId).2 = .error message) :
    service.isOnline networkCode deviceId = true ∨
      (service.isOnline networkCode deviceId = false ∧ service.pool.isSome = true ∧
        faults.deleteDevice = some message) := by
  unfold deleteDevice at failed
  split at failed
  · next online => exact .inl online
  · next notOnline =>
    dsimp only at failed
    split at failed
    · next other executed =>
      cases failed
      obtain ⟨opened, isFault⟩ := execute_eq_error.mp executed
      exact .inr ⟨Bool.eq_false_iff.mpr notOnline, pool_removeFromMemory ▸ opened, isFault⟩
    · cases failed

theorem atomicOnError_deleteDevice_iff {now : Int} :
    service.AtomicOnError faults now (.deleteDevice networkCode deviceId) ↔
      ¬service.FailsHalfway faults (.deleteDevice networkCode deviceId) := by
  unfold AtomicOnError run
  dsimp only
  constructor
  · rintro atomic ⟨⟨state, entry, isState, isEntry, offline⟩, opened, failing⟩
    obtain ⟨message, isFault⟩ := Option.isSome_iff_exists.mp failing
    have outcome := deleteDevice_of_fault ((isOnline_of_known isState isEntry).trans offline) opened
      isFault
    have unchanged := atomic message (congrArg Prod.snd outcome)
    rw [outcome] at unchanged
    exact not_unchanged_removeFromMemory isState isEntry unchanged
  · intro whole message failed
    rcases deleteDevice_eq_error failed with online | ⟨offline, opened, isFault⟩
    · unfold deleteDevice
      rw [if_pos online]
      exact .refl service
    · rw [deleteDevice_of_fault offline opened isFault]
      refine removeFromMemory_of_unknown fun state isState => ?_
      refine Option.eq_none_iff_forall_ne_some.mpr fun entry isEntry => whole ?_
      refine ⟨⟨state, entry, isState, isEntry, ?_⟩, opened, Option.isSome_of_eq_some isFault⟩
      exact (isOnline_of_known isState isEntry).symm.trans offline

/-- An operation of the administrator that fails leaves the tables, the networks and the states as
they were, if and only if it does not fail halfway. -/
theorem atomicOnError_iff (service : AdminService) (faults : Faults) (now : Int)
    (operation : AdminOperation) :
    service.AtomicOnError faults now operation ↔ ¬service.FailsHalfway faults operation := by
  cases operation with
  | addNetwork networkCode gateway netmask leaseDuration secret =>
    refine iff_of_true (fun message failed => ?_) id
    change service.Unchanged
      (service.addNetwork faults now networkCode gateway netmask leaseDuration secret).1
    rw [atomic_addNetwork failed]
    exact .refl service
  | updateNetwork networkCode gateway netmask leaseDuration secret =>
    exact atomicOnError_updateNetwork_iff
  | deleteNetwork networkCode =>
    refine iff_of_true (fun message failed => ?_) id
    change service.Unchanged (service.deleteNetwork faults networkCode).1
    rw [atomic_deleteNetwork failed]
    exact .refl service
  | deleteDevice networkCode deviceId => exact atomicOnError_deleteDevice_iff

/-- A server with one network and no devices. -/
def exampleAdmin : AdminService where
  defaultLeaseDuration := 86400000000000
  pool := some
    { networks := (∅ : Map String NetworkRecord).insert "net"
        ⟨"net", "10.26.0.1", 24, "Secret-Of-The-Network-0001", 86400, .manual, 0⟩
      devices := .empty }
  dbNets := (∅ : Map String SourcedNetwork).insert "net"
    ⟨⟨⟨⟨0x0A1A0000, 24⟩, 86400000000000⟩, "Secret-Of-The-Network-0001"⟩, .manual⟩
  states := ∅

/-- An update to the gateway 0.0.0.0 fails after the row was changed. -/
theorem not_atomicOnError_updateNetwork :
    ¬exampleAdmin.AtomicOnError ⟨none, none, none, none, none⟩ 0
      (.updateNetwork "net" 0 24 86400000000000 "Secret-Of-The-Network-0001") := by
  intro atomic
  have unchanged := atomic "gateway must be the first usable IP in the subnet" rfl
  have row := unchanged.networkRows "net"
  revert row
  decide +kernel

end AdminService

end Vnt.Server
