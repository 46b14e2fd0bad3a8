/-
This file embeds the ways on which a network comes back from where it was put: the rows of the
database become the managed networks again, the managed networks are shown to the administrator, and
the state of a network is made of its row and the rows of its devices. The network is stored as the
text of its gateway, and kept as the address below the gateway with the length of the mask.
-/

import Mathlib.Algebra.Group.Int.Defs
import Mathlib.Data.List.Sort
import Vnt.Ipv4Text
import Vnt.Server.AdminAtomicity

namespace Vnt.Server

open Vnt.Base

/-! ### The rows of the networks -/

/-- `Duration::from_secs` of a lease that was stored as `i64`. -/
def leaseOfSeconds (seconds : Int) : Nat := (seconds % 2 ^ 64).toNat * 1000000000

namespace NetworkRecord

/-- `NetworkRecord::to_ipv4_net`. -/
def toIpv4Net (record : NetworkRecord) : Option Ipv4Net :=
  match Ipv4Addr.parse record.gateway with
  | none => none
  | some gateway =>
    if gateway.toNat = 0 then none else Ipv4Net.new (gateway - 1) record.netmask.toNat

/-- The managed network of a row whose gateway and mask are valid. -/
def toManaged (record : NetworkRecord) : Option SourcedNetwork :=
  record.toIpv4Net.map fun net =>
    ⟨⟨⟨net, leaseOfSeconds record.leaseDuration⟩, record.secret⟩, record.source⟩

/-- The row holds what an operation sets. -/
structure Holds (record : NetworkRecord) (gateway : Ipv4Addr) (netmask : UInt8)
    (leaseDuration : Nat) : Prop where
  gateway : record.gateway = gateway.display
  netmask : record.netmask = netmask
  leaseDuration : record.leaseDuration = leaseSeconds leaseDuration

end NetworkRecord

namespace Tables

/-- The rows of the networks. The network code is their primary key. -/
def networkRows (tables : Tables) : List NetworkRecord :=
  tables.networks.entries.map fun row => { row.2 with networkCode := row.1 }

/-- `load_all_networks`, in the order in which they were created. -/
def loadAllNetworks (tables : Tables) : List NetworkRecord :=
  tables.networkRows.insertionSort fun first second => first.createdAt ≤ second.createdAt

end Tables

/-- `managed_networks_from_records`, which skips invalid rows. -/
def managedNetworksFromRecords (records : List NetworkRecord) : Map String SourcedNetwork :=
  Map.insertAll ∅ (records.filterMap fun record =>
    record.toManaged.map fun network => (record.networkCode, network))

/-! ### What is shown and what is created -/

/-- `NetworkInfoVO`. -/
structure NetworkInfoVO where
  networkCode : String
  gateway : Ipv4Addr
  netmask : Nat
  net : Ipv4Net
  secret : String
  leaseDuration : Nat
  source : NetworkSource
  isDefault : Bool
  canDelete : Bool
  allCount : UInt32
  onlineCount : UInt32

namespace AdminService

/-- What `get_network_info` shows of a network. The addition wraps in a release build. -/
def networkInfo (service : AdminService) (networkCode : String) (network : SourcedNetwork) :
    NetworkInfoVO :=
  let config := network.network.config
  let counts := ((service.states.lookup networkCode).map NetworkState.count).getD (0, 0)
  { networkCode := networkCode
    gateway := config.net.network + 1
    netmask := config.net.prefixLen.val
    net := config.net
    secret := network.network.secret
    leaseDuration := config.leaseDuration / 1000000000
    source := network.source
    isDefault := networkCode == defaultNetworkCode
    canDelete := networkCode != defaultNetworkCode
    allCount := counts.1
    onlineCount := counts.2 }

/-- `get_network_info`. -/
def getNetworkInfo (service : AdminService) : List NetworkInfoVO :=
  (service.dbNets.entries.map fun entry => service.networkInfo entry.1 entry.2).insertionSort
    fun first second => first.networkCode ≤ second.networkCode

/-- `load_all_devices`. -/
def deviceRows (service : AdminService) (networkCode : String) : List DeviceRecord :=
  match service.pool with
  | none => []
  | some tables => tables.devices.loadAllDevices networkCode

/-- The state that is created for a network. -/
def createdState (service : AdminService) (networkCode : String) (now : SystemTime)
    (stats : StatsRef) : Option NetworkState :=
  (service.dbNets.lookup networkCode).bind fun network =>
    let config := network.network.config
    NetworkState.newFromDb networkCode config.net config.leaseDuration now stats
      (service.deviceRows networkCode)

end AdminService

/-! ### What is found again -/

variable {tables : Tables} {networkCode : String} {record : NetworkRecord} {service : AdminService}

theorem mem_loadAllNetworks :
    record ∈ tables.loadAllNetworks ↔
      ∃ row, tables.networks.lookup record.networkCode = some row ∧
        record = { row with networkCode := record.networkCode } := by
  unfold Tables.loadAllNetworks Tables.networkRows
  rw [List.mem_insertionSort, List.mem_map]
  constructor
  · rintro ⟨⟨code, row⟩, member, rfl⟩
    exact ⟨row, (Map.mem_entries_iff _ code row).mp member, rfl⟩
  · rintro ⟨row, found, same⟩
    exact ⟨⟨record.networkCode, row⟩, (Map.mem_entries_iff _ _ row).mpr found, same.symm⟩

/-- The networks that are loaded are those of the valid rows. -/
theorem lookup_managedNetworks :
    (managedNetworksFromRecords tables.loadAllNetworks).lookup networkCode =
      (tables.networks.lookup networkCode).bind NetworkRecord.toManaged := by
  have bound : ∀ code network, (code, network) ∈ (tables.loadAllNetworks.filterMap fun record =>
      record.toManaged.map fun network => (record.networkCode, network)) ↔
        (tables.networks.lookup code).bind NetworkRecord.toManaged = some network := by
    intro code network
    rw [List.mem_filterMap, Option.bind_eq_some_iff]
    constructor
    · rintro ⟨record, member, isNetwork⟩
      obtain ⟨row, found, isRecord⟩ := mem_loadAllNetworks.mp member
      obtain ⟨other, isManaged, same⟩ := Option.map_eq_some_iff.mp isNetwork
      cases same
      refine ⟨row, found, ?_⟩
      rw [isRecord] at isManaged
      exact isManaged
    · rintro ⟨row, found, isManaged⟩
      refine ⟨{ row with networkCode := code }, mem_loadAllNetworks.mpr ⟨row, found, rfl⟩, ?_⟩
      exact Option.map_eq_some_iff.mpr ⟨network, isManaged, rfl⟩
  exact Map.lookup_insertAll_eq bound networkCode

/-- The networks that are shown are the managed ones. -/
theorem mem_getNetworkInfo {info : NetworkInfoVO} :
    info ∈ service.getNetworkInfo ↔
      ∃ code network, service.dbNets.lookup code = some network ∧
        info = service.networkInfo code network := by
  unfold AdminService.getNetworkInfo
  rw [List.mem_insertionSort, List.mem_map]
  constructor
  · rintro ⟨⟨code, network⟩, member, rfl⟩
    exact ⟨code, network, (Map.mem_entries_iff _ code network).mp member, rfl⟩
  · rintro ⟨code, network, found, rfl⟩
    exact ⟨⟨code, network⟩, (Map.mem_entries_iff _ code network).mpr found, rfl⟩

/-- A row with the text of a gateway is the network that was built from it. -/
theorem toIpv4Net_of_build {gateway : Ipv4Addr} {net : Ipv4Net}
    (isGateway : record.gateway = gateway.display)
    (built : NetworkService.buildNetworkFromGateway gateway record.netmask.toNat = .ok net) :
    record.toIpv4Net = some net := by
  unfold NetworkService.buildNetworkFromGateway at built
  unfold NetworkRecord.toIpv4Net
  rw [isGateway, Ipv4Addr.parse_display]
  dsimp only
  split at built
  · cases built
  · next notZero =>
    rw [if_neg notZero]
    split at built <;> cases built
    assumption

/-- A row that holds what was set comes back as the network that was built. -/
theorem NetworkRecord.Holds.toManaged {gateway : Ipv4Addr} {netmask : UInt8} {leaseDuration : Nat}
    {net : Ipv4Net} (holds : record.Holds gateway netmask leaseDuration)
    (built : NetworkService.buildNetworkFromGateway gateway netmask.toNat = .ok net) :
    record.toManaged =
      some ⟨⟨⟨net, leaseOfSeconds (leaseSeconds leaseDuration)⟩, record.secret⟩,
        record.source⟩ := by
  have isNet := toIpv4Net_of_build holds.gateway (holds.netmask ▸ built)
  unfold NetworkRecord.toManaged
  rw [isNet, Option.map_some, holds.leaseDuration]

/-! ### What an accepted operation leaves -/

namespace AdminService

variable {after : AdminService} {gateway : Ipv4Addr} {netmask : UInt8} {net : Ipv4Net}

/-- What passes the checks of an addition is a network that was built of its gateway. -/
theorem built_of_checkAdd {secret : String}
    (checked : service.checkAdd networkCode gateway netmask secret = .ok net) :
    NetworkService.buildNetworkFromGateway gateway netmask.toNat = .ok net := by
  unfold checkAdd at checked
  cases isCode : validateNetworkCodeValue networkCode "network_code" with
  | error message =>
    rw [isCode] at checked
    cases checked
  | ok _ =>
    cases isSecret : validateNetworkSecretValue networkCode secret with
    | error message =>
      rw [isCode, isSecret] at checked
      cases checked
    | ok _ =>
      cases known : service.dbNets.lookup networkCode with
      | some found =>
        rw [isCode, isSecret, known] at checked
        cases checked
      | none =>
        rw [isCode, isSecret, known] at checked
        exact checked

/-- What an accepted addition leaves. -/
theorem addNetwork_eq_ok {faults : Faults} {createdAt : Int} {leaseDuration : Option Nat}
    {secret : String}
    (accepted : (service.addNetwork faults createdAt networkCode gateway netmask leaseDuration
      secret).2 = .ok ()) :
    ∃ net network, NetworkService.buildNetworkFromGateway gateway netmask.toNat = .ok net ∧
      network.network.config = ⟨net, leaseDuration.getD service.defaultLeaseDuration⟩ ∧
      (service.addNetwork faults createdAt networkCode gateway netmask leaseDuration
        secret).1.dbNets.lookup networkCode = some network ∧
      (service.addNetwork faults createdAt networkCode gateway netmask leaseDuration
        secret).1.deviceRows networkCode = service.deviceRows networkCode ∧
      ∀ tables, (service.addNetwork faults createdAt networkCode gateway netmask leaseDuration
          secret).1.pool = some tables →
        ∃ record, tables.networks.lookup networkCode = some record ∧
          record.Holds gateway netmask (leaseDuration.getD service.defaultLeaseDuration) := by
  unfold addNetwork at accepted ⊢
  cases checked : service.checkAdd networkCode gateway netmask secret with
  | error message =>
    rw [checked] at accepted
    cases accepted
  | ok net =>
    rw [checked] at accepted
    dsimp only at accepted ⊢
    have built := built_of_checkAdd checked
    split at accepted
    · cases accepted
    · next stored executed =>
      refine ⟨net, _, built, rfl, AList.lookup_insert _, ?_, ?_⟩
      · rcases execute_eq_ok executed with ⟨isPool, rfl⟩ | ⟨tables, isPool, -, rfl⟩
        · rfl
        · unfold deviceRows enterNetwork
          rw [isPool]
          rfl
      · intro tables isOpen
        rcases execute_eq_ok executed with ⟨isPool, rfl⟩ | ⟨before, isPool, -, rfl⟩
        · cases isPool.symm.trans isOpen
        · cases isOpen
          refine ⟨_, AList.lookup_insert _, rfl, rfl, ?_⟩
          dsimp only

/-- An update sets what it is given. -/
theorem holds_edit (record : NetworkRecord) (gateway : Ipv4Addr) (netmask : UInt8)
    (leaseDuration : Nat) (secret : String) :
    (record.edit gateway netmask leaseDuration secret).Holds gateway netmask leaseDuration := by
  unfold NetworkRecord.edit
  refine ⟨rfl, rfl, ?_⟩
  dsimp only

/-- A network without devices in the database has no row of a device. -/
theorem deviceRows_eq_nil {fault : Option String}
    (noRows : service.networkHasDevices fault networkCode = .ok false) :
    service.deviceRows networkCode = [] := by
  unfold networkHasDevices at noRows
  unfold deviceRows
  cases isPool : service.pool with
  | none => rfl
  | some tables =>
    rw [isPool] at noRows
    cases fault with
    | some message => cases noRows
    | none =>
      have isEmpty := congrArg not (Except.ok.inj noRows)
      rw [Bool.not_not] at isEmpty
      exact List.isEmpty_iff.mp isEmpty

/-- What an accepted update leaves. The network had no device before. -/
theorem updateNetwork_eq_ok {faults : Faults} {leaseDuration : Nat} {secret : String}
    (accepted : (service.updateNetwork faults networkCode gateway netmask leaseDuration
      secret).2 = .ok ()) :
    ∃ net network, NetworkService.buildNetworkFromGateway gateway netmask.toNat = .ok net ∧
      network.network.config = ⟨net, leaseDuration⟩ ∧
      (service.updateNetwork faults networkCode gateway netmask leaseDuration
        secret).1.dbNets.lookup networkCode = some network ∧
      (service.updateNetwork faults networkCode gateway netmask leaseDuration
        secret).1.deviceRows networkCode = [] ∧
      (service.updateNetwork faults networkCode gateway netmask leaseDuration secret).1.pool =
        service.pool.map fun tables =>
          tables.updateNetwork networkCode gateway netmask leaseDuration secret := by
  unfold updateNetwork at accepted ⊢
  cases checked : service.checkUpdate faults networkCode secret with
  | error message =>
    rw [checked] at accepted
    cases accepted
  | ok source =>
    have editable := checkUpdate_eq_ok.mp ⟨source, checked⟩
    rw [checked] at accepted
    dsimp only at accepted ⊢
    split at accepted
    · cases accepted
    · next stored executed =>
      split at accepted
      · cases accepted
      · next net built =>
        refine ⟨net, _, built, rfl, AList.lookup_insert _, ?_, ?_⟩
        · have before := deviceRows_eq_nil editable.noRows
          rcases execute_eq_ok executed with ⟨isPool, rfl⟩ | ⟨tables, isPool, -, rfl⟩
          · exact before
          · unfold deviceRows at before
            rw [isPool] at before
            unfold deviceRows forgetState enterNetwork
            dsimp only
            rw [devices_updateNetwork]
            exact before
        · rcases execute_eq_ok executed with ⟨isPool, rfl⟩ | ⟨tables, isPool, -, rfl⟩
          · rw [isPool]
            exact isPool
          · rw [isPool]
            rfl

end AdminService

end Vnt.Server
