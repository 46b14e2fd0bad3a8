/-
This file settles for which leases the sweep of the expired devices works. The administrator may set
every number of seconds that fits 64 bits. It is stored as a signed number, and comes back as it
was. The sweep adds it to the time at which a device was disconnected, and panics when the platform
has no such time. One task sweeps the networks in turn, so it sweeps none of them any more.
-/

import Vnt.Server.NetworkReload

namespace Vnt.Server

open Vnt.Base

/-! ### The sweep of the expired devices -/

/-- `Duration::from_secs`, in nanoseconds. -/
def durationFromSecs (seconds : UInt64) : Nat := seconds.toNat * 1000000000

/-- The addition of a duration to a time. It panics when the platform has no such time: the times it
has are those below the limit. -/
def addDuration (limit time : SystemTime) (duration : Nat) : Option SystemTime :=
  if time + duration < limit then some (time + duration) else none

/-- The limit of a platform that counts the seconds as `i64`. -/
def unixLimit : SystemTime := 9223372036854775808 * 1000000000

namespace NetworkStateInner

variable {table : NetworkStateInner} {limit now : SystemTime} {leaseDuration : Nat}
  {deviceId : String} {deviceIds : List String}

/-- What `collect_expired_devices` makes of one entry, with the panic of the addition. -/
def expiredOrPanic (limit : SystemTime) (leaseDuration : Nat) (now : SystemTime)
    (deviceId : String) (entry : DeviceEntry) : Option (Option String) :=
  if entry.isConnected then some none
  else
    match entry.disconnectTime with
    | some disconnectTime =>
      (addDuration limit disconnectTime leaseDuration).map fun deadline =>
        if deadline > now then none else some deviceId
    | none => some none

/-- `NetworkStateInner::collect_expired_devices`, with the panic of the addition. -/
def collectExpiredOrPanic (table : NetworkStateInner) (limit : SystemTime) (leaseDuration : Nat)
    (now : SystemTime) : Option (List String) :=
  table.deviceMap.entries.filterMapM fun entry =>
    expiredOrPanic limit leaseDuration now entry.1 entry.2

/-- A disconnected device, with the time of it. -/
def DisconnectedAt (table : NetworkStateInner) (deviceId : String) (time : SystemTime) : Prop :=
  ∃ entry, table.deviceMap.lookup deviceId = some entry ∧ entry.isConnected = false ∧
    entry.disconnectTime = some time

/-- A disconnected device whose lease is over. -/
def Expired (table : NetworkStateInner) (leaseDuration : Nat) (now : SystemTime)
    (deviceId : String) : Prop :=
  ∃ time, table.DisconnectedAt deviceId time ∧ time + leaseDuration ≤ now

/-- From the time a device was disconnected, the lease ends before the times of the platform. -/
def LeaseFits (table : NetworkStateInner) (limit : SystemTime) (leaseDuration : Nat) : Prop :=
  ∀ deviceId time, table.DisconnectedAt deviceId time → leaseDuration < limit - time

theorem join_expiredOrPanic {entry : DeviceEntry}
    (succeeds : (expiredOrPanic limit leaseDuration now deviceId entry).isSome = true) :
    (expiredOrPanic limit leaseDuration now deviceId entry).join =
      if entry.isConnected then none
      else
        match entry.disconnectTime with
        | some disconnectTime =>
          if disconnectTime + leaseDuration > now then none else some deviceId
        | none => none := by
  unfold expiredOrPanic at *
  split
  · rfl
  · next offline =>
    rw [if_neg offline] at succeeds
    split
    · next time isTime =>
      rw [isTime] at succeeds
      unfold addDuration at *
      dsimp only at succeeds
      split at succeeds
      · next inside =>
        rw [if_pos inside]
        rfl
      · cases succeeds
    · rfl

/-- The sweep panics for an entry when the lease does not end in time. -/
theorem isSome_expiredOrPanic_iff {entry : DeviceEntry} :
    (expiredOrPanic limit leaseDuration now deviceId entry).isSome = true ↔
      (entry.isConnected = false → ∀ time, entry.disconnectTime = some time →
        leaseDuration < limit - time) := by
  unfold expiredOrPanic addDuration
  split
  · next online =>
    refine iff_of_true rfl fun offline => ?_
    rw [online] at offline
    cases offline
  · next offline =>
    split
    · next time isTime =>
      rw [Option.isSome_map]
      split
      · next inside =>
        refine iff_of_true rfl fun _ other same => ?_
        cases isTime.symm.trans same
        exact Nat.lt_sub_iff_add_lt'.mpr inside
      · next outside =>
        refine iff_of_false (Bool.not_eq_true _ ▸ rfl) fun fits => ?_
        have remains := fits (Bool.eq_false_iff.mpr offline) time isTime
        exact outside (Nat.lt_sub_iff_add_lt'.mp remains)
    · next never =>
      refine iff_of_true rfl fun _ other same => ?_
      cases never.symm.trans same

/-- The sweep collects the expired devices when no addition panics. -/
theorem collectExpiredOrPanic_eq_some_iff :
    table.collectExpiredOrPanic limit leaseDuration now = some deviceIds ↔
      table.LeaseFits limit leaseDuration ∧
        deviceIds = table.collectExpiredDevices leaseDuration now := by
  have fits : (∀ entry ∈ table.deviceMap.entries,
      (expiredOrPanic limit leaseDuration now entry.1 entry.2).isSome = true) ↔
        table.LeaseFits limit leaseDuration := by
    constructor
    · rintro succeeds deviceId time ⟨entry, found, offline, isTime⟩
      have member := (Map.mem_entries_iff _ deviceId entry).mpr found
      exact isSome_expiredOrPanic_iff.mp (succeeds _ member) offline time isTime
    · rintro fits ⟨deviceId, entry⟩ member
      refine isSome_expiredOrPanic_iff.mpr fun offline time isTime => ?_
      have found := (Map.mem_entries_iff _ deviceId entry).mp member
      exact fits deviceId time ⟨entry, found, offline, isTime⟩
  unfold collectExpiredOrPanic
  rw [filterMapM_eq_some_iff, ← fits]
  refine and_congr_right fun succeeds => ?_
  have same : (table.deviceMap.entries.filterMap fun entry =>
      (expiredOrPanic limit leaseDuration now entry.1 entry.2).join) =
        table.collectExpiredDevices leaseDuration now :=
    List.filterMap_congr fun entry member => join_expiredOrPanic (succeeds entry member)
  rw [same]

theorem mem_collectExpiredDevices :
    deviceId ∈ table.collectExpiredDevices leaseDuration now ↔
      table.Expired leaseDuration now deviceId := by
  unfold collectExpiredDevices
  rw [List.mem_filterMap]
  constructor
  · rintro ⟨⟨other, entry⟩, member, isExpired⟩
    have found := (Map.mem_entries_iff _ other entry).mp member
    dsimp only at isExpired
    split at isExpired
    · cases isExpired
    · next offline =>
      split at isExpired
      · next time isTime =>
        split at isExpired
        · cases isExpired
        · next ended =>
          cases isExpired
          exact ⟨time, ⟨entry, found, Bool.eq_false_iff.mpr offline, isTime⟩,
            Nat.le_of_not_lt ended⟩
      · cases isExpired
  · rintro ⟨time, ⟨entry, found, offline, isTime⟩, ended⟩
    refine ⟨⟨deviceId, entry⟩, (Map.mem_entries_iff _ deviceId entry).mpr found, ?_⟩
    dsimp only
    rw [offline, isTime, if_neg Bool.false_ne_true]
    exact if_neg (Nat.not_lt.mpr ended)

theorem nodup_collectExpiredDevices : (table.collectExpiredDevices leaseDuration now).Nodup := by
  refine (Map.sublist_keys table.deviceMap.entries fun entry deviceId isExpired => ?_).nodup
    table.deviceMap.nodupKeys
  split at isExpired
  · cases isExpired
  · split at isExpired
    · split at isExpired
      · cases isExpired
      · exact (Option.some.inj isExpired).symm
    · cases isExpired

/-- The sweep returns exactly the expired devices, each of them once, if and only if the lease ends
in time for all the disconnected ones. -/
theorem collected_iff :
    (∃ deviceIds, table.collectExpiredOrPanic limit leaseDuration now = some deviceIds ∧
        deviceIds.Nodup ∧
          ∀ deviceId, deviceId ∈ deviceIds ↔ table.Expired leaseDuration now deviceId) ↔
      table.LeaseFits limit leaseDuration := by
  constructor
  · rintro ⟨deviceIds, collected, -⟩
    exact (collectExpiredOrPanic_eq_some_iff.mp collected).1
  · intro fits
    exact ⟨_, collectExpiredOrPanic_eq_some_iff.mpr ⟨fits, rfl⟩, nodup_collectExpiredDevices,
      fun deviceId => mem_collectExpiredDevices⟩

end NetworkStateInner

/-! ### The task that sweeps the networks -/

/-- `release_expired_ips` without its statements: the state, and the devices whose addresses are
released in the database. -/
def NetworkState.releaseExpiredIps (state : NetworkState) (limit now : SystemTime) :
    Option (NetworkState × List String) :=
  (state.leaseState.collectExpiredOrPanic limit state.leaseDuration now).map fun deviceIds =>
    if deviceIds.isEmpty then (state, []) else (state.removeDevices deviceIds, deviceIds)

/-- One round of the cleanup task, with the clock of each state. -/
def cleanupRound (limit : SystemTime) (states : List (NetworkState × SystemTime)) :
    Option (List (NetworkState × List String)) :=
  states.mapM fun swept => swept.1.releaseExpiredIps limit swept.2

/-- One device whose lease does not end in time ends the sweep of all networks. -/
theorem isSome_cleanupRound_iff {limit : SystemTime} {states : List (NetworkState × SystemTime)} :
    (cleanupRound limit states).isSome = true ↔
      ∀ swept ∈ states, swept.1.leaseState.LeaseFits limit swept.1.leaseDuration := by
  have one : ∀ (state : NetworkState) (now : SystemTime),
      (state.releaseExpiredIps limit now).isSome = true ↔
        state.leaseState.LeaseFits limit state.leaseDuration := by
    intro state now
    unfold NetworkState.releaseExpiredIps
    rw [Option.isSome_map, Option.isSome_iff_exists]
    constructor
    · rintro ⟨deviceIds, collected⟩
      exact (NetworkStateInner.collectExpiredOrPanic_eq_some_iff.mp collected).1
    · intro fits
      exact ⟨_, NetworkStateInner.collectExpiredOrPanic_eq_some_iff.mpr ⟨fits, rfl⟩⟩
  induction states with
  | nil => exact iff_of_true rfl (List.forall_mem_nil _)
  | cons swept rest inductionHypothesis =>
    rw [List.forall_mem_cons, ← one swept.1 swept.2]
    refine Iff.trans ?_ (and_congr_right fun _ => inductionHypothesis)
    unfold cleanupRound
    rw [List.mapM_cons]
    cases swept.1.releaseExpiredIps limit swept.2 with
    | none => exact iff_of_false Bool.false_ne_true fun whole => Bool.false_ne_true whole.1
    | some outcome =>
      cases rest.mapM fun swept => swept.1.releaseExpiredIps limit swept.2 with
      | none => exact iff_of_false Bool.false_ne_true fun whole => Bool.false_ne_true whole.2
      | some outcomes => exact iff_of_true rfl ⟨rfl, rfl⟩

/-! ### What the administrator sends -/

/-- `CreateNetworkRequest`. -/
structure CreateNetworkRequest where
  networkCode : String
  gateway : String
  netmask : UInt8
  secret : String
  leaseDuration : Option UInt64

/-- `UpdateNetworkRequest`. -/
structure UpdateNetworkRequest where
  gateway : String
  netmask : UInt8
  secret : String
  leaseDuration : UInt64

/-- `ApiResponse` without data. -/
structure ApiResponse where
  code : Int
  msg : String
  deriving DecidableEq

/-- `ApiResponse::ok_msg`. -/
def ApiResponse.okMsg (msg : String) : ApiResponse := ⟨200, msg⟩

/-- `ApiResponse::err`. -/
def ApiResponse.err (msg : String) : ApiResponse := ⟨400, msg⟩

namespace WebServer

/-- An operation that sets a network, with the checks of the gateway and the mask before it. -/
def setNetwork (service : AdminService) (faults : Faults) (now : Int) (gateway : String)
    (netmask : UInt8) (done : String) (operation : Ipv4Addr → AdminOperation) :
    AdminService × ApiResponse :=
  match Ipv4Addr.parse gateway with
  | none => (service, .err "无效的网关地址")
  | some gateway =>
    if netmask.toNat > 32 then (service, .err "无效的掩码")
    else
      match service.run faults now (operation gateway) with
      | (after, .ok ()) => (after, .okMsg done)
      | (after, .error message) => (after, .err message)

/-- `create_network`. -/
def createNetwork (service : AdminService) (faults : Faults) (now : Int)
    (body : CreateNetworkRequest) : AdminService × ApiResponse :=
  setNetwork service faults now body.gateway body.netmask "创建成功" fun gateway =>
    .addNetwork body.networkCode gateway body.netmask (body.leaseDuration.map durationFromSecs)
      body.secret

/-- `update_network`. -/
def updateNetwork (service : AdminService) (faults : Faults) (now : Int) (networkCode : String)
    (body : UpdateNetworkRequest) : AdminService × ApiResponse :=
  setNetwork service faults now body.gateway body.netmask "更新成功" fun gateway =>
    .updateNetwork networkCode gateway body.netmask (durationFromSecs body.leaseDuration)
      body.secret

inductive Request where
  | createNetwork (body : CreateNetworkRequest)
  | updateNetwork (networkCode : String) (body : UpdateNetworkRequest)

/-- The network a request sets. -/
def Request.networkCode : Request → String
  | .createNetwork body => body.networkCode
  | .updateNetwork networkCode _ => networkCode

/-- The lease a request gives. -/
def Request.leaseDuration : Request → Option UInt64
  | .createNetwork body => body.leaseDuration
  | .updateNetwork _ body => some body.leaseDuration

/-- The answer of the server to a request. -/
def handle (service : AdminService) (faults : Faults) (now : Int) :
    Request → AdminService × ApiResponse
  | .createNetwork body => createNetwork service faults now body
  | .updateNetwork networkCode body => updateNetwork service faults now networkCode body

variable {service : AdminService} {faults : Faults} {now : Int}

/-- What is accepted is an operation that succeeds. -/
theorem run_of_setNetwork {gateway done : String} {netmask : UInt8}
    {operation : Ipv4Addr → AdminOperation}
    (accepted : (setNetwork service faults now gateway netmask done operation).2.code = 200) :
    ∃ ip, (service.run faults now (operation ip)).2 = .ok () ∧
      (setNetwork service faults now gateway netmask done operation).1 =
        (service.run faults now (operation ip)).1 := by
  unfold setNetwork at *
  split at accepted
  · cases accepted
  · next ip _ =>
    split at accepted
    · cases accepted
    · next valid =>
      refine ⟨ip, ?_⟩
      rw [if_neg valid]
      split at accepted
      · next after outcome =>
        rw [outcome]
        exact ⟨rfl, rfl⟩
      · cases accepted

end WebServer

/-! ### What comes back of a lease -/

/-- A number of seconds that fits 64 bits is stored as a signed one, and comes back. -/
theorem leaseOfSeconds_leaseSeconds (seconds : UInt64) :
    leaseOfSeconds (leaseSeconds (durationFromSecs seconds)) = durationFromSecs seconds := by
  have bound := seconds.toNat_lt
  have wraps (value : Int) : value.bmod (2 ^ 64) % 2 ^ 64 = value % 2 ^ 64 := Int.bmod_emod
  have whole : ((seconds.toNat * 1000000000 : Nat) : Int) / 1000000000 = seconds.toNat := by omega
  have small : ((seconds.toNat : Int) % 2 ^ 64).toNat = seconds.toNat := by omega
  unfold leaseOfSeconds leaseSeconds durationFromSecs
  rw [wraps, whole, small]

/-- The network in memory has the lease, and the row of the network comes back with it. -/
structure AdminService.HasLease (service : AdminService) (networkCode : String)
    (leaseDuration : Nat) : Prop where
  entered : ∃ network, service.dbNets.lookup networkCode = some network ∧
    network.network.config.leaseDuration = leaseDuration
  reloaded : ∀ tables record, service.pool = some tables →
    tables.networks.lookup networkCode = some record → ∃ network,
      (managedNetworksFromRecords tables.loadAllNetworks).lookup networkCode = some network ∧
        network.network.config.leaseDuration = leaseDuration

namespace AdminService

variable {service : AdminService} {faults : Faults} {now : Int} {networkCode : String}
  {leaseDuration : Nat}

/-- A row that holds a lease comes back with it. -/
theorem reloaded_of_holds {gateway : Ipv4Addr} {netmask : UInt8} {net : Ipv4Net} {tables : Tables}
    {record : NetworkRecord} {seconds : UInt64}
    (built : NetworkService.buildNetworkFromGateway gateway netmask.toNat = .ok net)
    (found : tables.networks.lookup networkCode = some record)
    (holds : record.Holds gateway netmask (durationFromSecs seconds)) :
    ∃ network,
      (managedNetworksFromRecords tables.loadAllNetworks).lookup networkCode = some network ∧
        network.network.config.leaseDuration = durationFromSecs seconds := by
  rw [lookup_managedNetworks, found, Option.bind_some, holds.toManaged built]
  exact ⟨_, rfl, leaseOfSeconds_leaseSeconds seconds⟩

/-- The state that is created for a network has its lease. -/
theorem HasLease.created (has : service.HasLease networkCode leaseDuration) {time : SystemTime}
    {stats : StatsRef} {state : NetworkState}
    (isState : service.createdState networkCode time stats = some state) :
    state.leaseDuration = leaseDuration := by
  obtain ⟨network, found, isLease⟩ := has.entered
  unfold createdState NetworkState.newFromDb at isState
  rw [found, Option.bind_some] at isState
  obtain ⟨gateway, -, rfl⟩ := Option.map_eq_some_iff.mp isState
  exact isLease

end AdminService

namespace WebServer

variable {service : AdminService} {faults : Faults} {now : Int} {request : Request}
  {seconds : UInt64}

/-- The network of an accepted request has the lease that the request gives. -/
theorem hasLease_of_accepted (given : request.leaseDuration = some seconds)
    (accepted : (handle service faults now request).2.code = 200) :
    (handle service faults now request).1.HasLease request.networkCode
      (durationFromSecs seconds) := by
  cases request with
  | createNetwork body =>
    obtain ⟨ip, succeeds, after⟩ := run_of_setNetwork accepted
    obtain ⟨net, network, built, isConfig, entered, -, stored⟩ :=
      AdminService.addNetwork_eq_ok succeeds
    have isLease : (body.leaseDuration.map durationFromSecs).getD service.defaultLeaseDuration =
        durationFromSecs seconds := by
      rw [show body.leaseDuration = some seconds from given]
      rfl
    rw [isLease] at isConfig stored
    change (setNetwork ..).1.HasLease _ _
    rw [after]
    refine ⟨⟨network, entered, congrArg NetworkConfig.leaseDuration isConfig⟩, ?_⟩
    intro tables record isOpen found
    obtain ⟨row, isRow, holds⟩ := stored tables isOpen
    exact AdminService.reloaded_of_holds built isRow holds
  | updateNetwork networkCode body =>
    cases given
    obtain ⟨ip, succeeds, after⟩ := run_of_setNetwork accepted
    obtain ⟨net, network, built, isConfig, entered, -, stored⟩ :=
      AdminService.updateNetwork_eq_ok succeeds
    change (setNetwork ..).1.HasLease _ _
    rw [after]
    refine ⟨⟨network, entered, congrArg NetworkConfig.leaseDuration isConfig⟩, ?_⟩
    intro tables record isOpen found
    obtain ⟨before, -, rfl⟩ := Option.map_eq_some_iff.mp (stored.symm.trans isOpen)
    obtain ⟨row, -, rfl⟩ :=
      Option.map_eq_some_iff.mp ((AdminService.lookup_updateNetwork ..).symm.trans found)
    exact AdminService.reloaded_of_holds built found (AdminService.holds_edit ..)

/-- A lease is safe for the devices of a table at a time: the sweep does not panic and returns
exactly the expired devices, each of them once, and the network has the lease, also in the state
that is created for it and after the network was stored and loaded back. -/
structure LeaseSafe (after : AdminService) (networkCode : String) (leaseDuration : Nat)
    (limit : SystemTime) (table : NetworkStateInner) (clock : SystemTime) : Prop where
  collected : ∃ deviceIds, table.collectExpiredOrPanic limit leaseDuration clock =
    some deviceIds ∧ deviceIds.Nodup ∧
      ∀ deviceId, deviceId ∈ deviceIds ↔ table.Expired leaseDuration clock deviceId
  hasLease : after.HasLease networkCode leaseDuration
  created : ∀ time stats state, after.createdState networkCode time stats = some state →
    state.leaseDuration = leaseDuration

/-- The lease of an accepted request is safe for a table, if and only if it ends before the times of
the platform for all its disconnected devices. -/
theorem leaseSafe_iff (given : request.leaseDuration = some seconds)
    (accepted : (handle service faults now request).2.code = 200) (limit : SystemTime)
    (table : NetworkStateInner) (clock : SystemTime) :
    LeaseSafe (handle service faults now request).1 request.networkCode (durationFromSecs seconds)
        limit table clock ↔
      table.LeaseFits limit (durationFromSecs seconds) := by
  constructor
  · intro safe
    exact NetworkStateInner.collected_iff.mp safe.collected
  · intro fits
    have hasLease := hasLease_of_accepted given accepted
    exact ⟨NetworkStateInner.collected_iff.mpr fits, hasLease,
      fun _ _ _ isState => hasLease.created isState⟩

/-- A request for a network with the lease of the administrator's choice. -/
def exampleRequest (seconds : UInt64) : Request :=
  .createNetwork ⟨"lab", "10.27.0.1", 24, "Secret-Of-The-Network-0002", some seconds⟩

/-- A table with one device, which is disconnected. -/
def exampleTable : NetworkStateInner :=
  NetworkStateInner.empty.addDevice
    { deviceId := "laptop"
      ip := some 0x0A1B0002
      randomId := 7
      deviceName := "laptop"
      deviceVersion := "2.0"
      isConnected := false
      lastConnectTime := 1700000000000000000
      disconnectTime := some 1700000000000000000
      dataVersion := 1
      keySign := none
      latencyMs := none
      trafficStats := 0 }

/-- The lease of one day is safe. -/
theorem leaseSafe_iff_oneDay :
    LeaseSafe
      (handle AdminService.exampleAdmin ⟨none, none, none, none, none⟩ 0 (exampleRequest 86400)).1
      "lab" (durationFromSecs 86400) unixLimit exampleTable 1700000060000000000 := by
  refine (leaseSafe_iff rfl (by decide +kernel) unixLimit exampleTable _).mpr ?_
  rintro deviceId time ⟨entry, found, -, isTime⟩
  unfold exampleTable NetworkStateInner.addDevice at found
  rw [Map.lookup_insert_eq] at found
  split at found
  · cases found
    cases isTime
    decide
  · cases found

/-- The longest lease is accepted, and the sweep panics for the first disconnected device. -/
theorem not_leaseSafe_longest :
    (handle AdminService.exampleAdmin ⟨none, none, none, none, none⟩ 0
        (exampleRequest 18446744073709551615)).2 = .okMsg "创建成功" ∧
      ¬LeaseSafe
        (handle AdminService.exampleAdmin ⟨none, none, none, none, none⟩ 0
          (exampleRequest 18446744073709551615)).1
        "lab" (durationFromSecs 18446744073709551615) unixLimit exampleTable
          1700000060000000000 := by
  refine ⟨by decide +kernel, fun safe => ?_⟩
  obtain ⟨deviceIds, collected, -⟩ := safe.collected
  have panics : exampleTable.collectExpiredOrPanic unixLimit
      (durationFromSecs 18446744073709551615) 1700000060000000000 = none := by
    decide +kernel
  cases panics.symm.trans collected

end WebServer

end Vnt.Server
