/-
This file embeds the server's side of the client-list protocol and reads the lease table as a
versioned table: the devices with an address other than the asking client's, each with its
flag and the version of its last change. Every operation on the lease table is a step in the
history of that table. A device that is removed, or leaves an address, leaves no item behind,
and a device that was loaded and not touched since carries the version 0.
-/

import Vnt.Base.DeltaSync
import Vnt.Client.ServerInfo
import Vnt.Server.LeaseConsistency

namespace Vnt.Server

open Vnt.Base

/-- The info of a device entry for a client on `excludeIp`, when `keep` selects the entry. -/
def DeviceEntry.simpleInfo (excludeIp : Ipv4Addr) (keep : DeviceEntry → Bool)
    (entry : DeviceEntry) : Option ClientSimpleInfo :=
  match entry.ip with
  | some ip =>
    if keep entry = true ∧ ip ≠ excludeIp then some ⟨ip, entry.isConnected⟩ else none
  | none => none

/-- The item of a device entry in the table a client on `excludeIp` is to see. -/
def DeviceEntry.item (excludeIp : Ipv4Addr) (entry : DeviceEntry) : Option (Item Ipv4Addr Bool) :=
  match entry.ip with
  | some ip => if ip ≠ excludeIp then some ⟨ip, entry.isConnected, entry.dataVersion⟩ else none
  | none => none

theorem DeviceEntry.item_eq_some {excludeIp : Ipv4Addr} {entry : DeviceEntry}
    {item : Item Ipv4Addr Bool} :
    entry.item excludeIp = some item ↔ entry.ip = some item.key ∧ item.key ≠ excludeIp ∧
      item.value = entry.isConnected ∧ item.version = entry.dataVersion := by
  obtain ⟨key, value, version⟩ := item
  unfold DeviceEntry.item
  cases holds : entry.ip with
  | none => simp
  | some ip =>
    dsimp only
    split
    · next other =>
      simp only [Option.some.injEq, Item.mk.injEq]
      constructor
      · rintro ⟨rfl, rfl, rfl⟩
        exact ⟨rfl, other, rfl, rfl⟩
      · rintro ⟨rfl, -, rfl, rfl⟩
        exact ⟨rfl, rfl, rfl⟩
    · next same =>
      simp only [reduceCtorEq, Option.some.injEq, false_iff, not_and]
      rintro rfl different
      exact absurd different same

namespace NetworkStateInner

/-- `NetworkState::changed_client_simple_list`. -/
def changedClientSimpleList (table : NetworkStateInner) (excludeIp : Ipv4Addr)
    (dataVersion : Nat) : Option ClientSimpleInfoList :=
  if dataVersion = table.dataVersion then none
  else if dataVersion > table.dataVersion then
    some
      { dataVersion := table.dataVersion
        list := table.deviceMap.values.filterMap (DeviceEntry.simpleInfo excludeIp fun _ => true)
        isAll := true
        time := 0 }
  else
    some
      { dataVersion := table.dataVersion
        list := table.deviceMap.values.filterMap
          (DeviceEntry.simpleInfo excludeIp fun entry => decide (entry.dataVersion > dataVersion))
        isAll := false
        time := 0 }

/-- `handle_gateway` on a `PingTurn` with a version. -/
def answerPing (table : NetworkStateInner) (sessionIp : Ipv4Addr) (ping : PingTurn) : PingReply :=
  match table.changedClientSimpleList sessionIp ping.dataVersion with
  | some list => .pushClientIps { list with time := ping.time }
  | none => .pongTurn ping

/-- The table a client on `excludeIp` is to see. -/
def shared (table : NetworkStateInner) (excludeIp : Ipv4Addr) : VersionedTable Ipv4Addr Bool where
  version := table.dataVersion
  items := table.deviceMap.values.filterMap (DeviceEntry.item excludeIp)

variable {table next : NetworkStateInner} {excludeIp : Ipv4Addr} {net : Ipv4Net}
  {gateway : Ipv4Addr}

theorem mem_shared {item : Item Ipv4Addr Bool} :
    item ∈ (table.shared excludeIp).items ↔
      ∃ deviceId entry, table.deviceMap.lookup deviceId = some entry ∧
        entry.item excludeIp = some item := by
  unfold shared
  rw [List.mem_filterMap]
  constructor
  · rintro ⟨entry, member, isItem⟩
    obtain ⟨deviceId, known⟩ := (Map.mem_values_iff _ entry).mp member
    exact ⟨deviceId, entry, known, isItem⟩
  · rintro ⟨deviceId, entry, known, isItem⟩
    exact ⟨entry, (Map.mem_values_iff _ entry).mpr ⟨deviceId, known⟩, isItem⟩

theorem shared_notSelf : ∀ item ∈ (table.shared excludeIp).items, item.key ≠ excludeIp := by
  intro item member
  obtain ⟨deviceId, entry, known, isItem⟩ := mem_shared.mp member
  exact (DeviceEntry.item_eq_some.mp isItem).2.1

/-! ### The two lists are the table and its delta -/

theorem filterMap_simpleInfo_all :
    table.deviceMap.values.filterMap (DeviceEntry.simpleInfo excludeIp fun _ => true) =
      (table.shared excludeIp).items.map Client.infoOf := by
  unfold shared
  rw [List.map_filterMap]
  refine List.filterMap_congr fun entry _ => ?_
  unfold DeviceEntry.simpleInfo DeviceEntry.item
  cases entry.ip with
  | none => rfl
  | some ip =>
    dsimp only
    by_cases same : ip = excludeIp
    · simp [same]
    · simp [same, Client.infoOf]

theorem filterMap_simpleInfo_since (bound : Nat) :
    table.deviceMap.values.filterMap
        (DeviceEntry.simpleInfo excludeIp fun entry => decide (entry.dataVersion > bound)) =
      ((table.shared excludeIp).since bound).map Client.infoOf := by
  unfold VersionedTable.since shared
  rw [List.filter_filterMap, List.map_filterMap]
  refine List.filterMap_congr fun entry _ => ?_
  unfold DeviceEntry.simpleInfo DeviceEntry.item
  cases entry.ip with
  | none => rfl
  | some ip =>
    dsimp only
    by_cases same : ip = excludeIp
    · simp [same]
    · by_cases isNew : bound < entry.dataVersion
      · simp [same, isNew, Client.infoOf, Option.filter]
      · simp [same, isNew, Option.filter]

/-! ### Every operation is a step in the history -/

/-- An entry of the new table was there before, or it carries a version of the step. -/
def Continues (table next : NetworkStateInner) : Prop :=
  table.dataVersion ≤ next.dataVersion ∧
    ∀ deviceId entry, next.deviceMap.lookup deviceId = some entry →
      table.deviceMap.lookup deviceId = some entry ∨
        (table.dataVersion < entry.dataVersion ∧ entry.dataVersion ≤ next.dataVersion)

/-- No entry is newer than the table. -/
def Bounded (table : NetworkStateInner) : Prop :=
  ∀ deviceId entry, table.deviceMap.lookup deviceId = some entry →
    entry.dataVersion ≤ table.dataVersion

theorem Continues.evolves (continues : table.Continues next) (excludeIp : Ipv4Addr) :
    (table.shared excludeIp).Evolves (next.shared excludeIp) := by
  refine ⟨continues.1, fun item member isOld => ?_⟩
  obtain ⟨deviceId, entry, known, isItem⟩ := mem_shared.mp member
  refine mem_shared.mpr ⟨deviceId, entry, ?_, isItem⟩
  rcases continues.2 deviceId entry known with before | ⟨isNew, -⟩
  · exact before
  · rw [(DeviceEntry.item_eq_some.mp isItem).2.2.2] at isOld
    exact absurd isNew (Nat.not_lt_of_le isOld)

theorem Bounded.continues (bounded : table.Bounded) (continues : table.Continues next) :
    next.Bounded := by
  intro deviceId entry known
  rcases continues.2 deviceId entry known with before | ⟨-, upTo⟩
  · exact Nat.le_trans (bounded deviceId entry before) continues.1
  · exact upTo

theorem Bounded.shared (bounded : table.Bounded) (excludeIp : Ipv4Addr) :
    (table.shared excludeIp).Bounded := by
  intro item member
  obtain ⟨deviceId, entry, known, isItem⟩ := mem_shared.mp member
  rw [(DeviceEntry.item_eq_some.mp isItem).2.2.2]
  exact bounded deviceId entry known

/-- The items of a well-formed table have different addresses. -/
theorem WellFormed.shared_distinct (wellFormed : table.WellFormed net gateway)
    (excludeIp : Ipv4Addr) : (table.shared excludeIp).Distinct := by
  intro first firstMember second secondMember sameKey
  obtain ⟨firstId, firstEntry, firstKnown, firstIs⟩ := mem_shared.mp firstMember
  obtain ⟨secondId, secondEntry, secondKnown, secondIs⟩ := mem_shared.mp secondMember
  have firstHolds := (DeviceEntry.item_eq_some.mp firstIs).1
  have secondHolds := (DeviceEntry.item_eq_some.mp secondIs).1
  rw [← sameKey] at secondHolds
  have sameDevice := wellFormed.distinct firstId secondId first.key
    ((lease_of_lookup firstKnown).trans firstHolds)
    ((lease_of_lookup secondKnown).trans secondHolds)
  subst sameDevice
  cases firstKnown.symm.trans secondKnown
  exact Option.some.inj (firstIs.symm.trans secondIs)

theorem continues_refl (table : NetworkStateInner) : table.Continues table :=
  ⟨Nat.le_refl _, fun _ _ known => .inl known⟩

theorem continues_removeEntry (table : NetworkStateInner) (deviceId : String) (version : Nat)
    (later : table.dataVersion ≤ version) :
    table.Continues { table.removeEntry deviceId with dataVersion := version } := by
  refine ⟨later, fun other entry known => .inl ?_⟩
  have lookup := (lookup_removeEntry table deviceId other).symm.trans known
  split at lookup
  · cases lookup
  · exact lookup

theorem dataVersion_removeEntry (table : NetworkStateInner) (deviceId : String) :
    (table.removeEntry deviceId).dataVersion = table.dataVersion := by
  unfold removeEntry
  split <;> rfl

theorem continues_removeDevices (table : NetworkStateInner) (deviceIds : List String) :
    table.Continues (table.removeDevices deviceIds) := by
  refine ⟨?_, fun other entry known => .inl ?_⟩
  · refine removeDevices_induction
      (fun later => table.dataVersion ≤ later.dataVersion) deviceIds (Nat.le_refl _)
      (fun _ upTo => Nat.le_succ_of_le upTo) fun later deviceId _ upTo => ?_
    rw [dataVersion_removeEntry]
    exact upTo
  · rw [lookup_removeDevices] at known
    split at known
    · cases known
    · exact known

theorem Allocation.continues {req : RegRequestMsg} {randomId : RandomId} {now : SystemTime}
    {stats : StatsRef} {result : NetworkStateInner × Ipv4Addr × Option Ipv4Addr}
    (allocation : Allocation table net gateway req randomId now stats result) :
    table.Continues result.1 := by
  have version := allocation.dataVersion
  refine ⟨by omega, fun deviceId entry known => ?_⟩
  by_cases same : deviceId = req.deviceId
  · obtain ⟨newest, lookup, -, -, -, isNewest⟩ := allocation.entry
    rw [same, lookup] at known
    cases known
    exact .inr ⟨by omega, by omega⟩
  · rw [allocation.lookup_other same] at known
    exact .inl known

/-- Every operation continues the history of the table. -/
theorem continues_apply (net : Ipv4Net) (gateway : Ipv4Addr) (table : NetworkStateInner)
    (event : LeaseEvent) : table.Continues (table.apply net gateway event) := by
  cases event with
  | allocateIp req randomId now stats =>
    cases outcome : table.allocateIp net gateway req randomId now stats with
    | ok result =>
      rw [apply_allocateIp_ok outcome]
      exact (allocateIp_cases outcome).continues
    | error message =>
      rw [apply_allocateIp_error outcome]
      exact continues_refl table
  | offlineIp heap networkCode deviceId ip randomId now =>
    rcases table.offlineIp_cases ip randomId now heap networkCode deviceId with
      unchanged | ⟨entry, known, -, -, changed⟩
    · rw [apply, unchanged]
      exact continues_refl table
    · rw [apply, changed]
      refine ⟨Nat.le_succ _, fun other found lookup => ?_⟩
      dsimp only at lookup
      rw [Map.lookup_insert_eq] at lookup
      split at lookup
      · cases lookup
        exact .inr ⟨Nat.lt_succ_self _, Nat.le_refl _⟩
      · exact .inl lookup
  | removeDevices deviceIds => exact continues_removeDevices table deviceIds
  | removeDeviceFromMemory deviceId =>
    rcases table.removeDeviceFromMemory_eq deviceId with unchanged | changed
    · rw [apply, unchanged]
      exact continues_refl table
    · rw [apply, changed]
      exact continues_removeEntry table deviceId _ (Nat.le_succ _)
  | releasePreRegisteredIp deviceId ip randomId =>
    by_cases owns : table.ownsPreRegistration deviceId ip randomId = true
    · rw [apply, releasePreRegisteredIp_of_owns _ _ _ _ owns]
      exact continues_removeEntry table deviceId _ (Nat.le_succ _)
    · rw [apply, releasePreRegisteredIp, if_neg owns]
      exact continues_refl table

theorem dataVersion_removeDevices_le (table : NetworkStateInner) (deviceIds : List String) :
    (table.removeDevices deviceIds).dataVersion ≤ table.dataVersion + 1 := by
  have removed : ∀ (start : NetworkStateInner),
      (deviceIds.foldl removeEntry start).dataVersion = start.dataVersion := by
    induction deviceIds with
    | nil => exact fun _ => rfl
    | cons deviceId rest inductionHypothesis =>
      exact fun start => (inductionHypothesis _).trans (dataVersion_removeEntry start deviceId)
  unfold removeDevices
  split
  · exact Nat.le_succ _
  · exact Nat.le_of_eq (removed _)

/-- Every operation raises the version by at most one. -/
theorem dataVersion_apply_le (net : Ipv4Net) (gateway : Ipv4Addr) (table : NetworkStateInner)
    (event : LeaseEvent) : (table.apply net gateway event).dataVersion ≤ table.dataVersion + 1 := by
  cases event with
  | allocateIp req randomId now stats =>
    cases outcome : table.allocateIp net gateway req randomId now stats with
    | ok result =>
      rw [apply_allocateIp_ok outcome]
      exact Nat.le_of_eq (allocateIp_cases outcome).dataVersion
    | error message =>
      rw [apply_allocateIp_error outcome]
      exact Nat.le_succ _
  | offlineIp heap networkCode deviceId ip randomId now =>
    rcases table.offlineIp_cases ip randomId now heap networkCode deviceId with
      unchanged | ⟨entry, -, -, -, changed⟩
    · rw [apply, unchanged]
      exact Nat.le_succ _
    · rw [apply, changed]
  | removeDevices deviceIds => exact dataVersion_removeDevices_le table deviceIds
  | removeDeviceFromMemory deviceId =>
    rcases table.removeDeviceFromMemory_eq deviceId with unchanged | changed
    · rw [apply, unchanged]
      exact Nat.le_succ _
    · rw [apply, changed]
  | releasePreRegisteredIp deviceId ip randomId =>
    by_cases owns : table.ownsPreRegistration deviceId ip randomId = true
    · rw [apply, releasePreRegisteredIp_of_owns _ _ _ _ owns]
    · rw [apply, releasePreRegisteredIp, if_neg owns]
      exact Nat.le_succ _

/-- The version has been raised at most as often as there were operations, so the `u64` that holds
it lasts for as many of them. -/
theorem dataVersion_foldl_apply_le (net : Ipv4Net) (gateway : Ipv4Addr) (table : NetworkStateInner)
    (events : List LeaseEvent) :
    (events.foldl (NetworkStateInner.apply net gateway) table).dataVersion ≤
      table.dataVersion + events.length := by
  induction events generalizing table with
  | nil => exact Nat.le_refl _
  | cons event rest inductionHypothesis =>
    have first := dataVersion_apply_le net gateway table event
    have later := inductionHypothesis (table.apply net gateway event)
    rw [List.foldl_cons, List.length_cons]
    omega

theorem WellFormed.apply (wellFormed : table.WellFormed net gateway)
    (gatewayIs : NetworkState.gatewayOf net = some gateway) (event : LeaseEvent) :
    (table.apply net gateway event).WellFormed net gateway := by
  cases event with
  | allocateIp req randomId now stats =>
    cases outcome : table.allocateIp net gateway req randomId now stats with
    | ok result =>
      rw [apply_allocateIp_ok outcome]
      exact wellFormed.allocation gatewayIs (allocateIp_cases outcome)
    | error message => rwa [apply_allocateIp_error outcome]
  | offlineIp heap networkCode deviceId ip randomId now =>
    rcases table.offlineIp_cases ip randomId now heap networkCode deviceId with
      unchanged | ⟨entry, known, -, -, changed⟩
    · rwa [NetworkStateInner.apply, unchanged]
    · rw [NetworkStateInner.apply, changed]
      exact wellFormed.insert_same known (by rfl) (by rfl) _
  | removeDevices deviceIds => exact wellFormed.removeDevices deviceIds
  | removeDeviceFromMemory deviceId => exact wellFormed.removeDeviceFromMemory deviceId
  | releasePreRegisteredIp deviceId ip randomId =>
    exact wellFormed.releasePreRegisteredIp deviceId ip randomId

theorem bounded_buildInitialInnerState (net : Ipv4Net) (gateway : Ipv4Addr) (now : SystemTime)
    (stats : StatsRef) (records : List DeviceRecord) :
    (NetworkState.buildInitialInnerState net gateway now stats records).Bounded := by
  intro deviceId entry known
  obtain ⟨record, -, counters, -, rfl⟩ := lookup_buildInitialInnerState known
  exact Nat.zero_le _

end NetworkStateInner

end Vnt.Server
