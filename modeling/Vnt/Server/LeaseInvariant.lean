/-
This file states what every operation on the lease table keeps, whatever the order of the
operations: an entry is stored under the identifier it carries, no two devices hold one
address, and every address that the allocation could hand out is recorded for the device that
holds it. The converse of the last part is not kept, so the reverse map may record addresses
nobody holds; that costs addresses but never hands one out twice. A table loaded from records
with different addresses starts with the invariant.
-/

import Vnt.Server.NetworkState

namespace Vnt.Server

open Vnt.Base

namespace NetworkStateInner

/-- Every entry is stored under the identifier it carries. -/
def Keyed (table : NetworkStateInner) : Prop :=
  ∀ deviceId entry, table.deviceMap.lookup deviceId = some entry → entry.deviceId = deviceId

/-- The addresses the allocation chooses from: inside the network and not the gateway. -/
def Usable (net : Ipv4Net) (gateway ip : Ipv4Addr) : Prop :=
  net.contains ip = true ∧ ip ≠ gateway

/-- The lease table of a network is well formed. -/
structure WellFormed (net : Ipv4Net) (gateway : Ipv4Addr) (table : NetworkStateInner) : Prop where
  keyed : table.Keyed
  distinct : ∀ first second ip, table.lease first = some ip → table.lease second = some ip →
    first = second
  recorded : ∀ deviceId ip, table.lease deviceId = some ip → Usable net gateway ip →
    table.reservation ip = some deviceId

variable {net : Ipv4Net} {gateway : Ipv4Addr} {table : NetworkStateInner} {req : RegRequestMsg}
  {randomId : RandomId} {now : SystemTime} {stats : StatsRef}

/-! ### Entries stay under their own identifier -/

theorem keyed_empty : Keyed empty := by
  intro deviceId entry known
  simp [empty] at known

theorem Keyed.insert (keyed : table.Keyed) {version : Nat} {reservations : Map Ipv4Addr String}
    {deviceId : String} {entry : DeviceEntry} (same : entry.deviceId = deviceId) :
    Keyed ⟨version, table.deviceMap.insert deviceId entry, reservations⟩ := by
  intro other found known
  simp only [Map.lookup_insert_eq] at known
  split at known
  · next equal =>
    cases known
    rw [same, equal]
  · exact keyed other found known

theorem Keyed.removeEntry (keyed : table.Keyed) (deviceId : String) :
    (table.removeEntry deviceId).Keyed := by
  intro other found known
  rw [lookup_removeEntry] at known
  split at known
  · cases known
  · exact keyed other found known

theorem Keyed.allocation (keyed : table.Keyed)
    {result : NetworkStateInner × Ipv4Addr × Option Ipv4Addr}
    (allocation : Allocation table net gateway req randomId now stats result) :
    result.1.Keyed := by
  cases allocation with
  | kept entry ip known holds matching => exact keyed.insert (keyed _ entry known)
  | filled entry ip known holds matching found => exact keyed.insert (keyed _ entry known)
  | granted ip wish differs notGateway inside unreserved => exact keyed.insert rfl
  | searched ip reason found => exact keyed.insert rfl

theorem Keyed.offlineIp (keyed : table.Keyed) (heap : StatsHeap) (networkCode deviceId : String)
    (ip : Ipv4Addr) (randomId : RandomId) (now : SystemTime) :
    (table.offlineIp heap networkCode deviceId ip randomId now).1.Keyed := by
  rcases table.offlineIp_cases ip randomId now heap networkCode deviceId with
    unchanged | ⟨entry, known, -, -, changed⟩
  · rwa [unchanged]
  · rw [changed]
    exact keyed.insert (keyed deviceId entry known)

/-! ### The invariant under the operations -/

/-- The addresses of the search range lie inside the network. -/
theorem contains_of_mem_range (gatewayIs : NetworkState.gatewayOf net = some gateway)
    {ip : Ipv4Addr} (member : ip ∈ addrRange (net.network + 1) net.broadcast) :
    net.contains ip = true := by
  unfold NetworkState.gatewayOf at gatewayIs
  split at gatewayIs
  · next bound =>
    obtain ⟨lower, upper⟩ := mem_addrRange.mp member
    rw [Ipv4Net.contains_iff]
    rw [UInt32.le_iff_toNat_le, UInt32.toNat_add] at lower
    rw [UInt32.lt_iff_toNat_lt] at upper
    rw [UInt32.le_iff_toNat_le, UInt32.le_iff_toNat_le]
    have one : (1 : UInt32).toNat = 1 := rfl
    rw [one, Nat.mod_eq_of_lt bound] at lower
    omega
  · cases gatewayIs

/-- An address that an allocation hands out is the device's own, or usable and recorded for
nobody. -/
theorem Allocation.own_or_usable (gatewayIs : NetworkState.gatewayOf net = some gateway)
    {result : NetworkStateInner × Ipv4Addr × Option Ipv4Addr}
    (allocation : Allocation table net gateway req randomId now stats result) :
    table.lease req.deviceId = some result.2.1 ∨
      table.reservation result.2.1 = none ∧ Usable net gateway result.2.1 := by
  refine allocation.own_or_unreserved.imp id ?_
  rintro ⟨unreserved, notGateway, inside | member⟩
  · exact ⟨unreserved, inside, notGateway⟩
  · exact ⟨unreserved, contains_of_mem_range gatewayIs member, notGateway⟩

/-- No other device holds the address an allocation hands out. -/
theorem WellFormed.not_held_by_other (wellFormed : table.WellFormed net gateway)
    (gatewayIs : NetworkState.gatewayOf net = some gateway)
    {result : NetworkStateInner × Ipv4Addr × Option Ipv4Addr}
    (allocation : Allocation table net gateway req randomId now stats result)
    {other : String} (different : other ≠ req.deviceId) :
    table.lease other ≠ some result.2.1 := by
  intro holds
  rcases allocation.own_or_usable gatewayIs with own | ⟨unreserved, usable⟩
  · exact different (wellFormed.distinct _ _ _ holds own)
  · rw [wellFormed.recorded _ _ holds usable] at unreserved
    cases unreserved

/-- After an allocation the reverse map still records the other devices, and records the
device for its address when that is usable. -/
theorem WellFormed.recorded_allocation (wellFormed : table.WellFormed net gateway)
    (gatewayIs : NetworkState.gatewayOf net = some gateway)
    {result : NetworkStateInner × Ipv4Addr × Option Ipv4Addr}
    (allocation : Allocation table net gateway req randomId now stats result)
    (deviceId : String) (address : Ipv4Addr) (holds : result.1.lease deviceId = some address)
    (usable : Usable net gateway address) : result.1.reservation address = some deviceId := by
  rw [allocation.lease] at holds
  by_cases same : deviceId = req.deviceId
  · subst same
    rw [Function.update_self] at holds
    cases holds
    cases allocation with
    | kept entry ip known holds matching =>
      exact wellFormed.recorded _ _ ((lease_of_lookup known).trans holds) usable
    | filled entry ip known holds matching found =>
      rw [reservation_fillLease, Function.update_self, wellFormed.keyed _ _ known]
    | granted ip wish differs notGateway inside unreserved =>
      cases table.lease req.deviceId with
      | none => rw [reservation_grantLease_none, Function.update_self]
      | some old => rw [reservation_grantLease_some, Function.update_self]
    | searched ip reason found => rw [reservation_searchLease, Function.update_self]
  · have other := wellFormed.not_held_by_other gatewayIs allocation same
    rw [Function.update_of_ne same] at holds
    have recorded := wellFormed.recorded _ _ holds usable
    have differs : address ≠ result.2.1 := by
      rintro rfl
      exact other holds
    cases allocation with
    | kept entry ip known holds matching => exact recorded
    | filled entry ip known holds matching found =>
      rw [reservation_fillLease, Function.update_of_ne differs, recorded]
    | granted ip wish differsOwn notGateway inside unreserved =>
      cases held : table.lease req.deviceId with
      | none => rw [reservation_grantLease_none, Function.update_of_ne differs, recorded]
      | some old =>
        have notOld : address ≠ old := by
          rintro rfl
          exact same (wellFormed.distinct _ _ _ holds held)
        rw [reservation_grantLease_some, Function.update_of_ne differs,
          Function.update_of_ne notOld, recorded]
    | searched ip reason found =>
      rw [reservation_searchLease, Function.update_of_ne differs, recorded]

theorem WellFormed.allocation (wellFormed : table.WellFormed net gateway)
    (gatewayIs : NetworkState.gatewayOf net = some gateway)
    {result : NetworkStateInner × Ipv4Addr × Option Ipv4Addr}
    (allocation : Allocation table net gateway req randomId now stats result) :
    result.1.WellFormed net gateway where
  keyed := wellFormed.keyed.allocation allocation
  distinct := by
    intro first second ip holdsFirst holdsSecond
    rw [allocation.lease, Function.update_apply] at holdsFirst holdsSecond
    split at holdsFirst <;> split at holdsSecond
    · next sameFirst sameSecond => exact sameFirst.trans sameSecond.symm
    · next sameFirst different =>
      cases holdsFirst
      exact absurd holdsSecond (wellFormed.not_held_by_other gatewayIs allocation different)
    · next different sameSecond =>
      cases holdsSecond
      exact absurd holdsFirst (wellFormed.not_held_by_other gatewayIs allocation different)
    · exact wellFormed.distinct _ _ _ holdsFirst holdsSecond
  recorded := wellFormed.recorded_allocation gatewayIs allocation

/-- The invariant only reads entries, leases and reservations. -/
theorem WellFormed.of_eq {other : NetworkStateInner} (wellFormed : table.WellFormed net gateway)
    (keyed : other.Keyed) (lease : other.lease = table.lease)
    (reservation : other.reservation = table.reservation) : other.WellFormed net gateway where
  keyed := keyed
  distinct := by
    rw [lease]
    exact wellFormed.distinct
  recorded := by
    rw [lease, reservation]
    exact wellFormed.recorded

/-- Rewriting an entry without changing its identifier and its address keeps the invariant. -/
theorem WellFormed.insert_same (wellFormed : table.WellFormed net gateway) {deviceId : String}
    {old new : DeviceEntry} (known : table.deviceMap.lookup deviceId = some old)
    (sameId : new.deviceId = old.deviceId) (sameIp : new.ip = old.ip) (version : Nat) :
    WellFormed net gateway ⟨version, table.deviceMap.insert deviceId new, table.deviceIpMap⟩ :=
  wellFormed.of_eq
    (wellFormed.keyed.insert (sameId.trans (wellFormed.keyed deviceId old known)))
    (lease_insert_same known sameIp version) rfl

theorem WellFormed.removeEntry (wellFormed : table.WellFormed net gateway) (deviceId : String) :
    (table.removeEntry deviceId).WellFormed net gateway where
  keyed := wellFormed.keyed.removeEntry deviceId
  distinct := by
    intro first second ip holdsFirst holdsSecond
    rw [lease_removeEntry, Function.update_apply] at holdsFirst holdsSecond
    split at holdsFirst
    · cases holdsFirst
    · split at holdsSecond
      · cases holdsSecond
      · exact wellFormed.distinct _ _ _ holdsFirst holdsSecond
  recorded := by
    intro other ip holds usable
    rw [lease_removeEntry, Function.update_apply] at holds
    split at holds
    · cases holds
    · next different =>
      have recorded := wellFormed.recorded _ _ holds usable
      rw [reservation_removeEntry]
      split
      · next held heldIs =>
        have notHeld : ip ≠ held := by
          rintro rfl
          exact different (wellFormed.distinct _ _ _ holds heldIs)
        rw [Function.update_of_ne notHeld, recorded]
      · exact recorded

theorem WellFormed.removeDevices (wellFormed : table.WellFormed net gateway)
    (deviceIds : List String) : (table.removeDevices deviceIds).WellFormed net gateway :=
  removeDevices_induction _ deviceIds wellFormed (fun _ holds => holds.of_eq holds.keyed rfl rfl)
    fun _ deviceId _ holds => holds.removeEntry deviceId

theorem WellFormed.removeDeviceFromMemory (wellFormed : table.WellFormed net gateway)
    (deviceId : String) : (table.removeDeviceFromMemory deviceId).WellFormed net gateway := by
  rcases table.removeDeviceFromMemory_eq deviceId with unchanged | changed
  · rwa [unchanged]
  · rw [changed]
    have removed := wellFormed.removeEntry deviceId
    exact removed.of_eq removed.keyed rfl rfl

theorem WellFormed.releasePreRegisteredIp (wellFormed : table.WellFormed net gateway)
    (deviceId : String) (ip : Ipv4Addr) (randomId : RandomId) :
    (table.releasePreRegisteredIp deviceId ip randomId).WellFormed net gateway := by
  by_cases owns : table.ownsPreRegistration deviceId ip randomId = true
  · rw [releasePreRegisteredIp_of_owns _ _ _ _ owns]
    have removed := wellFormed.removeEntry deviceId
    exact removed.of_eq removed.keyed rfl rfl
  · rwa [NetworkStateInner.releasePreRegisteredIp, if_neg owns]

/-! ### Loaded tables -/

/-- The records of two different devices: different identifiers and different addresses. -/
def SeparateRecords (first second : DeviceRecord) : Prop :=
  first.deviceId ≠ second.deviceId ∧ ∀ ip, first.ip = some ip → second.ip ≠ some ip

theorem lookup_loadRecord (record : DeviceRecord) (deviceId : String) :
    (NetworkState.loadRecord net gateway now table stats record).deviceMap.lookup deviceId =
      if deviceId = record.deviceId then some (DeviceEntry.fromRecord record stats now)
      else table.deviceMap.lookup deviceId :=
  Map.lookup_insert_eq ..

theorem lease_loadRecord (record : DeviceRecord) :
    (NetworkState.loadRecord net gateway now table stats record).lease =
      Function.update table.lease record.deviceId record.ip := by
  funext deviceId
  rw [lease, lookup_loadRecord, Function.update_apply]
  split <;> rfl

/-- The address of a record is recorded when it is usable. -/
theorem reservation_loadRecord (record : DeviceRecord) :
    (NetworkState.loadRecord net gateway now table stats record).reservation =
      match record.ip with
      | some ip =>
        if net.contains ip = true ∧ gateway ≠ ip then
          Function.update table.reservation ip (some record.deviceId)
        else table.reservation
      | none => table.reservation := by
  obtain ⟨deviceId, networkCode, ip, rest⟩ := record
  cases ip with
  | none => rfl
  | some ip =>
    simp only [NetworkState.loadRecord, DeviceEntry.fromRecord]
    split
    · exact reservation_insert ..
    · rfl

theorem reservation_loadRecord_self (record : DeviceRecord) {ip : Ipv4Addr}
    (holds : record.ip = some ip) (usable : Usable net gateway ip) :
    (NetworkState.loadRecord net gateway now table stats record).reservation ip =
      some record.deviceId := by
  simp only [reservation_loadRecord, holds]
  rw [if_pos ⟨usable.1, usable.2.symm⟩, Function.update_self]

theorem reservation_loadRecord_other (record : DeviceRecord) {ip : Ipv4Addr}
    (separate : record.ip ≠ some ip) :
    (NetworkState.loadRecord net gateway now table stats record).reservation ip =
      table.reservation ip := by
  rw [reservation_loadRecord]
  cases holds : record.ip with
  | none => rfl
  | some other =>
    have differs : ip ≠ other := by
      rintro rfl
      exact separate holds
    dsimp only
    split
    · rw [Function.update_of_ne differs]
    · rfl

/-- Loading the record of a device the table does not know, on an address nobody has, keeps
the invariant. -/
theorem WellFormed.loadRecord (wellFormed : table.WellFormed net gateway) (record : DeviceRecord)
    (free : ∀ deviceId ip, table.lease deviceId = some ip → record.ip ≠ some ip) :
    (NetworkState.loadRecord net gateway now table stats record).WellFormed net gateway where
  keyed := wellFormed.keyed.insert rfl
  distinct := by
    intro first second ip holdsFirst holdsSecond
    rw [lease_loadRecord, Function.update_apply] at holdsFirst holdsSecond
    split at holdsFirst <;> split at holdsSecond
    · next sameFirst sameSecond => exact sameFirst.trans sameSecond.symm
    · exact absurd holdsFirst (free _ _ holdsSecond)
    · exact absurd holdsSecond (free _ _ holdsFirst)
    · exact wellFormed.distinct _ _ _ holdsFirst holdsSecond
  recorded := by
    intro deviceId ip holds usable
    rw [lease_loadRecord, Function.update_apply] at holds
    split at holds
    · next same =>
      rw [same]
      exact reservation_loadRecord_self record holds usable
    · rw [reservation_loadRecord_other record (free _ _ holds)]
      exact wellFormed.recorded _ _ holds usable

/-- Loading separate records on top of a well-formed table that shares no address with them
keeps the invariant. -/
theorem WellFormed.loadRecords {records : List DeviceRecord}
    (wellFormed : table.WellFormed net gateway) (separate : records.Pairwise SeparateRecords)
    (free : ∀ record ∈ records, ∀ deviceId ip, table.lease deviceId = some ip →
      record.ip ≠ some ip) :
    (NetworkState.loadRecords net gateway now table stats records).WellFormed net gateway := by
  induction records generalizing table stats with
  | nil => exact wellFormed
  | cons record rest inductionHypothesis =>
    obtain ⟨first, later⟩ := List.pairwise_cons.mp separate
    refine inductionHypothesis (wellFormed.loadRecord record (free record List.mem_cons_self))
      later fun other member deviceId ip holds => ?_
    rw [lease_loadRecord, Function.update_apply] at holds
    split at holds
    · exact (first other member).2 ip holds
    · exact free other (List.mem_cons_of_mem _ member) deviceId ip holds

/-- An entry of a loaded table was there before or comes from a record of its device. -/
theorem lookup_loadRecords {records : List DeviceRecord} {deviceId : String} {entry : DeviceEntry}
    (known : (NetworkState.loadRecords net gateway now table stats records).deviceMap.lookup
      deviceId = some entry) :
    table.deviceMap.lookup deviceId = some entry ∨
      ∃ record ∈ records, ∃ counters, record.deviceId = deviceId ∧
        entry = DeviceEntry.fromRecord record counters now := by
  induction records generalizing table stats with
  | nil => exact .inl known
  | cons record rest inductionHypothesis =>
    rcases inductionHypothesis known with before | ⟨later, member, counters, same, loaded⟩
    · rw [lookup_loadRecord] at before
      split at before
      · next same =>
        exact .inr ⟨record, List.mem_cons_self, stats, same.symm, (Option.some.inj before).symm⟩
      · exact .inl before
    · exact .inr ⟨later, List.mem_cons_of_mem _ member, counters, same, loaded⟩

/-- A device without a record keeps the address it had. -/
theorem lease_loadRecords_of_forall_ne {records : List DeviceRecord} {deviceId : String}
    (absent : ∀ record ∈ records, record.deviceId ≠ deviceId) :
    (NetworkState.loadRecords net gateway now table stats records).lease deviceId =
      table.lease deviceId := by
  induction records generalizing table stats with
  | nil => rfl
  | cons record rest inductionHypothesis =>
    obtain ⟨first, others⟩ := List.forall_mem_cons.mp absent
    rw [NetworkState.loadRecords, inductionHypothesis others, lease_loadRecord]
    exact Function.update_of_ne (Ne.symm first) _ _

/-- A device has the address of its record. -/
theorem lease_loadRecords {records : List DeviceRecord}
    (distinct : records.Pairwise fun first second => first.deviceId ≠ second.deviceId)
    {record : DeviceRecord} (member : record ∈ records) :
    (NetworkState.loadRecords net gateway now table stats records).lease record.deviceId =
      record.ip := by
  induction records generalizing table stats with
  | nil => cases member
  | cons first rest inductionHypothesis =>
    obtain ⟨others, later⟩ := List.pairwise_cons.mp distinct
    rcases List.mem_cons.mp member with rfl | inRest
    · rw [NetworkState.loadRecords, lease_loadRecords_of_forall_ne fun other isOther =>
        Ne.symm (others other isOther), lease_loadRecord]
      exact Function.update_self _ _ _
    · exact inductionHypothesis later inRest

theorem wellFormed_empty : empty.WellFormed net gateway where
  keyed := keyed_empty
  distinct := by
    intro first second ip holds
    simp [lease, empty] at holds
  recorded := by
    intro deviceId ip holds
    simp [lease, empty] at holds

/-- A table loaded from separate records is well formed. -/
theorem wellFormed_buildInitialInnerState {records : List DeviceRecord}
    (separate : records.Pairwise SeparateRecords) :
    (NetworkState.buildInitialInnerState net gateway now stats records).WellFormed net gateway :=
  wellFormed_empty.loadRecords separate fun _ _ deviceId ip holds => by
    simp [lease, empty] at holds

/-- An entry of a loaded table comes from a record of its device. -/
theorem lookup_buildInitialInnerState {records : List DeviceRecord} {deviceId : String}
    {entry : DeviceEntry}
    (known : (NetworkState.buildInitialInnerState net gateway now stats records).deviceMap.lookup
      deviceId = some entry) :
    ∃ record ∈ records, ∃ counters, record.deviceId = deviceId ∧
      entry = DeviceEntry.fromRecord record counters now := by
  rcases lookup_loadRecords known with before | loaded
  · simp [empty] at before
  · exact loaded

theorem keyed_buildInitialInnerState (records : List DeviceRecord) :
    (NetworkState.buildInitialInnerState net gateway now stats records).Keyed := by
  intro deviceId entry known
  obtain ⟨record, -, counters, same, rfl⟩ := lookup_buildInitialInnerState known
  exact same

end NetworkStateInner

end Vnt.Server
