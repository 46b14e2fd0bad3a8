/-
This file settles when the two maps of the lease table agree: an address is recorded for a
device exactly when the device holds it. Every operation keeps the agreement except one: the
fallback of the allocation stores a new address for a device that already holds one and
leaves the record of the old address behind. The wished-address branch next to it drops that
record. The guard below is that no request takes the fallback on behalf of a device with an
address, and it is exact: a run from the empty table keeps the maps in agreement throughout
if and only if every step of it meets the guard.
-/

import Vnt.Base.Machine
import Vnt.Base.PartialInverse
import Vnt.Server.LeaseInvariant

namespace Vnt.Server

open Vnt.Base

/-- One operation on the lease table, with what it reads from outside. -/
inductive LeaseEvent where
  | allocateIp (req : RegRequestMsg) (randomId : RandomId) (now : SystemTime) (stats : StatsRef)
  | offlineIp (heap : StatsHeap) (networkCode deviceId : String) (ip : Ipv4Addr)
      (randomId : RandomId) (now : SystemTime)
  | removeDevices (deviceIds : List String)
  | removeDeviceFromMemory (deviceId : String)
  | releasePreRegisteredIp (deviceId : String) (ip : Ipv4Addr) (randomId : RandomId)

namespace NetworkStateInner

/-- The table after one operation; a failed allocation leaves it as it is. -/
def apply (net : Ipv4Net) (gateway : Ipv4Addr) (table : NetworkStateInner) :
    LeaseEvent → NetworkStateInner
  | .allocateIp req randomId now stats =>
    match table.allocateIp net gateway req randomId now stats with
    | .ok (next, _, _) => next
    | .error _ => table
  | .offlineIp heap networkCode deviceId ip randomId now =>
    (table.offlineIp heap networkCode deviceId ip randomId now).1
  | .removeDevices deviceIds => table.removeDevices deviceIds
  | .removeDeviceFromMemory deviceId => table.removeDeviceFromMemory deviceId
  | .releasePreRegisteredIp deviceId ip randomId =>
    table.releasePreRegisteredIp deviceId ip randomId

/-- The two maps agree: `device_ip_map[ip] = d` if and only if `device_map[d].ip = Some(ip)`. -/
def Agree (table : NetworkStateInner) : Prop := PartialInverse table.lease table.reservation

/-- The request takes the fallback for a device that holds an address: the device wishes a
different address, accepts another one, the wished one is blocked, and the search finds an
address. -/
def FallsBackFromLease (net : Ipv4Net) (gateway : Ipv4Addr) (table : NetworkStateInner)
    (req : RegRequestMsg) : Prop :=
  ∃ old wish, table.lease req.deviceId = some old ∧ wish ≠ old ∧
    table.WishBlocked net gateway req wish ∧
    ∃ ip ∈ addrRange (net.network + 1) net.broadcast, ip ≠ gateway ∧ table.reservation ip = none

/-- The guard of one operation. -/
def KeepsRecord (net : Ipv4Net) (gateway : Ipv4Addr) (table : NetworkStateInner) :
    LeaseEvent → Prop
  | .allocateIp req _ _ _ => ¬table.FallsBackFromLease net gateway req
  | _ => True

end NetworkStateInner

/-- The lease table of one network as a machine; no operation is ever disabled. -/
def leaseMachine (net : Ipv4Net) (gateway : Ipv4Addr) : Machine NetworkStateInner LeaseEvent where
  step table event := some (table.apply net gateway event)

namespace NetworkStateInner

variable {net : Ipv4Net} {gateway : Ipv4Addr} {table : NetworkStateInner} {req : RegRequestMsg}
  {randomId : RandomId} {now : SystemTime} {stats : StatsRef}

theorem apply_allocateIp_ok {result : NetworkStateInner × Ipv4Addr × Option Ipv4Addr}
    (succeeds : table.allocateIp net gateway req randomId now stats = .ok result) :
    table.apply net gateway (.allocateIp req randomId now stats) = result.1 := by
  simp only [apply, succeeds]

theorem apply_allocateIp_error {message : String}
    (fails : table.allocateIp net gateway req randomId now stats = .error message) :
    table.apply net gateway (.allocateIp req randomId now stats) = table := by
  simp only [apply, fails]

/-! ### Entries stay under their own identifier -/

theorem Keyed.apply (keyed : table.Keyed) (event : LeaseEvent) :
    (table.apply net gateway event).Keyed := by
  cases event with
  | allocateIp req randomId now stats =>
    cases outcome : table.allocateIp net gateway req randomId now stats with
    | ok result =>
      rw [apply_allocateIp_ok outcome]
      exact keyed.allocation (allocateIp_cases outcome)
    | error message => rwa [apply_allocateIp_error outcome]
  | offlineIp heap networkCode deviceId ip randomId now =>
    exact keyed.offlineIp heap networkCode deviceId ip randomId now
  | removeDevices deviceIds =>
    exact removeDevices_induction _ deviceIds keyed (fun _ holds => holds)
      fun _ deviceId _ holds => holds.removeEntry deviceId
  | removeDeviceFromMemory deviceId =>
    rcases table.removeDeviceFromMemory_eq deviceId with unchanged | changed
    · rw [NetworkStateInner.apply, unchanged]
      exact keyed
    · rw [NetworkStateInner.apply, changed]
      exact keyed.removeEntry deviceId
  | releasePreRegisteredIp deviceId ip randomId =>
    by_cases owns : table.ownsPreRegistration deviceId ip randomId = true
    · rw [NetworkStateInner.apply, releasePreRegisteredIp_of_owns _ _ _ _ owns]
      exact keyed.removeEntry deviceId
    · rw [NetworkStateInner.apply, releasePreRegisteredIp, if_neg owns]
      exact keyed

/-! ### One step -/

theorem agree_empty : Agree empty := by
  intro ip deviceId
  simp [lease, reservation, empty]

theorem Agree.removeEntry (agree : table.Agree) (deviceId : String) :
    (table.removeEntry deviceId).Agree := by
  unfold Agree
  rw [lease_removeEntry, reservation_removeEntry]
  cases held : table.lease deviceId with
  | none => exact PartialInverse.release_empty agree held
  | some ip => exact PartialInverse.release agree held

/-- An allocation keeps the agreement unless it is a search for a device with an address. -/
theorem agree_allocation_iff (keyed : table.Keyed) (agree : table.Agree)
    {result : NetworkStateInner × Ipv4Addr × Option Ipv4Addr}
    (allocation : Allocation table net gateway req randomId now stats result) :
    result.1.Agree ↔ ¬table.FallsBackFromLease net gateway req := by
  have notBlocked : (∀ wish, table.WishBlocked net gateway req wish →
      table.lease req.deviceId = some wish) → ¬table.FallsBackFromLease net gateway req := by
    rintro only ⟨old, wish, holds, different, blocked, -⟩
    exact different (Option.some.inj ((only wish blocked).symm.trans holds))
  cases allocation with
  | kept entry ip known holds matching =>
    refine iff_of_true ?_ (notBlocked fun wish blocked => ?_)
    · unfold Agree
      rwa [lease_keepLease _ _ _ _ _ known, reservation_keepLease]
    · rw [lease_of_lookup known, holds]
      rcases matching with noWish | wished
      · rw [blocked.1] at noWish
        cases noWish
      · exact wished.symm.trans blocked.1
  | filled entry ip known holds matching found =>
    refine iff_of_true ?_ (notBlocked fun wish blocked => ?_)
    · unfold Agree
      rw [lease_fillLease, reservation_fillLease, keyed _ _ known]
      exact PartialInverse.assign agree ((lease_of_lookup known).trans holds)
        (findAvailableIp_ok found).2.2
    · rw [blocked.1] at matching
      cases matching
  | granted ip wish differs notGateway inside unreserved =>
    refine iff_of_true ?_ (notBlocked fun other blocked => ?_)
    · unfold Agree
      rw [lease_grantLease]
      cases held : table.lease req.deviceId with
      | none =>
        rw [reservation_grantLease_none]
        exact PartialInverse.assign agree held unreserved
      | some old =>
        rw [reservation_grantLease_some]
        exact PartialInverse.move agree held unreserved
    · have same : ip = other := Option.some.inj (wish.symm.trans blocked.1)
      subst same
      rcases blocked.2.2 with isGateway | outside | reserved
      · exact absurd isGateway notGateway
      · rw [inside] at outside
        cases outside
      · exact absurd unreserved reserved
  | searched ip reason found =>
    obtain ⟨member, notGateway, unreserved⟩ := findAvailableIp_ok found
    unfold Agree
    rw [lease_searchLease, reservation_searchLease]
    cases held : table.lease req.deviceId with
    | none =>
      refine iff_of_true (PartialInverse.assign agree held unreserved) ?_
      rintro ⟨old, wish, holds, -⟩
      rw [held] at holds
      cases holds
    | some old =>
      have different : ip ≠ old := by
        rintro rfl
        exact PartialInverse.not_held agree unreserved _ held
      refine iff_of_false (PartialInverse.not_move_keeping_record agree held different)
        (not_not.mpr ?_)
      rcases reason with ⟨-, unknown⟩ | ⟨wish, blocked, differs⟩
      · rw [lease_of_unknown unknown] at held
        cases held
      · refine ⟨old, wish, held, ?_, blocked, ip, member, notGateway, unreserved⟩
        rintro rfl
        exact differs held

/-- The fallback of a device with an address succeeds when an address is left. -/
theorem FallsBackFromLease.succeeds (falls : table.FallsBackFromLease net gateway req)
    (randomId : RandomId) (now : SystemTime) (stats : StatsRef) :
    ∃ result, table.allocateIp net gateway req randomId now stats = .ok result := by
  obtain ⟨old, wish, holds, different, ⟨wished, variable_, blocked⟩, ip, member, notGateway,
    unreserved⟩ := falls
  obtain ⟨found, search⟩ := exists_findAvailableIp member notGateway unreserved
  obtain ⟨entry, known, ipOld⟩ := lease_eq_some.mp holds
  refine ⟨(table.searchLease req found randomId now stats, found, some old), ?_⟩
  have notMatching : ¬((some wish : Option Ipv4Addr) = none ∨ some old = some wish) := by
    rintro (impossible | same)
    · cases impossible
    · exact different (Option.some.inj same).symm
  have fallback : table.allocateAvailable net gateway req (some old) randomId now stats =
      .ok (table.searchLease req found randomId now stats, found, some old) := by
    unfold allocateAvailable
    rw [search]
    rfl
  simp only [allocateIp, known, wished, ipOld, if_neg notMatching, allocateExpected, variable_,
    if_true, fallback]
  rcases blocked with isGateway | outside | reserved
  · rw [if_pos isGateway]
  · simp only [outside, if_true, ite_self]
  · obtain ⟨holder, reserved⟩ := Option.ne_none_iff_exists'.mp reserved
    simp only [reserved, ite_self]

/-- The guard is exactly what one operation needs to keep the two maps in agreement. -/
theorem agree_apply_iff (keyed : table.Keyed) (agree : table.Agree) (event : LeaseEvent) :
    (table.apply net gateway event).Agree ↔ table.KeepsRecord net gateway event := by
  cases event with
  | allocateIp req randomId now stats =>
    cases outcome : table.allocateIp net gateway req randomId now stats with
    | ok result =>
      rw [apply_allocateIp_ok outcome]
      exact agree_allocation_iff keyed agree (allocateIp_cases outcome)
    | error message =>
      rw [apply_allocateIp_error outcome]
      refine iff_of_true agree fun falls => ?_
      obtain ⟨result, succeeds⟩ := falls.succeeds randomId now stats
      rw [outcome] at succeeds
      cases succeeds
  | offlineIp heap networkCode deviceId ip randomId now =>
    refine iff_of_true ?_ trivial
    unfold Agree
    rwa [NetworkStateInner.apply, lease_offlineIp, reservation_offlineIp]
  | removeDevices deviceIds =>
    exact iff_of_true (removeDevices_induction _ deviceIds agree (fun _ holds => holds)
      fun _ deviceId _ holds => holds.removeEntry deviceId) trivial
  | removeDeviceFromMemory deviceId =>
    refine iff_of_true ?_ trivial
    rcases table.removeDeviceFromMemory_eq deviceId with unchanged | changed
    · rwa [NetworkStateInner.apply, unchanged]
    · rw [NetworkStateInner.apply, changed]
      exact agree.removeEntry deviceId
  | releasePreRegisteredIp deviceId ip randomId =>
    refine iff_of_true ?_ trivial
    by_cases owns : table.ownsPreRegistration deviceId ip randomId = true
    · rw [NetworkStateInner.apply, releasePreRegisteredIp_of_owns _ _ _ _ owns]
      exact agree.removeEntry deviceId
    · rwa [NetworkStateInner.apply, releasePreRegisteredIp, if_neg owns]

/-! ### Whole runs -/

/-- From the empty table, the two maps agree in every state of a run if and only if no step
of it takes the fallback for a device that holds an address. -/
theorem agree_throughout_iff (net : Ipv4Net) (gateway : Ipv4Addr) (events : List LeaseEvent) :
    (leaseMachine net gateway).Throughout Agree empty events ↔
      (leaseMachine net gateway).Guarded (KeepsRecord net gateway) empty events := by
  refine Machine.throughout_iff_guarded ?_ ?_ ?_ keyed_empty agree_empty
  · intro table event next keyed enabled
    cases enabled
    exact keyed.apply event
  · intro table event next keyed agree enabled
    cases enabled
    exact agree_apply_iff keyed agree event
  · intro table event impossible
    cases impossible

/-- Two devices register, and the first asks for the address of the second while accepting
another one. -/
def fallbackRun : List LeaseEvent :=
  [.allocateIp (NetworkState.exampleRequest "a" none false) 1 0 0,
    .allocateIp (NetworkState.exampleRequest "b" none false) 2 0 1,
    .allocateIp (NetworkState.exampleRequest "a" (some 0x0A1A0003) true) 3 0 2]

/-- After the fallback the first device holds the third address, and the reverse map still
records its first address for it. -/
theorem not_agree_fallbackRun :
    ¬(leaseMachine NetworkState.exampleNet 0x0A1A0001).Throughout Agree empty fallbackRun := by
  intro throughout
  have holds : ∃ table,
      (leaseMachine NetworkState.exampleNet 0x0A1A0001).run empty fallbackRun = some table ∧
      table.reservation 0x0A1A0002 = some "a" ∧ table.lease "a" = some 0x0A1A0004 :=
    ⟨_, rfl, by decide, by decide⟩
  obtain ⟨table, reaches, recorded, held⟩ := holds
  have agree := throughout.final reaches
  rw [(agree 0x0A1A0002 "a").mp recorded] at held
  exact absurd held (by decide)

end NetworkStateInner

end Vnt.Server
