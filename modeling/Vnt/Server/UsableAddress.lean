/-
This file settles which registrations hand out an address that a device can use: one inside the
network that is neither the network address, nor the broadcast address, nor the gateway. An
address the search finds is always one. An address that is offered without a search need not be:
the address a device already holds may come from a row that lies anywhere, and a wish is checked
against the gateway and the two ends of the network, which belong to it.
-/

import Vnt.Server.ServiceInvariant

namespace Vnt.Server

open Vnt.Base

/-- A device of the network can be given the address. -/
def Assignable (net : Ipv4Net) (gateway ip : Ipv4Addr) : Prop :=
  net.contains ip = true ∧ ip ≠ net.network ∧ ip ≠ net.broadcast ∧ ip ≠ gateway

namespace NetworkState

/-- The wish of a request when it is granted as it is. -/
def grantedWish (state : NetworkState) (req : RegRequestMsg) : Option Ipv4Addr :=
  match req.ip with
  | some ip =>
    if ip ≠ state.gateway ∧ state.net.contains ip = true ∧
      state.leaseState.reservation ip = none then
      some ip
    else none
  | none => none

/-- The address a request gets without a search: the one its device holds, unless another one
is wished, or else its wish. -/
def offered (state : NetworkState) (req : RegRequestMsg) : Option Ipv4Addr :=
  match state.lease req.deviceId with
  | some ip => if req.ip = none ∨ req.ip = some ip then some ip else state.grantedWish req
  | none => state.grantedWish req

variable {state : NetworkState} {req : RegRequestMsg} {randomId : RandomId} {now : SystemTime}
  {stats : StatsRef} {ip : Ipv4Addr}

theorem grantedWish_eq_some : state.grantedWish req = some ip ↔
    req.ip = some ip ∧ ip ≠ state.gateway ∧ state.net.contains ip = true ∧
      state.leaseState.reservation ip = none := by
  unfold grantedWish
  cases wish : req.ip with
  | none => simp
  | some wished =>
    dsimp only
    split
    · next allowed =>
      simp only [Option.some.injEq]
      constructor
      · rintro rfl
        exact ⟨rfl, allowed⟩
      · exact fun both => both.1
    · next refused =>
      simp only [reduceCtorEq, Option.some.injEq, false_iff, not_and]
      rintro rfl notGateway inside unreserved
      exact refused ⟨notGateway, inside, unreserved⟩

theorem grantedWish_eq_none (refused : ∀ ip, req.ip = some ip →
    ¬(ip ≠ state.gateway ∧ state.net.contains ip = true ∧
      state.leaseState.reservation ip = none)) : state.grantedWish req = none := by
  refine Option.eq_none_iff_forall_ne_some.mpr fun ip isGranted => ?_
  obtain ⟨wish, allowed⟩ := grantedWish_eq_some.mp isGranted
  exact refused ip wish allowed

/-- A request that is offered an address gets it. -/
theorem allocateIp_of_offered (randomId : RandomId) (now : SystemTime) (stats : StatsRef)
    (offers : state.offered req = some ip) :
    ∃ table old, state.leaseState.allocateIp state.net state.gateway req randomId now stats =
      .ok (table, ip, old) := by
  have granted : ∀ old, state.grantedWish req = some ip → req.ip = some ip ∧
      state.leaseState.allocateExpected state.net state.gateway req ip old randomId now stats =
        .ok (state.leaseState.grantLease req ip old randomId now stats, ip, old) := by
    intro old isGranted
    obtain ⟨wish, notGateway, inside, unreserved⟩ := grantedWish_eq_some.mp isGranted
    refine ⟨wish, ?_⟩
    unfold NetworkStateInner.allocateExpected
    rw [if_neg notGateway, if_neg (by simp [inside]), unreserved]
  unfold offered lease NetworkStateInner.lease at offers
  unfold NetworkStateInner.allocateIp
  cases known : state.leaseState.deviceMap.lookup req.deviceId with
  | none =>
    rw [known] at offers
    obtain ⟨wish, given⟩ := granted none offers
    rw [wish]
    exact ⟨_, _, given⟩
  | some entry =>
    rw [known, Option.bind_some] at offers
    dsimp only
    cases holds : entry.ip with
    | none =>
      rw [holds] at offers
      obtain ⟨wish, given⟩ := granted none offers
      rw [wish, if_neg (by simp)]
      exact ⟨_, _, given⟩
    | some held =>
      rw [holds] at offers
      dsimp only at offers ⊢
      split at offers
      · next matching =>
        cases offers
        rw [if_pos (matching.imp_right Eq.symm)]
        exact ⟨_, _, rfl⟩
      · next differing =>
        obtain ⟨wish, given⟩ := granted (some held) offers
        rw [if_neg fun matching => differing (matching.imp_right Eq.symm), wish]
        exact ⟨_, _, given⟩

/-- An address the search finds can be given to a device. -/
theorem assignable_of_found (gatewayIs : gatewayOf state.net = some state.gateway)
    (found : state.leaseState.findAvailableIp state.net state.gateway = .ok ip) :
    Assignable state.net state.gateway ip := by
  obtain ⟨member, notGateway, -⟩ := NetworkStateInner.findAvailableIp_ok found
  refine ⟨NetworkStateInner.contains_of_mem_range gatewayIs member, ?_, ?_, notGateway⟩
  · rintro rfl
    have lower := (mem_addrRange.mp member).1
    unfold gatewayOf at gatewayIs
    split at gatewayIs
    · next bound =>
      rw [UInt32.le_iff_toNat_le, UInt32.toNat_add, show (1 : UInt32).toNat = 1 from rfl,
        Nat.mod_eq_of_lt bound] at lower
      omega
    · cases gatewayIs
  · rintro rfl
    exact (UInt32.lt_irrefl _) (mem_addrRange.mp member).2

/-- An allocation hands out the address that was offered, or one the search finds. -/
theorem offered_of_allocation (gatewayIs : gatewayOf state.net = some state.gateway)
    {table : NetworkStateInner} {old : Option Ipv4Addr}
    (allocation : NetworkStateInner.Allocation state.leaseState state.net state.gateway req randomId
      now stats (table, ip, old)) :
    state.offered req = some ip ∨
      state.offered req = none ∧ Assignable state.net state.gateway ip := by
  cases allocation with
  | kept entry _ known holds matching =>
    have held : state.lease req.deviceId = some ip :=
      (NetworkStateInner.lease_of_lookup known).trans holds
    refine .inl ?_
    unfold offered
    rw [held]
    exact if_pos matching
  | filled entry _ known holds matching found =>
    have held : state.lease req.deviceId = none :=
      (NetworkStateInner.lease_of_lookup known).trans holds
    refine .inr ⟨?_, assignable_of_found gatewayIs found⟩
    unfold offered
    rw [held]
    exact grantedWish_eq_none fun ip wish => by cases matching.symm.trans wish
  | granted _ wish differs notGateway inside unreserved =>
    have isGranted : state.grantedWish req = some ip :=
      grantedWish_eq_some.mpr ⟨wish, notGateway, inside, unreserved⟩
    refine .inl ?_
    unfold offered
    cases holds : state.lease req.deviceId with
    | none => exact isGranted
    | some held =>
      dsimp only
      rw [if_neg, isGranted]
      rintro (noWish | sameWish)
      · cases wish.symm.trans noWish
      · cases wish.symm.trans sameWish
        exact differs holds
  | searched _ reason found =>
    refine .inr ⟨?_, assignable_of_found gatewayIs found⟩
    unfold offered
    rcases reason with ⟨noWish, unknown⟩ | ⟨wish, ⟨isWish, -, blocked⟩, differs⟩
    · have held : state.lease req.deviceId = none := NetworkStateInner.lease_of_unknown unknown
      rw [held]
      exact grantedWish_eq_none fun ip wish => by cases noWish.symm.trans wish
    · have refused : state.grantedWish req = none := by
        refine grantedWish_eq_none fun ip wished => ?_
        cases isWish.symm.trans wished
        rintro ⟨notGateway, inside, unreserved⟩
        rcases blocked with isGateway | outside | reserved
        · exact notGateway isGateway
        · rw [inside] at outside
          cases outside
        · exact reserved unreserved
      cases holds : state.lease req.deviceId with
      | none => exact refused
      | some held =>
        dsimp only
        rw [if_neg, refused]
        rintro (noWish | sameWish)
        · cases isWish.symm.trans noWish
        · cases isWish.symm.trans sameWish
          exact differs holds

end NetworkState

namespace ControlService

variable {state next : ControlService} {event : ServiceEvent}

/-- The address of every live session can be given to a device. -/
def SessionsAssignable (state : ControlService) : Prop :=
  ∀ randomId connection, state.connections.lookup randomId = some connection →
    Assignable state.network.net state.network.gateway connection.session.ip

/-- What a registration is offered without a search can be given to a device. -/
def OffersAssignable (state : ControlService) : ServiceEvent → Prop
  | .register req randomId _ _ =>
    req.networkCode = state.network.networkCode → randomId ∉ state.usedIds →
      ∀ ip, state.network.offered req = some ip →
        Assignable state.network.net state.network.gateway ip
  | _ => True

/-- A connection that is stored again with its session keeps the addresses. -/
theorem SessionsAssignable.insert (holds : state.SessionsAssignable) {randomId : RandomId}
    {connection new : Connection} (known : state.connections.lookup randomId = some connection)
    (sameIp : new.session.ip = connection.session.ip) :
    ∀ other found, (state.connections.insert randomId new).lookup other = some found →
      Assignable state.network.net state.network.gateway found.session.ip := by
  intro other found lookup
  rcases lookup_connection_insert lookup with ⟨-, rfl⟩ | before
  · rw [sameIp]
    exact holds randomId connection known
  · exact holds other found before

theorem SessionsAssignable.close (holds : state.SessionsAssignable) (randomId : RandomId) :
    ∀ other found, (state.connections.erase randomId).lookup other = some found →
      Assignable state.network.net state.network.gateway found.session.ip :=
  fun other found lookup => holds other found (lookup_connection_erase lookup).2

/-- Only a registration can hand out an address. -/
theorem SessionsAssignable.step (holds : state.SessionsAssignable)
    (effect : Effect state event next)
    (given : ∀ req randomId sender now table ip old, event = .register req randomId sender now →
      req.networkCode = state.network.networkCode → randomId ∉ state.usedIds →
      NetworkStateInner.Allocation state.network.leaseState state.network.net state.network.gateway
        req randomId now state.heap.length (table, ip, old) →
      Assignable state.network.net state.network.gateway ip) : next.SessionsAssignable := by
  cases effect with
  | registered req randomId sender now table ip old sameNetwork fresh allocation =>
    intro other found lookup
    rw [enroll_network, NetworkState.installAddress_net, NetworkState.installAddress_gateway]
    rcases lookup_connection_insert lookup with ⟨-, rfl⟩ | before
    · exact given req randomId sender now table ip old rfl sameNetwork fresh allocation
    · exact holds other found before
  | wentOffline randomId connection now sent entry known current => exact holds.close randomId
  | aborted randomId connection now sent entry known current => exact holds.close randomId
  | superseded randomId connection now sent known stale => exact holds.close randomId
  | confirmationRead randomId connection entry known found => exact holds.insert known rfl
  | confirmationSkipped randomId connection known unknown => exact holds.insert known rfl
  | confirmationSaved randomId connection entry record known saving =>
    exact holds.insert known rfl
  | confirmationFailed randomId connection known => exact holds.insert known rfl
  | marked randomId connection written known returned => exact holds.insert known rfl
  | deletedFromMemory deviceId deletions =>
    intro other found lookup
    rw [NetworkState.removeDeviceFromMemory_net, NetworkState.removeDeviceFromMemory_gateway]
    exact holds other found lookup
  | restarted now answered next loaded =>
    obtain ⟨gateway, -, -, -, connections, -⟩ := load_eq_some loaded
    intro other found lookup
    rw [connections] at lookup
    simp at lookup
  | _ => exact holds

/-- A registration keeps the addresses exactly when what it is offered can be given to a device. -/
theorem sessionsAssignable_register_iff {req : RegRequestMsg} {randomId : RandomId}
    {sender : Sender} {now : SystemTime} (tracked : state.Tracked)
    (holds : state.SessionsAssignable)
    (enabled : state.step (.register req randomId sender now) = some next) :
    next.SessionsAssignable ↔ state.OffersAssignable (.register req randomId sender now) := by
  constructor
  · intro later sameNetwork fresh ip offers
    obtain ⟨table, old, allocated⟩ :=
      NetworkState.allocateIp_of_offered randomId now state.heap.length offers
    simp only [step, register, sameNetwork, fresh, not_false_eq_true, and_self, if_true,
      NetworkState.register, NetworkState.allocateIpAndGetEntry, allocated] at enabled
    cases enabled
    have new := later randomId _ (AList.lookup_insert _)
    rwa [enroll_network, NetworkState.installAddress_net,
      NetworkState.installAddress_gateway] at new
  · intro offers
    refine holds.step (step_effect enabled) ?_
    intro req randomId sender now table ip old same sameNetwork fresh allocation
    cases same
    rcases NetworkState.offered_of_allocation tracked.gateway allocation with
      isOffered | ⟨-, assignable⟩
    · exact offers sameNetwork fresh ip isOffered
    · exact assignable

section Load

variable {database : Database} {networkCode : String} {net : Ipv4Net} {leaseDuration : Nat}
  {now : SystemTime} {answered : Bool} {events : List ServiceEvent}

/-- A run hands out addresses that can be given to a device exactly when its offers do. -/
theorem sessionsAssignable_throughout_iff
    (loaded : load database networkCode net leaseDuration [] now answered = some state) :
    machine.Throughout SessionsAssignable state events ↔
      machine.Guarded OffersAssignable state events := by
  refine Machine.throughout_iff_guarded
    (fun _ _ _ (tracked : Tracked _) enabled => tracked.step (step_effect enabled))
    (fun state event next tracked holds enabled => ?_) (fun state event disabled => ?_)
    (tracked_load loaded) ?_
  · have others : (∀ req randomId sender now, event ≠ .register req randomId sender now) →
        next.SessionsAssignable := fun other => holds.step (step_effect enabled)
      fun req randomId sender now _ _ _ same => absurd same (other req randomId sender now)
    cases event with
    | register req randomId sender now =>
      exact sessionsAssignable_register_iff tracked holds enabled
    | _ => exact ⟨fun _ => trivial, fun _ => others (by simp)⟩
  · cases event with
    | register req randomId sender now =>
      intro sameNetwork fresh
      replace disabled : state.register req randomId sender now = none := disabled
      unfold register at disabled
      rw [if_pos ⟨sameNetwork, fresh⟩] at disabled
      split at disabled <;> cases disabled
    | _ => trivial
  · obtain ⟨gateway, -, -, -, connections, -⟩ := load_eq_some loaded
    intro randomId connection lookup
    rw [connections] at lookup
    simp at lookup

/-- A service starts unless the network is the last address alone. -/
theorem exists_load_iff :
    (∃ state, load database networkCode net leaseDuration [] now answered = some state) ↔
      net.network ≠ Ipv4Addr.broadcast := by
  have last : net.network ≠ Ipv4Addr.broadcast ↔ net.network.toNat + 1 < 2 ^ 32 := by
    have bound := net.network.toNat_lt
    rw [Ne, ← UInt32.toNat_inj, show Ipv4Addr.broadcast.toNat = 2 ^ 32 - 1 from rfl]
    omega
  rw [last]
  unfold load NetworkState.newFromDb NetworkState.gatewayOf
  by_cases below : net.network.toNat + 1 < 2 ^ 32
  · rw [if_pos below]
    exact iff_of_true ⟨_, rfl⟩ below
  · rw [if_neg below]
    exact iff_of_false (fun ⟨_, impossible⟩ => by cases impossible) below

end Load

/-- Every address a service ever hands out can be given to a device, and no computation
overflows, if and only if the network is not the last address alone and what each registration of
the run is offered can be given to a device. -/
theorem assignable_iff (database : Database) (networkCode : String) (net : Ipv4Net)
    (leaseDuration : Nat) (now : SystemTime) (answered : Bool) (events : List ServiceEvent) :
    (∃ state, load database networkCode net leaseDuration [] now answered = some state ∧
      machine.Throughout SessionsAssignable state events) ↔
    net.network ≠ Ipv4Addr.broadcast ∧
      ∀ state, load database networkCode net leaseDuration [] now answered = some state →
        machine.Guarded OffersAssignable state events := by
  constructor
  · rintro ⟨state, loaded, throughout⟩
    refine ⟨exists_load_iff.mp ⟨state, loaded⟩, fun other otherLoaded => ?_⟩
    cases loaded.symm.trans otherLoaded
    exact (sessionsAssignable_throughout_iff loaded).mp throughout
  · rintro ⟨starts, guarded⟩
    obtain ⟨state, loaded⟩ := exists_load_iff.mpr starts
    exact ⟨state, loaded, (sessionsAssignable_throughout_iff loaded).mpr (guarded state loaded)⟩

/-- The first device of the network 10.26.0.0/24 wishes the network address, and gets it. -/
def networkAddressRun : List ServiceEvent :=
  [.register (NetworkState.exampleRequest "a" (some 0x0A1A0000) false) 1 10 0]

theorem not_assignable_networkAddressRun :
    ¬∃ state, load .empty "net" NetworkState.exampleNet 86400000000000 [] 0 true = some state ∧
      machine.Throughout SessionsAssignable state networkAddressRun := by
  rintro ⟨state, loaded, throughout⟩
  have starts : load .empty "net" NetworkState.exampleNet 86400000000000 [] 0 true =
      some exampleService := rfl
  cases starts.symm.trans loaded
  have reaches : ∃ final connection, machine.run exampleService networkAddressRun = some final ∧
      final.connections.lookup 1 = some connection ∧ connection.session.ip = 0x0A1A0000 ∧
        final.network.net.network = 0x0A1A0000 := ⟨_, _, rfl, rfl, rfl, rfl⟩
  obtain ⟨final, connection, isFinal, known, isIp, isNetwork⟩ := reaches
  have assignable := (throughout.final isFinal) 1 connection known
  exact assignable.2.1 (isIp.trans isNetwork.symm)

end ControlService

end Vnt.Server
