/-
This file settles what the search for an address finds. It goes through the addresses between the
network address and the broadcast address in increasing order, so it finds the lowest one that is
left, and fails only when none is. Both ends are computed without a check. The one network for
which the addition overflows is the last address alone: a build with overflow checks does not
start it, and a build without them searches it from the first address of all.
-/

import Vnt.Base.FirstMatch
import Vnt.Server.NetworkState

namespace Vnt.Server

open Vnt.Base

/-- An addition of `u32`. An overflow panics in a build with overflow checks, and wraps in one
without them, as a release build is. -/
def addU32 (checks : Bool) (first second : UInt32) : Option UInt32 :=
  if first.toNat + second.toNat < 2 ^ 32 then some (first + second)
  else if checks = true then none
  else some (first + second)

/-- The gateway that `new_from_db` computes. -/
def NetworkState.builtGateway (checks : Bool) (net : Ipv4Net) : Option Ipv4Addr :=
  addU32 checks net.network 1

/-- A build with overflow checks. -/
theorem NetworkState.builtGateway_true (net : Ipv4Net) :
    NetworkState.builtGateway true net = NetworkState.gatewayOf net := by
  unfold NetworkState.builtGateway NetworkState.gatewayOf addU32
  rfl

/-- What a build with overflow checks starts fits. -/
theorem NetworkState.fits_of_builtGateway_true {net : Ipv4Net} {gateway : Ipv4Addr}
    (built : NetworkState.builtGateway true net = some gateway) :
    net.network.toNat + 1 < 2 ^ 32 := by
  rw [NetworkState.builtGateway_true] at built
  unfold NetworkState.gatewayOf at built
  by_contra overflows
  rw [if_neg overflows] at built
  cases built

namespace NetworkStateInner

/-- `find_available_ip` with the addition in front of its loop. -/
def searchAvailableIp (checks : Bool) (table : NetworkStateInner) (net : Ipv4Net)
    (gateway : Ipv4Addr) : Option (Except String Ipv4Addr) :=
  (addU32 checks net.network 1).map fun start =>
    match (addrRange start net.broadcast).find?
      fun ip => decide (ip ≠ gateway) && (table.reservation ip).isNone with
    | some ip => .ok ip
    | none => .error "IP exhaustion"

/-- An address strictly between the two ends of the network that is neither the gateway nor
reserved. -/
def Free (table : NetworkStateInner) (net : Ipv4Net) (gateway ip : Ipv4Addr) : Prop :=
  (net.network < ip ∧ ip < net.broadcast) ∧ ip ≠ gateway ∧ table.reservation ip = none

/-- The lowest free address. -/
def LowestFree (table : NetworkStateInner) (net : Ipv4Net) (gateway ip : Ipv4Addr) : Prop :=
  table.Free net gateway ip ∧ ∀ other, table.Free net gateway other → ip ≤ other

/-- No addition overflows, and the search finds the lowest free address or fails as there is
none. -/
structure SearchExact (checks : Bool) (table : NetworkStateInner) (net : Ipv4Net)
    (gateway : Ipv4Addr) : Prop where
  fits : net.network.toNat + 1 < 2 ^ 32
  finds : ∀ ip, table.searchAvailableIp checks net gateway = some (.ok ip) ↔
    table.LowestFree net gateway ip
  fails : (∃ message, table.searchAvailableIp checks net gateway = some (.error message)) ↔
    ∀ ip, ¬table.Free net gateway ip

/-- The search is exact in the network if `new_from_db` builds it. -/
def SearchRight (checks : Bool) (table : NetworkStateInner) (net : Ipv4Net) : Prop :=
  ∀ gateway, NetworkState.builtGateway checks net = some gateway →
    table.SearchExact checks net gateway

variable {checks : Bool} {table : NetworkStateInner} {net : Ipv4Net} {gateway ip : Ipv4Addr}

/-- The addresses of a range are increasing. -/
theorem pairwise_addrRange (start stop : Ipv4Addr) :
    (addrRange start stop).Pairwise fun first second => first.toNat < second.toNat := by
  have bound := stop.toNat_lt
  unfold addrRange
  rw [List.pairwise_map]
  refine List.Pairwise.imp_of_mem ?_ List.pairwise_lt_range'
  intro first second isFirst isSecond less
  rw [List.mem_range'_1] at isFirst isSecond
  have firstFits : first < 2 ^ 32 := by omega
  have secondFits : second < 2 ^ 32 := by omega
  rw [UInt32.toNat_ofNat_of_lt' firstFits, UInt32.toNat_ofNat_of_lt' secondFits]
  exact less

/-- The addition overflows for the last address alone. -/
theorem network_ne_last_iff : net.network ≠ Ipv4Addr.broadcast ↔
    net.network.toNat + 1 < 2 ^ 32 := by
  have bound := net.network.toNat_lt
  rw [Ne, ← UInt32.toNat_inj, show Ipv4Addr.broadcast.toNat = 2 ^ 32 - 1 from rfl]
  omega

/-- Without an overflow the search is the loop from the address after the network address. -/
theorem searchAvailableIp_of_fits (fits : net.network.toNat + 1 < 2 ^ 32) :
    table.searchAvailableIp checks net gateway = some (table.findAvailableIp net gateway) := by
  have sum : addU32 checks net.network 1 = some (net.network + 1) := if_pos fits
  unfold searchAvailableIp findAvailableIp
  rw [sum]
  rfl

/-- What is free is what the loop accepts in its range. -/
theorem free_iff (fits : net.network.toNat + 1 < 2 ^ 32) :
    table.Free net gateway ip ↔ ip ∈ addrRange (net.network + 1) net.broadcast ∧
      (decide (ip ≠ gateway) && (table.reservation ip).isNone) = true := by
  have next : (net.network + 1).toNat = net.network.toNat + 1 := by
    rw [UInt32.toNat_add]
    exact Nat.mod_eq_of_lt fits
  unfold Free
  rw [mem_addrRange, UInt32.le_iff_toNat_le, next, UInt32.lt_iff_toNat_lt, UInt32.lt_iff_toNat_lt,
    Bool.and_eq_true, decide_eq_true_eq, Option.isNone_iff_eq_none]
  exact and_congr_left' (and_congr_left' Nat.succ_le_iff.symm)

/-- The loop finds the lowest free address. -/
theorem findAvailableIp_eq_ok_iff (fits : net.network.toNat + 1 < 2 ^ 32) :
    table.findAvailableIp net gateway = .ok ip ↔ table.LowestFree net gateway ip := by
  have loop : table.findAvailableIp net gateway = .ok ip ↔
      (addrRange (net.network + 1) net.broadcast).find?
        (fun ip => decide (ip ≠ gateway) && (table.reservation ip).isNone) = some ip := by
    unfold findAvailableIp
    split
    · next found search => rw [search, Except.ok.injEq, Option.some.injEq]
    · next search =>
      rw [search]
      simp
  rw [loop, find?_eq_some_iff_least (fun _ _ same => UInt32.toNat_inj.mp same)
    (pairwise_addrRange (net.network + 1) net.broadcast), ← free_iff fits]
  unfold LowestFree
  refine and_congr_right fun _ => ?_
  constructor
  · intro isLeast other free
    obtain ⟨member, accepted⟩ := (free_iff fits).mp free
    exact UInt32.le_iff_toNat_le.mpr (isLeast other member accepted)
  · intro isLeast other member accepted
    exact UInt32.le_iff_toNat_le.mp (isLeast other ((free_iff fits).mpr ⟨member, accepted⟩))

/-- The loop fails when no address is free. -/
theorem findAvailableIp_eq_error_iff (fits : net.network.toNat + 1 < 2 ^ 32) :
    (∃ message, table.findAvailableIp net gateway = .error message) ↔
      ∀ ip, ¬table.Free net gateway ip := by
  constructor
  · rintro ⟨message, failed⟩ ip free
    obtain ⟨member, accepted⟩ := (free_iff fits).mp free
    obtain ⟨-, notGateway, unreserved⟩ := free
    obtain ⟨found, search⟩ := exists_findAvailableIp member notGateway unreserved
    cases failed.symm.trans search
  · intro none
    cases search : table.findAvailableIp net gateway with
    | error message => exact ⟨message, rfl⟩
    | ok ip => exact absurd ((findAvailableIp_eq_ok_iff fits).mp search).1 (none ip)

/-- The search is exact for a network that does not start at the last address. -/
theorem searchExact_of_fits (fits : net.network.toNat + 1 < 2 ^ 32) :
    table.SearchExact checks net gateway := by
  have search : table.searchAvailableIp checks net gateway =
      some (table.findAvailableIp net gateway) := searchAvailableIp_of_fits fits
  refine ⟨fits, fun ip => ?_, ?_⟩
  · rw [search, Option.some.injEq]
    exact findAvailableIp_eq_ok_iff fits
  · rw [search, ← findAvailableIp_eq_error_iff fits]
    exact exists_congr fun message => by rw [Option.some.injEq]

/-- The search in a network that `new_from_db` builds is exact when the build checks its
additions, or when the network is not the last address alone. -/
theorem searchRight_iff (checks : Bool) (table : NetworkStateInner) (net : Ipv4Net) :
    table.SearchRight checks net ↔ checks = true ∨ net.network ≠ Ipv4Addr.broadcast := by
  rw [network_ne_last_iff]
  constructor
  · intro right
    by_cases fits : net.network.toNat + 1 < 2 ^ 32
    · exact Or.inr fits
    · refine Or.inl (Bool.of_not_eq_false fun release => ?_)
      have built : NetworkState.builtGateway checks net = some (net.network + 1) := by
        rw [release]
        exact if_neg fits
      exact fits (right _ built).fits
  · rintro (isChecked | fits) gateway built
    · subst isChecked
      exact searchExact_of_fits (NetworkState.fits_of_builtGateway_true built)
    · exact searchExact_of_fits fits

/-- Without checks the last address alone gets a gateway, and the search offers an address that is
outside of the network. -/
theorem not_searchRight_last :
    NetworkState.builtGateway false ⟨Ipv4Addr.broadcast, 32⟩ = some 0 ∧
    NetworkStateInner.empty.searchAvailableIp false ⟨Ipv4Addr.broadcast, 32⟩ 0 = some (.ok 1) ∧
    ¬NetworkStateInner.empty.SearchRight false ⟨Ipv4Addr.broadcast, 32⟩ := by
  refine ⟨by decide, by decide +kernel, ?_⟩
  intro right
  exact absurd (right 0 (by decide)).fits (by decide)

end NetworkStateInner

end Vnt.Server
