/-
This file settles which of several overlapping subnet routes is used. The lookup takes the first
entry that contains the address, so the longest prefix wins only while the table is ordered by
falling prefix length. `new` and `set_route_table` sort the list they are given. `reset_route`
stores it as it is.
-/

import Mathlib.Data.List.Sort
import Vnt.Base.FirstMatch
import Vnt.Base.Machine
import Vnt.Tunnel.Outbound

namespace Vnt.Tunnel

open Vnt.Base

/-- The prefix length of an entry. -/
def NetInput.prefixLen (input : NetInput) : Nat := input.net.prefixLen.val

/-- `sort_by_key(|r| Reverse(r.net.prefix_len()))`, which is stable. -/
def sortByPrefix (routes : List NetInput) : List NetInput :=
  routes.insertionSort fun first second => second.prefixLen ≤ first.prefixLen

/-- `SubnetExternalRoute`. -/
structure SubnetExternalRoute where
  routeTable : List NetInput
  deriving DecidableEq, Repr

namespace SubnetExternalRoute

def new (routeTable : List NetInput) : SubnetExternalRoute := ⟨sortByPrefix routeTable⟩

def setRouteTable (_ : SubnetExternalRoute) (routeTable : List NetInput) : SubnetExternalRoute :=
  ⟨sortByPrefix routeTable⟩

def resetRoute (_ : SubnetExternalRoute) (routeTable : List NetInput) : SubnetExternalRoute :=
  ⟨routeTable⟩

def route (routes : SubnetExternalRoute) (ip : Ipv4Addr) : Option Ipv4Addr :=
  routeOf routes.routeTable ip

/-- The calls that change the table; each replaces it under its lock. -/
inductive Call where
  | setRouteTable (routeTable : List NetInput)
  | resetRoute (routeTable : List NetInput)

/-- The table under the calls. -/
def machine : Machine SubnetExternalRoute Call where
  step
    | routes, .setRouteTable routeTable => some (routes.setRouteTable routeTable)
    | routes, .resetRoute routeTable => some (routes.resetRoute routeTable)

/-- The entry contains the address, and no entry that does has a longer prefix. -/
def Longest (routes : List NetInput) : Ipv4Addr → NetInput → Prop :=
  Best (fun input => input.net.contains) NetInput.prefixLen routes

/-- The route of an address is the target of an entry with the longest prefix, and there is none
exactly when no entry contains the address. -/
structure RoutesRight (routes : SubnetExternalRoute) : Prop where
  longest : ∀ ip target, routes.route ip = some target →
    ∃ input, Longest routes.routeTable ip input ∧ input.targetIp = target
  none : ∀ ip, routes.route ip = none ↔
    ∀ input ∈ routes.routeTable, input.net.contains ip = false

/-- An entry that stands before a longer one and takes an address from it has the target of one of
the longest entries for that address. -/
def Ordered (routes : List NetInput) : Prop :=
  NoneHidden (fun input => input.net.contains) NetInput.prefixLen NetInput.targetIp routes

/-- A list for `reset_route` must be ordered already. -/
def Call.Keeps : Call → Prop
  | .setRouteTable _ => True
  | .resetRoute routeTable => Ordered routeTable

variable {routes : SubnetExternalRoute}

theorem ordered_sortByPrefix (routeTable : List NetInput) : Ordered (sortByPrefix routeTable) :=
  noneHidden_of_pairwise (List.pairwise_insertionSort _ routeTable)

theorem route_eq_none_iff (ip : Ipv4Addr) :
    routes.route ip = none ↔ ∀ input ∈ routes.routeTable, input.net.contains ip = false := by
  unfold route routeOf
  rw [Option.map_eq_none_iff, List.find?_eq_none]
  exact forall₂_congr fun input _ => Bool.not_eq_true _ ▸ Iff.rfl

/-- The table answers right when it is ordered, and only then. -/
theorem routesRight_iff : routes.RoutesRight ↔ Ordered routes.routeTable := by
  refine Iff.trans ?_ bestFirst_iff
  constructor
  · intro right ip first found
    have isRoute : routes.route ip = some first.targetIp := by
      unfold route routeOf
      rw [found, Option.map_some]
    exact right.longest ip first.targetIp isRoute
  · refine fun best => ⟨fun ip target isRoute => ?_, route_eq_none_iff⟩
    obtain ⟨first, found, rfl⟩ := Option.map_eq_some_iff.mp isRoute
    exact best ip first found

/-- After a call the table answers right exactly when the call keeps it ordered. -/
theorem step_routesRight_iff (call : Call) {next : SubnetExternalRoute}
    (steps : machine.step routes call = some next) : next.RoutesRight ↔ call.Keeps := by
  rw [routesRight_iff]
  cases call with
  | setRouteTable routeTable =>
    cases steps
    exact iff_of_true (ordered_sortByPrefix routeTable) trivial
  | resetRoute routeTable =>
    cases steps
    exact Iff.rfl

/-- From a new table on, the longest prefix wins in every state of a run exactly when every list
given to `reset_route` is ordered. -/
theorem throughout_routesRight_iff (routeTable : List NetInput) (calls : List Call) :
    machine.Throughout RoutesRight (new routeTable) calls ↔
      machine.Guarded (fun _ call => call.Keeps) (new routeTable) calls := by
  refine Machine.throughout_iff_guarded (fun _ _ _ (_ : True) _ => trivial)
    (fun routes call next _ _ => step_routesRight_iff call) ?_ trivial
    (routesRight_iff.mpr (ordered_sortByPrefix routeTable))
  intro routes call disabled
  cases call with
  | setRouteTable _ => cases disabled
  | resetRoute _ => cases disabled

/-- The default route first, and one to `10.0.0.0/8` behind it. -/
def defaultRouteFirst : List NetInput :=
  [⟨⟨0, 0⟩, 1⟩, ⟨⟨0x0A000000, 8⟩, 2⟩]

/-- After `reset_route` with this list, `10.0.0.1` takes the default route, and `set_route_table`
with the same list would send it to the other target. -/
theorem not_routesRight_defaultRouteFirst :
    machine.run (new []) [.resetRoute defaultRouteFirst] =
      some ((new []).resetRoute defaultRouteFirst) ∧
    ((new []).resetRoute defaultRouteFirst).route 0x0A000001 = some 1 ∧
    ((new []).setRouteTable defaultRouteFirst).route 0x0A000001 = some 2 ∧
    ¬((new []).resetRoute defaultRouteFirst).RoutesRight := by
  refine ⟨rfl, by decide, by decide, ?_⟩
  intro right
  obtain ⟨input, ⟨⟨member, -⟩, longest⟩, target⟩ :=
    right.longest 0x0A000001 1 (by decide)
  have isFirst : input = ⟨⟨0, 0⟩, 1⟩ := by
    rcases List.mem_cons.mp member with same | later
    · exact same
    · rw [List.mem_singleton.mp later] at target
      cases target
  subst isFirst
  exact absurd (longest ⟨⟨0x0A000000, 8⟩, 2⟩ (by decide) (by decide)) (by decide)

end SubnetExternalRoute

end Vnt.Tunnel
