/-
This file embeds the routes that a client has to the other clients, as far as its senders read
them. Of several routes to one client a direct one is taken when there is one, and the first one
else.
-/

import Vnt.Base.Map
import Vnt.Ipv4

namespace Vnt.Client

open Vnt.Base

/-- `RouteKey`: it names a path, and keys are only compared. -/
abbrev RouteKey : Type := Nat

/-- `Route`. -/
structure Route where
  routeKey : RouteKey
  metric : UInt8
  rtt : UInt32
  deriving DecidableEq, Repr

def Route.isDirect (route : Route) : Bool := route.metric == 1

/-- `RouteTable`: the routes to each client. -/
structure RouteTable where
  routeTable : Map Ipv4Addr (List Route)

namespace RouteTable

/-- `RouteTable::get_route_by_id`. -/
def getRouteById (table : RouteTable) (id : Ipv4Addr) : Option Route :=
  match table.routeTable.lookup id with
  | none => none
  | some list =>
    match list.find? Route.isDirect with
    | some direct => some direct
    | none => list.head?

/-- `P2pOutbound::get_p2p_route_by_id`. -/
def getP2pRouteById (table : RouteTable) (id : Ipv4Addr) : Option Route :=
  (table.getRouteById id).filter Route.isDirect

/-- A client has a route that counts as direct exactly when one of its routes is direct. -/
theorem isSome_getP2pRouteById_iff (table : RouteTable) (id : Ipv4Addr) :
    (table.getP2pRouteById id).isSome = true ↔
      ∃ list, table.routeTable.lookup id = some list ∧ ∃ route ∈ list, route.isDirect = true := by
  unfold getP2pRouteById getRouteById
  cases table.routeTable.lookup id with
  | none => simp
  | some list =>
    dsimp only
    cases found : list.find? Route.isDirect with
    | some direct =>
      have isDirect := List.find?_some found
      rw [Option.filter_some_pos isDirect]
      exact ⟨fun _ => ⟨list, rfl, direct, List.mem_of_find?_eq_some found, isDirect⟩, fun _ => rfl⟩
    | none =>
      have noDirect := List.find?_eq_none.mp found
      constructor
      · intro isSome
        obtain ⟨first, kept⟩ := Option.isSome_iff_exists.mp isSome
        obtain ⟨isHead, isDirect⟩ := Option.filter_eq_some_iff.mp kept
        exact absurd isDirect (noDirect first (List.mem_of_head? isHead))
      · rintro ⟨_, same, route, member, isDirect⟩
        cases same
        exact absurd isDirect (noDirect route member)

end RouteTable

end Vnt.Client
