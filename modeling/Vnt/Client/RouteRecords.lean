/-
This file embeds the table of the routes of a client with everything that is recorded beside it:
when a route was used last, and whose path a key is. A direct route is entered for anybody, but a
route over another client only next to one that is there already. The routes to one client are
kept in the order of their round trip times.
-/

import Mathlib
import Vnt.Client.RouteTable
import Vnt.Fec.Encoder

namespace Vnt.Client

open Vnt.Base Vnt.Fec

/-! ### The order of the routes -/

/-- Exchange the routes in two places. -/
def swapRoutes (list : List Route) (first second : Nat) : List Route :=
  match list[first]?, list[second]? with
  | some one, some two => (list.set first two).set second one
  | _, _ => list

/-- The rtt of the route in a place. -/
def rttAt (list : List Route) (index : Nat) : Nat :=
  (list[index]?.map fun route => route.rtt.toNat).getD 0

/-- Move the route in a place to the front, past those with a greater rtt. -/
def bubbleForward (list : List Route) : Nat → List Route × Nat
  | 0 => (list, 0)
  | index + 1 =>
    if rttAt list (index + 1) < rttAt list index then
      bubbleForward (swapRoutes list (index + 1) index) index
    else (list, index + 1)

/-- Move the route in a place to the back, past those with a smaller rtt; at most as often as
told. -/
def bubbleBackward : Nat → List Route → Nat → List Route
  | 0, list, _ => list
  | steps + 1, list, index =>
    if index + 1 < list.length ∧ rttAt list index > rttAt list (index + 1) then
      bubbleBackward steps (swapRoutes list index (index + 1)) (index + 1)
    else list

/-- Replace the route in a place, and move it to where it belongs. -/
def replaceRoute (list : List Route) (index : Nat) (route : Route) : List Route :=
  let moved := bubbleForward (list.set index route) index
  bubbleBackward moved.1.length moved.1 moved.2

/-- Insert a route in front of the first one with a greater rtt. -/
def insertRoute (list : List Route) (route : Route) : List Route :=
  list.insertIdx ((list.findIdx? fun other => route.rtt < other.rtt).getD list.length) route

theorem mem_swapRoutes {list : List Route} {first second : Nat} {route : Route}
    (member : route ∈ swapRoutes list first second) : route ∈ list := by
  unfold swapRoutes at member
  split at member
  · next one two isFirst isSecond =>
    rcases List.mem_or_eq_of_mem_set member with earlier | rfl
    · rcases List.mem_or_eq_of_mem_set earlier with before | rfl
      · exact before
      · exact List.mem_of_getElem? isSecond
    · exact List.mem_of_getElem? isFirst
  · exact member

theorem mem_bubbleForward {list : List Route} {index : Nat} {route : Route}
    (member : route ∈ (bubbleForward list index).1) : route ∈ list := by
  induction index generalizing list with
  | zero => exact member
  | succ index inductionHypothesis =>
    unfold bubbleForward at member
    split at member
    · exact mem_swapRoutes (inductionHypothesis member)
    · exact member

theorem mem_bubbleBackward {steps : Nat} {list : List Route} {index : Nat} {route : Route}
    (member : route ∈ bubbleBackward steps list index) : route ∈ list := by
  induction steps generalizing list index with
  | zero => exact member
  | succ steps inductionHypothesis =>
    unfold bubbleBackward at member
    split at member
    · exact mem_swapRoutes (inductionHypothesis member)
    · exact member

/-- What is in the list after a route was replaced was there before, or is the new route. -/
theorem mem_replaceRoute {list : List Route} {index : Nat} {route other : Route}
    (member : other ∈ replaceRoute list index route) : other ∈ list ∨ other = route :=
  List.mem_or_eq_of_mem_set (mem_bubbleForward (mem_bubbleBackward member))

theorem mem_insertRoute {list : List Route} {route other : Route}
    (member : other ∈ insertRoute list route) : other ∈ list ∨ other = route := by
  unfold insertRoute at member
  rcases List.eq_or_mem_of_mem_insertIdx member with same | before
  · exact .inr same
  · exact .inl before

/-! ### The table -/

/-- `RouteTableInner`, with `DEFAULT_RTT`, which another package fixes. -/
structure RouteRecords where
  defaultRtt : UInt32
  routeTable : RouteTable
  routeKeyTime : Map (Ipv4Addr × RouteKey) Instant
  routeKeyOwner : Map RouteKey Ipv4Addr

namespace RouteRecords

/-- `Route::from_default_rt`. -/
def fromDefaultRt (records : RouteRecords) (routeKey : RouteKey) (metric : UInt8) : Route :=
  ⟨routeKey, metric, records.defaultRtt⟩

/-- The routes to a client. -/
def routesTo (records : RouteRecords) (id : Ipv4Addr) : List Route :=
  (records.routeTable.routeTable.lookup id).getD []

def setRoutes (records : RouteRecords) (id : Ipv4Addr) (list : List Route) : RouteRecords :=
  { records with routeTable := ⟨records.routeTable.routeTable.insert id list⟩ }

/-- `add_owner_route`. -/
def addOwnerRoute (records : RouteRecords) (now : Instant) (id : Ipv4Addr) (key : RouteKey) :
    RouteRecords :=
  let records :=
    { records with
      routeKeyOwner := records.routeKeyOwner.insert key id
      routeKeyTime := records.routeKeyTime.insert (id, key) now }
  let list := records.routesTo id
  if (list.any fun route => route.routeKey == key) = true then records.setRoutes id list
  else records.setRoutes id (list ++ [records.fromDefaultRt key 1])

/-- `add_route`. -/
def addRoute (records : RouteRecords) (now : Instant) (id : Ipv4Addr) (route : Route) :
    RouteRecords :=
  if route.isDirect = false ∧ (records.routeTable.routeTable.lookup id).isNone = true then records
  else
    let routeKeyOwner :=
      if route.isDirect = true ∧ (records.routeKeyOwner.lookup route.routeKey).isNone = true then
        records.routeKeyOwner.insert route.routeKey id
      else records.routeKeyOwner
    let records :=
      { records with
        routeKeyOwner := routeKeyOwner
        routeKeyTime := records.routeKeyTime.insert (id, route.routeKey) now }
    let list := records.routesTo id
    match list.findIdx? fun other : Route => other.routeKey == route.routeKey with
    | some index => records.setRoutes id (replaceRoute list index route)
    | none => records.setRoutes id (insertRoute list route)

/-- The table has an entry for a client. -/
def containsKey (records : RouteRecords) (id : Ipv4Addr) : Bool :=
  (records.routeTable.routeTable.lookup id).isSome

/-- `add_route_if_absent`. -/
def addRouteIfAbsent (records : RouteRecords) (now : Instant) (id : Ipv4Addr) (route : Route) :
    RouteRecords :=
  if (records.routeTable.routeTable.lookup id).isSome = true then records
  else records.addRoute now id route

/-- Drop the routes to a client over a key, and the client with its last route. -/
def dropRoute (table : RouteTable) (id : Ipv4Addr) (key : RouteKey) : RouteTable :=
  match table.routeTable.lookup id with
  | none => table
  | some list =>
    let list := list.filter fun route => route.routeKey != key
    if list = [] then ⟨table.routeTable.erase id⟩ else ⟨table.routeTable.insert id list⟩

/-- Forget the owner of a key when it is this client. -/
def dropOwner (owners : Map RouteKey Ipv4Addr) (id : Ipv4Addr) (key : RouteKey) :
    Map RouteKey Ipv4Addr :=
  if owners.lookup key = some id then owners.erase key else owners

/-- `remove_route`. -/
def removeRoute (records : RouteRecords) (id : Ipv4Addr) (key : RouteKey) : RouteRecords where
  defaultRtt := records.defaultRtt
  routeTable := dropRoute records.routeTable id key
  routeKeyTime := records.routeKeyTime.erase (id, key)
  routeKeyOwner := dropOwner records.routeKeyOwner id key

/-- `remove_oldest_route`. -/
def removeOldestRoute (records : RouteRecords) (expiredTime : Instant) : RouteRecords :=
  let expired := (records.routeKeyTime.entries.filter fun entry =>
    decide (entry.2 ≤ expiredTime)).map fun entry => entry.1
  expired.foldl (fun records entry => records.removeRoute entry.1 entry.2) records

/-- `get_id_by_route_key`. -/
def getIdByRouteKey (records : RouteRecords) (key : RouteKey) : Option Ipv4Addr :=
  records.routeKeyOwner.lookup key

/-! ### What an operation can add -/

variable {records : RouteRecords} {now : Instant} {id other : Ipv4Addr} {key : RouteKey}
  {route found : Route}

theorem routesTo_setRoutes (records : RouteRecords) (id other : Ipv4Addr) (list : List Route) :
    (records.setRoutes id list).routesTo other =
      if other = id then list else records.routesTo other := by
  unfold routesTo setRoutes
  dsimp only
  rw [Map.lookup_insert_eq]
  split <;> rfl

theorem mem_routesTo_addRoute (member : found ∈ (records.addRoute now id route).routesTo other) :
    found ∈ records.routesTo other ∨ other = id ∧ found = route := by
  unfold addRoute at member
  split at member
  · exact .inl member
  · dsimp only at member
    split at member
    · rw [routesTo_setRoutes] at member
      split at member
      · next same =>
        rcases mem_replaceRoute member with before | isNew
        · exact .inl (same ▸ before)
        · exact .inr ⟨same, isNew⟩
      · exact .inl member
    · rw [routesTo_setRoutes] at member
      split at member
      · next same =>
        rcases mem_insertRoute member with before | isNew
        · exact .inl (same ▸ before)
        · exact .inr ⟨same, isNew⟩
      · exact .inl member

theorem mem_routesTo_addRouteIfAbsent
    (member : found ∈ (records.addRouteIfAbsent now id route).routesTo other) :
    found ∈ records.routesTo other ∨ other = id ∧ found = route := by
  unfold addRouteIfAbsent at member
  split at member
  · exact .inl member
  · exact mem_routesTo_addRoute member

end RouteRecords

end Vnt.Client
