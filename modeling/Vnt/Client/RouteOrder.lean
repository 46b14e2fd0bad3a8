/-
This file settles which route is chosen. The choice takes the first direct route, or the first one
of all, so it is the best one as long as the routes stand in the order of their round trip times. A
route that is entered by its round trip time keeps that order. An owner route is put at the end
without a look at the others, and only keeps the order when none of them is slower than it is
assumed to be.
-/

import Vnt.Client.RouteOperations

namespace Vnt.Client

open Vnt.Base Vnt.Fec

/-! ### The best route -/

/-- A direct route with the least rtt among the direct ones if there is one, and one with the least
rtt otherwise. -/
structure IsBest (list : List Route) (route : Route) : Prop where
  member : route ∈ list
  direct : ∀ other ∈ list, other.isDirect = true →
    route.isDirect = true ∧ ∀ rival ∈ list, rival.isDirect = true → route.rtt ≤ rival.rtt
  relayed : (∀ other ∈ list, other.isDirect = false) → ∀ rival ∈ list, route.rtt ≤ rival.rtt

namespace RouteRecords

/-- The choice is the best route to the client, and there is none only without a route. -/
def ChoosesBest (records : RouteRecords) (id : Ipv4Addr) : Prop :=
  match records.routeTable.getRouteById id with
  | some route => IsBest (records.routesTo id) route
  | none => records.routesTo id = []

/-- The routes to every client are in order. -/
def Ordered (records : RouteRecords) : Prop := ∀ id, SortedByRtt (records.routesTo id)

end RouteRecords

theorem isBest_of_find? {list : List Route} {route : Route} (sorted : SortedByRtt list)
    (found : list.find? Route.isDirect = some route) : IsBest list route := by
  obtain ⟨isDirect, before, after, parts, indirect⟩ := List.find?_eq_some_iff_append.mp found
  have least : ∀ rival ∈ list, rival.isDirect = true → route.rtt ≤ rival.rtt := by
    intro rival member rivalDirect
    rw [parts] at member sorted
    rcases List.mem_append.mp member with isBefore | later
    · have notDirect := indirect rival isBefore
      rw [rivalDirect] at notDirect
      cases notDirect
    · rcases List.mem_cons.mp later with rfl | isAfter
      · exact UInt32.le_refl _
      · exact (List.pairwise_cons.mp (List.pairwise_append.mp sorted).2.1).1 rival isAfter
  refine ⟨List.mem_of_find?_eq_some found, fun _ _ _ => ⟨isDirect, least⟩, fun none => ?_⟩
  rw [none route (List.mem_of_find?_eq_some found)] at isDirect
  cases isDirect

theorem isBest_head {route : Route} {rest : List Route} (sorted : SortedByRtt (route :: rest))
    (indirect : (route :: rest).find? Route.isDirect = none) :
    IsBest (route :: rest) route := by
  refine ⟨List.mem_cons_self, fun other member isDirect => ?_, fun _ rival member => ?_⟩
  · exact absurd isDirect (List.find?_eq_none.mp indirect other member)
  · rcases List.mem_cons.mp member with rfl | inRest
    · exact UInt32.le_refl _
    · exact (List.pairwise_cons.mp sorted).1 rival inRest

/-- Out of routes in order the best one is chosen. -/
theorem RouteRecords.Ordered.choosesBest {records : RouteRecords} (ordered : records.Ordered)
    (id : Ipv4Addr) : records.ChoosesBest id := by
  have sorted := ordered id
  unfold ChoosesBest RouteTable.getRouteById
  unfold RouteRecords.routesTo at sorted ⊢
  cases present : records.routeTable.routeTable.lookup id with
  | none => rfl
  | some list =>
    rw [present, Option.getD_some] at sorted
    rw [Option.getD_some]
    dsimp only
    cases found : list.find? Route.isDirect with
    | some route => exact isBest_of_find? sorted found
    | none =>
      cases list with
      | nil => rfl
      | cons route rest => exact isBest_head sorted found

/-! ### The order through a run -/

theorem SortedByRtt.eraseKey {list : List Route} (sorted : SortedByRtt list) (key : RouteKey) :
    SortedByRtt (eraseKey list key) :=
  List.Pairwise.sublist List.eraseP_sublist sorted

theorem SortedByRtt.enterRoute {list : List Route} (sorted : SortedByRtt list) (route : Route) :
    SortedByRtt (enterRoute list route) := by
  obtain ⟨front, back, -, entered, inOrder⟩ := enterRoute_append list route
  rw [entered]
  exact inOrder (sorted.eraseKey route.routeKey)

/-- An owner route is entered behind routes that are not slower than it is assumed to be, unless
there is one over its key already. -/
def AppendsInOrder (state : RouteState) (event : RouteEvent) : Prop :=
  match event with
  | .addOwnerRoute _ id key =>
    (∃ route ∈ state.records.routesTo id, route.routeKey = key) ∨
      ∀ route ∈ state.records.routesTo id, route.rtt ≤ state.records.defaultRtt
  | _ => True

instance (state : RouteState) (event : RouteEvent) : Decidable (AppendsInOrder state event) :=
  match event with
  | .addOwnerRoute _ _ _ => inferInstanceAs (Decidable (_ ∨ _))
  | .addRoute .. | .addRouteIfAbsent .. | .removeRoute .. | .tcpDisconnect .. => .isTrue trivial
  | .removeOldestRoute .. | .beginExpiry .. | .finishExpiry .. => .isTrue trivial

theorem sortedByRtt_enterOwner {state : RouteState} {now : Instant} {id : Ipv4Addr}
    {key : RouteKey} (sorted : SortedByRtt (state.records.routesTo id))
    (inOrder : AppendsInOrder state (.addOwnerRoute now id key)) :
    SortedByRtt (state.records.enterOwner id key) := by
  unfold RouteRecords.enterOwner
  split
  · exact sorted
  · next absent =>
    have below : ∀ route ∈ state.records.routesTo id, route.rtt ≤ state.records.defaultRtt := by
      rcases inOrder with ⟨route, member, same⟩ | below
      · refine absurd (List.any_eq_true.mpr ⟨route, member, ?_⟩) absent
        exact beq_iff_eq.mpr same
      · exact below
    rw [← List.append_nil (state.records.routesTo id)] at sorted
    exact sorted.insert below fun _ member => (List.not_mem_nil member).elim

theorem ordered_step {state next : RouteState} {event : RouteEvent}
    (ordered : state.records.Ordered) (inOrder : AppendsInOrder state event)
    (enabled : routeMachine.step state event = some next) : next.records.Ordered := by
  intro id
  rcases step_routesTo enabled id with fewer | ⟨route, entered⟩ | ⟨now, key, rfl, entered⟩
  · exact List.Pairwise.sublist fewer (ordered id)
  · rw [entered]
    exact (ordered id).enterRoute route
  · rw [entered]
    exact sortedByRtt_enterOwner (ordered id) inOrder

/-- In every run in which owner routes are entered in order, the choice is the best route in every
state. -/
theorem choosesBest_throughout (defaultRtt : UInt32) (clock : Instant) {events : List RouteEvent}
    (inOrder : routeMachine.Guarded AppendsInOrder (.initial defaultRtt clock) events) :
    routeMachine.Throughout (fun state => ∀ id, state.records.ChoosesBest id)
      (.initial defaultRtt clock) events := by
  have ordered : routeMachine.Throughout (fun state => state.records.Ordered)
      (.initial defaultRtt clock) events :=
    inOrder.throughout (fun _ _ _ => ordered_step) fun _ => List.Pairwise.nil
  exact ordered.mono fun _ => RouteRecords.Ordered.choosesBest

/-- A slow direct route, and an owner route that is assumed to be faster. -/
def slowThenOwner : List RouteEvent := [.addRoute 0 7 ⟨1, 1, 10000⟩, .addOwnerRoute 0 7 2]

/-- The slow route stays in front and is chosen. -/
theorem slowThenOwner_chooses_slow :
    ¬∀ (defaultRtt : UInt32) (clock : Instant) (events : List RouteEvent),
      routeMachine.Throughout (fun state => ∀ id, state.records.ChoosesBest id)
        (.initial defaultRtt clock) events := by
  intro always
  have holds := always 9999 0 slowThenOwner
  have chosen : ∀ state, routeMachine.run (.initial 9999 0) slowThenOwner = some state →
      state.records.ChoosesBest 7 := fun state reaches => holds.final reaches 7
  have best : IsBest [⟨1, 1, 10000⟩, ⟨2, 1, 9999⟩] ⟨1, 1, 10000⟩ := chosen _ rfl
  have least := (best.direct _ List.mem_cons_self rfl).2 ⟨2, 1, 9999⟩ (by simp) rfl
  exact absurd least (by decide)

/-- An owner route first, then routes by their round trip times. -/
theorem choosesBest_throughout_example :
    routeMachine.Throughout (fun state => ∀ id, state.records.ChoosesBest id)
      (.initial 9999 0) [.addOwnerRoute 0 7 2, .addRoute 1 7 ⟨1, 1, 10000⟩, .addRoute 2 7 ⟨3, 2, 5⟩,
        .addOwnerRoute 3 7 1] :=
  choosesBest_throughout 9999 0 (by decide)

end Vnt.Client
