/-
This file settles which routes go too late or not at all. An expiry drops what it collected without
a second look, so a route that comes back after it was collected is dropped although it was just
used. And a tunnel that is closed only loses the route of the client that owns its key, so the
routes over it to other clients stay.
-/

import Vnt.Client.RouteBookkeeping

namespace Vnt.Client

open Vnt.Base Vnt.Fec

/-! ### What an operation enters and removes -/

namespace RouteRecords

variable {records : RouteRecords} {now : Instant} {id other : Ipv4Addr} {key found : RouteKey}
  {route : Route}

theorem mem_keysTo_addOwnerRoute :
    found ∈ (records.addOwnerRoute now id key).keysTo other ↔
      found ∈ records.keysTo other ∨ other = id ∧ found = key := by
  rw [addOwnerRoute_eq, keysTo_insert]
  split
  · next same => rw [mem_map_enterOwner, same, or_comm, and_iff_right rfl]
  · next different => exact (or_iff_left fun both => different both.1).symm

theorem mem_keysTo_addRoute (enters : records.Enters id route) :
    found ∈ (records.addRoute now id route).keysTo other ↔
      found ∈ records.keysTo other ∨ other = id ∧ found = route.routeKey := by
  rw [addRoute_eq enters, keysTo_insert]
  split
  · next same =>
    rw [mem_map_enterRoute, same, or_comm, and_iff_right rfl]
    exact Iff.rfl
  · next different => exact (or_iff_left fun both => different both.1).symm

theorem mem_keysTo_removeRoute :
    found ∈ (records.removeRoute id key).keysTo other ↔
      found ∈ records.keysTo other ∧ (other, found) ≠ (id, key) := by
  have dropped : found ∈ (records.dropExpired [(id, key)]).keysTo other ↔
      found ∈ records.keysTo other ∧ (other, found) ∉ [(id, key)] := mem_keysTo_dropExpired
  rw [List.mem_singleton] at dropped
  exact dropped

end RouteRecords

namespace RouteState

/-- The time, the client and the key of the route that an operation adds or refreshes. -/
def entered (state : RouteState) : RouteEvent → Option (Instant × Ipv4Addr × RouteKey)
  | .addOwnerRoute now id key => some (now, id, key)
  | .addRoute now id route =>
    if state.records.Enters id route then some (now, id, route.routeKey) else none
  | .addRouteIfAbsent now id route =>
    if (state.records.routeTable.routeTable.lookup id).isSome = true then none
    else if state.records.Enters id route then some (now, id, route.routeKey) else none
  | _ => none

/-- The client and the key of the route that an operation other than an expiry removes. -/
def removed (state : RouteState) : RouteEvent → Option (Ipv4Addr × RouteKey)
  | .removeRoute id key => some (id, key)
  | .tcpDisconnect key => (state.records.getIdByRouteKey key).map fun id => (id, key)
  | _ => none

end RouteState

/-- What an operation that enters a route does. -/
structure Enters (state next : RouteState) (now : Instant) (id : Ipv4Addr) (key : RouteKey) :
    Prop where
  later : state.clock ≤ now
  clock : next.clock = now
  expiring : next.expiring = state.expiring
  times : next.records.routeKeyTime = state.records.routeKeyTime.insert (id, key) now
  keys : ∀ other found, found ∈ next.records.keysTo other ↔
    found ∈ state.records.keysTo other ∨ other = id ∧ found = key

/-- What an operation that removes a route does. -/
structure Removes (state next : RouteState) (id : Ipv4Addr) (key : RouteKey) : Prop where
  clock : next.clock = state.clock
  expiring : next.expiring = state.expiring
  times : next.records.routeKeyTime = state.records.routeKeyTime.erase (id, key)
  keys : ∀ other found, found ∈ next.records.keysTo other ↔
    found ∈ state.records.keysTo other ∧ (other, found) ≠ (id, key)

/-- What an operation does that enters and removes nothing. -/
structure Leaves (state next : RouteState) : Prop where
  later : state.clock ≤ next.clock
  expiring : next.expiring = state.expiring
  records : next.records = state.records

variable {state next : RouteState} {event : RouteEvent} {now : Instant} {id : Ipv4Addr}
  {key : RouteKey}

theorem enters_addRoute {route : Route} (enters : state.records.Enters id route)
    (later : state.clock ≤ now) :
    Enters state { state with records := state.records.addRoute now id route, clock := now } now id
      route.routeKey :=
  ⟨later, rfl, rfl, by dsimp only; rw [RouteRecords.addRoute_eq enters],
    fun _ _ => RouteRecords.mem_keysTo_addRoute enters⟩

theorem removes_removeRoute (state : RouteState) (id : Ipv4Addr) (key : RouteKey) :
    Removes state { state with records := state.records.removeRoute id key } id key :=
  ⟨rfl, rfl, rfl, fun _ _ => RouteRecords.mem_keysTo_removeRoute⟩

/-- An operation that is not part of an expiry enters a route, removes one, or leaves them all. -/
theorem step_call (enabled : routeMachine.step state event = some next)
    (call : event.isCall = true) :
    (∃ now id key, state.entered event = some (now, id, key) ∧ Enters state next now id key) ∨
      state.entered event = none ∧
        ((∃ id key, state.removed event = some (id, key) ∧ Removes state next id key) ∨
          state.removed event = none ∧ Leaves state next) := by
  cases event with
  | addOwnerRoute now id key =>
    obtain ⟨later, rfl⟩ := RouteState.timed_eq_some.mp enabled
    refine .inl ⟨now, id, key, rfl, later, rfl, rfl, ?_, fun _ _ =>
      RouteRecords.mem_keysTo_addOwnerRoute⟩
    dsimp only
    rw [RouteRecords.addOwnerRoute_eq]
  | addRoute now id route =>
    obtain ⟨later, rfl⟩ := RouteState.timed_eq_some.mp enabled
    by_cases enters : state.records.Enters id route
    · exact .inl ⟨now, id, route.routeKey, if_pos enters, enters_addRoute enters later⟩
    · refine .inr ⟨if_neg enters, .inr ⟨rfl, later, rfl, ?_⟩⟩
      exact RouteRecords.addRoute_eq_self enters
  | addRouteIfAbsent now id route =>
    obtain ⟨later, rfl⟩ := RouteState.timed_eq_some.mp enabled
    by_cases present : (state.records.routeTable.routeTable.lookup id).isSome = true
    · exact .inr ⟨if_pos present, .inr ⟨rfl, later, rfl, if_pos present⟩⟩
    · have same : state.records.addRouteIfAbsent now id route =
          state.records.addRoute now id route := if_neg present
      rw [same]
      by_cases enters : state.records.Enters id route
      · exact .inl ⟨now, id, route.routeKey, (if_neg present).trans (if_pos enters),
          enters_addRoute enters later⟩
      · refine .inr ⟨(if_neg present).trans (if_neg enters), .inr ⟨rfl, later, rfl, ?_⟩⟩
        exact RouteRecords.addRoute_eq_self enters
  | removeRoute id key =>
    cases enabled
    exact .inr ⟨rfl, .inl ⟨id, key, rfl, removes_removeRoute state id key⟩⟩
  | tcpDisconnect key =>
    cases enabled
    unfold RouteRecords.tcpDisconnect
    cases isOwner : state.records.getIdByRouteKey key with
    | none =>
      refine .inr ⟨rfl, .inr ⟨?_, Nat.le_refl _, rfl, rfl⟩⟩
      exact Option.map_eq_none_iff.mpr isOwner
    | some id =>
      refine .inr ⟨rfl, .inl ⟨id, key, ?_, removes_removeRoute state id key⟩⟩
      exact Option.map_eq_some_iff.mpr ⟨id, isOwner, rfl⟩
  | removeOldestRoute expiredTime => cases call
  | beginExpiry expiredTime => cases call
  | finishExpiry index => cases call

/-! ### A route that comes back -/

/-- There is a route over the key, and it was used after a time. -/
structure Fresh (expiredTime : Instant) (id : Ipv4Addr) (key : RouteKey) (state : RouteState) :
    Prop where
  route : key ∈ state.records.keysTo id
  time : ∃ time, state.records.routeKeyTime.lookup (id, key) = some time ∧ expiredTime < time
  clock : expiredTime < state.clock

/-- An operation that does not drop a route: one that is not part of an expiry and removes another
route if any, or the start of an expiry up to a time. -/
def Spares (expiredTime : Instant) (id : Ipv4Addr) (key : RouteKey) (state : RouteState)
    (event : RouteEvent) : Prop :=
  event.isCall = true ∧ state.removed event ≠ some (id, key) ∨ event = .beginExpiry expiredTime

theorem fresh_of_enters {expiredTime : Instant} (enters : Enters state next now id key)
    (later : expiredTime < now) : Fresh expiredTime id key next where
  route := (enters.keys id key).mpr (.inr ⟨rfl, rfl⟩)
  time := ⟨now, by rw [enters.times, AList.lookup_insert], later⟩
  clock := enters.clock ▸ later

theorem Fresh.step {expiredTime : Instant} (fresh : Fresh expiredTime id key state)
    (spares : Spares expiredTime id key state event)
    (enabled : routeMachine.step state event = some next) : Fresh expiredTime id key next := by
  obtain ⟨time, present, later⟩ := fresh.time
  rcases spares with ⟨call, kept⟩ | rfl
  · rcases step_call enabled call with ⟨now, other, found, -, enters⟩ |
      ⟨-, ⟨other, found, removed, removes⟩ | ⟨-, leaves⟩⟩
    · have afterwards : expiredTime < now := Nat.lt_of_lt_of_le fresh.clock enters.later
      refine ⟨(enters.keys id key).mpr (.inl fresh.route), ?_, enters.clock ▸ afterwards⟩
      rw [enters.times, Map.lookup_insert_eq]
      split
      · exact ⟨now, rfl, afterwards⟩
      · exact ⟨time, present, later⟩
    · have different : (id, key) ≠ (other, found) := fun same => kept (same ▸ removed)
      refine ⟨(removes.keys id key).mpr ⟨fresh.route, different⟩, ⟨time, ?_, later⟩,
        removes.clock ▸ fresh.clock⟩
      rw [removes.times, Map.lookup_erase_eq, if_neg different]
      exact present
    · refine ⟨leaves.records ▸ fresh.route, ⟨time, ?_, later⟩,
        Nat.lt_of_lt_of_le fresh.clock leaves.later⟩
      rw [leaves.records]
      exact present
  · cases enabled
    exact ⟨fresh.route, ⟨time,
      RouteRecords.lookup_collectExpired_eq_some.mpr ⟨present, later⟩, later⟩, fresh.clock⟩

theorem Fresh.run {expiredTime : Instant} {events : List RouteEvent}
    (fresh : Fresh expiredTime id key state)
    (spares : routeMachine.Guarded (Spares expiredTime id key) state events)
    (reaches : routeMachine.run state events = some next) : Fresh expiredTime id key next :=
  (spares.throughout (fun _ _ _ => Fresh.step) fresh).final reaches

/-- Operations that are not part of an expiry leave what is collected alone. -/
theorem expiring_of_calls {events : List RouteEvent}
    (calls : ∀ event ∈ events, event.isCall = true)
    (reaches : routeMachine.run state events = some next) : next.expiring = state.expiring := by
  induction events generalizing state with
  | nil =>
    cases reaches
    rfl
  | cons event rest inductionHypothesis =>
    obtain ⟨first, others⟩ := List.forall_mem_cons.mp calls
    obtain ⟨middle, enabled, later⟩ := Machine.run_cons_eq_some.mp reaches
    rw [inductionHypothesis others later]
    rcases step_call enabled first with ⟨_, _, _, -, enters⟩ | ⟨-, ⟨_, _, -, removes⟩ | ⟨-, leaves⟩⟩
    · exact enters.expiring
    · exact removes.expiring
    · exact leaves.expiring

/-- In a run a route is entered after a time, and is not removed afterwards. -/
def RefreshedIn (expiredTime : Instant) (id : Ipv4Addr) (key : RouteKey) (start : RouteState)
    (events : List RouteEvent) : Prop :=
  ∃ earlier refresh later state time, events = earlier ++ refresh :: later ∧
    routeMachine.run start earlier = some state ∧
    state.entered refresh = some (time, id, key) ∧ expiredTime < time ∧
    routeMachine.Guarded (fun state event => state.removed event ≠ some (id, key)) state
      (refresh :: later)

/-- The route was used last at a time or before it. -/
def IsStale (expiredTime : Instant) (id : Ipv4Addr) (key : RouteKey) (state : RouteState) : Prop :=
  ∃ time, state.records.routeKeyTime.lookup (id, key) = some time ∧ time ≤ expiredTime

theorem isCall_of_entered (entered : state.entered event = some (now, id, key)) :
    event.isCall = true := by
  cases event with
  | addOwnerRoute | addRoute | addRouteIfAbsent => rfl
  | removeRoute | tcpDisconnect => cases entered
  | removeOldestRoute | beginExpiry | finishExpiry => cases entered

theorem fresh_of_refreshedIn {start final : RouteState} {expiredTime : Instant}
    {events : List RouteEvent}
    (calls : ∀ event ∈ events, event.isCall = true ∨ event = .beginExpiry expiredTime)
    (refreshed : RefreshedIn expiredTime id key start events)
    (reaches : routeMachine.run start events = some final) : Fresh expiredTime id key final := by
  obtain ⟨earlier, refresh, later, state, time, rfl, atRefresh, entered, late, kept⟩ := refreshed
  rw [Machine.run_append, atRefresh] at reaches
  obtain ⟨next, enabled, afterwards⟩ := Machine.run_cons_eq_some.mp reaches
  have fresh : Fresh expiredTime id key next := by
    rcases step_call enabled (isCall_of_entered entered) with ⟨_, _, _, same, enters⟩ | ⟨absent, -⟩
    · cases entered.symm.trans same
      exact fresh_of_enters enters late
    · rw [entered] at absent
      cases absent
  refine fresh.run ((kept.2 next enabled).mono_of_mem fun event member state different => ?_)
    afterwards
  rcases calls event (List.mem_append_right _ (List.mem_cons_of_mem _ member)) with call | isBegin
  · exact .inl ⟨call, different⟩
  · exact .inr isBegin

/-- A route that is entered after the time up to which routes expire, in any order with the two
parts of the expiry, is there at the end exactly if it was not stale when these were collected. -/
theorem survives_iff {start middle final : RouteState} {before between : List RouteEvent}
    {expiredTime : Instant} {id : Ipv4Addr} {key : RouteKey} (idle : start.expiring = [])
    (calls : ∀ event ∈ before ++ between, event.isCall = true)
    (collects : routeMachine.run start before = some middle)
    (finishes : routeMachine.run middle
      (.beginExpiry expiredTime :: (between ++ [.finishExpiry 0])) = some final)
    (refreshed : RefreshedIn expiredTime id key start
      (before ++ .beginExpiry expiredTime :: between)) :
    key ∈ final.records.keysTo id ∧
        (final.records.routeKeyTime.lookup (id, key)).isSome = true ↔
      ¬IsStale expiredTime id key middle := by
  obtain ⟨inBefore, inBetween⟩ := List.forall_mem_append.mp calls
  rw [← List.cons_append, Machine.run_append] at finishes
  obtain ⟨last, reachesLast, finish⟩ := Option.bind_eq_some_iff.mp finishes
  have reaches : routeMachine.run start (before ++ .beginExpiry expiredTime :: between) =
      some last := by
    rw [Machine.run_append, collects]
    exact reachesLast
  have fresh : Fresh expiredTime id key last := by
    refine fresh_of_refreshedIn (fun event member => ?_) refreshed reaches
    rcases List.mem_append.mp member with isBefore | later
    · exact .inl (inBefore event isBefore)
    · rcases List.mem_cons.mp later with isBegin | isBetween
      · exact .inr isBegin
      · exact .inl (inBetween event isBetween)
  have collected : last.expiring = [middle.records.expiredKeys expiredTime] := by
    obtain ⟨begun, enabled, afterwards⟩ := Machine.run_cons_eq_some.mp reachesLast
    cases enabled
    rw [expiring_of_calls inBetween afterwards]
    unfold RouteState.beginExpiry
    rw [expiring_of_calls inBefore collects, idle]
  have same : final.records =
      last.records.dropExpired (middle.records.expiredKeys expiredTime) := by
    obtain ⟨next, enabled, isFinal⟩ := Machine.run_cons_eq_some.mp finish
    cases isFinal
    obtain ⟨expired, isExpired, rfl⟩ := Option.map_eq_some_iff.mp enabled
    rw [collected] at isExpired
    cases isExpired
    rfl
  obtain ⟨time, present, -⟩ := fresh.time
  have hasTime : (final.records.routeKeyTime.lookup (id, key)).isSome = true := by
    rw [same, RouteRecords.routeKeyTime_dropExpired, present]
    rfl
  rw [and_iff_left hasTime, same, RouteRecords.mem_keysTo_dropExpired, and_iff_right fresh.route,
    RouteRecords.mem_expiredKeys]
  exact Iff.rfl

/-- A route comes back before the expiry, and another one is entered during it. -/
theorem survives_iff_inTime :
    ∃ middle final, routeMachine.run (.initial 9999 0)
        [.addOwnerRoute 1 7 2, .addRoute 6 7 ⟨2, 1, 30⟩] = some middle ∧
      routeMachine.run middle
        [.beginExpiry 5, .addRoute 8 7 ⟨3, 2, 40⟩, .finishExpiry 0] = some final ∧
      (2 ∈ final.records.keysTo 7 ∧ (final.records.routeKeyTime.lookup (7, 2)).isSome = true ↔
        ¬IsStale 5 7 2 middle) :=
  ⟨_, _, rfl, rfl, survives_iff (show (RouteState.initial 9999 0).expiring = [] from rfl)
    (show ∀ event ∈ [RouteEvent.addOwnerRoute 1 7 2, .addRoute 6 7 ⟨2, 1, 30⟩] ++
      [.addRoute 8 7 ⟨3, 2, 40⟩], event.isCall = true by decide) rfl rfl
    ⟨[.addOwnerRoute 1 7 2], .addRoute 6 7 ⟨2, 1, 30⟩,
      [.beginExpiry 5, .addRoute 8 7 ⟨3, 2, 40⟩], _, 6, rfl, rfl, rfl, by decide, by decide⟩⟩

/-- A route comes back after it was collected, and before it is dropped. -/
theorem cameBack_dropped :
    ¬∀ (start middle final : RouteState) (before between : List RouteEvent) (expiredTime : Instant)
      (id : Ipv4Addr) (key : RouteKey), start.expiring = [] →
      (∀ event ∈ before ++ between, event.isCall = true) →
      routeMachine.run start before = some middle →
      routeMachine.run middle
        (.beginExpiry expiredTime :: (between ++ [.finishExpiry 0])) = some final →
      RefreshedIn expiredTime id key start (before ++ .beginExpiry expiredTime :: between) →
      key ∈ final.records.keysTo id ∧
        (final.records.routeKeyTime.lookup (id, key)).isSome = true := by
  intro always
  have survives := always (.initial 9999 0) _ _ [.addOwnerRoute 1 7 2] [.addRoute 6 7 ⟨2, 1, 30⟩] 5
    7 2 rfl (by decide) rfl rfl
    ⟨[.addOwnerRoute 1 7 2, .beginExpiry 5], .addRoute 6 7 ⟨2, 1, 30⟩, [], _, 6, rfl, rfl, rfl,
      by decide, by decide⟩
  exact absurd survives.1 (by decide)

/-! ### A tunnel that is closed -/

/-- The key that an operation may enter a route over. -/
def RouteEvent.addedKey : RouteEvent → Option RouteKey
  | .addOwnerRoute _ _ key => some key
  | .addRoute _ _ route => some route.routeKey
  | .addRouteIfAbsent _ _ route => some route.routeKey
  | _ => none

theorem addedKey_of_entered (entered : state.entered event = some (now, id, key)) :
    event.addedKey = some key := by
  cases event with
  | addOwnerRoute now other found =>
    cases entered
    rfl
  | addRoute now other route =>
    unfold RouteState.entered at entered
    obtain ⟨-, same⟩ := Option.ite_none_right_eq_some.mp entered
    cases same
    rfl
  | addRouteIfAbsent now other route =>
    unfold RouteState.entered at entered
    obtain ⟨-, entered⟩ := Option.ite_none_left_eq_some.mp entered
    obtain ⟨-, same⟩ := Option.ite_none_right_eq_some.mp entered
    cases same
    rfl
  | removeRoute | tcpDisconnect => cases entered
  | removeOldestRoute | beginExpiry | finishExpiry => cases entered

/-- A key is over no route unless it was before, or a route is entered over it. -/
theorem keysTo_step {found : RouteKey} (enabled : routeMachine.step state event = some next)
    (member : found ∈ next.records.keysTo id) :
    found ∈ state.records.keysTo id ∨ event.addedKey = some found := by
  cases call : event.isCall with
  | true =>
    rcases step_call enabled call with ⟨now, other, key, entered, enters⟩ |
      ⟨-, ⟨other, key, -, removes⟩ | ⟨-, leaves⟩⟩
    · rcases (enters.keys id found).mp member with before | ⟨-, rfl⟩
      · exact .inl before
      · exact .inr (addedKey_of_entered entered)
    · exact .inl ((removes.keys id found).mp member).1
    · exact .inl (leaves.records ▸ member)
  | false =>
    have fewer := (sublist_of_expiry enabled call id).map Route.routeKey
    exact .inl (fewer.subset member)

theorem keysTo_run {found : RouteKey} {events : List RouteEvent}
    (others : ∀ event ∈ events, event.addedKey ≠ some found)
    (reaches : routeMachine.run state events = some next)
    (absent : ∀ id, found ∉ state.records.keysTo id) (id : Ipv4Addr) :
    found ∉ next.records.keysTo id := by
  induction events generalizing state with
  | nil =>
    cases reaches
    exact absent id
  | cons event rest inductionHypothesis =>
    obtain ⟨first, later⟩ := List.forall_mem_cons.mp others
    obtain ⟨middle, enabled, reaches⟩ := Machine.run_cons_eq_some.mp reaches
    refine inductionHypothesis later reaches fun other member => ?_
    rcases keysTo_step enabled member with before | added
    · exact absent other before
    · exact first added

theorem mem_keysTo_of_getRouteById {records : RouteRecords} {route : Route}
    (chosen : records.routeTable.getRouteById id = some route) :
    route.routeKey ∈ records.keysTo id := by
  unfold RouteTable.getRouteById at chosen
  unfold RouteRecords.keysTo RouteRecords.routesTo
  cases present : records.routeTable.routeTable.lookup id with
  | none =>
    rw [present] at chosen
    cases chosen
  | some list =>
    rw [present] at chosen
    dsimp only at chosen
    refine List.mem_map_of_mem ?_
    split at chosen
    · next found =>
      cases chosen
      exact List.mem_of_find?_eq_some found
    · exact List.mem_of_head? chosen

theorem mem_keysTo_tcpDisconnect {records : RouteRecords} :
    key ∈ (records.tcpDisconnect key).keysTo id ↔
      key ∈ records.keysTo id ∧ records.getIdByRouteKey key ≠ some id := by
  unfold RouteRecords.tcpDisconnect
  cases isOwner : records.getIdByRouteKey key with
  | none => exact (and_iff_left (Option.some_ne_none id).symm).symm
  | some owner =>
    dsimp only
    rw [RouteRecords.mem_keysTo_removeRoute]
    refine and_congr_right' (not_congr ⟨fun same => ?_, fun same => ?_⟩)
    · exact congrArg some (congrArg Prod.fst same).symm
    · rw [Option.some.inj same]

/-- No route over a key is left when its tunnel is closed, and none is chosen until one is entered
again, exactly if the key had no routes but those to its owner. -/
theorem tcpDisconnect_clears_iff (state : RouteState) (key : RouteKey) :
    ((∀ id, key ∉ (state.records.tcpDisconnect key).keysTo id) ∧
      ∀ events next,
        routeMachine.run { state with records := state.records.tcpDisconnect key } events =
          some next →
        (∀ event ∈ events, event.addedKey ≠ some key) →
        ∀ id route, next.records.routeTable.getRouteById id = some route →
          route.routeKey ≠ key) ↔
      ∀ id, key ∈ state.records.keysTo id → state.records.getIdByRouteKey key = some id := by
  constructor
  · rintro ⟨cleared, -⟩ id member
    by_contra isOther
    exact cleared id (mem_keysTo_tcpDisconnect.mpr ⟨member, isOther⟩)
  · intro owned
    have cleared : ∀ id, key ∉ (state.records.tcpDisconnect key).keysTo id := by
      intro id member
      obtain ⟨before, isOther⟩ := mem_keysTo_tcpDisconnect.mp member
      exact isOther (owned id before)
    refine ⟨cleared, fun events next reaches others id route chosen same => ?_⟩
    refine keysTo_run others reaches cleared id ?_
    rw [← same]
    exact mem_keysTo_of_getRouteById chosen

/-- A tunnel to one client carries the only route to another one. -/
def relayedOverTunnel : List RouteEvent :=
  [.addOwnerRoute 0 7 1, .addOwnerRoute 0 8 2, .addRoute 1 8 ⟨1, 2, 30⟩, .tcpDisconnect 2]

/-- Once that tunnel is closed, the other client is still reached over it. -/
theorem relayedOverTunnel_stays :
    ¬∀ (defaultRtt : UInt32) (clock : Instant) (events : List RouteEvent) (state : RouteState)
      (key : RouteKey), routeMachine.run (.initial defaultRtt clock) events = some state →
      (∀ id, key ∉ (state.records.tcpDisconnect key).keysTo id) ∧
        ∀ id route, (state.records.tcpDisconnect key).routeTable.getRouteById id = some route →
          route.routeKey ≠ key := by
  intro always
  have cleared := always 9999 0 relayedOverTunnel _ 1 rfl
  exact absurd rfl (cleared.2 8 ⟨1, 2, 30⟩ rfl)

end Vnt.Client
