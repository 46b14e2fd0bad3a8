/-
This file settles that what is recorded beside the routes of a client fits them. A route may lose
its time while an expiry is underway, but then that expiry has collected it and drops it at its end.
So as soon as no expiry is underway, every route has a time, and will expire at some time.
-/

import Vnt.Client.RouteOperations

namespace Vnt.Client

open Vnt.Base Vnt.Fec

/-- The keys over which a client is reached. -/
def RouteRecords.keysTo (records : RouteRecords) (id : Ipv4Addr) : List RouteKey :=
  (records.routesTo id).map Route.routeKey

/-- The records fit each other, when these entries are still to be dropped. -/
structure Booked (records : RouteRecords) (expiring : List (List (Ipv4Addr × RouteKey))) :
    Prop where
  distinct : ∀ id, (records.keysTo id).Nodup
  nonempty : records.Nonempty
  timed : ∀ id, ∀ key ∈ records.keysTo id, (records.routeKeyTime.lookup (id, key)).isSome = true ∨
    ∃ expired ∈ expiring, (id, key) ∈ expired
  owned : ∀ key id, records.routeKeyOwner.lookup key = some id → key ∈ records.keysTo id

/-! ### Entering a route -/

theorem nodup_map_enterRoute {list : List Route} (distinct : (list.map Route.routeKey).Nodup)
    (route : Route) : ((enterRoute list route).map Route.routeKey).Nodup := by
  rw [(map_enterRoute_perm list route).nodup_iff, List.nodup_cons]
  exact ⟨distinct.not_mem_erase, distinct.erase route.routeKey⟩

theorem mem_map_enterRoute {list : List Route} {route : Route} {key : RouteKey} :
    key ∈ (enterRoute list route).map Route.routeKey ↔
      key = route.routeKey ∨ key ∈ list.map Route.routeKey := by
  rw [(map_enterRoute_perm list route).mem_iff, List.mem_cons]
  by_cases same : key = route.routeKey
  · exact ⟨fun _ => .inl same, fun _ => .inl same⟩
  · rw [List.mem_erase_of_ne same]

namespace RouteRecords

variable {records : RouteRecords} {id other : Ipv4Addr} {key : RouteKey}

theorem nodup_map_enterOwner (distinct : (records.keysTo id).Nodup) (key : RouteKey) :
    ((records.enterOwner id key).map Route.routeKey).Nodup := by
  unfold enterOwner
  split
  · exact distinct
  · next absent =>
    rw [List.map_append]
    refine List.Nodup.append distinct (List.nodup_singleton _) ?_
    intro found member isKey
    obtain ⟨route, inList, rfl⟩ := List.mem_map.mp member
    refine absent (List.any_eq_true.mpr ⟨route, inList, ?_⟩)
    exact beq_iff_eq.mpr (List.mem_singleton.mp isKey)

theorem mem_map_enterOwner {found : RouteKey} :
    found ∈ (records.enterOwner id key).map Route.routeKey ↔
      found = key ∨ found ∈ records.keysTo id := by
  unfold enterOwner
  split
  · next present =>
    obtain ⟨route, member, same⟩ := List.any_eq_true.mp present
    refine ⟨.inr, ?_⟩
    rintro (rfl | isOld)
    · exact List.mem_map.mpr ⟨route, member, beq_iff_eq.mp same⟩
    · exact isOld
  · rw [List.map_append, List.mem_append, or_comm]
    exact or_congr_left List.mem_singleton

theorem keysTo_insert (records : RouteRecords) (id other : Ipv4Addr) (list : List Route)
    (times : Map (Ipv4Addr × RouteKey) Instant) (owners : Map RouteKey Ipv4Addr) :
    RouteRecords.keysTo
      { records with
        routeTable := ⟨records.routeTable.routeTable.insert id list⟩
        routeKeyTime := times
        routeKeyOwner := owners } other =
      if other = id then list.map Route.routeKey else records.keysTo other := by
  unfold keysTo routesTo
  dsimp only
  rw [Map.lookup_insert_eq]
  split <;> rfl

end RouteRecords

variable {records : RouteRecords} {expiring : List (List (Ipv4Addr × RouteKey))} {now : Instant}
  {id : Ipv4Addr} {key : RouteKey}

/-- What is entered for a client and a key gets its time, and may make the client the owner. -/
theorem Booked.enter (booked : Booked records expiring) {list : List Route}
    {owners : Map RouteKey Ipv4Addr} (now : Instant)
    (distinct : (list.map Route.routeKey).Nodup)
    (keys : ∀ found, found ∈ list.map Route.routeKey ↔ found = key ∨ found ∈ records.keysTo id)
    (owned : ∀ found other, owners.lookup found = some other →
      records.routeKeyOwner.lookup found = some other ∨ found = key ∧ other = id) :
    Booked
      { records with
        routeTable := ⟨records.routeTable.routeTable.insert id list⟩
        routeKeyTime := records.routeKeyTime.insert (id, key) now
        routeKeyOwner := owners } expiring := by
  have isKey : key ∈ list.map Route.routeKey := (keys key).mpr (.inl rfl)
  refine ⟨fun other => ?_, fun other => ?_, fun other found member => ?_,
    fun found other isOwner => ?_⟩
  · rw [RouteRecords.keysTo_insert]
    split
    · exact distinct
    · exact booked.distinct other
  · dsimp only
    rw [Map.lookup_insert_eq]
    split
    · intro emptied
      rw [Option.some.inj emptied] at isKey
      exact List.not_mem_nil isKey
    · exact booked.nonempty other
  · dsimp only
    rw [Map.lookup_insert_eq]
    split
    · exact .inl rfl
    · next isOther =>
      rw [RouteRecords.keysTo_insert] at member
      split at member
      · next same =>
        subst same
        rcases (keys found).mp member with rfl | isOld
        · exact absurd rfl isOther
        · exact booked.timed other found isOld
      · exact booked.timed other found member
  · rw [RouteRecords.keysTo_insert]
    rcases owned found other isOwner with before | ⟨rfl, rfl⟩
    · have isOld := booked.owned found other before
      split
      · next same => exact (keys found).mpr (.inr (same ▸ isOld))
      · exact isOld
    · rw [if_pos rfl]
      exact isKey

theorem Booked.addOwnerRoute (booked : Booked records expiring) (now : Instant) (id : Ipv4Addr)
    (key : RouteKey) : Booked (records.addOwnerRoute now id key) expiring := by
  rw [RouteRecords.addOwnerRoute_eq]
  refine booked.enter now (RouteRecords.nodup_map_enterOwner (booked.distinct id) key)
    (fun _ => RouteRecords.mem_map_enterOwner) fun found other isOwner => ?_
  rw [Map.lookup_insert_eq] at isOwner
  split at isOwner
  · next same => exact .inr ⟨same, (Option.some.inj isOwner).symm⟩
  · exact .inl isOwner

theorem Booked.addRoute (booked : Booked records expiring) (now : Instant) (id : Ipv4Addr)
    (route : Route) : Booked (records.addRoute now id route) expiring := by
  by_cases enters : records.Enters id route
  · rw [RouteRecords.addRoute_eq enters]
    refine booked.enter now (nodup_map_enterRoute (booked.distinct id) route)
      (fun _ => mem_map_enterRoute) fun found other isOwner => ?_
    unfold RouteRecords.ownersWith at isOwner
    split at isOwner
    · rw [Map.lookup_insert_eq] at isOwner
      split at isOwner
      · next same => exact .inr ⟨same, (Option.some.inj isOwner).symm⟩
      · exact .inl isOwner
    · exact .inl isOwner
  · rw [RouteRecords.addRoute_eq_self enters]
    exact booked

/-! ### Dropping routes -/

theorem RouteRecords.mem_keysTo_dropExpired {expired : List (Ipv4Addr × RouteKey)} :
    key ∈ (records.dropExpired expired).keysTo id ↔
      key ∈ records.keysTo id ∧ (id, key) ∉ expired := by
  unfold keysTo
  rw [List.mem_map, List.mem_map]
  constructor
  · rintro ⟨route, member, rfl⟩
    obtain ⟨before, fresh⟩ := mem_routesTo_dropExpired.mp member
    exact ⟨⟨route, before, rfl⟩, fresh⟩
  · rintro ⟨⟨route, before, rfl⟩, fresh⟩
    exact ⟨route, mem_routesTo_dropExpired.mpr ⟨before, fresh⟩, rfl⟩

/-- Entries may be dropped as long as the others keep what they have. -/
theorem Booked.drop (booked : Booked records expiring) (expired : List (Ipv4Addr × RouteKey))
    (times : Map (Ipv4Addr × RouteKey) Instant) {others : List (List (Ipv4Addr × RouteKey))}
    (timed : ∀ entry, entry ∉ expired → (records.routeKeyTime.lookup entry).isSome = true →
      (times.lookup entry).isSome = true ∨ ∃ expired ∈ others, entry ∈ expired)
    (remaining : ∀ entry, entry ∉ expired → (∃ expired ∈ expiring, entry ∈ expired) →
      ∃ expired ∈ others, entry ∈ expired) :
    Booked { records.dropExpired expired with routeKeyTime := times } others := by
  refine ⟨fun id => ?_, booked.nonempty.dropExpired expired, fun id key member => ?_,
    fun key id isOwner => ?_⟩
  · have fewer := (records.sublist_dropExpired expired id).map Route.routeKey
    exact fewer.nodup (booked.distinct id)
  · obtain ⟨before, fresh⟩ := RouteRecords.mem_keysTo_dropExpired.mp member
    rcases booked.timed id key before with hasTime | collected
    · exact timed (id, key) fresh hasTime
    · exact .inr (remaining (id, key) fresh collected)
  · obtain ⟨before, fresh⟩ := RouteRecords.owner_dropExpired.mp isOwner
    exact RouteRecords.mem_keysTo_dropExpired.mpr ⟨booked.owned key id before, fresh⟩

theorem Booked.removeRoute (booked : Booked records expiring) (id : Ipv4Addr) (key : RouteKey) :
    Booked (records.removeRoute id key) expiring := by
  refine booked.drop [(id, key)] _ (fun entry fresh hasTime => .inl ?_)
    fun _ _ collected => collected
  rw [Map.lookup_erase_eq, if_neg fun same => fresh (List.mem_singleton.mpr same)]
  exact hasTime

/-- An entry that lost its time is collected. -/
theorem Booked.collectExpired (booked : Booked records expiring) (expiredTime : Instant) :
    Booked (records.collectExpired expiredTime)
      (records.expiredKeys expiredTime :: expiring) := by
  refine ⟨booked.distinct, booked.nonempty, fun id key member => ?_, booked.owned⟩
  rcases booked.timed id key member with hasTime | ⟨expired, underway, collected⟩
  · obtain ⟨time, present⟩ := Option.isSome_iff_exists.mp hasTime
    by_cases isOld : time ≤ expiredTime
    · exact .inr ⟨_, List.mem_cons_self,
        RouteRecords.mem_expiredKeys.mpr ⟨time, present, isOld⟩⟩
    · have kept := RouteRecords.lookup_collectExpired_eq_some.mpr
        ⟨present, Nat.lt_of_not_le isOld⟩
      exact .inl (Option.isSome_of_eq_some kept)
  · exact .inr ⟨expired, List.mem_cons_of_mem _ underway, collected⟩

theorem Booked.removeOldestRoute (booked : Booked records expiring) (expiredTime : Instant) :
    Booked (records.removeOldestRoute expiredTime) expiring := by
  rw [RouteRecords.removeOldestRoute_eq]
  refine (booked.collectExpired expiredTime).drop _ _ (fun entry fresh hasTime => .inl ?_)
    fun entry fresh collected => ?_
  · rw [RouteRecords.lookup_eraseAll_expiredKeys]
    exact hasTime
  · obtain ⟨expired, member, inExpired⟩ := collected
    rcases List.mem_cons.mp member with rfl | underway
    · exact absurd inExpired fresh
    · exact ⟨expired, underway, inExpired⟩

theorem Booked.finishExpiry {expired : List (Ipv4Addr × RouteKey)} {index : Nat}
    (booked : Booked records expiring) (isExpired : expiring[index]? = some expired) :
    Booked (records.dropExpired expired) (expiring.eraseIdx index) := by
  refine booked.drop expired (records.dropExpired expired).routeKeyTime
    (fun entry fresh hasTime => .inl ?_) fun entry fresh collected => ?_
  · rw [RouteRecords.routeKeyTime_dropExpired]
    exact hasTime
  · obtain ⟨other, member, inOther⟩ := collected
    obtain ⟨place, atPlace⟩ := List.mem_iff_getElem?.mp member
    refine ⟨other, List.mem_eraseIdx_iff_getElem?.mpr ⟨place, ?_, atPlace⟩, inOther⟩
    rintro rfl
    cases isExpired.symm.trans atPlace
    exact fresh inOther

/-! ### Every run -/

theorem booked_initial (defaultRtt : UInt32) (clock : Instant) :
    Booked (RouteState.initial defaultRtt clock).records [] :=
  ⟨fun _ => List.nodup_nil, fun _ => (Option.some_ne_none []).symm,
    fun _ _ member => (List.not_mem_nil member).elim, fun _ _ isOwner => by cases isOwner⟩

theorem booked_step {state next : RouteState} {event : RouteEvent}
    (booked : Booked state.records state.expiring)
    (enabled : routeMachine.step state event = some next) :
    Booked next.records next.expiring := by
  cases event with
  | addOwnerRoute now id key =>
    obtain ⟨-, rfl⟩ := RouteState.timed_eq_some.mp enabled
    exact booked.addOwnerRoute now id key
  | addRoute now id route =>
    obtain ⟨-, rfl⟩ := RouteState.timed_eq_some.mp enabled
    exact booked.addRoute now id route
  | addRouteIfAbsent now id route =>
    obtain ⟨-, rfl⟩ := RouteState.timed_eq_some.mp enabled
    dsimp only
    unfold RouteRecords.addRouteIfAbsent
    split
    · exact booked
    · exact booked.addRoute now id route
  | removeRoute id key =>
    cases enabled
    exact booked.removeRoute id key
  | tcpDisconnect key =>
    cases enabled
    dsimp only
    unfold RouteRecords.tcpDisconnect
    split
    · exact booked
    · next id isOwner => exact booked.removeRoute id key
  | removeOldestRoute expiredTime =>
    cases enabled
    exact booked.removeOldestRoute expiredTime
  | beginExpiry expiredTime =>
    cases enabled
    exact booked.collectExpired expiredTime
  | finishExpiry index =>
    obtain ⟨expired, isExpired, rfl⟩ := Option.map_eq_some_iff.mp enabled
    exact booked.finishExpiry isExpired

theorem booked_of_run {defaultRtt : UInt32} {clock : Instant} {events : List RouteEvent}
    {state : RouteState}
    (reaches : routeMachine.run (.initial defaultRtt clock) events = some state) :
    Booked state.records state.expiring :=
  Machine.run_induction (fun _ state => Booked state.records state.expiring)
    (booked_initial defaultRtt clock)
    (fun _ _ _ _ _ booked enabled => booked_step booked enabled) reaches

/-- After every run that leaves no expiry underway the keys of a client are different, no client is
listed without a route, every route has a time, and the owner of a key has a route over it. -/
theorem records_fit {defaultRtt : UInt32} {clock : Instant} {events : List RouteEvent}
    {state : RouteState}
    (reaches : routeMachine.run (.initial defaultRtt clock) events = some state)
    (idle : state.expiring = []) :
    (∀ id list, state.records.routeTable.routeTable.lookup id = some list →
      list ≠ [] ∧ (list.map Route.routeKey).Nodup ∧
        ∀ route ∈ list,
          (state.records.routeKeyTime.lookup (id, route.routeKey)).isSome = true) ∧
      ∀ key id, state.records.getIdByRouteKey key = some id →
        ∃ list, state.records.routeTable.routeTable.lookup id = some list ∧
          ∃ route ∈ list, route.routeKey = key := by
  have booked := booked_of_run reaches
  rw [idle] at booked
  have listed : ∀ {id : Ipv4Addr} {list : List Route},
      state.records.routeTable.routeTable.lookup id = some list →
      state.records.routesTo id = list := fun present =>
    congrArg (fun found : Option (List Route) => found.getD []) present
  constructor
  · intro id list present
    refine ⟨fun emptied => booked.nonempty id (emptied ▸ present), ?_, fun route member => ?_⟩
    · rw [← listed present]
      exact booked.distinct id
    · rw [← listed present] at member
      rcases booked.timed id _ (List.mem_map_of_mem member) with hasTime | ⟨_, underway, _⟩
      · exact hasTime
      · exact (List.not_mem_nil underway).elim
  · intro key id isOwner
    obtain ⟨route, member, same⟩ := List.mem_map.mp (booked.owned key id isOwner)
    cases present : state.records.routeTable.routeTable.lookup id with
    | none =>
      unfold RouteRecords.routesTo at member
      rw [present] at member
      exact (List.not_mem_nil member).elim
    | some list => exact ⟨list, rfl, route, listed present ▸ member, same⟩

/-- A route is entered again between the two parts of an expiry. -/
def enteredAgain : List RouteEvent :=
  [.addOwnerRoute 1 7 2, .addRoute 2 7 ⟨3, 2, 5⟩, .beginExpiry 1, .addRoute 4 7 ⟨2, 1, 30⟩,
    .finishExpiry 0]

theorem records_fit_enteredAgain :
    ∃ state, routeMachine.run (.initial 9999 0) enteredAgain = some state ∧
      ((∀ id list, state.records.routeTable.routeTable.lookup id = some list →
        list ≠ [] ∧ (list.map Route.routeKey).Nodup ∧
          ∀ route ∈ list,
            (state.records.routeKeyTime.lookup (id, route.routeKey)).isSome = true) ∧
        ∀ key id, state.records.getIdByRouteKey key = some id →
          ∃ list, state.records.routeTable.routeTable.lookup id = some list ∧
            ∃ route ∈ list, route.routeKey = key) :=
  ⟨_, rfl, records_fit (show routeMachine.run (.initial 9999 0) enteredAgain = some _ from rfl) rfl⟩

end Vnt.Client
