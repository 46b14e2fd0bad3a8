/-
This file says what the operations on the routes of a client do, and in which orders they can take
place. A route that is entered stands between two parts of a list that make up the routes over
other keys. Expiring takes two steps: the keys that were not used for long are collected first, and
their routes are dropped later, and every other operation may come between.
-/

import Vnt.Base.Machine
import Vnt.Client.RouteRecords

namespace Vnt.Client

open Vnt.Base Vnt.Fec

/-! ### A route that moves to its place -/

theorem rttAt_append (before after : List Route) (route : Route) :
    rttAt (before ++ route :: after) before.length = route.rtt.toNat := by
  unfold rttAt
  rw [List.getElem?_append_right (Nat.le_refl _), Nat.sub_self]
  rfl

theorem swapRoutes_append (before after : List Route) (one two : Route) :
    swapRoutes (before ++ one :: two :: after) before.length (before.length + 1) =
      before ++ two :: one :: after := by
  have isOne : (before ++ one :: two :: after)[before.length]? = some one := by
    rw [List.getElem?_append_right (Nat.le_refl _), Nat.sub_self]
    rfl
  have isTwo : (before ++ one :: two :: after)[before.length + 1]? = some two := by
    rw [List.getElem?_append_right (Nat.le_add_right _ 1), Nat.add_sub_cancel_left]
    rfl
  unfold swapRoutes
  rw [isOne, isTwo]
  dsimp only
  rw [List.set_append_right _ _ (Nat.le_refl _), Nat.sub_self, List.set_cons_zero,
    List.set_append_right _ _ (Nat.le_add_right _ 1), Nat.add_sub_cancel_left, List.set_cons_succ,
    List.set_cons_zero]

theorem swapRoutes_comm (list : List Route) {first second : Nat} (apart : first ≠ second) :
    swapRoutes list first second = swapRoutes list second first := by
  unfold swapRoutes
  cases list[first]? with
  | none => cases list[second]? <;> rfl
  | some one =>
    cases list[second]? with
    | none => rfl
    | some two => exact List.set_comm two one apart

/-- A route moves forward, and stops behind one without a greater rtt. -/
theorem bubbleForward_append (before after : List Route) (route : Route) :
    ∃ front back, before = front ++ back ∧
      bubbleForward (before ++ route :: after) before.length =
        (front ++ route :: (back ++ after), front.length) ∧
      ∀ other ∈ front.getLast?, other.rtt ≤ route.rtt := by
  induction before using List.reverseRecOn generalizing after with
  | nil => exact ⟨[], [], rfl, rfl, by simp⟩
  | append_singleton before last inductionHypothesis =>
    have atLast : before ++ [last] ++ route :: after = before ++ last :: route :: after := by
      rw [List.append_assoc, List.singleton_append]
    have atRoute : rttAt (before ++ last :: route :: after) (before.length + 1) =
        route.rtt.toNat := by
      rw [← atLast, ← rttAt_append (before ++ [last]) after route, List.length_append,
        List.length_singleton]
    rw [List.length_append, List.length_singleton, atLast]
    unfold bubbleForward
    rw [atRoute, rttAt_append]
    by_cases greater : route.rtt.toNat < last.rtt.toNat
    · rw [if_pos greater, swapRoutes_comm _ (Nat.succ_ne_self _), swapRoutes_append]
      obtain ⟨front, back, isBefore, moved, stop⟩ := inductionHypothesis (last :: after)
      refine ⟨front, back ++ [last], by rw [isBefore, List.append_assoc], ?_, stop⟩
      rw [moved, List.append_assoc, List.singleton_append]
    · rw [if_neg greater]
      refine ⟨before ++ [last], [], (List.append_nil _).symm, ?_, ?_⟩
      · rw [List.nil_append, atLast, List.length_append, List.length_singleton]
      · intro other isLast
        rw [List.getLast?_concat, Option.mem_some_iff] at isLast
        rw [← isLast]
        exact UInt32.le_iff_toNat_le.mpr (Nat.le_of_not_lt greater)

/-- A route moves back past routes with a smaller rtt, and stops in front of one without. -/
theorem bubbleBackward_append {steps : Nat} (before after : List Route) (route : Route)
    (enough : after.length ≤ steps) :
    ∃ front back, after = front ++ back ∧
      bubbleBackward steps (before ++ route :: after) before.length =
        before ++ front ++ route :: back ∧
      (∀ other ∈ front, other.rtt < route.rtt) ∧
      ∀ other ∈ back.head?, route.rtt ≤ other.rtt := by
  induction steps generalizing before after with
  | zero =>
    rw [List.length_eq_zero_iff.mp (Nat.le_zero.mp enough)]
    exact ⟨[], [], rfl, by rw [List.append_nil]; rfl,
      fun _ member => (List.not_mem_nil member).elim, by simp⟩
  | succ steps inductionHypothesis =>
    cases after with
    | nil =>
      refine ⟨[], [], rfl, ?_, fun _ member => (List.not_mem_nil member).elim, by simp⟩
      unfold bubbleBackward
      rw [if_neg (by simp), List.append_nil]
    | cons next after =>
      have atNext : rttAt (before ++ route :: next :: after) (before.length + 1) =
          next.rtt.toNat := by
        rw [← rttAt_append (before ++ [route]) after next, List.length_append,
          List.length_singleton, List.append_assoc, List.singleton_append]
      have inside : before.length + 1 < (before ++ route :: next :: after).length := by
        rw [List.length_append, List.length_cons, List.length_cons]
        omega
      unfold bubbleBackward
      rw [atNext, rttAt_append]
      by_cases smaller : next.rtt.toNat < route.rtt.toNat
      · rw [if_pos ⟨inside, smaller⟩, swapRoutes_append]
        obtain ⟨front, back, isAfter, moved, past, stop⟩ :=
          inductionHypothesis (before ++ [next]) after (Nat.le_of_succ_le_succ enough)
        rw [List.length_append, List.length_singleton, List.append_assoc,
          List.singleton_append] at moved
        refine ⟨next :: front, back, by rw [isAfter, List.cons_append], ?_, ?_, stop⟩
        · rw [moved, List.append_assoc before [next] front, List.singleton_append]
        · intro other member
          rcases List.mem_cons.mp member with rfl | inFront
          · exact UInt32.lt_iff_toNat_lt.mpr smaller
          · exact past other inFront
      · rw [if_neg fun both => smaller both.2]
        refine ⟨[], next :: after, rfl, by rw [List.append_nil],
          fun _ member => (List.not_mem_nil member).elim, ?_⟩
        intro other isNext
        rw [List.head?_cons, Option.mem_some_iff] at isNext
        rw [← isNext]
        exact UInt32.le_iff_toNat_le.mpr (Nat.le_of_not_lt smaller)

/-! ### The routes to one client -/

/-- The routes stand in the order of their round trip times. -/
def SortedByRtt (list : List Route) : Prop := list.Pairwise fun one other => one.rtt ≤ other.rtt

/-- The routes without the first one over a key. -/
def eraseKey (list : List Route) (key : RouteKey) : List Route :=
  list.eraseP fun route => route.routeKey == key

/-- The routes once one was entered: in the place of the one over its key, or as a new one. -/
def enterRoute (list : List Route) (route : Route) : List Route :=
  match list.findIdx? fun other : Route => other.routeKey == route.routeKey with
  | some index => replaceRoute list index route
  | none => insertRoute list route

theorem SortedByRtt.insert {front back : List Route} {route : Route}
    (sorted : SortedByRtt (front ++ back)) (below : ∀ other ∈ front, other.rtt ≤ route.rtt)
    (above : ∀ other ∈ back, route.rtt ≤ other.rtt) : SortedByRtt (front ++ route :: back) := by
  obtain ⟨inFront, inBack, across⟩ := List.pairwise_append.mp sorted
  refine List.pairwise_append.mpr ⟨inFront, List.pairwise_cons.mpr ⟨above, inBack⟩, ?_⟩
  intro one isFront other member
  rcases List.mem_cons.mp member with rfl | isBack
  · exact below one isFront
  · exact across one isFront other isBack

/-- What bounds the last of sorted routes bounds them all. -/
theorem SortedByRtt.le_of_getLast? {list : List Route} {bound : UInt32} (sorted : SortedByRtt list)
    (last : ∀ other ∈ list.getLast?, other.rtt ≤ bound) : ∀ other ∈ list, other.rtt ≤ bound := by
  cases list using List.reverseRecOn with
  | nil => exact fun _ member => (List.not_mem_nil member).elim
  | append_singleton before route =>
    have atLast := last route (by rw [List.getLast?_concat, Option.mem_some_iff])
    intro other member
    rcases List.mem_append.mp member with inBefore | isLast
    · have ordered := (List.pairwise_append.mp sorted).2.2 other inBefore route
        (List.mem_singleton_self route)
      exact UInt32.le_trans ordered atLast
    · rwa [List.mem_singleton.mp isLast]

theorem SortedByRtt.le_of_head? {list : List Route} {bound : UInt32} (sorted : SortedByRtt list)
    (first : ∀ other ∈ list.head?, bound ≤ other.rtt) : ∀ other ∈ list, bound ≤ other.rtt := by
  cases list with
  | nil => exact fun _ member => (List.not_mem_nil member).elim
  | cons route after =>
    have atFirst := first route rfl
    intro other member
    rcases List.mem_cons.mp member with rfl | inAfter
    · exact atFirst
    · exact UInt32.le_trans atFirst ((List.pairwise_cons.mp sorted).1 other inAfter)

/-- A route that replaces another one stands somewhere between the others, and where it belongs if
these are sorted. -/
theorem replaceRoute_append (before after : List Route) (old route : Route) :
    ∃ front back, front ++ back = before ++ after ∧
      replaceRoute (before ++ old :: after) before.length route = front ++ route :: back ∧
      (SortedByRtt (before ++ after) → SortedByRtt (front ++ route :: back)) := by
  obtain ⟨first, behind, isBefore, forward, last⟩ := bubbleForward_append before after route
  have enough : (behind ++ after).length ≤ (first ++ route :: (behind ++ after)).length :=
    ((List.sublist_cons_self _ _).trans (List.sublist_append_right _ _)).length_le
  obtain ⟨second, back, isBehind, backward, passed, next⟩ :=
    bubbleBackward_append first (behind ++ after) route enough
  have parts : before ++ after = first ++ second ++ back := by
    rw [isBefore, List.append_assoc, List.append_assoc, isBehind]
  refine ⟨first ++ second, back, parts.symm, ?_, fun sorted => ?_⟩
  · unfold replaceRoute
    rw [List.set_append_right _ _ (Nat.le_refl _), Nat.sub_self, List.set_cons_zero, forward]
    exact backward
  · rw [parts] at sorted
    obtain ⟨inFront, inBack, -⟩ := List.pairwise_append.mp sorted
    have inFirst : SortedByRtt first := (List.pairwise_append.mp inFront).1
    refine sorted.insert (fun other member => ?_) (SortedByRtt.le_of_head? inBack next)
    rcases List.mem_append.mp member with isFirst | isSecond
    · exact inFirst.le_of_getLast? last other isFirst
    · exact UInt32.le_of_lt (passed other isSecond)

/-- The first item that meets a condition, between those in front of it and the others. -/
theorem exists_append_of_findIdx? {Item : Type} {list : List Item} {holds : Item → Bool}
    {index : Nat} (found : list.findIdx? holds = some index) :
    ∃ before hit after, list = before ++ hit :: after ∧ before.length = index ∧
      holds hit = true ∧ ∀ other ∈ before, holds other = false := by
  obtain ⟨inside, isHit, earlier⟩ := List.findIdx?_eq_some_iff_getElem.mp found
  refine ⟨list.take index, list[index], list.drop (index + 1), ?_, ?_, isHit, ?_⟩
  · rw [List.cons_getElem_drop_succ, List.take_append_drop]
  · exact List.length_take_of_le (Nat.le_of_lt inside)
  · intro other member
    obtain ⟨place, bound, rfl⟩ := List.mem_take_iff_getElem.mp member
    exact Bool.eq_false_iff.mpr (earlier place (Nat.lt_of_lt_of_le bound (Nat.min_le_left _ _)))

theorem insertIdx_append {Item : Type} (before after : List Item) (item : Item) :
    (before ++ after).insertIdx before.length item = before ++ item :: after := by
  induction before with
  | nil => rfl
  | cons first before inductionHypothesis =>
    rw [List.cons_append, List.length_cons, List.insertIdx_succ_cons, inductionHypothesis,
      List.cons_append]

/-- A new route is inserted between two parts of the list, and where it belongs if that is
sorted. -/
theorem insertRoute_append (list : List Route) (route : Route) :
    ∃ front back, front ++ back = list ∧ insertRoute list route = front ++ route :: back ∧
      (SortedByRtt list → SortedByRtt (front ++ route :: back)) := by
  unfold insertRoute
  cases found : list.findIdx? fun other => decide (route.rtt < other.rtt) with
  | none =>
    have below : ∀ other ∈ list, other.rtt ≤ route.rtt := fun other member =>
      UInt32.not_lt.mp (of_decide_eq_false (List.findIdx?_eq_none_iff.mp found other member))
    refine ⟨list, [], List.append_nil _, ?_, fun sorted => ?_⟩
    · rw [Option.getD_none, List.insertIdx_length_self]
    · rw [← List.append_nil list] at sorted
      exact sorted.insert below fun _ member => (List.not_mem_nil member).elim
  | some index =>
    obtain ⟨before, next, after, rfl, rfl, greater, smaller⟩ := exists_append_of_findIdx? found
    refine ⟨before, next :: after, rfl, ?_, fun sorted => sorted.insert (fun other member => ?_) ?_⟩
    · rw [Option.getD_some, insertIdx_append]
    · exact UInt32.not_lt.mp (of_decide_eq_false (smaller other member))
    · refine SortedByRtt.le_of_head? (List.pairwise_append.mp sorted).2.1 fun other isNext => ?_
      rw [List.head?_cons, Option.mem_some_iff] at isNext
      rw [← isNext]
      exact UInt32.le_of_lt (of_decide_eq_true greater)

/-- A route that is entered stands somewhere between the routes over other keys, and where it
belongs if these are sorted. -/
theorem enterRoute_append (list : List Route) (route : Route) :
    ∃ front back, front ++ back = eraseKey list route.routeKey ∧
      enterRoute list route = front ++ route :: back ∧
      (SortedByRtt (eraseKey list route.routeKey) → SortedByRtt (front ++ route :: back)) := by
  unfold enterRoute
  cases found : list.findIdx? fun other => other.routeKey == route.routeKey with
  | none =>
    have absent : eraseKey list route.routeKey = list :=
      List.eraseP_of_forall_not fun other member => by
        rw [List.findIdx?_eq_none_iff.mp found other member]
        exact Bool.false_ne_true
    rw [absent]
    exact insertRoute_append list route
  | some index =>
    obtain ⟨before, old, after, rfl, rfl, isOld, others⟩ := exists_append_of_findIdx? found
    have erased : eraseKey (before ++ old :: after) route.routeKey = before ++ after := by
      unfold eraseKey
      rw [List.eraseP_append_right _ fun other member => by
        rw [others other member]; exact Bool.false_ne_true,
        List.eraseP_cons_of_pos (p := fun other : Route => other.routeKey == route.routeKey) isOld]
    rw [erased]
    exact replaceRoute_append before after old route

theorem map_eraseKey (list : List Route) (key : RouteKey) :
    (eraseKey list key).map Route.routeKey = (list.map Route.routeKey).erase key := by
  rw [List.erase_eq_eraseP', List.eraseP_map]
  rfl

/-- The keys once a route was entered are those from before and its own. -/
theorem map_enterRoute_perm (list : List Route) (route : Route) :
    ((enterRoute list route).map Route.routeKey).Perm
      (route.routeKey :: (list.map Route.routeKey).erase route.routeKey) := by
  obtain ⟨front, back, parts, entered, -⟩ := enterRoute_append list route
  rw [entered, ← map_eraseKey, ← parts]
  exact (List.perm_middle).map Route.routeKey

/-! ### The operations -/

namespace RouteRecords

variable {records : RouteRecords} {now : Instant} {id other : Ipv4Addr} {key : RouteKey}
  {route found : Route}

/-- The routes to a client once an owner route was entered: the new one comes last. -/
def enterOwner (records : RouteRecords) (id : Ipv4Addr) (key : RouteKey) : List Route :=
  if (records.routesTo id).any (fun route => route.routeKey == key) = true then records.routesTo id
  else records.routesTo id ++ [records.fromDefaultRt key 1]

theorem addOwnerRoute_eq (records : RouteRecords) (now : Instant) (id : Ipv4Addr)
    (key : RouteKey) :
    records.addOwnerRoute now id key =
      { records with
        routeTable := ⟨records.routeTable.routeTable.insert id (records.enterOwner id key)⟩
        routeKeyTime := records.routeKeyTime.insert (id, key) now
        routeKeyOwner := records.routeKeyOwner.insert key id } := by
  unfold addOwnerRoute enterOwner
  dsimp only
  have same : RouteRecords.routesTo
      { records with
        routeKeyOwner := records.routeKeyOwner.insert key id
        routeKeyTime := records.routeKeyTime.insert (id, key) now } id = records.routesTo id := rfl
  rw [same]
  split <;> rfl

/-- A route is entered when it is direct or stands next to another one. -/
def Enters (records : RouteRecords) (id : Ipv4Addr) (route : Route) : Prop :=
  route.isDirect = true ∨ (records.routeTable.routeTable.lookup id).isSome = true

instance (records : RouteRecords) (id : Ipv4Addr) (route : Route) :
    Decidable (records.Enters id route) :=
  inferInstanceAs (Decidable (_ ∨ _))

/-- The owners once a route was entered. -/
def ownersWith (records : RouteRecords) (id : Ipv4Addr) (route : Route) : Map RouteKey Ipv4Addr :=
  if route.isDirect = true ∧ (records.routeKeyOwner.lookup route.routeKey).isNone = true then
    records.routeKeyOwner.insert route.routeKey id
  else records.routeKeyOwner

theorem addRoute_eq_self (stays : ¬records.Enters id route) :
    records.addRoute now id route = records := by
  unfold addRoute
  refine if_pos ⟨Bool.eq_false_iff.mpr fun direct => stays (.inl direct), ?_⟩
  exact Option.not_isSome_iff_eq_none.mp (fun present => stays (.inr present)) ▸ rfl

theorem addRoute_eq (enters : records.Enters id route) :
    records.addRoute now id route =
      { records with
        routeTable :=
          ⟨records.routeTable.routeTable.insert id (enterRoute (records.routesTo id) route)⟩
        routeKeyTime := records.routeKeyTime.insert (id, route.routeKey) now
        routeKeyOwner := records.ownersWith id route } := by
  have skipped : ¬(route.isDirect = false ∧
      (records.routeTable.routeTable.lookup id).isNone = true) := by
    rintro ⟨indirect, absent⟩
    rcases enters with direct | present
    · rw [indirect] at direct
      cases direct
    · rw [Option.isNone_iff_eq_none.mp absent] at present
      cases present
  have same : RouteRecords.routesTo
      { records with
        routeKeyOwner := records.ownersWith id route
        routeKeyTime := records.routeKeyTime.insert (id, route.routeKey) now } id =
      records.routesTo id := rfl
  unfold addRoute enterRoute
  rw [if_neg skipped]
  unfold ownersWith at same ⊢
  dsimp only
  rw [same]
  cases (records.routesTo id).findIdx? fun other => other.routeKey == route.routeKey <;> rfl

/-- The table lists no client without a route. -/
def Nonempty (records : RouteRecords) : Prop :=
  ∀ id, records.routeTable.routeTable.lookup id ≠ some []

/-- The entries that were used last at a time or before it. -/
def expiredKeys (records : RouteRecords) (expiredTime : Instant) : List (Ipv4Addr × RouteKey) :=
  (records.routeKeyTime.entries.filter fun entry => decide (entry.2 ≤ expiredTime)).map
    fun entry => entry.1

/-- The first part of `remove_oldest_route`: the times of these entries go. -/
def collectExpired (records : RouteRecords) (expiredTime : Instant) : RouteRecords :=
  { records with
    routeKeyTime := records.routeKeyTime.retain fun _ time =>
      if time ≤ expiredTime then none else some time }

/-- Drop a route, and the owner of its key when it is the same client. -/
def dropEntry (records : RouteRecords) (entry : Ipv4Addr × RouteKey) : RouteRecords :=
  { records with
    routeTable := dropRoute records.routeTable entry.1 entry.2
    routeKeyOwner := dropOwner records.routeKeyOwner entry.1 entry.2 }

/-- The second part of `remove_oldest_route`. Where nothing was collected it is left out. -/
def dropExpired (records : RouteRecords) (expired : List (Ipv4Addr × RouteKey)) : RouteRecords :=
  expired.foldl dropEntry records

/-- `tcp_disconnect`. -/
def tcpDisconnect (records : RouteRecords) (key : RouteKey) : RouteRecords :=
  match records.getIdByRouteKey key with
  | none => records
  | some id => records.removeRoute id key

theorem routesTo_dropEntry (records : RouteRecords) (entry : Ipv4Addr × RouteKey)
    (other : Ipv4Addr) :
    (records.dropEntry entry).routesTo other =
      if other = entry.1 then (records.routesTo other).filter fun route => route.routeKey != entry.2
      else records.routesTo other := by
  unfold dropEntry dropRoute routesTo
  dsimp only
  cases present : records.routeTable.routeTable.lookup entry.1 with
  | none =>
    dsimp only
    split
    · next same => rw [same, present]; rfl
    · rfl
  | some list =>
    dsimp only
    split
    · next emptied =>
      dsimp only
      rw [Map.lookup_erase_eq]
      split
      · next same => rw [same, present, Option.getD_some, emptied]; rfl
      · rfl
    · dsimp only
      rw [Map.lookup_insert_eq]
      split
      · next same => rw [same, present]; rfl
      · rfl

theorem Nonempty.dropEntry (nonempty : records.Nonempty) (entry : Ipv4Addr × RouteKey) :
    (records.dropEntry entry).Nonempty := by
  intro other
  unfold RouteRecords.dropEntry dropRoute
  dsimp only
  cases records.routeTable.routeTable.lookup entry.1 with
  | none => exact nonempty other
  | some list =>
    dsimp only
    split
    · dsimp only
      rw [Map.lookup_erase_eq]
      split
      · exact (Option.some_ne_none []).symm
      · exact nonempty other
    · next remains =>
      dsimp only
      rw [Map.lookup_insert_eq]
      split
      · exact fun emptied => remains (Option.some.inj emptied)
      · exact nonempty other

theorem mem_routesTo_dropEntry {entry : Ipv4Addr × RouteKey} :
    route ∈ (records.dropEntry entry).routesTo other ↔
      route ∈ records.routesTo other ∧ (other, route.routeKey) ≠ entry := by
  rw [routesTo_dropEntry]
  by_cases same : other = entry.1
  · rw [if_pos same, List.mem_filter, bne_iff_ne]
    exact and_congr_right' (not_congr ⟨fun key => Prod.ext same key, congrArg Prod.snd⟩)
  · rw [if_neg same]
    exact (and_iff_left fun isEntry => same (congrArg Prod.fst isEntry)).symm

theorem sublist_dropEntry (records : RouteRecords) (entry : Ipv4Addr × RouteKey)
    (other : Ipv4Addr) :
    ((records.dropEntry entry).routesTo other).Sublist (records.routesTo other) := by
  rw [routesTo_dropEntry]
  split
  · exact List.filter_sublist
  · exact List.Sublist.refl _

theorem owner_dropEntry {entry : Ipv4Addr × RouteKey} :
    (records.dropEntry entry).routeKeyOwner.lookup key = some id ↔
      records.routeKeyOwner.lookup key = some id ∧ (id, key) ≠ entry := by
  unfold dropEntry dropOwner
  dsimp only
  split
  · next isOwner =>
    rw [Map.lookup_erase_eq_some]
    constructor
    · rintro ⟨different, present⟩
      exact ⟨present, fun isEntry => different (congrArg Prod.snd isEntry)⟩
    · rintro ⟨present, different⟩
      refine ⟨fun same => different ?_, present⟩
      rw [same, isOwner] at present
      exact Prod.ext (Option.some.inj present).symm same
  · next isOther =>
    refine (and_iff_left_of_imp fun present isEntry => isOther ?_).symm
    rw [← isEntry]
    exact present

theorem mem_routesTo_dropExpired {expired : List (Ipv4Addr × RouteKey)} :
    route ∈ (records.dropExpired expired).routesTo other ↔
      route ∈ records.routesTo other ∧ (other, route.routeKey) ∉ expired := by
  unfold dropExpired
  induction expired generalizing records with
  | nil => exact (and_iff_left List.not_mem_nil).symm
  | cons entry rest inductionHypothesis =>
    rw [List.foldl_cons, inductionHypothesis, mem_routesTo_dropEntry, List.mem_cons, not_or,
      and_assoc]

theorem sublist_dropExpired (records : RouteRecords) (expired : List (Ipv4Addr × RouteKey))
    (other : Ipv4Addr) :
    ((records.dropExpired expired).routesTo other).Sublist (records.routesTo other) := by
  unfold dropExpired
  induction expired generalizing records with
  | nil => exact List.Sublist.refl _
  | cons entry rest inductionHypothesis =>
    exact (inductionHypothesis (records.dropEntry entry)).trans (sublist_dropEntry _ _ _)

theorem owner_dropExpired {expired : List (Ipv4Addr × RouteKey)} :
    (records.dropExpired expired).routeKeyOwner.lookup key = some id ↔
      records.routeKeyOwner.lookup key = some id ∧ (id, key) ∉ expired := by
  unfold dropExpired
  induction expired generalizing records with
  | nil => exact (and_iff_left List.not_mem_nil).symm
  | cons entry rest inductionHypothesis =>
    rw [List.foldl_cons, inductionHypothesis, owner_dropEntry, List.mem_cons, not_or, and_assoc]

theorem Nonempty.dropExpired (nonempty : records.Nonempty)
    (expired : List (Ipv4Addr × RouteKey)) : (records.dropExpired expired).Nonempty := by
  unfold RouteRecords.dropExpired
  induction expired generalizing records with
  | nil => exact nonempty
  | cons entry rest inductionHypothesis => exact inductionHypothesis (nonempty.dropEntry entry)

theorem routeKeyTime_dropExpired (records : RouteRecords)
    (expired : List (Ipv4Addr × RouteKey)) :
    (records.dropExpired expired).routeKeyTime = records.routeKeyTime := by
  unfold dropExpired
  induction expired generalizing records with
  | nil => rfl
  | cons entry rest inductionHypothesis => exact inductionHypothesis (records.dropEntry entry)

theorem lookup_collectExpired_eq_some {expiredTime time : Instant}
    {entry : Ipv4Addr × RouteKey} :
    (records.collectExpired expiredTime).routeKeyTime.lookup entry = some time ↔
      records.routeKeyTime.lookup entry = some time ∧ expiredTime < time := by
  unfold collectExpired
  dsimp only
  rw [Map.lookup_retain, Option.bind_eq_some_iff]
  constructor
  · rintro ⟨found, present, kept⟩
    split at kept
    · cases kept
    · next fresh =>
      cases kept
      exact ⟨present, Nat.lt_of_not_le fresh⟩
  · rintro ⟨present, fresh⟩
    exact ⟨time, present, if_neg (Nat.not_le_of_lt fresh)⟩

theorem mem_expiredKeys {expiredTime : Instant} {entry : Ipv4Addr × RouteKey} :
    entry ∈ records.expiredKeys expiredTime ↔
      ∃ time, records.routeKeyTime.lookup entry = some time ∧ time ≤ expiredTime := by
  unfold expiredKeys
  rw [List.mem_map]
  constructor
  · rintro ⟨⟨found, time⟩, member, rfl⟩
    obtain ⟨present, expired⟩ := List.mem_filter.mp member
    exact ⟨time, (Map.mem_entries_iff _ _ _).mp present, of_decide_eq_true expired⟩
  · rintro ⟨time, present, expired⟩
    exact ⟨⟨entry, time⟩, List.mem_filter.mpr
      ⟨(Map.mem_entries_iff _ _ _).mpr present, decide_eq_true expired⟩, rfl⟩

/-- Expiring in one piece is expiring in two parts with nothing between them; only that the times
go one by one. -/
theorem removeOldestRoute_eq (records : RouteRecords) (expiredTime : Instant) :
    records.removeOldestRoute expiredTime =
      { (records.collectExpired expiredTime).dropExpired (records.expiredKeys expiredTime) with
        routeKeyTime := records.routeKeyTime.eraseAll (records.expiredKeys expiredTime) } := by
  have inParts : ∀ (expired : List (Ipv4Addr × RouteKey)) (records : RouteRecords)
      (times : Map (Ipv4Addr × RouteKey) Instant),
      expired.foldl (fun records entry => records.removeRoute entry.1 entry.2) records =
        { RouteRecords.dropExpired { records with routeKeyTime := times } expired with
          routeKeyTime := records.routeKeyTime.eraseAll expired } := by
    intro expired
    induction expired with
    | nil => exact fun _ _ => rfl
    | cons entry rest inductionHypothesis =>
      intro records times
      rw [List.foldl_cons, inductionHypothesis (records.removeRoute entry.1 entry.2) times]
      rfl
  exact inParts _ records _

theorem lookup_eraseAll_expiredKeys (records : RouteRecords) (expiredTime : Instant)
    (entry : Ipv4Addr × RouteKey) :
    (records.routeKeyTime.eraseAll (records.expiredKeys expiredTime)).lookup entry =
      (records.collectExpired expiredTime).routeKeyTime.lookup entry := by
  rw [Map.lookup_eraseAll]
  refine Option.ext fun time => ?_
  rw [lookup_collectExpired_eq_some]
  split
  · next isExpired =>
    obtain ⟨old, present, expired⟩ := mem_expiredKeys.mp isExpired
    constructor
    · intro absent
      cases absent
    · rintro ⟨found, fresh⟩
      cases present.symm.trans found
      exact absurd expired (Nat.not_le_of_lt fresh)
  · next isFresh =>
    refine ⟨fun present => ⟨present, Nat.lt_of_not_le fun expired => ?_⟩, And.left⟩
    exact isFresh (mem_expiredKeys.mpr ⟨time, present, expired⟩)

end RouteRecords

/-! ### All operations -/

/-- What can happen to the routes. `remove_oldest_route` may take place in one piece, or in two
parts. -/
inductive RouteEvent where
  | addOwnerRoute (now : Instant) (id : Ipv4Addr) (key : RouteKey)
  | addRoute (now : Instant) (id : Ipv4Addr) (route : Route)
  | addRouteIfAbsent (now : Instant) (id : Ipv4Addr) (route : Route)
  | removeRoute (id : Ipv4Addr) (key : RouteKey)
  | tcpDisconnect (key : RouteKey)
  | removeOldestRoute (expiredTime : Instant)
  | beginExpiry (expiredTime : Instant)
  | finishExpiry (index : Nat)
  deriving DecidableEq

/-- The routes, the time of the last operation that took one, and what was collected by those
expiries that are underway. -/
structure RouteState where
  records : RouteRecords
  clock : Instant
  expiring : List (List (Ipv4Addr × RouteKey))

namespace RouteState

/-- `RouteTable::new`. -/
def initial (defaultRtt : UInt32) (clock : Instant) : RouteState where
  records := ⟨defaultRtt, ⟨∅⟩, ∅, ∅⟩
  clock := clock
  expiring := []

/-- An operation that takes the time, which never goes back. -/
def timed (state : RouteState) (now : Instant) (records : RouteRecords) : Option RouteState :=
  if state.clock ≤ now then some { state with records := records, clock := now } else none

/-- The first part of `remove_oldest_route`. -/
def beginExpiry (state : RouteState) (expiredTime : Instant) : RouteState :=
  { state with
    records := state.records.collectExpired expiredTime
    expiring := state.records.expiredKeys expiredTime :: state.expiring }

/-- The second part of `remove_oldest_route`. -/
def finishExpiry (state : RouteState) (index : Nat) : Option RouteState :=
  state.expiring[index]?.map fun expired =>
    { state with
      records := state.records.dropExpired expired
      expiring := state.expiring.eraseIdx index }

end RouteState

/-- The operations in any order. Those that enter a route hold the table until they are done. An
expiry lets go of it between its parts; `add_route_if_absent` and `tcp_disconnect` do so after they
looked, and what they do when something came between is the operation `add_route` or
`remove_route`. -/
def routeMachine : Machine RouteState RouteEvent where
  step state event :=
    match event with
    | .addOwnerRoute now id key => state.timed now (state.records.addOwnerRoute now id key)
    | .addRoute now id route => state.timed now (state.records.addRoute now id route)
    | .addRouteIfAbsent now id route =>
      state.timed now (state.records.addRouteIfAbsent now id route)
    | .removeRoute id key => some { state with records := state.records.removeRoute id key }
    | .tcpDisconnect key => some { state with records := state.records.tcpDisconnect key }
    | .removeOldestRoute expiredTime =>
      some { state with records := state.records.removeOldestRoute expiredTime }
    | .beginExpiry expiredTime => some (state.beginExpiry expiredTime)
    | .finishExpiry index => state.finishExpiry index

theorem RouteState.timed_eq_some {state next : RouteState} {now : Instant}
    {records : RouteRecords} :
    state.timed now records = some next ↔
      state.clock ≤ now ∧ next = { state with records := records, clock := now } := by
  unfold timed
  rw [Option.ite_none_right_eq_some, Option.some.injEq, eq_comm (a := next)]

/-- An operation that is not part of an expiry. -/
def RouteEvent.isCall : RouteEvent → Bool
  | .removeOldestRoute _ => false
  | .beginExpiry _ => false
  | .finishExpiry _ => false
  | _ => true

/-- An expiry only takes routes away. -/
theorem sublist_of_expiry {state next : RouteState} {event : RouteEvent}
    (enabled : routeMachine.step state event = some next) (expiry : event.isCall = false)
    (id : Ipv4Addr) : (next.records.routesTo id).Sublist (state.records.routesTo id) := by
  cases event with
  | removeOldestRoute expiredTime =>
    cases enabled
    dsimp only
    rw [RouteRecords.removeOldestRoute_eq]
    exact RouteRecords.sublist_dropExpired _ _ id
  | beginExpiry expiredTime =>
    cases enabled
    exact List.Sublist.refl _
  | finishExpiry index =>
    obtain ⟨expired, -, rfl⟩ := Option.map_eq_some_iff.mp enabled
    exact RouteRecords.sublist_dropExpired _ _ id
  | addOwnerRoute | addRoute | addRouteIfAbsent => cases expiry
  | removeRoute | tcpDisconnect => cases expiry

/-- What a step makes of the routes to one client: some go, or one is entered. -/
theorem step_routesTo {state next : RouteState} {event : RouteEvent}
    (enabled : routeMachine.step state event = some next) (id : Ipv4Addr) :
    (next.records.routesTo id).Sublist (state.records.routesTo id) ∨
      (∃ route, next.records.routesTo id = enterRoute (state.records.routesTo id) route) ∨
      ∃ now key, event = .addOwnerRoute now id key ∧
        next.records.routesTo id = state.records.enterOwner id key := by
  have removed : ∀ (records : RouteRecords) (other : Ipv4Addr) (key : RouteKey),
      ((records.removeRoute other key).routesTo id).Sublist (records.routesTo id) :=
    fun records other key => records.sublist_dropEntry (other, key) id
  have added : ∀ (now : Instant) (other : Ipv4Addr) (route : Route),
      (state.records.addRoute now other route).routesTo id = state.records.routesTo id ∨
        (state.records.addRoute now other route).routesTo id =
          enterRoute (state.records.routesTo id) route := by
    intro now other route
    by_cases enters : state.records.Enters other route
    · rw [RouteRecords.addRoute_eq enters]
      unfold RouteRecords.routesTo
      dsimp only
      rw [Map.lookup_insert_eq]
      split
      · next same => exact .inr (by rw [same]; rfl)
      · exact .inl rfl
    · rw [RouteRecords.addRoute_eq_self enters]
      exact .inl rfl
  have settle : ∀ {list : List Route} {route : Route},
      list = state.records.routesTo id ∨ list = enterRoute (state.records.routesTo id) route →
      list.Sublist (state.records.routesTo id) ∨
        (∃ route, list = enterRoute (state.records.routesTo id) route) ∨
        ∃ now key, event = .addOwnerRoute now id key ∧ list = state.records.enterOwner id key := by
    rintro list route (same | entered)
    · exact .inl (same ▸ List.Sublist.refl _)
    · exact .inr (.inl ⟨route, entered⟩)
  cases event with
  | addOwnerRoute now other key =>
    obtain ⟨-, rfl⟩ := RouteState.timed_eq_some.mp enabled
    dsimp only
    rw [RouteRecords.addOwnerRoute_eq]
    unfold RouteRecords.routesTo
    dsimp only
    rw [Map.lookup_insert_eq]
    split
    · next same => exact .inr (.inr ⟨now, key, by rw [same], by rw [same]; rfl⟩)
    · exact .inl (List.Sublist.refl _)
  | addRoute now other route =>
    obtain ⟨-, rfl⟩ := RouteState.timed_eq_some.mp enabled
    exact settle (added now other route)
  | addRouteIfAbsent now other route =>
    obtain ⟨-, rfl⟩ := RouteState.timed_eq_some.mp enabled
    dsimp only
    unfold RouteRecords.addRouteIfAbsent
    split
    · exact .inl (List.Sublist.refl _)
    · exact settle (added now other route)
  | removeRoute other key =>
    cases enabled
    exact .inl (removed _ other key)
  | tcpDisconnect key =>
    cases enabled
    dsimp only
    unfold RouteRecords.tcpDisconnect
    split
    · exact .inl (List.Sublist.refl _)
    · exact .inl (removed _ _ key)
  | removeOldestRoute | beginExpiry | finishExpiry => exact .inl (sublist_of_expiry enabled rfl id)

end Vnt.Client
