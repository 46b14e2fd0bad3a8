/-
This file settles when probing over other clients finds the ways that lead over them. A probe may be
passed on once, but its answer has a single hop to live, so the client in between drops it. And the
probe itself makes nobody learn the way back, since a ping that took two hops enters no route where
there is none. What is left is a race: a ping that was passed on, and found no route to its sender,
enters one when something else has made an entry for the sender by then. The route stays until it
expires or its path is disconnected.
-/

import Vnt.Client.RouteExpiry
import Vnt.Fec.PairCode
import Vnt.Tunnel.GenuinePackets

namespace Vnt.Tunnel

open Vnt.Base Vnt.Client Vnt.Fec

/-! ### The ways over other clients -/

variable {code : ErasureCode UInt8} {codec : FecCodec} {paths : TwoWayPaths}
  {host id target : Ipv4Addr} {network next : RelayNetwork} {key : RouteKey} {handling : Handling}
  {delivery : Delivery} {clock : Clock} {event : RelayEvent}

/-- A client goes on with a ping that found no route to its sender, and by now its table has an
entry for the sender. -/
def EntersLate (id target : Ipv4Addr) (key : RouteKey) (network : RelayNetwork) :
    RelayEvent → Prop
  | .handle index _ =>
    ∃ handling delivery, network.handlings[index]? = some handling ∧
      handling.deliveries.head? = some delivery ∧ handling.receiver = id ∧ handling.key = key ∧
        handling.absent = true ∧ delivery.msgType = .ping ∧ delivery.src = target ∧
          (network.clients id).records.containsKey target = true
  | _ => False

/-- A client drops the route to another one over a key: it expired, or its path is disconnected. -/
def Drops (id target : Ipv4Addr) (key : RouteKey) (network : RelayNetwork) : RelayEvent → Prop
  | .remove index =>
    ∃ removal, network.removals[index]? = some removal ∧ removal.id = id ∧
      (target, key) ∈ removal.entries
  | _ => False

/-- A key is entered for a host when a genuine ping of it goes on late, and by nothing else when it
leads astray. -/
theorem mem_keysTo_goOn {client : P2pClient}
    (genuine : handling.Genuine paths.toPaths host network)
    (isFirst : delivery ∈ handling.deliveries)
    (astray : ¬paths.LeadsTo handling.receiver key host)
    (looked : ¬(delivery.msgType = .ping ∧ handling.absent = false ∧
      client.records.containsKey delivery.src = false)) :
    key ∈ (client.goOn clock handling delivery).client.records.keysTo host ↔
      key ∈ client.records.keysTo host ∨
        handling.key = key ∧ handling.absent = true ∧ delivery.msgType = .ping ∧
          delivery.src = host ∧ client.records.containsKey host = true := by
  have told := genuine.told delivery isFirst
  have untold : IsAnswer (.ok delivery.msgType) → ¬(host = delivery.src ∧ key = handling.key) := by
    rintro isAnswer ⟨isSrc, isKey⟩
    rcases told isSrc.symm with leads | quiet
    · exact astray (isKey ▸ leads)
    · exact quiet.2 isAnswer
  unfold P2pClient.goOn
  split
  · next late =>
    unfold P2pClient.addAbsent
    rw [P2pClient.client_finish]
    by_cases enters : client.records.Enters delivery.src
        (client.records.fromDefaultRt handling.key handling.metric)
    · rw [RouteRecords.mem_keysTo_addRoute enters]
      refine or_congr_right ⟨?_, fun isLate => ⟨isLate.2.2.2.1.symm, isLate.1.symm⟩⟩
      rintro ⟨isSrc, isKey⟩
      change key = handling.key at isKey
      refine ⟨isKey.symm, late.2, late.1, isSrc.symm, ?_⟩
      rcases enters with direct | present
      · rcases told isSrc.symm with leads | quiet
        · exact absurd leads (isKey ▸ astray)
        · exact absurd (beq_iff_eq.mp direct) (quiet.1 late.1)
      · exact isSrc ▸ present
    · rw [RouteRecords.addRoute_eq_self enters]
      refine (or_iff_left fun isLate => enters (.inr ?_)).symm
      rw [isLate.2.2.2.1]
      exact isLate.2.2.2.2
  · next early =>
    refine Iff.trans ?_ (or_iff_left fun isLate => early ⟨isLate.2.2.1, isLate.2.1⟩).symm
    have learns := (client.learns_process clock handling.net handling.key handling.metric
      delivery).1
    generalize (client.process clock handling.net handling.key handling.metric
      delivery).client.records = learnt at learns
    cases learns with
    | nothing => exact Iff.rfl
    | ping isType =>
      have present : client.records.containsKey delivery.src = true := by
        by_contra unknown
        refine looked ⟨isType, Bool.eq_false_iff.mpr fun absent => early ⟨isType, absent⟩, ?_⟩
        exact Bool.eq_false_iff.mpr unknown
      unfold RouteRecords.containsKey at present
      unfold RouteRecords.addRouteIfAbsent
      rw [if_pos present]
    | pong isType rtt =>
      by_cases enters : client.records.Enters delivery.src ⟨handling.key, handling.metric, rtt⟩
      · rw [RouteRecords.mem_keysTo_addRoute enters]
        exact or_iff_left (untold (.inl (congrArg _ isType)))
      · rw [RouteRecords.addRoute_eq_self enters]
    | punch isType =>
      rw [RouteRecords.mem_keysTo_addOwnerRoute]
      refine or_iff_left (untold ?_)
      rcases isType with isReq | isRes
      · exact .inr (.inl (congrArg _ isReq))
      · exact .inr (.inr (congrArg _ isRes))

theorem keysTo_update {clients : Ipv4Addr → P2pClient} {other : Ipv4Addr} {client : P2pClient}
    (same : client.records.keysTo target = (clients other).records.keysTo target)
    (id : Ipv4Addr) :
    (Function.update clients other client id).records.keysTo target =
      (clients id).records.keysTo target := by
  by_cases isOther : id = other
  · rw [isOther, Function.update_self, same]
  · rw [Function.update_of_ne isOther]

theorem entersLate_iff {index : Nat} (clock : Clock)
    (found : network.handlings[index]? = some handling)
    (isFirst : handling.deliveries.head? = some delivery) :
    EntersLate id target key network (.handle index clock) ↔
      handling.receiver = id ∧ handling.key = key ∧ handling.absent = true ∧
        delivery.msgType = .ping ∧ delivery.src = target ∧
          (network.clients id).records.containsKey target = true := by
  constructor
  · rintro ⟨other, first, isOther, isHead, isLate⟩
    cases found.symm.trans isOther
    cases isFirst.symm.trans isHead
    exact isLate
  · exact fun isLate => ⟨handling, delivery, found, isFirst, isLate⟩

theorem mem_keysTo_apply {removal : Removal} {records : RouteRecords} :
    key ∈ (removal.apply records).keysTo target ↔
      key ∈ records.keysTo target ∧ (target, key) ∉ removal.entries := by
  cases removal with
  | expired id entries => exact RouteRecords.mem_keysTo_dropExpired
  | disconnected id owner owned =>
    refine RouteRecords.mem_keysTo_removeRoute.trans (and_congr_right' ?_)
    exact not_congr List.mem_singleton.symm

/-- A step keeps a route that leads astray unless it drops it, and enters one only late. -/
theorem keysTo_step (holds : AllGenuine paths.toPaths target network)
    (astray : ¬paths.LeadsTo id key target)
    (enabled : (relayMachine code codec paths.toPaths).step network event = some next) :
    key ∈ (next.clients id).records.keysTo target ↔
      key ∈ (network.clients id).records.keysTo target ∧ ¬Drops id target key network event ∨
        EntersLate id target key network event := by
  have untouched : (next.clients id).records.keysTo target =
      (network.clients id).records.keysTo target → ¬Drops id target key network event →
        ¬EntersLate id target key network event →
          (key ∈ (next.clients id).records.keysTo target ↔
            key ∈ (network.clients id).records.keysTo target ∧
              ¬Drops id target key network event ∨ EntersLate id target key network event) := by
    intro same kept early
    rw [same, and_iff_left kept, or_iff_left early]
  cases moves_of_step enabled with
  | unsent | probe | emit | lose => exact untouched rfl not_false not_false
  | deliver found isClient =>
    subst isClient
    exact untouched (keysTo_update (by rfl) _) not_false not_false
  | drained found none =>
    refine untouched rfl not_false fun late => ?_
    obtain ⟨other, delivery, isOther, isFirst, -⟩ := late
    cases found.symm.trans isOther
    cases none.symm.trans isFirst
  | looks found early =>
    refine untouched rfl not_false fun late => ?_
    obtain ⟨other, delivery, isOther, -, -, -, absent, -⟩ := late
    cases found.symm.trans isOther
    cases early.symm.trans absent
  | @goesOn index clock handling delivery processed found isFirst looked isProcessed =>
    subst isProcessed
    have genuine := holds.handlings handling (List.mem_of_getElem? found)
    have late := @entersLate_iff id target network key handling delivery index clock found isFirst
    by_cases isReceiver : handling.receiver = id
    · subst isReceiver
      rw [late, and_iff_left (show ¬Drops _ _ _ _ (.handle index clock) from not_false),
        and_iff_right rfl]
      change key ∈ (Function.update network.clients handling.receiver _
        handling.receiver).records.keysTo target ↔ _
      rw [Function.update_self]
      exact mem_keysTo_goOn genuine (List.mem_of_mem_head? isFirst) astray looked
    · refine untouched ?_ not_false fun isLate => isReceiver (late.mp isLate).1
      change (Function.update network.clients handling.receiver _ id).records.keysTo target = _
      rw [Function.update_of_ne (Ne.symm isReceiver)]
  | collectExpired => exact untouched (keysTo_update (by rfl) _) not_false not_false
  | disconnect => exact untouched rfl not_false not_false
  | @remove index removal found =>
    rw [or_iff_left (show ¬EntersLate _ _ _ _ (.remove index) from not_false)]
    have drops : Drops id target key network (.remove index) ↔
        removal.id = id ∧ (target, key) ∈ removal.entries := by
      constructor
      · rintro ⟨other, isOther, isDropped⟩
        cases found.symm.trans isOther
        exact isDropped
      · exact fun isDropped => ⟨removal, found, isDropped⟩
    by_cases isDropper : removal.id = id
    · subst isDropper
      rw [drops, and_iff_right rfl, ← mem_keysTo_apply]
      change key ∈ (Function.update network.clients removal.id _ removal.id).records.keysTo
        target ↔ _
      rw [Function.update_self]
    · rw [drops, and_iff_left fun isDropped => isDropper isDropped.1]
      change key ∈ (Function.update network.clients removal.id _ id).records.keysTo target ↔ _
      rw [Function.update_of_ne (Ne.symm isDropper)]
  | other => exact untouched (keysTo_update (by rfl) _) not_false not_false

/-! ### Three clients -/

/-- The clients before any of them sent anything: each has its own address, which is no address of a
broadcast. -/
structure Started (network : RelayNetwork) : Prop where
  letters : network.letters = []
  handlings : network.handlings = []
  ip : ∀ id net, (network.clients id).network = some net → net.ip = id
  host : ∀ id net, (network.clients id).network = some net →
    id ≠ Ipv4Addr.broadcast ∧ id ≠ 0 ∧
      ∀ other otherNet, (network.clients other).network = some otherNet → otherNet.broadcast ≠ id

/-- A client has a direct route to another one. -/
def HasDirect (paths : Paths) (network : RelayNetwork) (id other : Ipv4Addr) : Prop :=
  ∃ route ∈ (network.clients id).records.routesTo other, route.isDirect = true ∧
    paths.LeadsTo id route.routeKey other

/-- A client reaches another one over a third. -/
structure Chained (paths : Paths) (network : RelayNetwork) (id relay target : Ipv4Addr) : Prop where
  distinct : id ≠ relay ∧ relay ≠ target ∧ id ≠ target
  online : (network.clients target).network.isSome = true
  toRelay : HasDirect paths network id relay
  fromRelay : HasDirect paths network relay id
  toTarget : HasDirect paths network relay target
  fromTarget : HasDirect paths network target relay
  unreached : (network.clients id).records.routesTo target = []

/-- A client has a route to another one that leads over a third. -/
def HasRelayed (paths : Paths) (network : RelayNetwork) (id relay target : Ipv4Addr) : Prop :=
  ∃ route ∈ (network.clients id).records.routesTo target, paths.LeadsTo id route.routeKey relay

theorem Started.allGenuine (started : Started network) {net : NetworkAddr}
    (isOnline : (network.clients host).network = some net) :
    AllGenuine paths.toPaths host network where
  isHost := by
    obtain ⟨broadcast, unspecified, others⟩ := started.host host net isOnline
    exact ⟨broadcast, unspecified, fun id net isNet same =>
      (started.ip id net isNet).symm.trans same, others⟩
  letters := by
    rw [started.letters]
    exact List.forall_mem_nil _
  handlings := by
    rw [started.handlings]
    exact List.forall_mem_nil _

/-- When a client probes for another one over a third, it has a route over the third to it
afterwards exactly if some ping of the other one, that was passed on, has gone on late and the route
it entered was not dropped since. -/
theorem hasRelayed_iff_entersLate {middle sent final : RelayNetwork} {relay : Ipv4Addr}
    {millis : Int} {past events : List RelayEvent} (started : Started network)
    (before : (relayMachine code codec paths.toPaths).run network past = some middle)
    (chained : Chained paths.toPaths middle id relay target)
    (probed : (relayMachine code codec paths.toPaths).step middle
      (.probe id relay target millis) = some sent)
    (later : (relayMachine code codec paths.toPaths).run sent events = some final) :
    HasRelayed paths.toPaths final id relay target ↔
      ∃ key, paths.LeadsTo id key relay ∧
        (relayMachine code codec paths.toPaths).Since (EntersLate id target key)
          (Drops id target key) sent events := by
  obtain ⟨net, isOnline⟩ := Option.isSome_iff_exists.mp chained.online
  rw [network_run before] at isOnline
  have genuine := ((started.allGenuine isOnline).run before).step probed
  have exact : ∀ key, paths.LeadsTo id key relay →
      (key ∈ (final.clients id).records.keysTo target ↔
        (relayMachine code codec paths.toPaths).Since (EntersLate id target key)
          (Drops id target key) sent events) := by
    intro key leads
    have astray : ¬paths.LeadsTo id key target := fun straight =>
      chained.distinct.2.1 (Option.some.inj (leads.symm.trans straight))
    refine Machine.final_iff_since (fun _ _ _ holds enabled => AllGenuine.step holds enabled)
      (fun _ _ _ holds enabled => keysTo_step holds astray enabled) genuine ?_ later
    rw [keysTo_step (((started.allGenuine isOnline).run before)) astray probed]
    rintro (⟨present, -⟩ | late)
    · unfold RouteRecords.keysTo at present
      rw [chained.unreached] at present
      cases present
    · exact late
  constructor
  · rintro ⟨route, member, leads⟩
    exact ⟨route.routeKey, leads, (exact _ leads).mp (List.mem_map_of_mem member)⟩
  · rintro ⟨key, leads, since⟩
    obtain ⟨route, member, rfl⟩ := List.mem_map.mp ((exact key leads).mpr since)
    exact ⟨route, member, leads⟩

/-- A client with an address of 10.26.0.0/24, and no route yet. -/
def startedClient (id : Ipv4Addr) : P2pClient where
  handler := ⟨⟨none⟩, ⟨none⟩, .new 0⟩
  network :=
    if id = 0x0A1A0002 ∨ id = 0x0A1A0003 ∨ id = 0x0A1A0004 then
      some ⟨0x0A1A0001, 0x0A1A00FF, id, 24⟩
    else none
  subnetRoute := []
  records := ⟨9999, ⟨∅⟩, ∅, ∅⟩
  enhanced := ⟨.tun [], none⟩
  traffic := ∅
  received := ∅
  addressOf := fun _ => none

/-- The ends of paths between 10.26.0.2, 10.26.0.3 and 10.26.0.4, in both directions. -/
def chainedEnds : List ((Ipv4Addr × RouteKey) × (Ipv4Addr × RouteKey)) :=
  [((0x0A1A0002, 1), (0x0A1A0003, 2)), ((0x0A1A0003, 2), (0x0A1A0002, 1)),
    ((0x0A1A0003, 3), (0x0A1A0004, 4)), ((0x0A1A0004, 4), (0x0A1A0003, 3)),
    ((0x0A1A0002, 5), (0x0A1A0004, 6)), ((0x0A1A0004, 6), (0x0A1A0002, 5))]

def chainedPaths : TwoWayPaths where
  peer client key := (chainedEnds.find? fun ends => ends.1 == (client, key)).map Prod.snd
  symmetric := by
    intro client key other otherKey found
    obtain ⟨ends, isFound, isOther⟩ := Option.map_eq_some_iff.mp found
    have back : ∀ ends ∈ chainedEnds,
        (chainedEnds.find? fun other => other.1 == ends.2).map Prod.snd = some ends.1 := by decide
    have isClient := List.find?_some
      (p := fun ends : (Ipv4Addr × RouteKey) × (Ipv4Addr × RouteKey) => ends.1 == (client, key))
      isFound
    have led := back ends (List.mem_of_find?_eq_some isFound)
    rw [isOther, beq_iff_eq.mp isClient] at led
    exact led

/-- The request of a punch. -/
def punchRequest (src dest : Ipv4Addr) : NetPacket :=
  ⟨[], { ((NetHeader.zero.setMsgType MsgType.punchReq.toByte).setTtl 1 1) with
    srcId := src, destId := dest }, timeBytes 100, []⟩

/-- A packet is received: it arrives as the first one on its way, and is handled in as many steps.
-/
def receiving (steps : Nat) (clock : Clock) : List RelayEvent :=
  .deliver 0 clock.instant :: List.replicate steps (.handle 0 clock)

/-- Two of the paths are punched. -/
def punching : List RelayEvent :=
  .emit 0x0A1A0002 1 (punchRequest 0x0A1A0002 0x0A1A0003) ::
    (receiving 2 ⟨5, 200⟩ ++ receiving 2 ⟨6, 300⟩) ++
  .emit 0x0A1A0003 3 (punchRequest 0x0A1A0003 0x0A1A0004) ::
    (receiving 2 ⟨7, 400⟩ ++ receiving 2 ⟨8, 500⟩)

def startedNetwork : RelayNetwork := ⟨startedClient, [], [], []⟩

/-- The clients after two of the paths are punched. -/
def punchedNetwork : RelayNetwork :=
  ((relayMachine pairCode protobufCodec chainedPaths.toPaths).run startedNetwork punching).getD
    startedNetwork

theorem started_startedNetwork : Started startedNetwork where
  letters := rfl
  handlings := rfl
  ip id net isNet := by
    change (if _ then _ else none) = some net at isNet
    split at isNet <;> cases isNet
    rfl
  host id net isNet := by
    have others : ∀ other otherNet, (startedNetwork.clients other).network = some otherNet →
        otherNet.broadcast = 0x0A1A00FF := by
      intro other otherNet isOther
      change (if _ then _ else none) = some otherNet at isOther
      split at isOther <;> cases isOther
      rfl
    change (if _ then _ else none) = some net at isNet
    split at isNet
    · next isHost =>
      refine ⟨?_, ?_, fun other otherNet isOther => ?_⟩
      · rcases isHost with rfl | rfl | rfl <;> decide
      · rcases isHost with rfl | rfl | rfl <;> decide
      · rw [others other otherNet isOther]
        rcases isHost with rfl | rfl | rfl <;> decide
    · cases isNet

theorem run_punching : (relayMachine pairCode protobufCodec chainedPaths.toPaths).run startedNetwork
    punching = some punchedNetwork := by
  have enabled : ((relayMachine pairCode protobufCodec chainedPaths.toPaths).run startedNetwork
      punching).isSome = true := by decide +kernel
  obtain ⟨reached, outcome⟩ := Option.isSome_iff_exists.mp enabled
  unfold punchedNetwork
  rw [outcome]
  rfl

theorem chained_punchedNetwork :
    Chained chainedPaths.toPaths punchedNetwork 0x0A1A0002 0x0A1A0003 0x0A1A0004 where
  distinct := by decide
  online := by decide +kernel
  toRelay := ⟨⟨1, 1, 9999⟩, by decide +kernel, rfl, by decide⟩
  fromRelay := ⟨⟨2, 1, 9999⟩, by decide +kernel, rfl, by decide⟩
  toTarget := ⟨⟨3, 1, 9999⟩, by decide +kernel, rfl, by decide⟩
  fromTarget := ⟨⟨4, 1, 9999⟩, by decide +kernel, rfl, by decide⟩
  unreached := by decide +kernel

/-- The ping of a client. -/
def ping (src dest : Ipv4Addr) : NetPacket :=
  ⟨[], { NetHeader.zero.setMsgType MsgType.ping.toByte with srcId := src, destId := dest },
    timeBytes 600, []⟩

/-- The probe is passed on and answered, and its answer is dropped. -/
def answering : List RelayEvent :=
  receiving 1 ⟨9, 700⟩ ++ receiving 3 ⟨9, 700⟩ ++ receiving 1 ⟨9, 700⟩

/-- Then the other one probes back. Its probe is passed on and finds no route, a punch of it enters
one, and the probe goes on. -/
def racing : List RelayEvent :=
  answering ++
    .emit 0x0A1A0004 4 ((ping 0x0A1A0004 0x0A1A0002).setTtl 2) ::
      (receiving 1 ⟨10, 800⟩ ++ receiving 1 ⟨10, 800⟩) ++
    [.emit 0x0A1A0004 6 (punchRequest 0x0A1A0004 0x0A1A0002), .deliver 0 11,
      .handle 1 ⟨11, 900⟩, .handle 0 ⟨12, 900⟩]

theorem hasRelayed_iff_entersLate_racing : ∃ sent final,
    (relayMachine pairCode protobufCodec chainedPaths.toPaths).step punchedNetwork
      (.probe 0x0A1A0002 0x0A1A0003 0x0A1A0004 600) = some sent ∧
    (relayMachine pairCode protobufCodec chainedPaths.toPaths).run sent racing = some final ∧
    ∃ key, chainedPaths.LeadsTo 0x0A1A0002 key 0x0A1A0003 ∧
      (relayMachine pairCode protobufCodec chainedPaths.toPaths).Since
        (EntersLate 0x0A1A0002 0x0A1A0004 key) (Drops 0x0A1A0002 0x0A1A0004 key) sent racing := by
  have outcome : ((((relayMachine pairCode protobufCodec chainedPaths.toPaths).step punchedNetwork
      (.probe 0x0A1A0002 0x0A1A0003 0x0A1A0004 600)).bind fun sent =>
        (relayMachine pairCode protobufCodec chainedPaths.toPaths).run sent racing).any
          fun final => (final.clients 0x0A1A0002).records.routesTo 0x0A1A0004 ==
            [⟨5, 1, 9999⟩, ⟨1, 2, 9999⟩]) = true := by
    decide +kernel
  obtain ⟨final, reaches, routes⟩ := (Option.any_eq_true _ _).mp outcome
  obtain ⟨sent, probed, later⟩ := Option.bind_eq_some_iff.mp reaches
  refine ⟨sent, final, probed, later, (hasRelayed_iff_entersLate started_startedNetwork
    run_punching chained_punchedNetwork probed later).mp ⟨⟨1, 2, 9999⟩, ?_, by decide⟩⟩
  rw [beq_iff_eq.mp routes]
  exact List.mem_cons_of_mem _ List.mem_cons_self

/-- A client probes for another one, everything is delivered and handled, and it has no route to
it. -/
theorem probe_without_route : ∃ sent final,
    (relayMachine pairCode protobufCodec chainedPaths.toPaths).run startedNetwork punching =
      some punchedNetwork ∧
    Chained chainedPaths.toPaths punchedNetwork 0x0A1A0002 0x0A1A0003 0x0A1A0004 ∧
    (relayMachine pairCode protobufCodec chainedPaths.toPaths).step punchedNetwork
      (.probe 0x0A1A0002 0x0A1A0003 0x0A1A0004 600) = some sent ∧ sent.letters.length = 1 ∧
    (relayMachine pairCode protobufCodec chainedPaths.toPaths).run sent answering = some final ∧
    final.letters = [] ∧ final.handlings = [] ∧
    ¬HasRelayed chainedPaths.toPaths final 0x0A1A0002 0x0A1A0003 0x0A1A0004 := by
  have outcome : (((relayMachine pairCode protobufCodec chainedPaths.toPaths).step punchedNetwork
      (.probe 0x0A1A0002 0x0A1A0003 0x0A1A0004 600)).any fun sent => sent.letters.length == 1 &&
        ((relayMachine pairCode protobufCodec chainedPaths.toPaths).run sent answering).any
          fun final => final.letters == [] && final.handlings.isEmpty &&
            (final.clients 0x0A1A0002).records.routesTo 0x0A1A0004 == []) = true := by
    decide +kernel
  obtain ⟨sent, probed, checked⟩ := (Option.any_eq_true _ _).mp outcome
  obtain ⟨one, run⟩ := Bool.and_eq_true_iff.mp checked
  obtain ⟨final, reaches, ended⟩ := (Option.any_eq_true _ _).mp run
  obtain ⟨quiet, noRoutes⟩ := Bool.and_eq_true_iff.mp ended
  obtain ⟨noLetters, noHandlings⟩ := Bool.and_eq_true_iff.mp quiet
  refine ⟨sent, final, run_punching, chained_punchedNetwork, probed, beq_iff_eq.mp one, reaches,
    beq_iff_eq.mp noLetters, List.isEmpty_iff.mp noHandlings, ?_⟩
  rintro ⟨route, member, -⟩
  rw [beq_iff_eq.mp noRoutes] at member
  cases member

end Vnt.Tunnel
