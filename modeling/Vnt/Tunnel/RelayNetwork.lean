/-
This file embeds the clients as they pass on, answer and learn from each other's packets, and the
packets on their way between them. Each tunnel of a client has a task of its own. So a ping that
found no route to its sender enters one later, into whatever the table is by then, and routes are
dropped some time after it was decided which.
-/

import Vnt.Base.Machine
import Vnt.Client.RouteOperations
import Vnt.Tunnel.Dispatch
import Vnt.Tunnel.P2pProcess

namespace Vnt.Tunnel

open Vnt.Base Vnt.Client Vnt.Fec

/-! ### The paths between the clients -/

/-- The paths: where a packet arrives that a client sends over a key, and the key of the path
there. -/
structure Paths where
  peer : Ipv4Addr → RouteKey → Option (Ipv4Addr × RouteKey)

/-- Paths that lead both ways. -/
structure TwoWayPaths extends Paths where
  symmetric : ∀ {client key other otherKey}, peer client key = some (other, otherKey) →
    peer other otherKey = some (client, key)

/-- The key of a client leads to another one. -/
def Paths.LeadsTo (paths : Paths) (client : Ipv4Addr) (key : RouteKey) (other : Ipv4Addr) : Prop :=
  (paths.peer client key).map Prod.fst = some other

instance (paths : Paths) (client : Ipv4Addr) (key : RouteKey) (other : Ipv4Addr) :
    Decidable (paths.LeadsTo client key other) :=
  inferInstanceAs (Decidable (_ = _))

/-- A packet on its way, with the key it arrives over. -/
structure Letter where
  receiver : Ipv4Addr
  key : RouteKey
  bytes : List UInt8
  deriving DecidableEq

/-- Send over a key. -/
def Paths.post (paths : Paths) (sender : Ipv4Addr) (key : RouteKey) (bytes : List UInt8) :
    List Letter :=
  ((paths.peer sender key).map fun arrives => Letter.mk arrives.1 arrives.2 bytes).toList

theorem mem_post {paths : Paths} {id : Ipv4Addr} {key : RouteKey} {bytes : List UInt8}
    {letter : Letter} (member : letter ∈ paths.post id key bytes) :
    paths.peer id key = some (letter.receiver, letter.key) ∧ letter.bytes = bytes := by
  obtain ⟨arrives, found, rfl⟩ := Option.map_eq_some_iff.mp (Option.mem_toList.mp member)
  exact ⟨found, rfl⟩

/-! ### The clients -/

/-- A packet that a client has opened: what is still to be handled of it, and whether the first of
these is a ping that found no route to its sender. -/
structure Handling where
  receiver : Ipv4Addr
  key : RouteKey
  net : NetworkAddr
  metric : UInt8
  deliveries : List Delivery
  absent : Bool

/-- Routes that a client is about to drop: those it collected as expired, or the one over a key that
was disconnected. -/
inductive Removal where
  | expired (id : Ipv4Addr) (entries : List (Ipv4Addr × RouteKey))
  | disconnected (id owner : Ipv4Addr) (key : RouteKey)

/-- The clients, each under its address, the packets on their way, those that are being handled, and
the routes that are about to be dropped. -/
structure RelayNetwork where
  clients : Ipv4Addr → P2pClient
  letters : List Letter
  handlings : List Handling
  removals : List Removal

/-- The packets a client sends of itself: `ping_all` pings with one hop to live, a probe has two,
and requests of a punch have one. Of the other types they may be anything. -/
def mayEmit (id : Ipv4Addr) (packet : NetPacket) : Bool :=
  packet.header.srcId == id &&
    match packet.msgType with
    | .ok .ping => packet.header.ttlByte == 0x11 || packet.header.ttlByte == 0x22
    | .ok .pong => packet.header.ttlByte == 0x11
    | .ok .punchReq => packet.header.ttlByte == 0x11
    | .ok .punchRes => packet.header.ttlByte == 0x11
    | _ => true

namespace P2pClient

/-- The packet of `relay_probe_task` for a target. -/
def probePacket (client : P2pClient) (millis : Int) (src target : Ipv4Addr) :
    Except String (List UInt8) :=
  client.message .ping 2 src target (timeBytes millis)

/-- A target of `relay_probe_task`: another client that is not reached directly. -/
def isTarget (client : P2pClient) (src target : Ipv4Addr) : Bool :=
  target != src &&
    !((client.records.routeTable.getRouteById target).map Route.isDirect).getD false

/-- The key to a peer of `relay_probe_task`: that of its first route, when that one is direct. -/
def directPeer (client : P2pClient) (relay : Ipv4Addr) : Option RouteKey :=
  ((client.records.routesTo relay).head?.filter Route.isDirect).map Route.routeKey

/-- A ping goes on that found no route to its sender. -/
def addAbsent (client : P2pClient) (clock : Clock) (key : RouteKey) (metric : UInt8)
    (delivery : Delivery) : Processed :=
  let client :=
    { client with
      records := client.records.addRoute clock.instant delivery.src
        (client.records.fromDefaultRt key metric) }
  client.finish (client.answer .pong delivery.dest delivery.src delivery.packet.payload)

/-- The next step with a packet that was opened. -/
def goOn (client : P2pClient) (clock : Clock) (handling : Handling) (delivery : Delivery) :
    Processed :=
  if delivery.msgType = .ping ∧ handling.absent = true then
    client.addAbsent clock handling.key handling.metric delivery
  else client.process clock handling.net handling.key handling.metric delivery

end P2pClient

/-- What is left to be handled once the first delivery ended, which nothing is when it failed. -/
def Handling.advance (handling : Handling) (outcome : Except Fault Unit) : Handling :=
  { handling with
    deliveries :=
      match outcome with
      | .ok () => handling.deliveries.tail
      | .error _ => []
    absent := false }

/-- The client that drops routes. -/
def Removal.id : Removal → Ipv4Addr
  | .expired id _ => id
  | .disconnected id _ _ => id

/-- The routes that it drops: to whom and over which key. -/
def Removal.entries : Removal → List (Ipv4Addr × RouteKey)
  | .expired _ entries => entries
  | .disconnected _ owner key => [(owner, key)]

/-- The last step of `remove_oldest_route` or of `tcp_disconnect`. -/
def Removal.apply : Removal → RouteRecords → RouteRecords
  | .expired _ entries, records => records.dropExpired entries
  | .disconnected _ owner key, records => records.removeRoute owner key

inductive RelayEvent where
  | probe (id relay target : Ipv4Addr) (millis : Int)
  | emit (id : Ipv4Addr) (key : RouteKey) (packet : NetPacket)
  | deliver (index : Nat) (now : Instant)
  | lose (index : Nat)
  | handle (index : Nat) (clock : Clock)
  | collectExpired (id : Ipv4Addr) (expiredTime : Instant)
  | disconnect (id : Ipv4Addr) (key : RouteKey)
  | remove (index : Nat)
  | other (id : Ipv4Addr) (changed : P2pClient)

namespace RelayNetwork

def setClient (network : RelayNetwork) (id : Ipv4Addr) (client : P2pClient) : RelayNetwork :=
  { network with clients := Function.update network.clients id client }

def setRecords (network : RelayNetwork) (id : Ipv4Addr) (records : RouteRecords) : RelayNetwork :=
  network.setClient id { network.clients id with records := records }

def send (network : RelayNetwork) (letters : List Letter) : RelayNetwork :=
  { network with letters := network.letters ++ letters }

/-- One step of `relay_probe_task`. -/
def probe (paths : Paths) (network : RelayNetwork) (id relay target : Ipv4Addr) (millis : Int) :
    Option RelayNetwork :=
  let client := network.clients id
  match client.network, client.directPeer relay with
  | some net, some key =>
    if relay ≠ target ∧ client.isTarget net.ip target = true then
      match client.probePacket millis net.ip target with
      | .error _ => some network
      | .ok bytes => some (network.send (paths.post id key bytes))
    else none
  | _, _ => none

/-- A packet arrives. It is passed on, or opened and then handled. -/
def deliver (code : ErasureCode UInt8) (codec : FecCodec) (paths : Paths) (network : RelayNetwork)
    (index : Nat) (now : Instant) : Option RelayNetwork :=
  match network.letters[index]? with
  | none => none
  | some letter =>
    let client := network.clients letter.receiver
    let result := client.handler.nextHandle code codec ⟨client.network, client.records.routeTable⟩
      now letter.bytes
    let forwarded := result.forwarded.toList.flatMap fun passed =>
      paths.post letter.receiver passed.1 passed.2
    let handlings := client.network.toList.map fun net =>
      Handling.mk letter.receiver letter.key net (P2pClient.metricOf letter.bytes)
        result.handled.delivered false
    some
      (({ network with
          letters := network.letters.eraseIdx index
          handlings := network.handlings ++ handlings }.setClient letter.receiver
        { client with handler := result.handled.handler }).send forwarded)

/-- The next step with a packet that was opened. A ping looks for a route to its sender first. -/
def handle (paths : Paths) (network : RelayNetwork) (index : Nat) (clock : Clock) :
    Option RelayNetwork :=
  match network.handlings[index]? with
  | none => none
  | some handling =>
    match handling.deliveries with
    | [] => some { network with handlings := network.handlings.eraseIdx index }
    | delivery :: _ =>
      let client := network.clients handling.receiver
      if delivery.msgType = .ping ∧ handling.absent = false ∧
          client.records.containsKey delivery.src = false then
        some
          { network with
            handlings := network.handlings.set index { handling with absent := true } }
      else
        let processed := client.goOn clock handling delivery
        some
          (({ network with
              handlings := network.handlings.set index (handling.advance processed.outcome)
              }.setClient handling.receiver processed.client).send
            (processed.answers.flatMap (paths.post handling.receiver handling.key)))

/-- The first step of `remove_oldest_route`. -/
def collectExpired (network : RelayNetwork) (id : Ipv4Addr) (expiredTime : Instant) :
    RelayNetwork :=
  let records := (network.clients id).records
  { network with removals := .expired id (records.expiredKeys expiredTime) :: network.removals
    }.setRecords id (records.collectExpired expiredTime)

/-- The first step of `tcp_disconnect`. -/
def disconnect (network : RelayNetwork) (id : Ipv4Addr) (key : RouteKey) : RelayNetwork :=
  match (network.clients id).records.getIdByRouteKey key with
  | none => network
  | some owner => { network with removals := .disconnected id owner key :: network.removals }

/-- Routes are dropped. -/
def remove (network : RelayNetwork) (index : Nat) : Option RelayNetwork :=
  network.removals[index]?.map fun removal =>
    { network with removals := network.removals.eraseIdx index }.setRecords removal.id
      (removal.apply (network.clients removal.id).records)

end RelayNetwork

/-- The clients with all their traffic. A packet may be delivered in any order or get lost, and what
does not concern the routes of a client may change at any time. -/
def relayMachine (code : ErasureCode UInt8) (codec : FecCodec) (paths : Paths) :
    Machine RelayNetwork RelayEvent where
  step network event :=
    match event with
    | .probe id relay target millis => network.probe paths id relay target millis
    | .emit id key packet =>
      if mayEmit id packet = true then some (network.send (paths.post id key packet.intoBytes))
      else none
    | .deliver index now => network.deliver code codec paths index now
    | .lose index => some { network with letters := network.letters.eraseIdx index }
    | .handle index clock => network.handle paths index clock
    | .collectExpired id expiredTime => some (network.collectExpired id expiredTime)
    | .disconnect id key => some (network.disconnect id key)
    | .remove index => network.remove index
    | .other id changed =>
      some (network.setClient id
        { changed with
          network := (network.clients id).network
          records := (network.clients id).records })

/-! ### What a step does -/

/-- The clients after an event: something was sent, a packet arrived or was lost, one that was
opened was handled in a further step, or the routes or the rest of one client changed. -/
inductive RelayNetwork.Moves (code : ErasureCode UInt8) (codec : FecCodec) (paths : Paths)
    (network : RelayNetwork) : RelayEvent → RelayNetwork → Prop where
  | unsent {id relay target millis} : Moves code codec paths network
      (.probe id relay target millis) network
  | probe {id relay target millis net key bytes} (isNet : (network.clients id).network = some net)
      (isProbe : (network.clients id).probePacket millis net.ip target = .ok bytes) :
      Moves code codec paths network (.probe id relay target millis)
        (network.send (paths.post id key bytes))
  | emit {id key packet} (permitted : mayEmit id packet = true) :
      Moves code codec paths network (.emit id key packet)
        (network.send (paths.post id key packet.intoBytes))
  | deliver {index : Nat} {now : Instant} {letter : Letter} {client : P2pClient}
      {result : P2pHandled} (found : network.letters[index]? = some letter)
      (isClient : network.clients letter.receiver = client)
      (isResult : client.handler.nextHandle code codec
        ⟨client.network, client.records.routeTable⟩ now letter.bytes = result) :
      Moves code codec paths network (.deliver index now)
        (({ network with
            letters := network.letters.eraseIdx index
            handlings := network.handlings ++ client.network.toList.map fun net =>
              Handling.mk letter.receiver letter.key net (P2pClient.metricOf letter.bytes)
                result.handled.delivered false }.setClient letter.receiver
          { client with handler := result.handled.handler }).send
            (result.forwarded.toList.flatMap fun passed : RouteKey × List UInt8 =>
              paths.post letter.receiver passed.1 passed.2))
  | lose {index} : Moves code codec paths network (.lose index)
      { network with letters := network.letters.eraseIdx index }
  | drained {index clock handling} (found : network.handlings[index]? = some handling)
      (none : handling.deliveries.head? = none) :
      Moves code codec paths network (.handle index clock)
        { network with handlings := network.handlings.eraseIdx index }
  | looks {index clock handling} (found : network.handlings[index]? = some handling)
      (early : handling.absent = false) :
      Moves code codec paths network (.handle index clock)
        { network with handlings := network.handlings.set index { handling with absent := true } }
  | goesOn {index clock handling delivery processed}
      (found : network.handlings[index]? = some handling)
      (isFirst : handling.deliveries.head? = some delivery)
      (looked : ¬(delivery.msgType = .ping ∧ handling.absent = false ∧
        (network.clients handling.receiver).records.containsKey delivery.src = false))
      (isProcessed : (network.clients handling.receiver).goOn clock handling delivery =
        processed) :
      Moves code codec paths network (.handle index clock)
        (({ network with
            handlings := network.handlings.set index (handling.advance processed.outcome)
            }.setClient handling.receiver processed.client).send
          (processed.answers.flatMap (paths.post handling.receiver handling.key)))
  | collectExpired {id expiredTime} : Moves code codec paths network
      (.collectExpired id expiredTime) (network.collectExpired id expiredTime)
  | disconnect {id key removals} : Moves code codec paths network (.disconnect id key)
      { network with removals := removals }
  | remove {index removal} (found : network.removals[index]? = some removal) :
      Moves code codec paths network (.remove index)
        ({ network with removals := network.removals.eraseIdx index }.setRecords removal.id
          (removal.apply (network.clients removal.id).records))
  | other {id changed} : Moves code codec paths network (.other id changed)
      (network.setClient id
        { changed with
          network := (network.clients id).network
          records := (network.clients id).records })

theorem moves_of_step {code : ErasureCode UInt8} {codec : FecCodec} {paths : Paths}
    {network next : RelayNetwork} {event : RelayEvent}
    (enabled : (relayMachine code codec paths).step network event = some next) :
    network.Moves code codec paths event next := by
  cases event with
  | probe id relay target millis =>
    change network.probe paths id relay target millis = some next at enabled
    unfold RelayNetwork.probe at enabled
    dsimp only at enabled
    split at enabled
    · next net key isNet isPeer =>
      split at enabled
      · split at enabled
        · cases enabled
          exact .unsent
        · next bytes isProbe =>
          cases enabled
          exact .probe isNet isProbe
      · cases enabled
    · cases enabled
  | emit id key packet =>
    change (if mayEmit id packet = true then _ else none) = some next at enabled
    split at enabled
    · next permitted =>
      cases enabled
      exact .emit permitted
    · cases enabled
  | deliver index now =>
    change network.deliver code codec paths index now = some next at enabled
    unfold RelayNetwork.deliver at enabled
    split at enabled
    · cases enabled
    · next letter found =>
      cases enabled
      exact .deliver found rfl rfl
  | lose index =>
    cases enabled
    exact .lose
  | handle index clock =>
    change network.handle paths index clock = some next at enabled
    unfold RelayNetwork.handle at enabled
    split at enabled
    · cases enabled
    · next handling found =>
      split at enabled
      · next none =>
        cases enabled
        exact .drained found (congrArg List.head? none)
      · next delivery rest deliveries =>
        dsimp only at enabled
        split at enabled
        · next looks =>
          cases enabled
          exact .looks found looks.2.1
        · next looked =>
          cases enabled
          exact .goesOn found (congrArg List.head? deliveries) looked rfl
  | collectExpired id expiredTime =>
    cases enabled
    exact .collectExpired
  | disconnect id key =>
    cases enabled
    unfold RelayNetwork.disconnect
    split
    · exact .disconnect
    · exact .disconnect
  | remove index =>
    obtain ⟨removal, found, rfl⟩ := Option.map_eq_some_iff.mp enabled
    exact .remove found
  | other id changed =>
    cases enabled
    exact .other

end Vnt.Tunnel
