/-
This file says what the packets on their way tell about the ways to a host. A packet of a host comes
straight from it, or was passed on and then tells nobody a direct route. No step of the clients
changes that, whatever is delivered in whatever order.
-/

import Vnt.Tunnel.RelayNetwork

namespace Vnt.Tunnel

open Vnt.Base Vnt.Client Vnt.Fec

/-! ### What is on its way, and what is learnt from it -/

/-- The client an address belongs to has its own address and no other. No client takes the address
for a broadcast. -/
structure IsHost (network : RelayNetwork) (host : Ipv4Addr) : Prop where
  broadcast : host ≠ Ipv4Addr.broadcast
  unspecified : host ≠ 0
  ip : ∀ id net, (network.clients id).network = some net → net.ip = host → id = host
  net : ∀ id net, (network.clients id).network = some net → net.broadcast ≠ host

/-- A type whose packets make a client learn a direct route. -/
def IsAnswer (msgType : Except String MsgType) : Prop :=
  msgType = .ok .pong ∨ msgType = .ok .punchReq ∨ msgType = .ok .punchRes

/-- A packet as its sender sent it. -/
structure Straight (paths : Paths) (host : Ipv4Addr) (letter : Letter) (packet : NetPacket) :
    Prop where
  leads : paths.LeadsTo letter.receiver letter.key host
  ping : packet.msgType = .ok .ping →
    packet.header.ttlByte = 0x11 ∨ packet.header.ttlByte = 0x22
  answer : IsAnswer packet.msgType → packet.header.ttlByte = 0x11

/-- A packet that was passed on. -/
structure PassedOn (packet : NetPacket) : Prop where
  ping : packet.msgType = .ok .ping → packet.header.ttlByte = 0x21
  answer : ¬IsAnswer packet.msgType

/-- A packet of a host comes straight from it, or was passed on and then tells nobody a route. -/
def Genuine (paths : Paths) (host : Ipv4Addr) (letter : Letter) : Prop :=
  ∀ packet, NetPacket.new (.ofBytes letter.bytes) = .ok packet → packet.header.srcId = host →
    Straight paths host letter packet ∨ PassedOn packet

/-- What is handled was for its receiver or for everybody. What is handled of a host came over a
path to it, or tells no direct route. -/
structure Handling.Genuine (paths : Paths) (host : Ipv4Addr) (network : RelayNetwork)
    (handling : Handling) : Prop where
  net : (network.clients handling.receiver).network = some handling.net
  own : ∀ delivery ∈ handling.deliveries,
    ¬(handling.net.ip ≠ delivery.dest ∧ delivery.dest ≠ Ipv4Addr.broadcast ∧
      delivery.dest ≠ 0 ∧ delivery.dest ≠ handling.net.broadcast)
  told : ∀ delivery ∈ handling.deliveries, delivery.src = host →
    paths.LeadsTo handling.receiver handling.key host ∨
      (delivery.msgType = .ping → handling.metric ≠ 1) ∧ ¬IsAnswer (.ok delivery.msgType)

/-- Whatever is on its way or is handled is genuine. -/
structure AllGenuine (paths : Paths) (host : Ipv4Addr) (network : RelayNetwork) : Prop where
  isHost : IsHost network host
  letters : ∀ letter ∈ network.letters, Genuine paths host letter
  handlings : ∀ handling ∈ network.handlings, handling.Genuine paths host network

variable {code : ErasureCode UInt8} {codec : FecCodec} {paths : TwoWayPaths}
  {host id target : Ipv4Addr} {network next : RelayNetwork} {packet : NetPacket} {key : RouteKey}
  {bytes : List UInt8} {letter : Letter} {handling : Handling} {delivery : Delivery}
  {clock : Clock} {event : RelayEvent}

/-- What arrives over a path came from its other end. -/
theorem leadsTo_of_mem_post (member : letter ∈ paths.post id key bytes) :
    paths.LeadsTo letter.receiver letter.key id := by
  unfold Paths.LeadsTo
  rw [paths.symmetric (mem_post member).1]
  rfl

/-- What a host sends of itself is as its sender sent it. -/
theorem genuine_of_mayEmit (permitted : mayEmit id packet = true)
    (member : letter ∈ paths.post id key packet.intoBytes) : Genuine paths.toPaths host letter := by
  intro found isPacket src
  rw [(mem_post member).2, packet.new_ofBytes_intoBytes] at isPacket
  cases isPacket
  obtain ⟨own, allowed⟩ := Bool.and_eq_true_iff.mp permitted
  have same : id = host := (beq_iff_eq.mp own).symm.trans src
  refine .inl ⟨same ▸ leadsTo_of_mem_post member, ?_, ?_⟩
  · intro isPing
    change packet.msgType = .ok .ping at isPing
    rw [isPing] at allowed
    rcases Bool.or_eq_true_iff.mp allowed with one | two
    · exact .inl (beq_iff_eq.mp one)
    · exact .inr (beq_iff_eq.mp two)
  · rintro (isPong | isReq | isRes)
    · change packet.msgType = .ok .pong at isPong
      rw [isPong] at allowed
      exact beq_iff_eq.mp allowed
    · change packet.msgType = .ok .punchReq at isReq
      rw [isReq] at allowed
      exact beq_iff_eq.mp allowed
    · change packet.msgType = .ok .punchRes at isRes
      rw [isRes] at allowed
      exact beq_iff_eq.mp allowed

/-- A probe of a host is as its sender sent it. -/
theorem genuine_of_probe {net : NetworkAddr} {millis : Int} (isHost : IsHost network host)
    (isNet : (network.clients id).network = some net)
    (isProbe : (network.clients id).probePacket millis net.ip target = .ok bytes)
    (member : letter ∈ paths.post id key bytes) : Genuine paths.toPaths host letter := by
  obtain ⟨packet, isPacket, isPing, src, ttl⟩ := P2pClient.message_eq_ok isProbe
  intro found isFound same
  rw [(mem_post member).2, isPacket, packet.new_ofBytes_intoBytes] at isFound
  cases isFound
  have sameId : id = host := isHost.ip id net isNet (src.symm.trans same)
  refine .inl ⟨sameId ▸ leadsTo_of_mem_post member, fun _ => .inr ttl, ?_⟩
  rintro (isPong | isReq | isRes)
  · cases isPing.symm.trans isPong
  · cases isPing.symm.trans isReq
  · cases isPing.symm.trans isRes

theorem msgType_decrTtl (packet : NetPacket) : packet.decrTtl.msgType = packet.msgType := by
  have header := decrTtl_eq packet.header
  unfold NetPacket.msgType NetHeader.msgType NetPacket.decrTtl
  rw [header]

/-- What a client passes on of the packets of a host was passed on then. -/
theorem passedOn_decrTtl (genuine : Straight paths.toPaths host letter packet ∨ PassedOn packet)
    (lives : 1 ≤ packet.decrTtl.header.currTtl) : PassedOn packet.decrTtl := by
  have byte : packet.decrTtl.header.ttlByte = decrByte packet.header.ttlByte :=
    ttlByte_decrTtl packet.header
  unfold NetHeader.currTtl at lives
  rw [byte] at lives
  have dies : ∀ other, other = 0x11 ∨ other = 0x21 → packet.header.ttlByte ≠ other := by
    rintro other (rfl | rfl) same
    · rw [same] at lives
      exact absurd lives (by decide)
    · rw [same] at lives
      exact absurd lives (by decide)
  rcases genuine with straight | passed
  · refine ⟨fun isPing => ?_, fun isAnswer => ?_⟩
    · rw [msgType_decrTtl] at isPing
      rcases straight.ping isPing with one | two
      · exact absurd one (dies _ (.inl rfl))
      · rw [byte, two]
        decide
    · unfold IsAnswer at isAnswer
      rw [msgType_decrTtl] at isAnswer
      exact absurd (straight.answer isAnswer) (dies _ (.inl rfl))
  · refine ⟨fun isPing => ?_, fun isAnswer => ?_⟩
    · rw [msgType_decrTtl] at isPing
      exact absurd (passed.ping isPing) (dies _ (.inr rfl))
    · unfold IsAnswer at isAnswer
      rw [msgType_decrTtl] at isAnswer
      exact passed.answer isAnswer

/-- What is passed on of a genuine packet is genuine. -/
theorem genuine_forwarded {handler : InboundHandler} {p2p : P2pNetwork} {now : Instant}
    {forwarded : RouteKey × List UInt8} {passed : Letter}
    (genuine : Genuine paths.toPaths host letter)
    (isForwarded : (handler.nextHandle code codec p2p now letter.bytes).forwarded =
      some forwarded)
    (member : passed ∈ paths.post id forwarded.1 forwarded.2) :
    Genuine paths.toPaths host passed := by
  obtain ⟨packet, built, same, lives⟩ := forwarded_nextHandle isForwarded
  intro found isPacket src
  rw [(mem_post member).2, same, NetPacket.new_ofBytes_intoBytes] at isPacket
  cases isPacket
  have sameSrc : packet.header.srcId = host := by
    rw [← src]
    exact (congrArg NetHeader.srcId (decrTtl_eq packet.header)).symm
  have kept := passedOn_decrTtl (genuine packet built sameSrc) lives
  exact .inr ⟨kept.ping, kept.answer⟩

/-- What is opened of a genuine packet is genuine. -/
theorem genuine_opened {handler : InboundHandler} {routeTable : RouteTable} {now : Instant}
    {net : NetworkAddr} (genuine : Genuine paths.toPaths host letter)
    (isNet : (network.clients letter.receiver).network = some net) :
    Handling.Genuine paths.toPaths host network
      ⟨letter.receiver, letter.key, net, P2pClient.metricOf letter.bytes,
        (handler.nextHandle code codec ⟨some net, routeTable⟩ now letter.bytes).handled.delivered,
        false⟩ := by
  refine ⟨isNet, fun delivery member => ?_, fun delivery member isHost => ?_⟩
  · obtain ⟨packet, -, -, -, dest, own⟩ := mem_delivered_nextHandle rfl member
    rw [dest]
    exact own
  · obtain ⟨packet, built, isType, src, -, -⟩ := mem_delivered_nextHandle rfl member
    rw [← isType]
    rcases genuine packet built (src.symm.trans isHost) with straight | passed
    · exact .inl straight.leads
    · refine .inr ⟨fun isPing => ?_, passed.answer⟩
      have byte : packet.decrTtl.header.ttlByte = decrByte packet.header.ttlByte :=
        ttlByte_decrTtl packet.header
      unfold P2pClient.metricOf NetHeader.maxTtl NetHeader.currTtl
      rw [built]
      dsimp only
      rw [byte, passed.ping (isType.trans (congrArg _ isPing))]
      decide

/-- An answer is genuine: it is one of the host only when its sender is the host. -/
theorem genuine_answer {answered : Letter} (isHost : IsHost network host)
    (genuine : handling.Genuine paths.toPaths host network)
    (isFirst : delivery ∈ handling.deliveries)
    (isAnswer : P2pClient.IsAnswerFrom delivery.dest bytes)
    (member : answered ∈ paths.post handling.receiver handling.key bytes) :
    Genuine paths.toPaths host answered := by
  obtain ⟨packet, isPacket, isSrc, ttl, isType⟩ := isAnswer
  intro found isFound same
  rw [(mem_post member).2, isPacket, packet.new_ofBytes_intoBytes] at isFound
  cases isFound
  have isDest : delivery.dest = host := isSrc.symm.trans same
  have isIp : handling.net.ip = host := by
    by_contra other
    refine genuine.own delivery isFirst ?_
    rw [isDest]
    exact ⟨other, isHost.broadcast, isHost.unspecified,
      (isHost.net handling.receiver handling.net genuine.net).symm⟩
  have sameId := isHost.ip handling.receiver handling.net genuine.net isIp
  refine .inl ⟨sameId ▸ leadsTo_of_mem_post member, fun isPing => ?_, fun _ => ttl⟩
  change packet.msgType = .ok .ping at isPing
  rw [isPing] at isType
  rcases isType with isPong | isRes
  · cases isPong
  · cases isRes

/-- What the next step with a packet answers is an answer of its receiver. -/
theorem mem_answers_goOn {client : P2pClient}
    (member : bytes ∈ (client.goOn clock handling delivery).answers) :
    P2pClient.IsAnswerFrom delivery.dest bytes := by
  unfold P2pClient.goOn at member
  split at member
  · exact P2pClient.mem_answers_finish (.inl rfl) member
  · exact P2pClient.mem_answers_process member

theorem network_goOn (client : P2pClient) :
    (client.goOn clock handling delivery).client.network = client.network := by
  unfold P2pClient.goOn
  split
  · unfold P2pClient.addAbsent
    rw [P2pClient.client_finish]
  · exact P2pClient.network_process

theorem network_update {clients : Ipv4Addr → P2pClient} {other : Ipv4Addr} {client : P2pClient}
    (same : client.network = (clients other).network) (id : Ipv4Addr) :
    (Function.update clients other client id).network = (clients id).network := by
  by_cases isOther : id = other
  · rw [isOther, Function.update_self, same]
  · rw [Function.update_of_ne isOther]

/-- No step gives a client another network. -/
theorem network_step (enabled : (relayMachine code codec paths.toPaths).step network event =
    some next) (id : Ipv4Addr) :
    (next.clients id).network = (network.clients id).network := by
  cases moves_of_step enabled with
  | unsent | probe | emit | lose | drained | looks | disconnect => rfl
  | deliver found isClient =>
    subst isClient
    exact network_update (by rfl) id
  | goesOn found isFirst looked isProcessed =>
    subst isProcessed
    exact network_update (by exact network_goOn _) id
  | collectExpired => exact network_update (by rfl) id
  | remove => exact network_update (by rfl) id
  | other => exact network_update (by rfl) id

theorem network_run {events : List RelayEvent}
    (reaches : (relayMachine code codec paths.toPaths).run network events = some next)
    (id : Ipv4Addr) : (next.clients id).network = (network.clients id).network :=
  Machine.run_induction
    (fun _ reached => (reached.clients id).network = (network.clients id).network) rfl
    (fun _ _ _ _ _ before enabled => (network_step enabled id).trans before) reaches

/-- A handling stays genuine while some of its deliveries end. -/
theorem Handling.Genuine.of_subset {changed : Handling}
    (genuine : handling.Genuine paths.toPaths host network)
    (same : changed.receiver = handling.receiver ∧ changed.key = handling.key ∧
      changed.net = handling.net ∧ changed.metric = handling.metric)
    (fewer : changed.deliveries ⊆ handling.deliveries) :
    changed.Genuine paths.toPaths host network := by
  obtain ⟨receiver, key, net, metric⟩ := same
  refine ⟨?_, fun delivery member => ?_, fun delivery member => ?_⟩
  · rw [receiver, net]
    exact genuine.net
  · rw [net]
    exact genuine.own delivery (fewer member)
  · rw [receiver, key, metric]
    exact genuine.told delivery (fewer member)

theorem Handling.Genuine.advance (genuine : handling.Genuine paths.toPaths host network)
    (outcome : Except Fault Unit) :
    (handling.advance outcome).Genuine paths.toPaths host network := by
  refine genuine.of_subset ⟨rfl, rfl, rfl, rfl⟩ ?_
  unfold Handling.advance
  split
  · exact List.tail_subset _
  · exact List.nil_subset _

namespace AllGenuine

/-- More letters and handlings keep it that are genuine. -/
theorem of_network (holds : AllGenuine paths.toPaths host network)
    (same : ∀ id, (next.clients id).network = (network.clients id).network)
    (letters : ∀ letter ∈ next.letters,
      letter ∈ network.letters ∨ Genuine paths.toPaths host letter)
    (handlings : ∀ handling ∈ next.handlings,
      handling ∈ network.handlings ∨ handling.Genuine paths.toPaths host network) :
    AllGenuine paths.toPaths host next := by
  refine ⟨⟨holds.isHost.broadcast, holds.isHost.unspecified, fun id net isNet => ?_,
    fun id net isNet => ?_⟩, fun letter member => ?_, fun handling member => ?_⟩
  · exact holds.isHost.ip id net ((same id).symm.trans isNet)
  · exact holds.isHost.net id net ((same id).symm.trans isNet)
  · exact (letters letter member).elim (holds.letters letter) id
  · have genuine := (handlings handling member).elim (holds.handlings handling) id
    exact ⟨(same handling.receiver).trans genuine.net, genuine.own, genuine.told⟩

/-- No step of the clients makes a packet of a host tell a way that is none. -/
theorem step (holds : AllGenuine paths.toPaths host network)
    (enabled : (relayMachine code codec paths.toPaths).step network event = some next) :
    AllGenuine paths.toPaths host next := by
  have sent : ∀ {sender : Ipv4Addr} {key : RouteKey} {bytes : List UInt8} {letter : Letter},
      (∀ posted ∈ paths.post sender key bytes, Genuine paths.toPaths host posted) →
        letter ∈ network.letters ++ paths.post sender key bytes →
          letter ∈ network.letters ∨ Genuine paths.toPaths host letter :=
    fun genuine member => (List.mem_append.mp member).imp_right (genuine _)
  have networks := network_step enabled
  cases moves_of_step enabled with
  | unsent => exact holds
  | probe isNet isProbe =>
    exact holds.of_network networks
      (fun letter => sent fun posted => genuine_of_probe holds.isHost isNet isProbe)
      fun _ => .inl
  | emit permitted =>
    exact holds.of_network networks
      (fun letter => sent fun posted => genuine_of_mayEmit permitted) fun _ => .inl
  | @deliver index now arrived client result found isClient isResult =>
    subst isClient isResult
    have genuine := holds.letters arrived (List.mem_of_getElem? found)
    refine holds.of_network networks (fun letter member => ?_) fun handling member => ?_
    · rcases List.mem_append.mp member with before | isForwarded
      · exact .inl (List.mem_of_mem_eraseIdx before)
      · obtain ⟨forwarded, isResult, isSent⟩ := List.mem_flatMap.mp isForwarded
        exact .inr (genuine_forwarded genuine (Option.mem_toList.mp isResult) isSent)
    · rcases List.mem_append.mp member with before | isOpened
      · exact .inl before
      · obtain ⟨net, isNet, rfl⟩ := List.mem_map.mp isOpened
        rw [Option.mem_toList] at isNet
        rw [isNet]
        exact .inr (genuine_opened genuine isNet)
  | lose =>
    exact holds.of_network networks (fun _ member => .inl (List.mem_of_mem_eraseIdx member))
      fun _ => .inl
  | drained =>
    exact holds.of_network networks (fun _ => .inl)
      fun _ member => .inl (List.mem_of_mem_eraseIdx member)
  | looks found =>
    have genuine := holds.handlings _ (List.mem_of_getElem? found)
    refine holds.of_network networks (fun _ => .inl) fun changed member => ?_
    rcases List.mem_or_eq_of_mem_set member with before | rfl
    · exact .inl before
    · exact .inr (genuine.of_subset ⟨rfl, rfl, rfl, rfl⟩ fun _ => id)
  | goesOn found isFirst looked isProcessed =>
    subst isProcessed
    have genuine := holds.handlings _ (List.mem_of_getElem? found)
    refine holds.of_network networks (fun letter member => ?_) fun changed member => ?_
    · rcases List.mem_append.mp member with before | isAnswer
      · exact .inl before
      · obtain ⟨answer, inAnswers, isSent⟩ := List.mem_flatMap.mp isAnswer
        exact .inr (genuine_answer holds.isHost genuine (List.mem_of_mem_head? isFirst)
          (mem_answers_goOn inAnswers) isSent)
    · rcases List.mem_or_eq_of_mem_set member with before | rfl
      · exact .inl before
      · exact .inr (genuine.advance _)
  | collectExpired | disconnect | remove | other =>
    exact holds.of_network networks (fun _ => .inl) fun _ => .inl

/-- Nor does any run. -/
theorem run (holds : AllGenuine paths.toPaths host network) {events : List RelayEvent}
    (reaches : (relayMachine code codec paths.toPaths).run network events = some next) :
    AllGenuine paths.toPaths host next :=
  Machine.run_induction (fun _ reached => AllGenuine paths.toPaths host reached) holds
    (fun _ _ _ _ _ before enabled => before.step enabled) reaches

end AllGenuine

end Vnt.Tunnel
