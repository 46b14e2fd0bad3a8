/-
This file embeds what a client does with the packets of other clients once they are opened. A ping
is answered over the path it came from, and an answer tells the way and the round trip time. So do
the requests and answers of a punch, unless they come from inside the network itself.
-/

import Vnt.Client.RouteRecords
import Vnt.Tunnel.EnhancedInbound
import Vnt.Tunnel.P2pInbound

namespace Vnt.Tunnel

open Vnt.Base Vnt.Client Vnt.Fec Vnt.Server

/-- A client as far as the packets of other clients concern it: the layers, the network and the
subnets behind other clients, the routes, the last step of its packets, the bytes that were received
and the answers to pings, and the address behind each key, when it is an IPv4 address. -/
structure P2pClient where
  handler : InboundHandler
  network : Option NetworkAddr
  subnetRoute : List NetInput
  records : RouteRecords
  enhanced : EnhancedInbound
  traffic : Counters
  received : Counters
  addressOf : RouteKey → Option Ipv4Addr

/-- The time: that of the monotonic clock, and that of the wall clock in milliseconds. -/
structure Clock where
  instant : Instant
  millis : Int

/-- The 8 bytes of a time. -/
def timeBytes (time : Int) : List UInt8 := bigEndian 8 (time % 2 ^ 64).toNat

/-- `i64::from_be_bytes` of the first 8 bytes. -/
def timeOf (payload : List UInt8) : Int := Int.bmod (ofBigEndian (payload.take 8)) (2 ^ 64)

/-- The difference of two times, as a round trip time. An overflow of the difference is a panic. -/
def elapsed (now time : Int) : Except Fault UInt32 :=
  if now - time < 2 ^ 63 then .ok (UInt32.ofNat (now - time).toNat) else .error .panics

/-- A packet without payload that is to be sent directly. -/
def directPacket (msgType : MsgType) (ttl : UInt8) (src dest : Ipv4Addr) (size reserve : Nat) :
    Except String NetPacket :=
  (NetPacket.new (.zeroedSize (headLength + size) reserve)).map fun packet =>
    ((((packet.setMsgType msgType).setTtl ttl).setSrcId src).setDestId dest)

namespace P2pClient

/-- `NetworkRoute::network_contains`. -/
def networkContains (client : P2pClient) (ip : Ipv4Addr) : Bool :=
  (client.network.any fun net => net.network.contains ip) ||
    (routeOf client.subnetRoute ip).isSome

/-- The path leads through the network itself. -/
def loops (client : P2pClient) (key : RouteKey) : Bool :=
  (client.addressOf key).any client.networkContains

/-- Fill a packet of 8 bytes, encrypt it and put it on the wire. -/
def message (client : P2pClient) (msgType : MsgType) (ttl : UInt8) (src dest : Ipv4Addr)
    (payload : List UInt8) : Except String (List UInt8) := do
  let packet ← directPacket msgType ttl src dest 8 client.handler.packetCrypto.encryptReserve
  let packet ← packet.setPayload payload
  let packet ← client.handler.packetCrypto.encryptInPlace packet
  return packet.intoBytes

/-- An answer to another client. -/
def answer (client : P2pClient) (msgType : MsgType) (src dest : Ipv4Addr) (payload : List UInt8) :
    Except String (List UInt8) :=
  client.message msgType 1 src dest payload

/-- What comes of one packet that was opened: the client, what it sends back, what it hands on, and
how it ended. -/
structure Processed where
  client : P2pClient
  answers : List (List UInt8)
  sent : List Sent
  outcome : Except Fault Unit

/-- The client ended with what it has to send back, if anything. -/
def finish (client : P2pClient) (answers : Except String (List UInt8)) : Processed :=
  match answers with
  | .error message => ⟨client, [], [], .error (.error message)⟩
  | .ok bytes => ⟨client, [bytes], [], .ok ()⟩

/-- The client with a packet handed on. -/
def handOn (client : P2pClient) (net : NetworkAddr) (delivery : Delivery) : Processed :=
  let result := client.enhanced.inbound client.traffic net delivery.msgType delivery.src
    delivery.packet
  let client := { client with traffic := result.1 }
  match result.2 with
  | .error fault => ⟨client, [], [], .error fault⟩
  | .ok sent => ⟨client, [], sent, .ok ()⟩

/-- The answer to a ping arrived. -/
def pong (client : P2pClient) (clock : Clock) (key : RouteKey) (metric : UInt8)
    (delivery : Delivery) : Processed :=
  let payload := delivery.packet.payload
  if payload.length < 8 ∨ clock.millis < timeOf payload then ⟨client, [], [], .ok ()⟩
  else
    match elapsed clock.millis (timeOf payload) with
    | .error fault => ⟨client, [], [], .error fault⟩
    | .ok rtt =>
      let client :=
        { client with
          records := client.records.addRoute clock.instant delivery.src ⟨key, metric, rtt⟩ }
      match client.received.add delivery.src 1 with
      | .error fault => ⟨client, [], [], .error fault⟩
      | .ok received => ⟨{ client with received := received }, [], [], .ok ()⟩

/-- `process_decompressed_packet`, and the last step of a packet of `Quic`, which is not opened. -/
def process (client : P2pClient) (clock : Clock) (net : NetworkAddr) (key : RouteKey)
    (metric : UInt8) (delivery : Delivery) : Processed :=
  match delivery.msgType with
  | .turn => client.handOn net delivery
  | .broadcast => client.handOn net delivery
  | .excludeBroadcast => client.handOn net delivery
  | .quic => client.handOn net delivery
  | .ping =>
    let client :=
      { client with
        records := client.records.addRouteIfAbsent clock.instant delivery.src
          (client.records.fromDefaultRt key metric) }
    client.finish (client.answer .pong delivery.dest delivery.src delivery.packet.payload)
  | .pong => client.pong clock key metric delivery
  | .punchReq =>
    if client.loops key = true then ⟨client, [], [], .ok ()⟩
    else
      let client :=
        { client with records := client.records.addOwnerRoute clock.instant delivery.src key }
      client.finish (client.answer .punchRes delivery.dest delivery.src (timeBytes clock.millis))
  | .punchRes =>
    if client.loops key = true then ⟨client, [], [], .ok ()⟩
    else
      let client :=
        { client with records := client.records.addOwnerRoute clock.instant delivery.src key }
      ⟨client, [], [], .ok ()⟩
  | _ => ⟨client, [], [], .ok ()⟩

/-- Process packets one after the other, up to the first that fails. -/
def processAll (client : P2pClient) (clock : Clock) (net : NetworkAddr) (key : RouteKey)
    (metric : UInt8) : List Delivery → Processed
  | [] => ⟨client, [], [], .ok ()⟩
  | delivery :: rest =>
    let first := client.process clock net key metric delivery
    match first.outcome with
    | .error _ => first
    | .ok () =>
      let later := processAll first.client clock net key metric rest
      ⟨later.client, first.answers ++ later.answers, first.sent ++ later.sent, later.outcome⟩

/-- The number of hops a packet took, when it is there. -/
def metricOf (buf : List UInt8) : UInt8 :=
  match NetPacket.new (.ofBytes buf) with
  | .error _ => 0
  | .ok packet => packet.decrTtl.header.maxTtl - packet.decrTtl.header.currTtl

/-- `next_handle_impl`, with the packet that is passed on and the answers that go back. -/
def receive (code : ErasureCode UInt8) (codec : FecCodec) (client : P2pClient) (clock : Clock)
    (key : RouteKey) (buf : List UInt8) : Processed × Option (RouteKey × List UInt8) :=
  let result := client.handler.nextHandle code codec ⟨client.network, client.records.routeTable⟩
    clock.instant buf
  let client := { client with handler := result.handled.handler }
  match client.network with
  | none => (⟨client, [], [], result.handled.outcome.mapError .error⟩, result.forwarded)
  | some net =>
    let processed := client.processAll clock net key (metricOf buf) result.handled.delivered
    match processed.outcome with
    | .error _ => (processed, result.forwarded)
    | .ok () =>
      ({ processed with outcome := result.handled.outcome.mapError .error }, result.forwarded)

end P2pClient

/-! ### What is delivered and what is passed on -/

/-- A relay changes the time to live of a header only. -/
theorem decrTtl_eq (header : NetHeader) :
    header.decrTtl = { header with ttlByte := header.decrTtl.ttlByte } := by
  unfold NetHeader.decrTtl
  split <;> rfl

variable {code : ErasureCode UInt8} {codec : FecCodec} {handler : InboundHandler}
  {p2p : P2pNetwork} {now : Instant} {buf : List UInt8} {delivery : Delivery}

theorem mem_deliverAll {packetCompression : PacketCompression} {deliver : NetPacket → Delivery}
    {packets : List NetPacket}
    (member : delivery ∈ (InboundHandler.deliverAll packetCompression deliver packets).1) :
    ∃ packet, delivery = deliver packet := by
  induction packets with
  | nil => cases member
  | cons packet rest inductionHypothesis =>
    unfold InboundHandler.deliverAll at member
    split at member
    · cases member
    · next restored _ =>
      rcases List.mem_cons.mp member with same | later
      · exact ⟨restored, same⟩
      · exact inductionHypothesis later

theorem mem_delivered_nextHandleOwn {packet : NetPacket} {msgType : MsgType}
    (member : delivery ∈ (handler.nextHandleOwn code codec now packet msgType).delivered) :
    delivery.msgType = msgType ∧ delivery.src = packet.header.srcId ∧
      delivery.dest = packet.header.destId := by
  have decoded : ∀ (packetCompression : PacketCompression)
      (received : FecDecoder × Except String (Option (List NetPacket))),
      delivery ∈ (handler.handleDecoded packetCompression
        (Delivery.mk msgType packet.header.srcId packet.header.destId) received).delivered →
          ∃ opened, delivery = Delivery.mk msgType packet.header.srcId packet.header.destId
            opened := by
    intro packetCompression received isDelivered
    unfold InboundHandler.handleDecoded at isDelivered
    dsimp only at isDelivered
    split at isDelivered
    · cases isDelivered
    · exact mem_deliverAll isDelivered
  have single : ∃ opened, delivery = Delivery.mk msgType packet.header.srcId
      packet.header.destId opened := by
    unfold InboundHandler.nextHandleOwn at member
    dsimp only at member
    split at member
    · split at member
      · exact decoded _ _ member
      · exact ⟨packet, List.mem_singleton.mp member⟩
    · split at member
      · cases member
      · split at member
        · exact decoded _ _ member
        · exact mem_deliverAll member
  obtain ⟨opened, rfl⟩ := single
  exact ⟨rfl, rfl, rfl⟩

/-- What is delivered of a packet has its type and its addresses, and the packet was for the client
or for everybody. -/
theorem mem_delivered_nextHandle {net : NetworkAddr} (network : p2p.network = some net)
    (member : delivery ∈ (handler.nextHandle code codec p2p now buf).handled.delivered) :
    ∃ packet, NetPacket.new (.ofBytes buf) = .ok packet ∧ packet.msgType = .ok delivery.msgType ∧
      delivery.src = packet.header.srcId ∧ delivery.dest = packet.header.destId ∧
        ¬(net.ip ≠ packet.header.destId ∧ packet.header.destId ≠ Ipv4Addr.broadcast ∧
          packet.header.destId ≠ 0 ∧ packet.header.destId ≠ net.broadcast) := by
  unfold InboundHandler.nextHandle at member
  split at member
  · cases member
  · next packet built =>
    split at member
    · cases member
    · next msgType isType =>
      split at member
      · cases member
      · dsimp only at member
        split at member
        · cases member
        · rw [network] at member
          dsimp only at member
          split at member
          · cases member
          · next own =>
            obtain ⟨sameType, src, dest⟩ := mem_delivered_nextHandleOwn member
            have header := decrTtl_eq packet.header
            have sameSrc : packet.decrTtl.header.srcId = packet.header.srcId :=
              (congrArg NetHeader.srcId header).trans rfl
            have sameDest : packet.decrTtl.header.destId = packet.header.destId :=
              (congrArg NetHeader.destId header).trans rfl
            rw [sameDest] at own
            exact ⟨packet, built, sameType ▸ isType, src.trans sameSrc, dest.trans sameDest, own⟩

/-- What is passed on is the packet with one hop less to live, and has at least one left. -/
theorem forwarded_nextHandle {forwarded : RouteKey × List UInt8}
    (passed : (handler.nextHandle code codec p2p now buf).forwarded = some forwarded) :
    ∃ packet, NetPacket.new (.ofBytes buf) = .ok packet ∧
      forwarded.2 = packet.decrTtl.intoBytes ∧ 1 ≤ packet.decrTtl.header.currTtl := by
  unfold InboundHandler.nextHandle at passed
  split at passed
  · cases passed
  · next packet built =>
    split at passed
    · cases passed
    · dsimp only at passed
      split at passed
      · cases passed
      · split at passed
        · cases passed
        · split at passed
          · cases passed
          · split at passed
            · dsimp only at passed
              split at passed
              · next lives =>
                obtain ⟨route, -, rfl⟩ := Option.map_eq_some_iff.mp passed
                exact ⟨packet, built, rfl, lives⟩
              · cases passed
            · cases passed

/-! ### What is answered and what is learnt -/

namespace P2pClient

open RouteRecords

variable {client : P2pClient} {clock : Clock} {net : NetworkAddr} {key : RouteKey} {metric : UInt8}

/-- A message has its type, its addresses and the hops it was given. -/
theorem message_eq_ok {msgType : MsgType} {ttl : UInt8} {src dest : Ipv4Addr}
    {payload bytes : List UInt8}
    (outcome : client.message msgType ttl src dest payload = .ok bytes) :
    ∃ packet : NetPacket, bytes = packet.intoBytes ∧ packet.msgType = .ok msgType ∧
      packet.header.srcId = src ∧ packet.header.ttlByte = (ttl <<< 4) ||| (ttl &&& 0x0F) := by
  unfold message directPacket at outcome
  rw [NetPacket.new_zeroedSize] at outcome
  dsimp only [bind, Except.bind, Except.map] at outcome
  split at outcome
  · cases outcome
  · next filled isFilled =>
    split at outcome
    · cases outcome
    · next encrypted isEncrypted =>
      cases outcome
      have header : encrypted.header =
          { ((NetHeader.zero.setMsgType msgType.toByte).setTtl ttl ttl) with
            srcId := src
            destId := dest } := by
        rw [PacketCrypto.header_encryptInPlace isEncrypted]
        unfold NetPacket.setPayload at isFilled
        split at isFilled <;> cases isFilled
        rfl
      refine ⟨encrypted, rfl, NetPacket.msgType_of_typeByte ?_, ?_, ?_⟩
      · exact congrArg NetHeader.typeByte header
      · exact congrArg NetHeader.srcId header
      · exact congrArg NetHeader.ttlByte header

/-- The bytes of an answer from an address, with one hop to live. -/
def IsAnswerFrom (src : Ipv4Addr) (bytes : List UInt8) : Prop :=
  ∃ packet : NetPacket, bytes = packet.intoBytes ∧ packet.header.srcId = src ∧
    packet.header.ttlByte = 0x11 ∧ (packet.msgType = .ok .pong ∨ packet.msgType = .ok .punchRes)

/-- What a client answers at the end of a delivery is an answer. -/
theorem mem_answers_finish {ended : P2pClient} {msgType : MsgType} {src dest : Ipv4Addr}
    {payload bytes : List UInt8} (isAnswer : msgType = .pong ∨ msgType = .punchRes)
    (member : bytes ∈ (ended.finish (client.answer msgType src dest payload)).answers) :
    IsAnswerFrom src bytes := by
  cases outcome : client.answer msgType src dest payload with
  | error message =>
    rw [outcome] at member
    cases member
  | ok found =>
    rw [outcome] at member
    cases List.mem_singleton.mp member
    obtain ⟨packet, isPacket, isType, isSrc, ttl⟩ := message_eq_ok outcome
    refine ⟨packet, isPacket, isSrc, ttl, ?_⟩
    rcases isAnswer with rfl | rfl
    · exact .inl isType
    · exact .inr isType

/-- A delivery is answered by the client it was for. -/
theorem mem_answers_process {bytes : List UInt8}
    (member : bytes ∈ (client.process clock net key metric delivery).answers) :
    IsAnswerFrom delivery.dest bytes := by
  have handed : bytes ∉ (client.handOn net delivery).answers := by
    unfold handOn
    dsimp only
    split <;> exact List.not_mem_nil
  unfold process at member
  split at member
  · exact absurd member handed
  · exact absurd member handed
  · exact absurd member handed
  · exact absurd member handed
  · exact mem_answers_finish (.inl rfl) member
  · unfold pong at member
    dsimp only at member
    split at member
    · cases member
    · split at member
      · cases member
      · split at member <;> cases member
  · split at member
    · cases member
    · exact mem_answers_finish (.inr rfl) member
  · split at member <;> cases member
  · cases member

theorem client_finish (answers : Except String (List UInt8)) :
    (client.finish answers).client = client := by
  cases answers <;> rfl

/-- A packet that is handed on is counted, and changes nothing else. -/
theorem client_handOn (client : P2pClient) (net : NetworkAddr) (delivery : Delivery) :
    ∃ counted, (client.handOn net delivery).client = { client with traffic := counted } := by
  unfold handOn
  dsimp only
  split <;> exact ⟨_, rfl⟩

/-- What a delivery makes of the routes of a client. -/
inductive Learns (records : RouteRecords) (now : Instant) (key : RouteKey) (metric : UInt8)
    (delivery : Delivery) : RouteRecords → Prop where
  | nothing : Learns records now key metric delivery records
  | ping (isType : delivery.msgType = .ping) :
    Learns records now key metric delivery
      (records.addRouteIfAbsent now delivery.src (records.fromDefaultRt key metric))
  | pong (isType : delivery.msgType = .pong) (rtt : UInt32) :
    Learns records now key metric delivery (records.addRoute now delivery.src ⟨key, metric, rtt⟩)
  | punch (isType : delivery.msgType = .punchReq ∨ delivery.msgType = .punchRes) :
    Learns records now key metric delivery (records.addOwnerRoute now delivery.src key)

/-- An answer to a ping enters the way it came, unless it is not one. -/
theorem learns_pong (isType : delivery.msgType = .pong) :
    Learns client.records clock.instant key metric delivery
        (client.pong clock key metric delivery).client.records ∧
      (client.pong clock key metric delivery).client.network = client.network := by
  unfold pong
  dsimp only
  split
  · exact ⟨.nothing, rfl⟩
  · split
    · exact ⟨.nothing, rfl⟩
    · next rtt _ =>
      split
      · exact ⟨.pong isType rtt, rfl⟩
      · exact ⟨.pong isType rtt, rfl⟩

/-- A delivery makes a client learn a route, or nothing, and leaves its network as it is. -/
theorem learns_process (client : P2pClient) (clock : Clock) (net : NetworkAddr) (key : RouteKey)
    (metric : UInt8) (delivery : Delivery) :
    Learns client.records clock.instant key metric delivery
        (client.process clock net key metric delivery).client.records ∧
      (client.process clock net key metric delivery).client.network = client.network := by
  have handed : Learns client.records clock.instant key metric delivery
        (client.handOn net delivery).client.records ∧
      (client.handOn net delivery).client.network = client.network := by
    obtain ⟨counted, isClient⟩ := client.client_handOn net delivery
    rw [isClient]
    exact ⟨.nothing, rfl⟩
  unfold process
  split
  · exact handed
  · exact handed
  · exact handed
  · exact handed
  · next isType =>
    rw [client_finish]
    exact ⟨.ping isType, rfl⟩
  · next isType => exact learns_pong isType
  · next isType =>
    split
    · exact ⟨.nothing, rfl⟩
    · rw [client_finish]
      exact ⟨.punch (.inl isType), rfl⟩
  · next isType =>
    split
    · exact ⟨.nothing, rfl⟩
    · exact ⟨.punch (.inr isType), rfl⟩
  · exact ⟨.nothing, rfl⟩

/-- A delivery changes nothing about the network of a client. -/
theorem network_process :
    (client.process clock net key metric delivery).client.network = client.network :=
  (client.learns_process clock net key metric delivery).2

/-! ### A packet that is received -/

/-- What a client makes of a packet that is received: nothing, when it has no network yet. -/
theorem receive_eq_of_none (network : client.network = none) :
    (client.receive code codec clock key buf).1.client.records = client.records := by
  unfold receive
  dsimp only
  split
  · rfl
  · next isNet =>
    rw [network] at isNet
    cases isNet

/-- Otherwise what it makes of what is delivered. -/
theorem receive_eq_of_some (network : client.network = some net) :
    ∃ before : P2pClient, before.records = client.records ∧
      (client.receive code codec clock key buf).1.client =
        (before.processAll clock net key (metricOf buf) (client.handler.nextHandle code codec
          ⟨client.network, client.records.routeTable⟩ clock.instant
            buf).handled.delivered).client := by
  refine ⟨{ client with handler := (client.handler.nextHandle code codec
    ⟨client.network, client.records.routeTable⟩ clock.instant buf).handled.handler }, rfl, ?_⟩
  unfold receive
  dsimp only
  split
  · next isNone =>
    rw [network] at isNone
    cases isNone
  · next isNet =>
    cases network.symm.trans isNet
    split <;> rfl

end P2pClient

end Vnt.Tunnel
