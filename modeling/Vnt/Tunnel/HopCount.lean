/-
This file settles how far a packet can travel over other clients. Its sender writes one number into
both halves of the byte for the time to live. Every client takes one from the second half, and
passes the packet on only when something is left. So the second half is what is left of the first
half after the hops so far, and the difference tells their number, whatever the routes are and even
if they lead in a circle.
-/

import Vnt.Base.Machine
import Vnt.Tunnel.RelayProbe

namespace Vnt.Tunnel

open Vnt.Base Vnt.Client Vnt.Fec

/-! ### The two halves of the byte -/

/-- The byte with these halves. -/
def ttlByteOf (max curr : UInt8) : UInt8 := (max <<< 4) ||| (curr &&& 0x0F)

theorem halves_ttlByteOf : ∀ max curr : Fin 16,
    ttlByteOf (UInt8.ofNat max) (UInt8.ofNat curr) >>> 4 = UInt8.ofNat max ∧
      ttlByteOf (UInt8.ofNat max) (UInt8.ofNat curr) &&& 0x0F = UInt8.ofNat curr := by
  decide +kernel

theorem decrByte_ttlByteOf : ∀ max curr : Fin 16, curr ≠ 0 →
    decrByte (ttlByteOf (UInt8.ofNat max) (UInt8.ofNat curr)) =
      ttlByteOf (UInt8.ofNat max) (UInt8.ofNat curr - 1) := by
  decide +kernel

theorem ofNat_toNat_fin {value : UInt8} (small : value ≤ 15) :
    ∃ half : Fin 16, UInt8.ofNat half = value :=
  ⟨⟨value.toNat, Nat.lt_succ_of_le (UInt8.le_iff_toNat_le.mp small)⟩, UInt8.ofNat_toNat⟩

theorem toNat_pred {value : UInt8} (positive : value ≠ 0) :
    (value - 1).toNat + 1 = value.toNat := by
  have one : 1 ≤ value.toNat := Nat.pos_of_ne_zero fun zero => positive (UInt8.toNat_inj.mp zero)
  have fewer : (value - 1).toNat = value.toNat - 1 :=
    UInt8.toNat_sub_of_le value 1 (UInt8.le_iff_toNat_le.mpr one)
  omega

theorem pred_le {curr : UInt8} (within : curr ≤ 15) (lives : curr ≠ 0) : curr - 1 ≤ 15 := by
  have fewer := toNat_pred lives
  have bound : curr.toNat ≤ 15 := UInt8.le_iff_toNat_le.mp within
  exact UInt8.le_iff_toNat_le.mpr (show (curr - 1).toNat ≤ 15 by omega)

theorem maxTtl_setTtl (header : NetHeader) {max curr : UInt8} (most : max ≤ 15)
    (within : curr ≤ 15) : (header.setTtl max curr).maxTtl = max := by
  obtain ⟨upper, rfl⟩ := ofNat_toNat_fin most
  obtain ⟨lower, rfl⟩ := ofNat_toNat_fin within
  exact (halves_ttlByteOf upper lower).1

theorem currTtl_setTtl (header : NetHeader) {max curr : UInt8} (most : max ≤ 15)
    (within : curr ≤ 15) : (header.setTtl max curr).currTtl = curr := by
  obtain ⟨upper, rfl⟩ := ofNat_toNat_fin most
  obtain ⟨lower, rfl⟩ := ofNat_toNat_fin within
  exact (halves_ttlByteOf upper lower).2

/-- A client takes one from the second half. -/
theorem decrTtl_setTtl (header : NetHeader) {max curr : UInt8} (most : max ≤ 15)
    (within : curr ≤ 15) (lives : curr ≠ 0) :
    (header.setTtl max curr).decrTtl = header.setTtl max (curr - 1) := by
  obtain ⟨upper, rfl⟩ := ofNat_toNat_fin most
  obtain ⟨lower, rfl⟩ := ofNat_toNat_fin within
  have positive : lower ≠ 0 := by
    rintro rfl
    exact lives rfl
  rw [decrTtl_eq, ttlByte_decrTtl]
  exact congrArg (fun byte => { header with ttlByte := byte })
    (decrByte_ttlByteOf upper lower positive)

/-! ### A packet on its way -/

/-- The clients, a packet on its way between them, and how often it was passed on. -/
structure Journey where
  clients : Ipv4Addr → P2pClient
  letter : Option Letter
  forwards : Nat

/-- The packet arrives or gets lost, or something else changes a client. -/
inductive JourneyEvent where
  | deliver (clock : Clock)
  | lose
  | change (id : Ipv4Addr) (client : P2pClient)

/-- The packet arrives. -/
def Journey.deliver (code : ErasureCode UInt8) (codec : FecCodec) (paths : Paths)
    (journey : Journey) (clock : Clock) : Option Journey :=
  match journey.letter with
  | none => none
  | some letter =>
    let result :=
      (journey.clients letter.receiver).receive code codec clock letter.key letter.bytes
    let clients := Function.update journey.clients letter.receiver result.1.client
    match result.2 with
    | none => some ⟨clients, none, journey.forwards⟩
    | some (key, bytes) =>
      some ⟨clients, (paths.post letter.receiver key bytes).head?, journey.forwards + 1⟩

/-- A packet in a network of any clients, whose routes may change at any time. -/
def journeyMachine (code : ErasureCode UInt8) (codec : FecCodec) (paths : Paths) :
    Machine Journey JourneyEvent where
  step journey event :=
    match event with
    | .deliver clock => journey.deliver code codec paths clock
    | .lose => some { journey with letter := none }
    | .change id client =>
      some { journey with clients := Function.update journey.clients id client }

/-- The packet with these halves of the byte. -/
def withHops (packet : NetPacket) (max curr : UInt8) : NetPacket :=
  { packet with header := packet.header.setTtl max curr }

/-- The packet on its way has lost as much of its time to live as it was passed on, and has some
left. -/
structure Tracked (packet : NetPacket) (ttl : UInt8) (journey : Journey) : Prop where
  forwards : journey.forwards + 1 ≤ ttl.toNat
  letter : ∀ letter, journey.letter = some letter →
    ∃ curr : UInt8, curr.toNat + journey.forwards = ttl.toNat ∧
      letter.bytes = (withHops packet ttl curr).intoBytes

variable {code : ErasureCode UInt8} {codec : FecCodec} {paths : Paths} {packet : NetPacket}
  {ttl curr : UInt8} {journey next : Journey} {event : JourneyEvent}

theorem forwarded_receive (client : P2pClient) (clock : Clock) (key : RouteKey)
    (buf : List UInt8) :
    (client.receive code codec clock key buf).2 =
      (client.handler.nextHandle code codec ⟨client.network, client.records.routeTable⟩
        clock.instant buf).forwarded := by
  unfold P2pClient.receive
  dsimp only
  split
  · rfl
  · split <;> rfl

/-- The time to live with one less. -/
theorem decrTtl_withHops (most : ttl ≤ 15) (within : curr ≤ 15) (lives : curr ≠ 0) :
    (withHops packet ttl curr).decrTtl = withHops packet ttl (curr - 1) := by
  unfold withHops NetPacket.decrTtl
  dsimp only
  rw [decrTtl_setTtl packet.header most within lives]

/-- What is passed on has one hop less to live, and at least one. -/
theorem forwarded_withHops {handler : InboundHandler} {p2p : P2pNetwork} {now : Instant}
    {forwarded : RouteKey × List UInt8} (most : ttl ≤ 15) (within : curr ≤ 15) (lives : curr ≠ 0)
    (passed :
    (handler.nextHandle code codec p2p now (withHops packet ttl curr).intoBytes).forwarded =
      some forwarded) :
    forwarded.2 = (withHops packet ttl (curr - 1)).intoBytes ∧ 1 ≤ curr - 1 := by
  obtain ⟨received, isReceived, same, left⟩ := forwarded_nextHandle passed
  rw [NetPacket.new_ofBytes_intoBytes] at isReceived
  cases isReceived
  have shorter : (withHops packet ttl curr).decrTtl = withHops packet ttl (curr - 1) :=
    decrTtl_withHops most within lives
  constructor
  · rw [same, ← shorter]
    rfl
  · have half : (withHops packet ttl curr).decrTtl.header.currTtl = curr - 1 := by
      rw [shorter]
      exact currTtl_setTtl packet.header most (pred_le within lives)
    rw [← half]
    exact left

theorem tracked_step (most : ttl ≤ 15) (tracked : Tracked packet ttl journey)
    (enabled : (journeyMachine code codec paths).step journey event = some next) :
    Tracked packet ttl next := by
  cases event with
  | deliver clock =>
    have isDeliver : journey.deliver code codec paths clock = some next := enabled
    unfold Journey.deliver at isDeliver
    cases isLetter : journey.letter with
    | none =>
      rw [isLetter] at isDeliver
      cases isDeliver
    | some letter =>
      rw [isLetter] at isDeliver
      dsimp only at isDeliver
      obtain ⟨curr, left, bytes⟩ := tracked.letter letter isLetter
      cases passed : ((journey.clients letter.receiver).receive code codec clock letter.key
          letter.bytes).2 with
      | none =>
        rw [passed] at isDeliver
        cases isDeliver
        exact ⟨tracked.forwards, fun _ isSome => by cases isSome⟩
      | some forwarded =>
        rw [passed] at isDeliver
        cases isDeliver
        rw [forwarded_receive, bytes] at passed
        have bound : ttl.toNat ≤ 15 := UInt8.le_iff_toNat_le.mp most
        have before := tracked.forwards
        have within : curr ≤ 15 := UInt8.le_iff_toNat_le.mpr (show curr.toNat ≤ 15 by omega)
        have lives : curr ≠ 0 := fun zero => by
          rw [zero, UInt8.toNat_zero] at left
          omega
        obtain ⟨same, remains⟩ := forwarded_withHops most within lives passed
        have fewer := toNat_pred lives
        have some : 1 ≤ (curr - 1).toNat := UInt8.le_iff_toNat_le.mp remains
        refine ⟨?_, fun posted isPosted => ⟨curr - 1, ?_, ?_⟩⟩
        · dsimp only
          omega
        · dsimp only
          omega
        · rw [← same]
          exact (mem_post (List.mem_of_head? isPosted)).2
  | lose =>
    cases enabled
    exact ⟨tracked.forwards, fun _ isSome => by cases isSome⟩
  | change id client =>
    cases enabled
    exact ⟨tracked.forwards, tracked.letter⟩

theorem tracked_run (most : ttl ≤ 15) {events : List JourneyEvent}
    (reaches : (journeyMachine code codec paths).run journey events = some next)
    (tracked : Tracked packet ttl journey) : Tracked packet ttl next :=
  Machine.run_induction (fun _ journey => Tracked packet ttl journey) tracked
    (fun _ _ _ _ _ tracked enabled => tracked_step most tracked enabled) reaches

/-! ### The number of hops -/

/-- The number of hops a client reads off the packet that arrives. -/
theorem metricOf_withHops (most : ttl ≤ 15) (within : curr ≤ 15) (lives : curr ≠ 0) :
    P2pClient.metricOf (withHops packet ttl curr).intoBytes = ttl - (curr - 1) := by
  unfold P2pClient.metricOf
  rw [NetPacket.new_ofBytes_intoBytes]
  change (packet.header.setTtl ttl curr).decrTtl.maxTtl -
    (packet.header.setTtl ttl curr).decrTtl.currTtl = ttl - (curr - 1)
  rw [decrTtl_setTtl packet.header most within lives,
    maxTtl_setTtl packet.header most (pred_le within lives),
    currTtl_setTtl packet.header most (pred_le within lives)]

namespace P2pClient

open RouteRecords

variable {client : P2pClient} {clock : Clock} {net : NetworkAddr} {key : RouteKey}
  {metric : UInt8} {delivery : Delivery} {deliveries : List Delivery} {other : Ipv4Addr}
  {found : Route} {buf : List UInt8}

/-- A punch enters a direct route whatever the number of hops. -/
def IsPunch (msgType : MsgType) : Prop := msgType = .punchReq ∨ msgType = .punchRes

/-- A route that a delivery enters has the number of hops it was given, when no punch does. -/
theorem metric_of_process (quiet : ¬IsPunch delivery.msgType)
    (member : found ∈ (client.process clock net key metric delivery).client.records.routesTo
      other) :
    found ∈ client.records.routesTo other ∨ found.metric = metric := by
  have learns := (client.learns_process clock net key metric delivery).1
  generalize (client.process clock net key metric delivery).client.records = next at learns member
  cases learns with
  | nothing => exact .inl member
  | ping isType =>
    rcases mem_routesTo_addRouteIfAbsent member with before | ⟨-, isNew⟩
    · exact .inl before
    · exact .inr (congrArg Route.metric isNew)
  | pong isType rtt =>
    rcases mem_routesTo_addRoute member with before | ⟨-, isNew⟩
    · exact .inl before
    · exact .inr (congrArg Route.metric isNew)
  | punch isType => exact absurd isType quiet

theorem metric_of_processAll (quiet : ∀ delivery ∈ deliveries, ¬IsPunch delivery.msgType)
    (member : found ∈
      (client.processAll clock net key metric deliveries).client.records.routesTo other) :
    found ∈ client.records.routesTo other ∨ found.metric = metric := by
  induction deliveries generalizing client with
  | nil => exact .inl member
  | cons delivery rest inductionHypothesis =>
    have first := quiet delivery List.mem_cons_self
    unfold processAll at member
    dsimp only at member
    split at member
    · exact metric_of_process first member
    · have later := fun delivery isLater => quiet delivery (List.mem_cons_of_mem _ isLater)
      rcases inductionHypothesis later member with isFirst | isNew
      · exact metric_of_process first isFirst
      · exact .inr isNew

/-- A route that a packet enters has the number of hops the packet took. -/
theorem metric_of_receive
    (member : found ∈ (client.receive code codec clock key buf).1.client.records.routesTo other) :
    found ∈ client.records.routesTo other ∨ found.metric = metricOf buf ∨
      ∃ packet msgType, NetPacket.new (.ofBytes buf) = .ok packet ∧
        packet.msgType = .ok msgType ∧ IsPunch msgType := by
  cases network : client.network with
  | none =>
    rw [receive_eq_of_none network] at member
    exact .inl member
  | some net =>
    obtain ⟨before, records, isClient⟩ := receive_eq_of_some network
    rw [isClient] at member
    by_cases quiet : ∀ delivery ∈ (client.handler.nextHandle code codec
        ⟨client.network, client.records.routeTable⟩ clock.instant buf).handled.delivered,
          ¬IsPunch delivery.msgType
    · rcases metric_of_processAll quiet member with earlier | isNew
      · exact .inl (records ▸ earlier)
      · exact .inr (.inl isNew)
    · push Not at quiet
      obtain ⟨delivery, isDelivered, punches⟩ := quiet
      obtain ⟨packet, built, isType, -⟩ := mem_delivered_nextHandle network isDelivered
      exact .inr (.inr ⟨packet, delivery.msgType, built, isType, punches⟩)

end P2pClient

/-- The journey of a packet that its sender has just sent. -/
structure JustSent (packet : NetPacket) (ttl : UInt8) (journey : Journey) : Prop where
  forwards : journey.forwards = 0
  letter : ∀ letter, journey.letter = some letter →
    letter.bytes = (packet.setTtl ttl).intoBytes

theorem tracked_of_sent (one : 1 ≤ ttl) (sent : JustSent packet ttl journey) :
    Tracked packet ttl journey := by
  refine ⟨?_, fun letter isLetter => ⟨ttl, ?_, sent.letter letter isLetter⟩⟩
  · rw [sent.forwards]
    exact UInt8.le_iff_toNat_le.mp one
  · rw [sent.forwards]
    rfl

/-- A packet that is sent with some hops to live is passed on less often than that, and where it
arrives the client reads off it the number of its hops and enters no other metric for a route. -/
theorem hops_of_run (one : 1 ≤ ttl) (most : ttl ≤ 15) (sent : JustSent packet ttl journey)
    {events : List JourneyEvent}
    (reaches : (journeyMachine code codec paths).run journey events = some next) :
    next.forwards ≤ ttl.toNat - 1 ∧
      ∀ letter, next.letter = some letter →
        (P2pClient.metricOf letter.bytes).toNat = next.forwards + 1 ∧
          ∀ clock other found, found ∈ ((next.clients letter.receiver).receive code codec clock
              letter.key letter.bytes).1.client.records.routesTo other →
            found ∈ (next.clients letter.receiver).records.routesTo other ∨
              found.metric.toNat = next.forwards + 1 ∨
                ∃ msgType, packet.msgType = .ok msgType ∧ P2pClient.IsPunch msgType := by
  have tracked := tracked_run most reaches (tracked_of_sent one sent)
  have less := tracked.forwards
  refine ⟨by omega, fun letter isLetter => ?_⟩
  obtain ⟨curr, left, bytes⟩ := tracked.letter letter isLetter
  have bound : ttl.toNat ≤ 15 := UInt8.le_iff_toNat_le.mp most
  have within : curr ≤ 15 := UInt8.le_iff_toNat_le.mpr (show curr.toNat ≤ 15 by omega)
  have lives : curr ≠ 0 := fun zero => by
    rw [zero, UInt8.toNat_zero] at left
    omega
  have metric : (P2pClient.metricOf letter.bytes).toNat = next.forwards + 1 := by
    have fewer := toNat_pred lives
    have below : curr - 1 ≤ ttl := UInt8.le_iff_toNat_le.mpr (by omega)
    rw [bytes, metricOf_withHops most within lives, UInt8.toNat_sub_of_le ttl (curr - 1) below]
    omega
  refine ⟨metric, fun clock other found member => ?_⟩
  rcases P2pClient.metric_of_receive member with
    before | same | ⟨built, msgType, isBuilt, isType, punches⟩
  · exact .inl before
  · exact .inr (.inl (by rw [same, metric]))
  · rw [bytes, NetPacket.new_ofBytes_intoBytes] at isBuilt
    cases isBuilt
    exact .inr (.inr ⟨msgType, isType, punches⟩)

/-- A ping with two hops to live on its way to the client in between. -/
def relayedPing : Journey :=
  ⟨punchedNetwork.clients,
    some ⟨0x0A1A0003, 2, ((ping 0x0A1A0002 0x0A1A0004).setTtl 2).intoBytes⟩, 0⟩

theorem hops_of_run_relayedPing : ∃ final letter,
    (journeyMachine pairCode protobufCodec chainedPaths.toPaths).run relayedPing
    [.deliver ⟨9, 700⟩] =
      some final ∧ final.letter = some letter ∧
    final.forwards ≤ 1 ∧ (P2pClient.metricOf letter.bytes).toNat = final.forwards + 1 := by
  have passed : (((journeyMachine pairCode protobufCodec chainedPaths.toPaths).run relayedPing
      [.deliver ⟨9, 700⟩]).bind Journey.letter).isSome = true := by
    decide +kernel
  obtain ⟨letter, outcome⟩ := Option.isSome_iff_exists.mp passed
  obtain ⟨final, reaches, isLetter⟩ := Option.bind_eq_some_iff.mp outcome
  have sent : JustSent (ping 0x0A1A0002 0x0A1A0004) 2 relayedPing :=
    ⟨rfl, fun _ isSent => by cases isSent; rfl⟩
  obtain ⟨few, metrics⟩ := hops_of_run (by decide) (by decide) sent reaches
  exact ⟨final, letter, reaches, isLetter, few, (metrics letter isLetter).1⟩

end Vnt.Tunnel
