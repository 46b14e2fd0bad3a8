/-
This file settles which packets bring a client down. The layers never panic: the decoder keeps
inside its lists, and everything else that is cut from a packet is tested for its length. But the
last step reads the first byte of a payload that may be empty, a time that a packet tells may lie so
far back that the difference overflows, and the counters may. A client survives exactly as long as
it meets none of these.
-/

import Vnt.Base.Machine
import Vnt.Fec.Checked
import Vnt.Fec.Codec
import Vnt.Fec.PairCode
import Vnt.Tunnel.ServerInbound

namespace Vnt.Tunnel

open Vnt.Base Vnt.Client Vnt.Fec Vnt.Server

/-! ### The layers with the accesses of the decoder -/

namespace InboundHandler

/-- The packet that is given to the decoder, if one is. -/
def decoderInput (handler : InboundHandler) (packet : NetPacket) (msgType : MsgType) :
    Option NetPacket :=
  if msgType = .quic then
    if packet.isFec = true then some packet else none
  else
    match handler.packetCrypto.decryptInPlace packet with
    | .error _ => none
    | .ok packet => if packet.isFec = true then some packet else none

/-- The decoder reaches out of a list. -/
def decoderPanics (code : ErasureCode UInt8) (codec : FecCodec) (handler : InboundHandler)
    (now : Instant) (packet : NetPacket) (msgType : MsgType) : Bool :=
  (handler.decoderInput packet msgType).any fun given =>
    decide ((handler.fecDecoder.receiveChecked code codec now given).2 = .error .panics)

theorem decoderPanics_eq_false (code : ErasureCode UInt8) (codec : FecCodec)
    (handler : InboundHandler) (now : Instant) (packet : NetPacket) (msgType : MsgType) :
    handler.decoderPanics code codec now packet msgType = false := by
  unfold decoderPanics
  cases handler.decoderInput packet msgType with
  | none => rfl
  | some given =>
    refine decide_eq_false fun panicked => ?_
    rw [FecDecoder.receiveChecked_eq] at panicked
    dsimp only at panicked
    cases outcome : (handler.fecDecoder.receive code codec now given).2 with
    | error message =>
      rw [outcome] at panicked
      cases panicked
    | ok packets =>
      rw [outcome] at panicked
      cases panicked

end InboundHandler

/-- A packet that came directly and is for the client itself, with its network. -/
def ownPacket (network : Option NetworkAddr) (buf : List UInt8) :
    Option (NetworkAddr × NetPacket × MsgType) :=
  match NetPacket.new (.ofBytes buf) with
  | .error _ => none
  | .ok packet =>
    match packet.msgType with
    | .error _ => none
    | .ok msgType =>
      if packet.header.srcId = packet.header.destId then none
      else
        let packet := packet.decrTtl
        if packet.header.maxTtl ≤ packet.header.currTtl then none
        else
          network.bind fun net =>
            let dest := packet.header.destId
            if net.ip ≠ dest ∧ dest ≠ Ipv4Addr.broadcast ∧ dest ≠ 0 ∧ dest ≠ net.broadcast then none
            else some (net, packet, msgType)

/-- Of the packets that come directly only these are opened. -/
theorem handled_nextHandle (code : ErasureCode UInt8) (codec : FecCodec) (p2p : P2pNetwork)
    (handler : InboundHandler) (now : Instant) (buf : List UInt8) :
    match ownPacket p2p.network buf with
    | none => ∃ outcome, (handler.nextHandle code codec p2p now buf).handled =
        handler.ended outcome
    | some (_, packet, msgType) => (handler.nextHandle code codec p2p now buf).handled =
        handler.nextHandleOwn code codec now packet msgType := by
  unfold ownPacket InboundHandler.nextHandle
  cases NetPacket.new (.ofBytes buf) with
  | error message => exact ⟨_, rfl⟩
  | ok packet =>
    dsimp only
    cases packet.msgType with
    | error message => exact ⟨_, rfl⟩
    | ok msgType =>
      dsimp only
      by_cases returns : packet.header.srcId = packet.header.destId
      · rw [if_pos returns, if_pos returns]
        exact ⟨_, rfl⟩
      · rw [if_neg returns, if_neg returns]
        by_cases spent : packet.decrTtl.header.maxTtl ≤ packet.decrTtl.header.currTtl
        · rw [if_pos spent, if_pos spent]
          exact ⟨_, rfl⟩
        · rw [if_neg spent, if_neg spent]
          cases p2p.network with
          | none => exact ⟨_, rfl⟩
          | some net =>
            dsimp only [Option.bind_some]
            by_cases passes : net.ip ≠ packet.decrTtl.header.destId ∧
                packet.decrTtl.header.destId ≠ Ipv4Addr.broadcast ∧
                  packet.decrTtl.header.destId ≠ 0 ∧
                    packet.decrTtl.header.destId ≠ net.broadcast
            · rw [if_pos passes, if_pos passes]
              exact ⟨_, rfl⟩
            · rw [if_neg passes, if_neg passes]

theorem currTtl_lt_of_ownPacket {network : Option NetworkAddr} {buf : List UInt8}
    {net : NetworkAddr} {packet : NetPacket} {msgType : MsgType}
    (isOwn : ownPacket network buf = some (net, packet, msgType)) :
    packet.header.currTtl < packet.header.maxTtl := by
  unfold ownPacket at isOwn
  split at isOwn
  · cases isOwn
  · split at isOwn
    · cases isOwn
    · split at isOwn
      · cases isOwn
      · dsimp only at isOwn
        split at isOwn
        · cases isOwn
        · next lives =>
          obtain ⟨other, -, isOwn⟩ := Option.bind_eq_some_iff.mp isOwn
          split at isOwn
          · cases isOwn
          · cases isOwn
            exact UInt8.not_le.mp lives

/-! ### A client and its calls -/

/-- The way of a packet: over a server, or directly, with the key of the path and the time to live.
-/
inductive Way where
  | server
  | direct (key : RouteKey) (maxTtl ttl : UInt8)
  deriving DecidableEq, Repr

/-- A call of `handle` or `next_handle_impl` that has opened its packet: what is still to be
processed. -/
structure Call where
  net : NetworkAddr
  way : Way
  deliveries : List Delivery

/-- A client with the calls under way. -/
structure InboundCalls where
  client : InboundClient
  calls : Map Nat Call

/-- A client that runs, or has panicked. -/
inductive InboundState where
  | running (inbound : InboundCalls)
  | panicked

/-- The fields of `ServerTurnInboundHandler` that are not shared. -/
structure ServerHandler where
  serverId : UInt32
  networkAddr : Option NetworkAddr
  deriving DecidableEq, Repr

/-- A packet comes over a server, or directly, a call processes the next packet it has opened, or
something else about the client changes. -/
inductive InboundEvent where
  | server (id : Nat) (handler : ServerHandler) (clock : Clock) (now : Int) (data : List UInt8)
  | peer (id : Nat) (clock : Clock) (key : RouteKey) (buf : List UInt8)
  | process (id : Nat) (clock : Clock)
  | other (change : InboundClient → InboundClient)

namespace InboundCalls

/-- The client after a step, unless it has panicked. -/
def settle (inbound : InboundCalls) (client : InboundClient) (outcome : Except Fault Unit) :
    InboundState :=
  match outcome with
  | .error .panics => .panicked
  | _ => .running { inbound with client := client }

/-- A packet was opened. -/
def opened (inbound : InboundCalls) (id : Nat) (net : NetworkAddr) (way : Way)
    (handled : Handled) : InboundState :=
  .running
    { client := { inbound.client with
        p2p := { inbound.client.p2p with handler := handled.handler } }
      calls := inbound.calls.insert id ⟨net, way, handled.delivered⟩ }

/-- `handle`, up to the packets it opens. -/
def server (code : ErasureCode UInt8) (codec : FecCodec) (messages : InboundMessages)
    (inbound : InboundCalls) (id : Nat) (handler : ServerHandler) (clock : Clock) (now : Int)
    (data : List UInt8) : InboundState :=
  match NetPacket.new (.ofBytes data), handler.networkAddr with
  | .ok packet, some net =>
    if packet.isGateway = true then
      let processed :=
        inbound.client.handleServerData messages handler.serverId net now data
      inbound.settle processed.client processed.outcome
    else
      let dest := packet.header.destId
      if dest ≠ Ipv4Addr.broadcast ∧ dest ≠ 0 ∧ net.ip ≠ dest then .running inbound
      else
        match packet.msgType with
        | .error _ => .running inbound
        | .ok msgType =>
          let layers := inbound.client.p2p.handler
          if layers.decoderPanics code codec clock.instant packet msgType = true then .panicked
          else inbound.opened id net .server (layers.handleClientData code codec clock.instant data)
  | _, _ => .running inbound

/-- `next_handle_impl`, up to the packets it opens. -/
def peer (code : ErasureCode UInt8) (codec : FecCodec) (inbound : InboundCalls) (id : Nat)
    (clock : Clock) (key : RouteKey) (buf : List UInt8) : InboundState :=
  match ownPacket inbound.client.p2p.network buf with
  | none => .running inbound
  | some (net, packet, msgType) =>
    let layers := inbound.client.p2p.handler
    if layers.decoderPanics code codec clock.instant packet msgType = true then .panicked
    else
      inbound.opened id net (.direct key packet.header.maxTtl packet.header.currTtl)
        (layers.nextHandleOwn code codec clock.instant packet msgType)

end InboundCalls

/-- The hops a packet took. -/
def hops (maxTtl ttl : UInt8) : Except Fault UInt8 :=
  if ttl ≤ maxTtl then .ok (maxTtl - ttl) else .error .panics

namespace InboundClient

/-- `process_decompressed_packet` for a packet that came directly. -/
def processDirect (client : InboundClient) (clock : Clock) (net : NetworkAddr) (key : RouteKey)
    (maxTtl ttl : UInt8) (delivery : Delivery) : InboundClient × Except Fault Unit :=
  let process (metric : UInt8) :=
    let processed := client.p2p.process clock net key metric delivery
    ({ client with p2p := processed.client }, processed.outcome)
  if delivery.msgType = .ping ∨ delivery.msgType = .pong then
    match hops maxTtl ttl with
    | .error fault => (client, .error fault)
    | .ok metric => process metric
  else process 0

/-- A packet of a call is processed. -/
def processCall (messages : InboundMessages) (client : InboundClient) (clock : Clock)
    (net : NetworkAddr) (way : Way) (delivery : Delivery) : InboundClient × Except Fault Unit :=
  match way with
  | .server =>
    let processed := client.process messages net clock.millis delivery
    (processed.client, processed.outcome)
  | .direct key maxTtl ttl => client.processDirect clock net key maxTtl ttl delivery

end InboundClient

namespace InboundCalls

/-- A call goes on with its next packet, until one fails. -/
def process (messages : InboundMessages) (inbound : InboundCalls) (id : Nat) (clock : Clock) :
    Option InboundState :=
  (inbound.calls.lookup id).map fun call =>
    match call.deliveries with
    | [] => .running { inbound with calls := inbound.calls.erase id }
    | delivery :: rest =>
      let result := inbound.client.processCall messages clock call.net call.way delivery
      let calls :=
        match result.2 with
        | .ok () => inbound.calls.insert id { call with deliveries := rest }
        | .error _ => inbound.calls.erase id
      { inbound with calls := calls }.settle result.1 result.2

end InboundCalls

/-- A client as a machine: whatever comes when, and whatever else changes in between. -/
def inboundMachine (code : ErasureCode UInt8) (codec : FecCodec) (messages : InboundMessages) :
    Machine InboundState InboundEvent where
  step
    | .panicked, _ => none
    | .running inbound, .server id handler clock now data =>
      if (inbound.calls.lookup id).isSome = true then none
      else some (inbound.server code codec messages id handler clock now data)
    | .running inbound, .peer id clock key buf =>
      if (inbound.calls.lookup id).isSome = true then none
      else some (inbound.peer code codec id clock key buf)
    | .running inbound, .process id clock => inbound.process messages id clock
    | .running inbound, .other change =>
      some (.running { inbound with client := change inbound.client })

/-! ### What a client withstands -/

/-- The first byte of what is handed on is read whatever its length. -/
def ReadsFirstByte (enhanced : EnhancedInbound) (msgType : MsgType) : Prop :=
  msgType = .broadcast ∨ msgType = .excludeBroadcast ∨
    msgType = .turn ∧ enhanced.internalNatInbound = none

/-- A packet can be handed on: the bytes of its source can be counted, and where the first byte is
read there is one. -/
structure P2pClient.HandsOn (client : P2pClient) (delivery : Delivery) : Prop where
  counts : (client.traffic.lookup delivery.src).getD 0 +
    (headLength + delivery.packet.payload.length) < 2 ^ 64
  reads : ReadsFirstByte client.enhanced delivery.msgType → delivery.packet.payload ≠ []

/-- What a client needs to withstand a packet that came directly. -/
def P2pClient.Withstands (client : P2pClient) (clock : Clock) (delivery : Delivery) : Prop :=
  let payload := delivery.packet.payload
  match delivery.msgType with
  | .turn => client.HandsOn delivery
  | .broadcast => client.HandsOn delivery
  | .excludeBroadcast => client.HandsOn delivery
  | .quic => client.HandsOn delivery
  | .pong => 8 ≤ payload.length → timeOf payload ≤ clock.millis →
    clock.millis - timeOf payload < 2 ^ 63 ∧
      (client.received.lookup delivery.src).getD 0 + 1 < 2 ^ 64
  | _ => True

/-- A number that 64 bits with a sign can hold. -/
def Fits (value : Int) : Prop := -2 ^ 63 ≤ value ∧ value < 2 ^ 63

/-- It can be computed whether another punch is due. -/
def PunchBackoff.DueFits (backoff : PunchBackoff) (ip : Ipv4Addr) (now : Int) : Prop :=
  ∀ state, backoff.lookup ip = some state →
    Fits (now - state.lastTs) ∧ Fits (PunchBackoff.baseMs * state.count)

namespace InboundClient

/-- What a client needs to withstand a packet of another client that came over a server. -/
def Withstands (messages : InboundMessages) (client : InboundClient) (now : Int)
    (delivery : Delivery) : Prop :=
  match delivery.msgType with
  | .turn => client.p2p.HandsOn delivery
  | .broadcast => client.p2p.HandsOn delivery
  | .quic => client.p2p.HandsOn delivery
  | .punchStart1 => ∀ peerPunchInfo,
    messages.punchInfoFromSlice delivery.packet.payload = .ok peerPunchInfo →
      client.natInfo.isSome = true → client.punches = true →
        client.punchBackoff.DueFits delivery.src now
  | .punchStart2 => Fits (((client.punchBackoff.lookup delivery.src).getD ⟨0, 0⟩).count + 1)
  | _ => True

/-- What a client needs to withstand what a server itself sent. -/
def WithstandsServerData (messages : InboundMessages) (client : InboundClient) (now : Int)
    (msgType : MsgType) (packet : NetPacket) : Prop :=
  match msgType with
  | .turn => isEchoReply packet.payload = true →
    client.p2p.HandsOn ⟨.turn, packet.header.srcId, packet.header.destId, packet⟩
  | .pongTurn => packet.payload.length = 16 → timeOf packet.payload ≤ now →
    now - timeOf packet.payload < 2 ^ 63
  | .pushClientIps => ∀ list, messages.clientSimpleInfoList packet.payload = .ok list →
    list.time < now → now - list.time < 2 ^ 63
  | _ => True

/-- The same for the packet as it came. -/
def WithstandsServer (messages : InboundMessages) (client : InboundClient) (now : Int)
    (data : List UInt8) : Prop :=
  ∀ packet msgType opened, NetPacket.new (.ofBytes data) = .ok packet →
    packet.msgType = .ok msgType →
      client.p2p.handler.packetCompression.decompress packet = .ok opened →
        client.WithstandsServerData messages now msgType opened

/-- What a client needs to withstand a packet of a call. -/
def WithstandsCall (messages : InboundMessages) (client : InboundClient) (clock : Clock)
    (way : Way) (delivery : Delivery) : Prop :=
  match way with
  | .server => client.Withstands messages clock.millis delivery
  | .direct _ _ _ => client.p2p.Withstands clock delivery

end InboundClient

/-- What a client needs to withstand an event. -/
def withstands (messages : InboundMessages) : InboundState → InboundEvent → Prop
  | .running inbound, .server id handler _ now data => inbound.calls.lookup id = none →
    handler.networkAddr.isSome = true → ∀ packet, NetPacket.new (.ofBytes data) = .ok packet →
      packet.isGateway = true → inbound.client.WithstandsServer messages now data
  | .running inbound, .process id clock => ∀ call delivery rest,
    inbound.calls.lookup id = some call → call.deliveries = delivery :: rest →
      inbound.client.WithstandsCall messages clock call.way delivery
  | _, _ => True

/-! ### The last step of a packet -/

section Checked

variable {Value : Type} {fits : Prop} [Decidable fits] {value result : Value} {fault : Fault}

/-- A value that does not fit is a panic, and nothing else goes wrong with it. -/
theorem checked_eq_error :
    (if fits then .ok value else .error .panics : Except Fault Value) = .error fault ↔
      ¬fits ∧ fault = .panics := by
  split
  · next holds => exact ⟨nofun, fun overflows => absurd holds overflows.1⟩
  · next overflows =>
    refine ⟨fun failed => ?_, fun panicked => congrArg _ panicked.2.symm⟩
    cases failed
    exact ⟨overflows, rfl⟩

theorem fits_of_checked
    (passed : (if fits then .ok value else .error .panics : Except Fault Value) = .ok result) :
    fits := by
  by_contra overflows
  cases passed.symm.trans (if_neg overflows)

end Checked

theorem int64_eq_error {value : Int} {fault : Fault} :
    int64 value = .error fault ↔ ¬Fits value ∧ fault = .panics :=
  checked_eq_error

theorem fits_of_int64 {value result : Int} (passed : int64 value = .ok result) : Fits value := by
  unfold int64 at passed
  have fits := fits_of_checked passed
  exact fits

theorem elapsed_eq_error {now time : Int} {fault : Fault} :
    elapsed now time = .error fault ↔ ¬now - time < 2 ^ 63 ∧ fault = .panics :=
  checked_eq_error

theorem Counters.add_eq_error {counters : Counters} {ip : Ipv4Addr} {amount : Nat}
    {fault : Fault} : counters.add ip amount = .error fault ↔
      ¬(counters.lookup ip).getD 0 + amount < 2 ^ 64 ∧ fault = .panics :=
  checked_eq_error

theorem letsIn_eq_panics {allowed : List Ipv4Net} {data : List UInt8} {net : NetworkAddr} :
    letsIn allowed data net = .error .panics ↔ data = [] := by
  unfold letsIn
  cases data with
  | nil => exact ⟨fun _ => rfl, fun _ => rfl⟩
  | cons first rest =>
    dsimp only
    refine ⟨fun panicked => ?_, nofun⟩
    split at panicked
    · cases panicked
    · split at panicked <;> cases panicked

/-- An outcome that is mapped panics as before. -/
theorem map_eq_panics {Value Image : Type} {image : Value → Image} {outcome : Except Fault Value} :
    outcome.map image = .error .panics ↔ outcome = .error .panics := by
  cases outcome with
  | error fault => exact Iff.rfl.trans (by constructor <;> (intro same; cases same; rfl))
  | ok value => exact ⟨nofun, nofun⟩

theorem inbound_eq_panics {tunDataInbound : EnhancedTunInbound} {data : List UInt8}
    {net : NetworkAddr} : tunDataInbound.inbound data net = .error .panics ↔ data = [] := by
  unfold EnhancedTunInbound.inbound sendNat
  split <;> exact map_eq_panics.trans letsIn_eq_panics

theorem deliver_eq_panics {enhanced : EnhancedInbound} {net : NetworkAddr} {msgType : MsgType}
    {src : Ipv4Addr} {data : List UInt8} :
    enhanced.deliver net msgType src data = .error .panics ↔
      ReadsFirstByte enhanced msgType ∧ data = [] := by
  have other : ∀ {outcome : Except Fault (List Sent)}, outcome ≠ .error .panics →
      ¬ReadsFirstByte enhanced msgType →
        (outcome = .error .panics ↔ ReadsFirstByte enhanced msgType ∧ data = []) :=
    fun calm unread => ⟨fun panicked => absurd panicked calm, fun reads => absurd reads.1 unread⟩
  unfold EnhancedInbound.deliver
  cases msgType with
  | turn =>
    dsimp only
    cases stack : enhanced.internalNatInbound with
    | none =>
      exact inbound_eq_panics.trans
        ⟨fun empty => ⟨.inr (.inr ⟨rfl, stack⟩), empty⟩, fun reads => reads.2⟩
    | some allowed =>
      have unread : ¬ReadsFirstByte enhanced .turn := by
        rintro (isBroadcast | isExclude | ⟨-, isNone⟩)
        · cases isBroadcast
        · cases isExclude
        · cases stack.symm.trans isNone
      dsimp only
      cases isDest : ipv4Destination data with
      | none => exact other nofun unread
      | some dest =>
        have filled : data ≠ [] := by
          rintro rfl
          cases isDest
        refine other ?_ unread
        dsimp only
        split
        · exact fun panicked => filled (letsIn_eq_panics.mp (map_eq_panics.mp panicked))
        · exact fun panicked => filled (inbound_eq_panics.mp panicked)
  | broadcast =>
    exact inbound_eq_panics.trans ⟨fun empty => ⟨.inl rfl, empty⟩, fun reads => reads.2⟩
  | excludeBroadcast =>
    exact inbound_eq_panics.trans ⟨fun empty => ⟨.inr (.inl rfl), empty⟩, fun reads => reads.2⟩
  | _ => exact other nofun (by rintro (same | same | ⟨same, -⟩) <;> cases same)

namespace P2pClient

variable {client : P2pClient} {clock : Clock} {net : NetworkAddr} {key : RouteKey}
  {metric : UInt8} {delivery : Delivery}

theorem handOn_eq_panics :
    (client.handOn net delivery).outcome = .error .panics ↔ ¬client.HandsOn delivery := by
  have outcome : (client.handOn net delivery).outcome = .error .panics ↔
      (client.enhanced.inbound client.traffic net delivery.msgType delivery.src
        delivery.packet).2 = .error .panics := by
    unfold handOn
    dsimp only
    cases (client.enhanced.inbound client.traffic net delivery.msgType delivery.src
        delivery.packet).2 with
    | error fault => exact Iff.rfl.trans (by constructor <;> (intro same; cases same; rfl))
    | ok sent => exact ⟨nofun, nofun⟩
  rw [outcome]
  unfold EnhancedInbound.inbound
  cases counted : client.traffic.add delivery.src (headLength + delivery.packet.payload.length) with
  | error fault =>
    obtain ⟨overflows, rfl⟩ := Counters.add_eq_error.mp counted
    exact ⟨fun _ handsOn => overflows handsOn.counts, fun _ => rfl⟩
  | ok traffic =>
    have fits : (client.traffic.lookup delivery.src).getD 0 +
        (headLength + delivery.packet.payload.length) < 2 ^ 64 := fits_of_checked counted
    dsimp only
    rw [deliver_eq_panics]
    constructor
    · rintro ⟨reads, empty⟩ handsOn
      exact handsOn.reads reads empty
    · intro fails
      by_contra! calm
      exact fails ⟨fits, calm⟩

theorem finish_ne_panics (answers : Except String (List UInt8)) :
    (client.finish answers).outcome ≠ .error .panics := by
  cases answers <;> exact nofun

theorem pong_eq_panics : (client.pong clock key metric delivery).outcome = .error .panics ↔
    ¬(8 ≤ delivery.packet.payload.length → timeOf delivery.packet.payload ≤ clock.millis →
      clock.millis - timeOf delivery.packet.payload < 2 ^ 63 ∧
        (client.received.lookup delivery.src).getD 0 + 1 < 2 ^ 64) := by
  unfold pong
  dsimp only
  split
  · next skipped =>
    refine ⟨nofun, fun fails => absurd (fun long late => ?_) fails⟩
    rcases skipped with short | early
    · exact absurd long (Nat.not_le_of_lt short)
    · exact absurd late (not_le_of_gt early)
  · next taken =>
    obtain ⟨long, late⟩ := not_or.mp taken
    have told : 8 ≤ delivery.packet.payload.length ∧
        timeOf delivery.packet.payload ≤ clock.millis := ⟨Nat.le_of_not_lt long, le_of_not_gt late⟩
    cases passed : elapsed clock.millis (timeOf delivery.packet.payload) with
    | error fault =>
      obtain ⟨overflows, rfl⟩ := elapsed_eq_error.mp passed
      exact ⟨fun _ fits => overflows (fits told.1 told.2).1, fun _ => rfl⟩
    | ok rtt =>
      have fits : clock.millis - timeOf delivery.packet.payload < 2 ^ 63 := fits_of_checked passed
      dsimp only
      cases counted : client.received.add delivery.src 1 with
      | error fault =>
        obtain ⟨overflows, rfl⟩ := Counters.add_eq_error.mp counted
        exact ⟨fun _ within => overflows (within told.1 told.2).2, fun _ => rfl⟩
      | ok received =>
        have counts : (client.received.lookup delivery.src).getD 0 + 1 < 2 ^ 64 :=
          fits_of_checked counted
        exact ⟨nofun, fun fails => absurd (fun _ _ => ⟨fits, counts⟩) fails⟩

theorem process_eq_panics :
    (client.process clock net key metric delivery).outcome = .error .panics ↔
      ¬client.Withstands clock delivery := by
  have calm : ∀ {processed : Processed}, processed.outcome ≠ .error .panics →
      (processed.outcome = .error .panics ↔ ¬True) := fun ends =>
    ⟨fun panicked => absurd panicked ends, fun never => absurd trivial never⟩
  unfold process Withstands
  cases delivery.msgType with
  | turn | broadcast | excludeBroadcast | quic => exact handOn_eq_panics
  | pong => exact pong_eq_panics
  | ping => exact calm (finish_ne_panics _)
  | punchReq =>
    dsimp only
    split
    · exact calm nofun
    · exact calm (finish_ne_panics _)
  | punchRes =>
    dsimp only
    split <;> exact calm nofun
  | _ => exact calm nofun

end P2pClient
namespace InboundClient

variable {messages : InboundMessages} {client : InboundClient} {clock : Clock} {net : NetworkAddr}
  {now : Int} {delivery : Delivery}

theorem handOn_eq_panics :
    (client.handOn net delivery).outcome = .error .panics ↔ ¬client.p2p.HandsOn delivery :=
  P2pClient.handOn_eq_panics

/-- Whether a punch is due can only fail by an overflow. -/
theorem shouldPunch_eq_error {backoff : PunchBackoff} {ip : Ipv4Addr} {fault : Fault} :
    backoff.shouldPunch ip now = .error fault ↔ ¬backoff.DueFits ip now ∧ fault = .panics := by
  unfold PunchBackoff.shouldPunch
  cases isState : backoff.lookup ip with
  | none =>
    refine ⟨nofun, fun overflows => absurd (fun state same => ?_) overflows.1⟩
    cases isState.symm.trans same
  | some state =>
    have dueFits : backoff.DueFits ip now ↔
        Fits (now - state.lastTs) ∧ Fits (PunchBackoff.baseMs * state.count) := by
      refine ⟨fun fits => fits state isState, fun fits other same => ?_⟩
      cases isState.symm.trans same
      exact fits
    rw [dueFits]
    dsimp only [bind, Except.bind]
    cases since : int64 (now - state.lastTs) with
    | error other =>
      obtain ⟨overflows, rfl⟩ := int64_eq_error.mp since
      constructor
      · intro same
        cases same
        exact ⟨fun fits => overflows fits.1, rfl⟩
      · rintro ⟨-, rfl⟩
        rfl
    | ok elapsed =>
      have first : Fits (now - state.lastTs) := fits_of_int64 since
      dsimp only
      cases later : int64 (PunchBackoff.baseMs * state.count) with
      | error other =>
        obtain ⟨overflows, rfl⟩ := int64_eq_error.mp later
        constructor
        · intro same
          cases same
          exact ⟨fun fits => overflows fits.2, rfl⟩
        · rintro ⟨-, rfl⟩
          rfl
      | ok delay =>
        have second : Fits (PunchBackoff.baseMs * state.count) := fits_of_int64 later
        exact ⟨nofun, fun overflows => absurd ⟨first, second⟩ overflows.1⟩

theorem punchUncheck_ne_panics (destIp : Ipv4Addr) (natInfo : NatInfo) :
    client.punchUncheck destIp natInfo ≠ .error .panics := by
  unfold punchUncheck
  split
  · exact nofun
  · split <;> exact nofun

theorem punch_eq_panics {destIp : Ipv4Addr} {natInfo : NatInfo} :
    client.punch destIp natInfo now = .error .panics ↔
      client.punches = true ∧ ¬client.punchBackoff.DueFits destIp now := by
  unfold punch
  cases client.punches with
  | false => exact ⟨nofun, fun panicked => nomatch panicked.1⟩
  | true =>
    rw [if_neg (by decide)]
    dsimp only [bind, Except.bind]
    cases due : client.punchBackoff.shouldPunch destIp now with
    | error fault =>
      obtain ⟨overflows, rfl⟩ := shouldPunch_eq_error.mp due
      exact ⟨fun _ => ⟨rfl, overflows⟩, fun _ => rfl⟩
    | ok should =>
      have calm : ¬¬client.punchBackoff.DueFits destIp now := fun overflows =>
        nomatch due.symm.trans (shouldPunch_eq_error.mpr ⟨overflows, rfl⟩)
      refine ⟨fun panicked => ?_, fun panicked => absurd panicked.2 calm⟩
      dsimp only at panicked
      split at panicked
      · cases sends : client.punchUncheck destIp natInfo with
        | error fault =>
          rw [sends] at panicked
          cases panicked
          exact absurd sends (punchUncheck_ne_panics destIp natInfo)
        | ok punched =>
          rw [sends] at panicked
          cases panicked
      · cases panicked

theorem handlePunchStart1_eq_panics :
    (client.handlePunchStart1 messages now delivery).outcome = .error .panics ↔
      ¬∀ peerPunchInfo, messages.punchInfoFromSlice delivery.packet.payload = .ok peerPunchInfo →
        client.natInfo.isSome = true → client.punches = true →
          client.punchBackoff.DueFits delivery.src now := by
  unfold handlePunchStart1
  cases read : messages.punchInfoFromSlice delivery.packet.payload with
  | error message =>
    exact ⟨nofun, fun fails => absurd (fun _ same => nomatch same) fails⟩
  | ok peerPunchInfo =>
    dsimp only
    unfold getPunchInfo
    cases client.natInfo with
    | none => exact ⟨nofun, fun fails => absurd (fun _ _ isSome => nomatch isSome) fails⟩
    | some natInfo =>
      dsimp only [Option.map_some]
      have panics_iff : (client.updatePeerNatInfo delivery.src peerPunchInfo).punch delivery.src
          peerPunchInfo now = .error .panics ↔
            client.punches = true ∧ ¬client.punchBackoff.DueFits delivery.src now :=
        punch_eq_panics
      cases due : (client.updatePeerNatInfo delivery.src peerPunchInfo).punch delivery.src
          peerPunchInfo now with
      | error fault =>
        rw [due] at panics_iff
        cases fault with
        | error message =>
          refine ⟨nofun, fun fails => absurd (fun _ _ _ punches => ?_) fails⟩
          by_contra overflows
          cases panics_iff.mpr ⟨punches, overflows⟩
        | panics =>
          obtain ⟨punches, overflows⟩ := panics_iff.mp rfl
          exact ⟨fun _ fits => overflows (fits peerPunchInfo rfl rfl punches), fun _ => rfl⟩
      | ok result =>
        rw [due] at panics_iff
        obtain ⟨should, punched⟩ := result
        refine ⟨fun panicked => ?_, fun fails => absurd (fun _ _ _ punches => ?_) fails⟩
        · cases should with
          | false => cases panicked
          | true =>
            dsimp only at panicked
            split at panicked <;> cases panicked
        · by_contra overflows
          cases panics_iff.mpr ⟨punches, overflows⟩

theorem handlePunchStart2_eq_panics :
    (client.handlePunchStart2 messages now delivery).outcome = .error .panics ↔
      ¬Fits (((client.punchBackoff.lookup delivery.src).getD ⟨0, 0⟩).count + 1) := by
  unfold handlePunchStart2 PunchBackoff.record
  dsimp only [bind, Except.bind]
  cases counted : int64 (((client.punchBackoff.lookup delivery.src).getD ⟨0, 0⟩).count + 1) with
  | error fault =>
    obtain ⟨overflows, rfl⟩ := int64_eq_error.mp counted
    exact ⟨fun _ => overflows, fun _ => rfl⟩
  | ok count =>
    have fits : Fits (((client.punchBackoff.lookup delivery.src).getD ⟨0, 0⟩).count + 1) :=
      fits_of_int64 counted
    refine ⟨fun panicked => ?_, fun overflows => absurd fits overflows⟩
    dsimp only [pure, Except.pure] at panicked
    cases read : messages.punchInfoFromSlice delivery.packet.payload with
    | error message =>
      rw [read] at panicked
      cases panicked
    | ok peerPunchInfo =>
      rw [read] at panicked
      dsimp only at panicked
      split at panicked
      · next fault sends =>
        cases panicked
        exact absurd sends (punchUncheck_ne_panics _ _)
      · cases panicked

/-- An outcome that is no panic, where nothing is needed. -/
theorem panics_iff_not_true {processed : ServerProcessed}
    (calm : processed.outcome ≠ .error .panics) :
    processed.outcome = .error .panics ↔ ¬True :=
  ⟨fun panicked => absurd panicked calm, fun never => absurd trivial never⟩

theorem process_eq_panics :
    (client.process messages net now delivery).outcome = .error .panics ↔
      ¬client.Withstands messages now delivery := by
  unfold process Withstands
  cases delivery.msgType with
  | turn | broadcast | quic => exact handOn_eq_panics
  | punchStart1 => exact handlePunchStart1_eq_panics
  | punchStart2 => exact handlePunchStart2_eq_panics
  | _ => exact panics_iff_not_true nofun

/-! ### The packets of a server -/

variable {serverId : UInt32} {packet : NetPacket} {payload data : List UInt8}

theorem handlePongTurn_eq_panics :
    (client.handlePongTurn serverId now payload).outcome = .error .panics ↔
      ¬(payload.length = 16 → timeOf payload ≤ now → now - timeOf payload < 2 ^ 63) := by
  unfold handlePongTurn
  split
  · next told =>
    cases passed : elapsed now (timeOf payload) with
    | error fault =>
      obtain ⟨overflows, rfl⟩ := elapsed_eq_error.mp passed
      exact ⟨fun _ fits => overflows (fits told.1 told.2), fun _ => rfl⟩
    | ok rtt =>
      have fits : now - timeOf payload < 2 ^ 63 := fits_of_checked passed
      exact ⟨nofun, fun fails => absurd (fun _ _ => fits) fails⟩
  · next skipped =>
    exact ⟨nofun, fun fails => absurd (fun long late => absurd ⟨long, late⟩ skipped) fails⟩

theorem handlePushClientIps_eq_panics :
    (client.handlePushClientIps messages serverId net now payload).outcome = .error .panics ↔
      ¬∀ list, messages.clientSimpleInfoList payload = .ok list → list.time < now →
        now - list.time < 2 ^ 63 := by
  unfold handlePushClientIps
  cases messages.clientSimpleInfoList payload with
  | error message => exact ⟨nofun, fun fails => absurd (fun _ same => nomatch same) fails⟩
  | ok list =>
    dsimp only
    split
    · next late =>
      cases passed : elapsed now list.time with
      | error fault =>
        obtain ⟨overflows, rfl⟩ := elapsed_eq_error.mp passed
        exact ⟨fun _ fits => overflows (fits list rfl late), fun _ => rfl⟩
      | ok rtt =>
        refine ⟨nofun, fun fails => absurd (fun other same _ => ?_) fails⟩
        cases same
        exact fits_of_checked passed
    · next early =>
      refine ⟨nofun, fun fails => absurd (fun other same late => ?_) fails⟩
      cases same
      exact absurd late early

theorem processServerData_eq_panics {msgType : MsgType} :
    (client.processServerData messages serverId net now msgType packet).outcome =
      .error .panics ↔ ¬client.WithstandsServerData messages now msgType packet := by
  unfold processServerData WithstandsServerData
  cases msgType with
  | turn =>
    dsimp only
    split
    · next isReply =>
      exact handOn_eq_panics.trans (not_congr ⟨fun handsOn _ => handsOn, fun handsOn =>
        handsOn isReply⟩)
    · next notReply =>
      exact ⟨nofun, fun fails => absurd (fun isReply => absurd isReply notReply) fails⟩
  | pongTurn => exact handlePongTurn_eq_panics
  | pushClientIps => exact handlePushClientIps_eq_panics
  | rpcRes =>
    dsimp only
    unfold handleRpcRes
    refine panics_iff_not_true ?_
    split <;> exact nofun
  | _ => exact panics_iff_not_true nofun

theorem handleServerData_eq_panics :
    (client.handleServerData messages serverId net now data).outcome = .error .panics ↔
      ¬client.WithstandsServer messages now data := by
  have calm : ∀ {processed : ServerProcessed}, processed.outcome ≠ .error .panics →
      client.WithstandsServer messages now data →
        (processed.outcome = .error .panics ↔ ¬client.WithstandsServer messages now data) :=
    fun ends holds => ⟨fun panicked => absurd panicked ends, fun fails => absurd holds fails⟩
  unfold handleServerData
  cases built : NetPacket.new (.ofBytes data) with
  | error message =>
    refine calm nofun fun packet msgType opened isPacket => ?_
    cases built.symm.trans isPacket
  | ok packet =>
    dsimp only
    cases isType : packet.msgType with
    | error message =>
      refine calm nofun fun other msgType opened isPacket otherType => ?_
      cases built.symm.trans isPacket
      cases isType.symm.trans otherType
    | ok msgType =>
      dsimp only
      cases opens : client.p2p.handler.packetCompression.decompress packet with
      | error message =>
        refine calm nofun fun other otherType opened isPacket _ isOpened => ?_
        cases built.symm.trans isPacket
        cases opens.symm.trans isOpened
      | ok opened =>
        refine processServerData_eq_panics.trans (not_congr ⟨?_, fun withstands =>
          withstands packet msgType opened built isType opens⟩)
        intro withstands other otherType otherOpened isPacket isOther isOpened
        cases built.symm.trans isPacket
        cases isType.symm.trans isOther
        cases opens.symm.trans isOpened
        exact withstands

end InboundClient

/-! ### One step -/

/-- A packet that came directly has taken no negative number of hops. -/
def TakesHops : InboundState → Prop
  | .running inbound => ∀ id call key maxTtl ttl, inbound.calls.lookup id = some call →
    call.way = .direct key maxTtl ttl → ttl ≤ maxTtl
  | .panicked => True

section Step

variable {code : ErasureCode UInt8} {codec : FecCodec} {messages : InboundMessages}
  {inbound : InboundCalls} {id : Nat} {clock : Clock} {now : Int} {data buf : List UInt8}
  {handler : ServerHandler} {key : RouteKey}

theorem settle_ne_panicked {client : InboundClient} {outcome : Except Fault Unit} :
    inbound.settle client outcome ≠ .panicked ↔ outcome ≠ .error .panics := by
  unfold InboundCalls.settle
  split
  · exact ⟨fun calm => absurd rfl calm, fun calm => absurd rfl calm⟩
  · next calm => exact ⟨fun _ panicked => calm panicked, nofun⟩

theorem InboundClient.processCall_ne_panics {client : InboundClient} {net : NetworkAddr} {way : Way}
    {delivery : Delivery}
    (takes : ∀ key maxTtl ttl, way = .direct key maxTtl ttl → ttl ≤ maxTtl) :
    (client.processCall messages clock net way delivery).2 ≠ .error .panics ↔
      client.WithstandsCall messages clock way delivery := by
  unfold processCall WithstandsCall
  cases way with
  | server => exact process_eq_panics.not_left
  | direct key maxTtl ttl =>
    have counted : hops maxTtl ttl = .ok (maxTtl - ttl) := if_pos (takes key maxTtl ttl rfl)
    dsimp only
    unfold processDirect
    rw [counted]
    dsimp only
    split <;> exact P2pClient.process_eq_panics.not_left

theorem server_ne_panicked :
    inbound.server code codec messages id handler clock now data ≠ .panicked ↔
      (handler.networkAddr.isSome = true → ∀ packet, NetPacket.new (.ofBytes data) = .ok packet →
        packet.isGateway = true → inbound.client.WithstandsServer messages now data) := by
  have calm : ∀ {state : InboundState} {needs : Prop}, state ≠ .panicked → needs →
      (state ≠ .panicked ↔ needs) := fun runs holds => ⟨fun _ => holds, fun _ => runs⟩
  unfold InboundCalls.server
  cases NetPacket.new (.ofBytes data) with
  | error message => exact calm nofun fun _ _ same => nomatch same
  | ok packet =>
    cases handler.networkAddr with
    | none => exact calm nofun fun isSome => nomatch isSome
    | some net =>
      dsimp only
      by_cases gateway : packet.isGateway = true
      · rw [if_pos gateway, settle_ne_panicked]
        refine InboundClient.handleServerData_eq_panics.not_left.trans ⟨fun withstands _ _ _ _ =>
          withstands, fun withstands => withstands rfl packet rfl gateway⟩
      · rw [if_neg gateway]
        refine calm ?_ fun _ other same isGateway => ?_
        · split
          · exact nofun
          · split
            · exact nofun
            · rw [InboundHandler.decoderPanics_eq_false, if_neg Bool.false_ne_true]
              exact nofun
        · cases same
          exact absurd isGateway gateway

theorem peer_ne_panicked : inbound.peer code codec id clock key buf ≠ .panicked := by
  unfold InboundCalls.peer
  split
  · exact nofun
  · dsimp only
    rw [InboundHandler.decoderPanics_eq_false, if_neg Bool.false_ne_true]
    exact nofun

/-- A step does not panic exactly when the client withstands the event. -/
theorem step_ne_panicked {state next : InboundState} {event : InboundEvent}
    (takes : TakesHops state)
    (enabled : (inboundMachine code codec messages).step state event = some next) :
    next ≠ .panicked ↔ withstands messages state event := by
  cases state with
  | panicked => cases enabled
  | running inbound =>
    cases event with
    | server id handler clock now data =>
      change (if _ then _ else _) = _ at enabled
      split at enabled
      · cases enabled
      · next unused =>
        cases enabled
        rw [server_ne_panicked]
        have free : inbound.calls.lookup id = none :=
          Option.not_isSome_iff_eq_none.mp unused
        exact ⟨fun withstands _ => withstands, fun withstands => withstands free⟩
    | peer id clock key buf =>
      change (if _ then _ else _) = _ at enabled
      split at enabled
      · cases enabled
      · cases enabled
        exact ⟨fun _ => trivial, fun _ => peer_ne_panicked⟩
    | process id clock =>
      obtain ⟨call, isCall, enabled⟩ := Option.map_eq_some_iff.mp enabled
      have own : ∀ key maxTtl ttl, call.way = .direct key maxTtl ttl → ttl ≤ maxTtl :=
        fun key maxTtl ttl => takes id call key maxTtl ttl isCall
      cases deliveries : call.deliveries with
      | nil =>
        rw [deliveries] at enabled
        cases enabled
        refine ⟨fun _ other delivery rest isOther isFirst => ?_, fun _ => nofun⟩
        cases isCall.symm.trans isOther
        cases deliveries.symm.trans isFirst
      | cons delivery rest =>
        rw [deliveries] at enabled
        cases enabled
        rw [settle_ne_panicked, InboundClient.processCall_ne_panics own]
        refine ⟨fun withstands other first later isOther isFirst => ?_, fun withstands =>
          withstands call delivery rest isCall deliveries⟩
        cases isCall.symm.trans isOther
        cases deliveries.symm.trans isFirst
        exact withstands
    | other change =>
      cases enabled
      exact ⟨fun _ => trivial, fun _ => nofun⟩

/-- The calls after one was started. -/
theorem takesHops_insert {client : InboundClient} {call : Call}
    (takes : TakesHops (.running inbound))
    (own : ∀ key maxTtl ttl, call.way = .direct key maxTtl ttl → ttl ≤ maxTtl) :
    TakesHops (.running ⟨client, inbound.calls.insert id call⟩) := by
  intro other found key maxTtl ttl isFound isDirect
  rw [Map.lookup_insert_eq] at isFound
  split at isFound
  · cases isFound
    exact own key maxTtl ttl isDirect
  · exact takes other found key maxTtl ttl isFound isDirect

theorem takesHops_erase {client : InboundClient} (takes : TakesHops (.running inbound)) :
    TakesHops (.running ⟨client, inbound.calls.erase id⟩) := by
  intro other found key maxTtl ttl isFound isDirect
  rw [Map.lookup_erase_eq] at isFound
  split at isFound
  · cases isFound
  · exact takes other found key maxTtl ttl isFound isDirect

theorem takesHops_settle {client : InboundClient} {outcome : Except Fault Unit}
    (takes : TakesHops (.running inbound)) : TakesHops (inbound.settle client outcome) := by
  unfold InboundCalls.settle
  split
  · trivial
  · exact takes

theorem takesHops_step {state next : InboundState} {event : InboundEvent}
    (takes : TakesHops state)
    (enabled : (inboundMachine code codec messages).step state event = some next) :
    TakesHops next := by
  cases state with
  | panicked => cases enabled
  | running inbound =>
    cases event with
    | server id handler clock now data =>
      change (if _ then _ else _) = _ at enabled
      split at enabled
      · cases enabled
      · cases enabled
        unfold InboundCalls.server
        split
        · split
          · exact takesHops_settle takes
          · dsimp only
            split
            · exact takes
            · split
              · exact takes
              · split
                · trivial
                · exact takesHops_insert takes (fun _ _ _ isDirect => nomatch isDirect)
        · exact takes
    | peer id clock key buf =>
      change (if _ then _ else _) = _ at enabled
      split at enabled
      · cases enabled
      · cases enabled
        unfold InboundCalls.peer
        split
        · exact takes
        · next isOwn =>
          dsimp only
          split
          · trivial
          · refine takesHops_insert takes fun _ _ _ isDirect => ?_
            cases isDirect
            exact UInt8.le_of_lt (currTtl_lt_of_ownPacket isOwn)
    | process id clock =>
      obtain ⟨call, isCall, rfl⟩ := Option.map_eq_some_iff.mp enabled
      split
      · exact takesHops_erase takes
      · refine takesHops_settle ?_
        split
        · exact takesHops_insert takes fun key maxTtl ttl => takes id call key maxTtl ttl isCall
        · exact takesHops_erase takes
    | other change =>
      cases enabled
      exact takes

/-- An event that cannot happen is withstood. -/
theorem withstands_of_disabled {state : InboundState} {event : InboundEvent}
    (disabled : (inboundMachine code codec messages).step state event = none) :
    withstands messages state event := by
  cases state with
  | panicked => cases event <;> trivial
  | running inbound =>
    cases event with
    | server id handler clock now data =>
      intro free
      change (if (inbound.calls.lookup id).isSome = true then _ else _) = _ at disabled
      rw [free, if_neg (by decide)] at disabled
      cases disabled
    | process id clock =>
      intro call delivery rest isCall
      change (inbound.calls.lookup id).map _ = _ at disabled
      rw [isCall] at disabled
      cases disabled
    | peer id clock key buf => trivial
    | other change => trivial

end Step

/-! ### Every run -/

/-- In every run, whatever comes over servers or directly, in whatever order the calls go on, and
whatever else changes, the client never panics exactly when it withstands each step. -/
theorem runs_throughout_iff (code : ErasureCode UInt8) (codec : FecCodec)
    (messages : InboundMessages) (client : InboundClient) (events : List InboundEvent) :
    (inboundMachine code codec messages).Throughout (fun state => state ≠ .panicked)
        (.running ⟨client, ∅⟩) events ↔
      (inboundMachine code codec messages).Guarded (withstands messages) (.running ⟨client, ∅⟩)
        events :=
  Machine.throughout_iff_guarded
    (fun _ _ _ takes enabled => takesHops_step takes enabled)
    (fun _ _ _ takes _ enabled => step_ne_panicked takes enabled)
    (fun _ _ disabled => withstands_of_disabled disabled)
    (fun _ _ _ _ _ isCall => nomatch isCall) nofun

/-- A client with the address 10.26.0.2 that neither encrypts nor compresses. -/
def plainClient : InboundClient where
  p2p :=
    { handler := ⟨⟨none⟩, ⟨none⟩, .new 0⟩
      network := some ⟨0x0A1A0001, 0x0A1A00FF, 0x0A1A0002, 24⟩
      subnetRoute := []
      records := ⟨9999, ⟨∅⟩, ∅, ∅⟩
      enhanced := ⟨.tun [], none⟩
      traffic := ∅
      received := ∅
      addressOf := fun _ => none }
  serverInfo := ⟨[], ∅⟩
  natInfo := none
  peerMap := ∅
  punches := false
  punchBackoff := ∅
  pendingRequests := []

/-- A client that cannot read any message. -/
def noMessages : InboundMessages where
  clientSimpleInfoList _ := .error "no list"
  rpcMessageResponse _ := .error "no answer"
  punchInfo _ := .error "no nat info"
  encodePunchInfo _ := []

/-- A broadcast of 10.26.0.3 without any payload. -/
def emptyBroadcast : List UInt8 :=
  [2, 0x11, 0, 0, 0, 0, 0, 0, 10, 26, 0, 3, 255, 255, 255, 255]

/-- An empty broadcast brings the client down. -/
theorem not_runs_emptyBroadcast :
    ¬(inboundMachine pairCode protobufCodec noMessages).Throughout
      (fun state => state ≠ .panicked) (.running ⟨plainClient, ∅⟩)
      [.peer 0 ⟨0, 0⟩ 7 emptyBroadcast, .process 0 ⟨0, 0⟩] := by
  intro runs
  exact runs.final rfl rfl

end Vnt.Tunnel
