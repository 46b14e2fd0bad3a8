/-
This file carries the flows of IP packets over `Quic` to the clients at the other end. The worker of
a flow opens a stream, starts it with the protocol and the addresses of the flow, and puts its
packets on it as frames. The other client reads the start and hands on each frame as a packet of
that protocol between these addresses, over the network stack of its own or over a socket, unless it
has neither or lets no such packet in. The stream may break its bytes at any place. What is handed
on is, in the order of the flow and each packet once, the first part of what its worker sent.
-/

import Vnt.Base.Framing
import Vnt.Protocol.ClientMessage
import Vnt.Tunnel.DatagramFlows
import Vnt.Tunnel.EnhancedInbound

namespace Vnt.Tunnel

open Vnt.Base Vnt.Base.Protobuf
open Vnt.Base.StreamReader (Written)

/-! ### The start of a stream -/

/-- The frame of a start: `write_u16` and `write_all`, `read_u16` and `read_exact`. -/
def handshakeFrames : FrameCodec := .lengthDelimited 2 65535 (by decide) (by decide)

/-- `send_handshake`; the length is cast to 16 bits. -/
def sendHandshake (handshake : Proto.QuicProxyHandshake) : List UInt8 :=
  let encoded := Proto.QuicProxyHandshake.format.encode handshake
  bigEndian 2 (encoded.length % 2 ^ 16) ++ encoded

/-- The start that `spawn_dest_sender` writes. -/
def IpKey.handshake (key : IpKey) : Proto.IpProxyHandshake where
  ipNextHeaderProtocol := key.protocol.toUInt32
  srcIp := key.src
  dstIp := key.dest

/-! ### The other end -/

/-- `InternalNatInbound`, with the network of the client. -/
structure InternalNat where
  noTun : Bool
  allowed : List Ipv4Net
  network : Option NetworkAddr

namespace InternalNat

def networkContains (nat : InternalNat) (ip : Ipv4Addr) : Bool :=
  match nat.network with
  | some net => net.network.contains ip
  | none => false

/-- `allow_nat`. -/
def allowNat (nat : InternalNat) (dst : Ipv4Addr) : Bool :=
  allowSubnet nat.allowed dst || nat.networkContains dst

/-- `use_nat`. -/
def useNat (nat : InternalNat) (dst : Ipv4Addr) : Bool :=
  if nat.noTun = true then nat.allowNat dst
  else if nat.networkContains dst = true then false
  else allowSubnet nat.allowed dst

end InternalNat

/-- What a client hands packets on over. -/
inductive IpTarget where
  | nat
  | ipSocket
  deriving DecidableEq, Repr

/-- What `quic_stream_uni_handle` is given. -/
structure UniReceiver where
  internalNat : Option InternalNat
  ipSocket : Bool

/-- The way of the packets to an address, `none` when the stream is left. -/
def UniReceiver.target (receiver : UniReceiver) (dest : Ipv4Addr) : Option IpTarget :=
  let socket := if receiver.ipSocket = true then some .ipSocket else none
  match receiver.internalNat with
  | none => socket
  | some nat =>
    if nat.useNat dest = true then some .nat
    else if nat.noTun = true then none
    else socket

/-- A packet that is handed on. -/
structure HandedOn where
  target : IpTarget
  protocol : UInt8
  src : Ipv4Addr
  dest : Ipv4Addr
  payload : List UInt8
  deriving DecidableEq, Repr

/-- Where `quic_stream_uni_handle` stands: before the start, or in a loop. -/
inductive UniState where
  | start
  | frames (handshake : Proto.IpProxyHandshake)

/-- The frames that are read next: that of the start, and those of a loop when there is one. -/
def uniFrames (codec : FrameCodec) (receiver : UniReceiver) :
    UniState → Option (StreamReader Unit (List UInt8))
  | .start => some handshakeFrames.reader
  | .frames handshake => (receiver.target handshake.dstIp).map fun _ => codec.reader

/-- What is made of a frame: the start must be that of a flow of IP packets, and every frame after
it is handed on. -/
def interpretFrame (receiver : UniReceiver) :
    UniState → List UInt8 → Option (Option HandedOn × UniState)
  | .start, buf =>
    match Proto.QuicProxyHandshake.format.decode buf with
    | some ⟨some (.ip handshake)⟩ => some (none, .frames handshake)
    | _ => none
  | .frames handshake, payload =>
    (receiver.target handshake.dstIp).map fun target =>
      (some ⟨target, handshake.ipNextHeaderProtocol.toUInt8, handshake.srcIp, handshake.dstIp,
        payload⟩, .frames handshake)

/-- `quic_stream_uni_handle`, with the codec of the frames after the start. -/
def uniReader (codec : FrameCodec) (receiver : UniReceiver) : StreamReader UniState HandedOn :=
  .layered (uniFrames codec receiver) (interpretFrame receiver)

/-- The packet of a flow as it is handed on. -/
def IpKey.handedOn (key : IpKey) (target : IpTarget) (payload : List UInt8) : HandedOn :=
  ⟨target, key.protocol, key.src, key.dest, payload⟩

/-- What becomes of the packets of a flow at the other end. -/
def UniReceiver.handsOn (receiver : UniReceiver) (key : IpKey) (payloads : List (List UInt8)) :
    List HandedOn :=
  match receiver.target key.dest with
  | some target => payloads.map (key.handedOn target)
  | none => []

/-! ### One stream -/

theorem length_encodeHandshake (key : IpKey) :
    (Proto.QuicProxyHandshake.format.encode ⟨some (.ip key.handshake)⟩).length ≤ 100 := by
  have protocol := Format.length_encode_implicit 1 (.refl true) .uint32 0
    key.handshake.ipNextHeaderProtocol
  have src := Format.length_encode_implicit 2 (.refl true) .fixed32 0 key.handshake.srcIp
  have dst := Format.length_encode_implicit 3 (.refl true) .fixed32 0 key.handshake.dstIp
  have protocolContent :
      (ValueCodec.uint32.write key.handshake.ipNextHeaderProtocol).content.length = 0 := rfl
  have srcContent : (ValueCodec.fixed32.write key.handshake.srcIp).content.length = 4 :=
    (List.length_reverse).trans (length_wordBytes key.handshake.srcIp)
  have dstContent : (ValueCodec.fixed32.write key.handshake.dstIp).content.length = 4 :=
    (List.length_reverse).trans (length_wordBytes key.handshake.dstIp)
  have inner : (Proto.IpProxyHandshake.format.encode key.handshake).length ≤ _ :=
    Format.length_encode_ofEquiv_le
      (Format.length_encode_both_le (Format.length_encode_both_le protocol src) dst)
  have outer := Format.length_encode_message 2 (.refl true) Proto.IpProxyHandshake.format
    key.handshake
  have same : Proto.QuicProxyHandshake.format.encode ⟨some (.ip key.handshake)⟩ =
      (Format.message 2 (.refl true) Proto.IpProxyHandshake.format).encode (some key.handshake) :=
        rfl
  rw [same]
  omega

theorem toUInt8_toUInt32 (byte : UInt8) : byte.toUInt32.toUInt8 = byte := by
  simp

/-- The start of a flow is read, and the frames of the flow are next. -/
theorem take_sendHandshake (codec : FrameCodec) (receiver : UniReceiver) (key : IpKey)
    (later : List UInt8) :
    (uniReader codec receiver).take .start
      (sendHandshake ⟨some (.ip key.handshake)⟩ ++ later) =
        .item none (.frames key.handshake) later := by
  have short := length_encodeHandshake key
  have meaning : interpretFrame receiver .start
      (Proto.QuicProxyHandshake.format.encode ⟨some (.ip key.handshake)⟩) =
        some (none, .frames key.handshake) := by
    unfold interpretFrame
    dsimp only
    rw [Proto.QuicProxyHandshake.format.decode_encode (by omega)]
  unfold sendHandshake
  generalize Proto.QuicProxyHandshake.format.encode ⟨some (.ip key.handshake)⟩ = encoded
    at short meaning ⊢
  have found : handshakeFrames.reader.take ()
      (bigEndian 2 (encoded.length % 2 ^ 16) ++ encoded ++ later) =
        .item (some encoded) () later := by
    rw [Nat.mod_eq_of_lt (by omega)]
    exact handshakeFrames.take_put later (Nat.le_trans short (by decide))
  exact StreamReader.takeLayered_of_meaning
    (show uniFrames codec receiver .start = some handshakeFrames.reader from rfl) found meaning

/-- A frame of a flow is handed on as a packet of the flow. -/
theorem take_put_frame (codec : FrameCodec) {receiver : UniReceiver} {key : IpKey}
    {target : IpTarget} (isTarget : receiver.target key.dest = some target) {payload : List UInt8}
    (fits : payload.length ≤ codec.limit) (later : List UInt8) :
    (uniReader codec receiver).take (.frames key.handshake) (codec.put payload ++ later) =
      .item (some (key.handedOn target payload)) (.frames key.handshake) later := by
  have isReader : uniFrames codec receiver (.frames key.handshake) = some codec.reader := by
    show (receiver.target key.dest).map _ = _
    rw [isTarget]
    rfl
  refine StreamReader.takeLayered_of_meaning isReader (codec.take_put later fits) ?_
  show (receiver.target key.dest).map _ = _
  rw [isTarget]
  show some (some (HandedOn.mk target key.protocol.toUInt32.toUInt8 key.src key.dest payload), _) =
    _
  rw [toUInt8_toUInt32]
  rfl

/-- The bytes of a flow with these packets. -/
def streamBytes (codec : FrameCodec) (key : IpKey) (payloads : List (List UInt8)) : List UInt8 :=
  sendHandshake ⟨some (.ip key.handshake)⟩ ++ payloads.flatMap codec.put

theorem written_frames (codec : FrameCodec) {receiver : UniReceiver} {key : IpKey}
    {target : IpTarget} (isTarget : receiver.target key.dest = some target)
    {payloads : List (List UInt8)} (fit : ∀ payload ∈ payloads, payload.length ≤ codec.limit) :
    Written (uniReader codec receiver) (.frames key.handshake)
      (payloads.map (key.handedOn target)) (.frames key.handshake)
      (payloads.flatMap codec.put) := by
  induction payloads with
  | nil => exact .nil _
  | cons payload rest inductionHypothesis =>
    obtain ⟨first, others⟩ := List.forall_mem_cons.mp fit
    exact .cons (take_put_frame codec isTarget first) (inductionHypothesis others)

/-- What the other end hands on when all bytes of a flow have arrived. -/
theorem items_streamBytes (codec : FrameCodec) (receiver : UniReceiver) (key : IpKey)
    {payloads : List (List UInt8)} (fit : ∀ payload ∈ payloads, payload.length ≤ codec.limit) :
    ((uniReader codec receiver).receive (.start .start) (streamBytes codec key payloads)).items =
      receiver.handsOn key payloads := by
  have start : Written (uniReader codec receiver) .start [] (.frames key.handshake)
      (sendHandshake ⟨some (.ip key.handshake)⟩) :=
    StreamReader.written_one (take_sendHandshake codec receiver key)
  unfold UniReceiver.handsOn
  cases isTarget : receiver.target key.dest with
  | some target => exact (start.append (written_frames codec isTarget fit)).items_receive
  | none =>
    refine start.items_receive_of_over (fun rest => ?_) _
    refine StreamReader.takeLayered_of_none ?_ rest
    show (receiver.target key.dest).map _ = none
    rw [isTarget]
    rfl

theorem streamBytes_append (codec : FrameCodec) (key : IpKey) (payloads : List (List UInt8))
    (payload : List UInt8) : streamBytes codec key (payloads ++ [payload]) =
      streamBytes codec key payloads ++ codec.put payload := by
  unfold streamBytes
  rw [List.flatMap_append, List.flatMap_singleton, List.append_assoc]

/-! ### All flows -/

/-- The stream of a worker: the other end, the bytes that are under way, and how far the other end
has read, which it may have given up. -/
structure FlowStream where
  receiver : UniReceiver
  underWay : List UInt8
  reading : Reading UniState HandedOn
  stopped : Bool

/-- The loop with its workers, the streams that they opened, and the packets that were put onto the
streams, with their workers. -/
structure ProxyFlows where
  dispatcher : Dispatcher IpKey (List UInt8)
  streams : Nat → Option FlowStream
  log : List (Nat × List UInt8)

/-- A step of the loop or of a worker, a worker opens its stream, the next bytes of a stream arrive,
or the other end of a stream gives up. -/
inductive FlowEvent where
  | listen (event : IpListenEvent)
  | openStream (worker : Nat) (receiver : UniReceiver)
  | arrive (worker count : Nat)
  | stop (worker : Nat)

/-- The step for the flows. -/
def FlowEvent.dispatch : FlowEvent → Option (DispatchEvent IpKey (List UInt8))
  | .listen event => event.dispatch
  | _ => none

namespace ProxyFlows

def start : ProxyFlows := ⟨Dispatcher.start, fun _ => none, []⟩

/-- A stream after a change. -/
def setStream (state : ProxyFlows) (worker : Nat) (stream : FlowStream) : ProxyFlows :=
  { state with streams := Function.update state.streams worker (some stream) }

theorem streams_setStream (state : ProxyFlows) (worker other : Nat) (stream : FlowStream) :
    (state.setStream worker stream).streams other =
      if other = worker then some stream else state.streams other := Function.update_apply ..

/-- A worker puts the packet that it took onto its stream, which takes no frame above the limit. -/
def send (codec : FrameCodec) (state : ProxyFlows) (worker : Nat) (stream : FlowStream)
    (payload : List UInt8) : Option ProxyFlows :=
  if payload.length ≤ codec.limit then
    match ipListen.step state.dispatcher (.take worker true) with
    | some dispatcher =>
      let written :=
        state.setStream worker { stream with underWay := stream.underWay ++ codec.put payload }
      some { written with dispatcher := dispatcher, log := state.log ++ [(worker, payload)] }
    | none => none
  else none

/-- Bytes of a stream arrive. -/
def arrived (codec : FrameCodec) (stream : FlowStream) (count : Nat) : FlowStream :=
  { stream with
    underWay := stream.underWay.drop count
    reading :=
      if stream.stopped = true then stream.reading
      else (uniReader codec stream.receiver).receive stream.reading (stream.underWay.take count) }

/-- The packet that a worker takes next. -/
def nextPayload (state : ProxyFlows) (worker : Nat) : Option (List UInt8) :=
  state.dispatcher.workers[worker]?.bind fun worker => worker.queue.head?

def step (codec : FrameCodec) (state : ProxyFlows) : FlowEvent → Option ProxyFlows
  | .listen (.take worker true) =>
    match state.streams worker, state.nextPayload worker with
    | some stream, some payload => state.send codec worker stream payload
    | _, _ => none
  | .listen event =>
    match ipListen.step state.dispatcher event with
    | some dispatcher => some { state with dispatcher := dispatcher }
    | none => none
  | .openStream index receiver =>
    match state.streams index, state.dispatcher.workers[index]? with
    | none, some worker =>
      if worker.live = true then
        some (state.setStream index
          ⟨receiver, sendHandshake ⟨some (.ip worker.key.handshake)⟩, .start .start, false⟩)
      else none
    | _, _ => none
  | .arrive worker count =>
    match state.streams worker with
    | some stream => some (state.setStream worker (arrived codec stream count))
    | none => none
  | .stop worker =>
    match state.streams worker with
    | some stream => some (state.setStream worker { stream with stopped := true })
    | none => none

def machine (codec : FrameCodec) : Machine ProxyFlows FlowEvent := ⟨step codec⟩

/-- The packets that a worker has sent, in order. -/
def sentBy (log : List (Nat × List UInt8)) (worker : Nat) : List (List UInt8) :=
  log.filterMap fun entry => if entry.1 = worker then some entry.2 else none

/-- What is handed on at the other end of a stream is the first part of what its worker sent, and
all of it once it has arrived; what is sent are packets that were read, each once and for its flow.
-/
structure Carried (events : List FlowEvent) (state : ProxyFlows) : Prop where
  inOrder : ∀ worker stream, state.streams worker = some stream →
    ∃ key, state.dispatcher.keys[worker]? = some key ∧
      stream.reading.items <+: stream.receiver.handsOn key (sentBy state.log worker)
  complete : ∀ worker stream, state.streams worker = some stream → stream.stopped = false →
    stream.underWay = [] → ∃ key, state.dispatcher.keys[worker]? = some key ∧
      stream.reading.items = stream.receiver.handsOn key (sentBy state.log worker)
  labelled : state.dispatcher.sent.map some = state.log.map fun entry =>
    state.dispatcher.keys[entry.1]?.map fun key => (key, entry.2)
  sent : (state.dispatcher.sent : Multiset (IpKey × List UInt8)) ≤
    Dispatcher.reads (events.filterMap FlowEvent.dispatch)

/-! ### What a run keeps -/

theorem sentBy_append (log : List (Nat × List UInt8)) (worker other : Nat) (payload : List UInt8) :
    sentBy (log ++ [(worker, payload)]) other =
      sentBy log other ++ if worker = other then [payload] else [] := by
  unfold sentBy
  rw [List.filterMap_append]
  refine congrArg (_ ++ ·) ?_
  split
  · next same => exact List.filterMap_cons_some (if_pos same)
  · next different => exact List.filterMap_cons_none (if_neg different)

/-- The bytes of a stream are those of its flow, and the other end has read what has arrived. -/
def StreamSound (codec : FrameCodec) (keys : List IpKey) (log : List (Nat × List UInt8))
    (worker : Nat) (stream : FlowStream) : Prop :=
  ∃ key arrived, keys[worker]? = some key ∧
    arrived ++ stream.underWay = streamBytes codec key (sentBy log worker) ∧
    stream.reading.items <+:
      ((uniReader codec stream.receiver).receive (.start .start) arrived).items ∧
    (stream.stopped = false →
      stream.reading = (uniReader codec stream.receiver).receive (.start .start) arrived)

/-- What holds after every step. -/
structure Sound (codec : FrameCodec) (state : ProxyFlows) : Prop where
  fit : ∀ entry ∈ state.log, entry.2.length ≤ codec.limit
  labelled : state.dispatcher.sent.map some = state.log.map fun entry =>
    state.dispatcher.keys[entry.1]?.map fun key => (key, entry.2)
  streams : ∀ worker stream, state.streams worker = some stream →
    StreamSound codec state.dispatcher.keys state.log worker stream
  unopened : ∀ worker, state.streams worker = none → sentBy state.log worker = []

variable {codec : FrameCodec} {state next : ProxyFlows}

theorem sound_start : Sound codec start where
  fit := List.forall_mem_nil _
  labelled := rfl
  streams := fun _ _ found => by cases found
  unopened := fun _ _ => rfl

theorem Sound.sentBy_fit (sound : Sound codec state) (worker : Nat) :
    ∀ payload ∈ sentBy state.log worker, payload.length ≤ codec.limit := by
  intro payload member
  obtain ⟨entry, isEntry, same⟩ := List.mem_filterMap.mp member
  obtain ⟨-, isPayload⟩ := Option.ite_none_right_eq_some.mp same
  cases isPayload
  exact sound.fit entry isEntry

theorem getElem?_of_longer {keys more : List IpKey} (longer : keys <+: more) {index : Nat}
    {key : IpKey} (found : keys[index]? = some key) : more[index]? = some key := by
  obtain ⟨rest, rfl⟩ := longer
  rw [List.getElem?_append_left (List.getElem?_eq_some_iff.mp found).1]
  exact found

theorem StreamSound.keys {keys more : List IpKey} {log : List (Nat × List UInt8)} {worker : Nat}
    {stream : FlowStream} (sound : StreamSound codec keys log worker stream)
    (longer : keys <+: more) : StreamSound codec more log worker stream := by
  obtain ⟨key, arrived, isKey, rest⟩ := sound
  exact ⟨key, arrived, getElem?_of_longer longer isKey, rest⟩

/-- The workers of the packets that were sent are still there when there are more workers. -/
theorem labelled_of_prefix {keys more : List IpKey} {log : List (Nat × List UInt8)}
    {sent : List (IpKey × List UInt8)} (longer : keys <+: more)
    (labelled : sent.map some = log.map fun entry => keys[entry.1]?.map fun key => (key, entry.2)) :
    sent.map some = log.map fun entry => more[entry.1]?.map fun key => (key, entry.2) := by
  rw [labelled]
  refine List.map_congr_left fun entry member => ?_
  have isSome : (keys[entry.1]?.map fun key => (key, entry.2)) ∈ sent.map some := by
    rw [labelled]
    exact List.mem_map.mpr ⟨entry, member, rfl⟩
  obtain ⟨pair, -, same⟩ := List.mem_map.mp isSome
  obtain ⟨key, isKey, -⟩ := Option.map_eq_some_iff.mp same.symm
  rw [isKey, getElem?_of_longer longer isKey]

/-- Workers keep their keys, whatever the loop does. -/
theorem keys_ipListen {dispatcher after : Dispatcher IpKey (List UInt8)} {event : IpListenEvent}
    (steps : ipListen.step dispatcher event = some after) : dispatcher.keys <+: after.keys := by
  rcases ipListen_step steps with ⟨dispatched, -, dispatches⟩ | ⟨-, rfl⟩
  · exact Dispatcher.keys_step dispatches
  · exact List.prefix_rfl

theorem sent_ipListen {dispatcher after : Dispatcher IpKey (List UInt8)} {event : IpListenEvent}
    (other : ∀ worker, event ≠ .take worker true)
    (steps : ipListen.step dispatcher event = some after) : after.sent = dispatcher.sent := by
  rcases ipListen_step steps with ⟨dispatched, dispatch, dispatches⟩ | ⟨-, rfl⟩
  · refine Dispatcher.sent_of_not_take (fun index isTake => ?_) dispatches
    rw [isTake] at dispatch
    cases event with
    | take worker sends =>
      cases dispatch
      exact other index rfl
    | recvProtocolFromTo protocol src dest bytes =>
      cases src <;> cases dest <;> cases dispatch
    | trySend => cases dispatch
    | finish worker => cases dispatch
  · rfl

/-- A stream changes, and its bytes are still those of its flow. -/
theorem Sound.setStream (sound : Sound codec state) {worker : Nat} {stream : FlowStream}
    (streamSound : StreamSound codec state.dispatcher.keys state.log worker stream) :
    Sound codec (state.setStream worker stream) := by
  refine ⟨sound.fit, sound.labelled, fun other found isFound => ?_, fun other isNone => ?_⟩
  · rw [streams_setStream] at isFound
    split at isFound
    · next same =>
      cases isFound
      exact same ▸ streamSound
    · exact sound.streams other found isFound
  · rw [streams_setStream] at isNone
    split at isNone
    · cases isNone
    · exact sound.unopened other isNone

theorem Sound.arrive (sound : Sound codec state) {worker : Nat} {stream : FlowStream}
    (isStream : state.streams worker = some stream) (count : Nat) :
    Sound codec (state.setStream worker (arrived codec stream count)) := by
  obtain ⟨key, past, isKey, bytes, isPrefix, running⟩ := sound.streams worker stream isStream
  refine sound.setStream ⟨key, past ++ stream.underWay.take count, isKey, ?_, ?_, ?_⟩
  · show _ ++ stream.underWay.drop count = _
    rw [List.append_assoc, List.take_append_drop]
    exact bytes
  · rw [← StreamReader.receive_receive]
    unfold arrived
    dsimp only
    split
    · exact isPrefix.trans (StreamReader.reaches_receive _ _).items
    · next notStopped =>
      rw [running (Bool.eq_false_iff.mpr notStopped)]
  · intro notStopped
    replace notStopped : stream.stopped = false := notStopped
    unfold arrived
    dsimp only
    rw [notStopped, if_neg Bool.false_ne_true, running notStopped, StreamReader.receive_receive]

/-- A packet is put onto the stream of its worker. -/
theorem Sound.send (sound : Sound codec state) {worker : Nat} {stream : FlowStream}
    {payload : List UInt8} (isStream : state.streams worker = some stream)
    (isNext : state.nextPayload worker = some payload)
    (sends : state.send codec worker stream payload = some next) : Sound codec next := by
  unfold ProxyFlows.send at sends
  split at sends
  · next fits =>
    split at sends
    · next dispatcher steps =>
      cases sends
      have longer := keys_ipListen steps
      have dispatches : Dispatcher.step channelCapacity state.dispatcher (.take worker true) =
          some dispatcher := steps
      obtain ⟨source, item, isWorker, isHead, isSent⟩ := Dispatcher.sent_take dispatches
      have isItem : item = payload := by
        unfold nextPayload at isNext
        rw [isWorker] at isNext
        exact Option.some.inj (isHead.symm.trans isNext)
      subst isItem
      have isKey : state.dispatcher.keys[worker]? = some source.key := by
        unfold Dispatcher.keys
        rw [List.getElem?_map, isWorker]
        rfl
      refine ⟨?_, ?_, fun other found isFound => ?_, fun other isNone => ?_⟩
      · refine List.forall_mem_append.mpr ⟨sound.fit, fun entry member => ?_⟩
        rw [List.mem_singleton.mp member]
        exact fits
      · show dispatcher.sent.map some = _
        rw [isSent, List.map_append, List.map_append, labelled_of_prefix longer sound.labelled]
        refine congrArg (_ ++ ·) ?_
        show [some (source.key, item)] = [dispatcher.keys[worker]?.map _]
        rw [getElem?_of_longer longer isKey]
        rfl
      · replace isFound : (state.setStream worker _).streams other = some found := isFound
        rw [streams_setStream] at isFound
        split at isFound
        · next same =>
          subst same
          cases isFound
          obtain ⟨key, past, hasKey, bytes, isPrefix, running⟩ :=
            sound.streams other stream isStream
          refine ⟨key, past, getElem?_of_longer longer hasKey, ?_, isPrefix, running⟩
          rw [sentBy_append, if_pos rfl, streamBytes_append, ← bytes, List.append_assoc]
        · next different =>
          obtain ⟨key, past, hasKey, bytes, others⟩ := sound.streams other found isFound
          refine ⟨key, past, getElem?_of_longer longer hasKey, ?_, others⟩
          rw [sentBy_append, if_neg (Ne.symm different), List.append_nil]
          exact bytes
      · replace isNone : (state.setStream worker _).streams other = none := isNone
        rw [streams_setStream] at isNone
        split at isNone
        · cases isNone
        · next different =>
          rw [sentBy_append, if_neg (Ne.symm different), List.append_nil]
          exact sound.unopened other isNone
    · cases sends
  · cases sends

/-- The loop does something else. -/
theorem Sound.listen (sound : Sound codec state) {event : IpListenEvent}
    {dispatcher : Dispatcher IpKey (List UInt8)} (other : ∀ worker, event ≠ .take worker true)
    (steps : ipListen.step state.dispatcher event = some dispatcher) :
    Sound codec { state with dispatcher := dispatcher } := by
  have longer := keys_ipListen steps
  refine ⟨sound.fit, ?_, fun worker stream isStream =>
    (sound.streams worker stream isStream).keys longer,
    sound.unopened⟩
  show dispatcher.sent.map some = _
  rw [sent_ipListen other steps]
  exact labelled_of_prefix longer sound.labelled

/-- What a step of the loop is that is not the sending of a packet. -/
theorem listen_of_step {event : IpListenEvent} (other : ∀ worker, event ≠ .take worker true)
    (steps : (machine codec).step state (.listen event) = some next) :
    ∃ dispatcher, ipListen.step state.dispatcher event = some dispatcher ∧
      next = { state with dispatcher := dispatcher } := by
  replace steps : step codec state (.listen event) = some next := steps
  have isStep : step codec state (.listen event) =
      (ipListen.step state.dispatcher event).map fun dispatcher =>
        { state with dispatcher := dispatcher } := by
    unfold step
    cases event with
    | take worker sends =>
      cases sends with
      | true => exact absurd rfl (other worker)
      | false =>
        dsimp only
        cases ipListen.step state.dispatcher (.take worker false) <;> rfl
    | recvProtocolFromTo protocol src dest bytes =>
      dsimp only
      cases ipListen.step state.dispatcher (.recvProtocolFromTo protocol src dest bytes) <;> rfl
    | trySend =>
      dsimp only
      cases ipListen.step state.dispatcher .trySend <;> rfl
    | finish worker =>
      dsimp only
      cases ipListen.step state.dispatcher (.finish worker) <;> rfl
  rw [isStep] at steps
  obtain ⟨dispatcher, listens, rfl⟩ := Option.map_eq_some_iff.mp steps
  exact ⟨dispatcher, listens, rfl⟩

theorem send_of_step {worker : Nat}
    (steps : (machine codec).step state (.listen (.take worker true)) = some next) :
    ∃ stream payload, state.streams worker = some stream ∧
      state.nextPayload worker = some payload ∧
      state.send codec worker stream payload = some next := by
  replace steps : step codec state (.listen (.take worker true)) = some next := steps
  unfold step at steps
  dsimp only at steps
  split at steps
  · next stream payload isStream isNext => exact ⟨stream, payload, isStream, isNext, steps⟩
  · cases steps

theorem Sound.step (sound : Sound codec state) {event : FlowEvent}
    (steps : (machine codec).step state event = some next) : Sound codec next := by
  cases event with
  | listen event =>
    by_cases isSend : ∃ worker, event = .take worker true
    · obtain ⟨worker, rfl⟩ := isSend
      obtain ⟨stream, payload, isStream, isNext, sends⟩ := send_of_step steps
      exact sound.send isStream isNext sends
    · have other : ∀ worker, event ≠ .take worker true := fun worker same =>
        isSend ⟨worker, same⟩
      obtain ⟨dispatcher, listens, rfl⟩ := listen_of_step other steps
      exact sound.listen other listens
  | openStream index receiver =>
    replace steps : ProxyFlows.step codec state (.openStream index receiver) = some next := steps
    unfold ProxyFlows.step at steps
    dsimp only at steps
    split at steps
    · next worker isNone isWorker =>
      split at steps
      · cases steps
        have isKey : state.dispatcher.keys[index]? = some worker.key := by
          unfold Dispatcher.keys
          rw [List.getElem?_map, isWorker]
          rfl
        refine sound.setStream ⟨worker.key, [], isKey, ?_, List.nil_prefix, fun _ => rfl⟩
        unfold streamBytes
        rw [sound.unopened index isNone]
        exact (List.append_nil _).symm
      · cases steps
    · cases steps
  | arrive worker count =>
    replace steps : ProxyFlows.step codec state (.arrive worker count) = some next := steps
    unfold ProxyFlows.step at steps
    dsimp only at steps
    split at steps
    · next stream isStream =>
      cases steps
      exact sound.arrive isStream count
    · cases steps
  | stop worker =>
    replace steps : ProxyFlows.step codec state (.stop worker) = some next := steps
    unfold ProxyFlows.step at steps
    dsimp only at steps
    split at steps
    · next stream isStream =>
      cases steps
      obtain ⟨key, past, isKey, bytes, isPrefix, -⟩ := sound.streams worker stream isStream
      exact sound.setStream ⟨key, past, isKey, bytes, isPrefix, fun running => by cases running⟩
    · cases steps

/-- The loop and its workers do what they do without the streams. -/
theorem dispatcher_step {event : FlowEvent}
    (steps : (machine codec).step state event = some next) :
    (∃ dispatched, event.dispatch = some dispatched ∧
      (Dispatcher.machine channelCapacity).step state.dispatcher dispatched =
        some next.dispatcher) ∨
    (event.dispatch = none ∧ next.dispatcher = state.dispatcher) := by
  cases event with
  | listen event =>
    by_cases isSend : ∃ worker, event = .take worker true
    · obtain ⟨worker, rfl⟩ := isSend
      obtain ⟨stream, payload, -, -, sends⟩ := send_of_step steps
      unfold ProxyFlows.send at sends
      split at sends
      · split at sends
        · next dispatcher listens =>
          cases sends
          exact .inl ⟨.take worker true, rfl, listens⟩
        · cases sends
      · cases sends
    · have other : ∀ worker, event ≠ .take worker true := fun worker same =>
        isSend ⟨worker, same⟩
      obtain ⟨dispatcher, listens, rfl⟩ := listen_of_step other steps
      exact ipListen_step listens
  | openStream index receiver =>
    replace steps : ProxyFlows.step codec state (.openStream index receiver) = some next := steps
    unfold ProxyFlows.step at steps
    dsimp only at steps
    split at steps
    · split at steps
      · cases steps
        exact .inr ⟨rfl, rfl⟩
      · cases steps
    · cases steps
  | arrive worker count =>
    replace steps : ProxyFlows.step codec state (.arrive worker count) = some next := steps
    unfold ProxyFlows.step at steps
    dsimp only at steps
    split at steps
    · cases steps
      exact .inr ⟨rfl, rfl⟩
    · cases steps
  | stop worker =>
    replace steps : ProxyFlows.step codec state (.stop worker) = some next := steps
    unfold ProxyFlows.step at steps
    dsimp only at steps
    split at steps
    · cases steps
      exact .inr ⟨rfl, rfl⟩
    · cases steps

theorem sound_of_run {final : ProxyFlows} {events : List FlowEvent}
    (reaches : (machine codec).run start events = some final) :
    Sound codec final ∧ (Dispatcher.machine channelCapacity).run Dispatcher.start
      (events.filterMap FlowEvent.dispatch) = some final.dispatcher := by
  refine Machine.run_induction (fun past state => Sound codec state ∧
    (Dispatcher.machine channelCapacity).run Dispatcher.start
      (past.filterMap FlowEvent.dispatch) = some state.dispatcher) ⟨sound_start, rfl⟩ ?_ reaches
  rintro past state event next - ⟨sound, before⟩ steps
  refine ⟨sound.step steps, ?_⟩
  rw [List.filterMap_append, Machine.run_append, before]
  rcases dispatcher_step steps with ⟨dispatched, dispatch, dispatches⟩ | ⟨dispatch, same⟩
  · rw [List.filterMap_cons_some dispatch]
    exact Machine.run_cons_eq_some.mpr ⟨next.dispatcher, dispatches, rfl⟩
  · rw [List.filterMap_cons_none dispatch, same]
    rfl

/-- In every run, wherever the streams break their bytes and whichever ends give up, each other end
hands on the first part of what its worker sent, in order and for the flow of the worker, and every
packet that is sent was read, once. -/
theorem flows_carried (codec : FrameCodec) {final : ProxyFlows} {events : List FlowEvent}
    (reaches : (machine codec).run start events = some final) : Carried events final := by
  obtain ⟨sound, dispatches⟩ := sound_of_run reaches
  refine ⟨fun worker stream isStream => ?_, fun worker stream isStream running empty => ?_,
    sound.labelled, ?_⟩
  · obtain ⟨key, past, isKey, bytes, isPrefix, -⟩ := sound.streams worker stream isStream
    have fit := sound.sentBy_fit worker
    refine ⟨key, isKey, isPrefix.trans ?_⟩
    rw [← items_streamBytes codec stream.receiver key fit, ← bytes, ← StreamReader.receive_receive]
    exact (StreamReader.reaches_receive _ _).items
  · obtain ⟨key, past, isKey, bytes, -, reads⟩ := sound.streams worker stream isStream
    have fit := sound.sentBy_fit worker
    rw [empty, List.append_nil] at bytes
    refine ⟨key, isKey, ?_⟩
    rw [reads running, bytes, items_streamBytes codec stream.receiver key fit]
  · rw [← (Dispatcher.accounted_run dispatches).1]
    unfold Dispatcher.accounted
    exact le_trans (Multiset.le_add_left _ _) (Multiset.le_add_right _ _)

/-- A client with a socket for IP packets and no network stack. -/
def socketReceiver : UniReceiver := ⟨none, true⟩

/-- Two packets of a flow, of which the second one has not arrived whole. -/
def exampleFlow : List FlowEvent :=
  [.listen (.recvProtocolFromTo 50 (.v4 1) (.v4 2) [7, 8]), .listen .trySend,
    .openStream 0 socketReceiver, .listen (.recvProtocolFromTo 50 (.v4 1) (.v4 2) [9]),
    .listen .trySend, .listen (.take 0 true), .arrive 0 1, .arrive 0 15, .listen (.take 0 true),
    .arrive 0 10]

theorem flows_carried_exampleFlow : ∃ final,
    (machine FrameCodec.standard).run start exampleFlow = some final ∧
    (final.streams 0).map (fun stream => stream.reading.items) =
      some [⟨.ipSocket, 50, 1, 2, [7, 8]⟩] ∧
    Carried exampleFlow final := by
  have reached : ∃ final, (machine FrameCodec.standard).run start exampleFlow = some final ∧
      (final.streams 0).map (fun stream => stream.reading.items) =
        some [⟨.ipSocket, 50, 1, 2, [7, 8]⟩] := ⟨_, rfl, rfl⟩
  obtain ⟨final, reaches, handed⟩ := reached
  exact ⟨final, reaches, handed, flows_carried FrameCodec.standard reaches⟩

end ProxyFlows

end Vnt.Tunnel
