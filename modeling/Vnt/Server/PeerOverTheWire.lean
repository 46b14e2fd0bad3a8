/-
This file shows that two servers whose connection is modelled down to its bytes talk to each other
as those that exchange messages. Neither loop starts unless both servers have the same token, and
the authentication fails only for another token, for lost patience or with the connection. From then
on every run of the bytes, in whatever pieces they arrive, is matched by a run of the messages, with
the same routes and the same packets handed to the clients after every event.
-/

import Vnt.Base.Simulation
import Vnt.Server.PeerWire

namespace Vnt.Server

open Vnt.Base

/-! ### An end and the end it shows -/

/-- The connection of the opener is an outbound one. -/
def Side.isOutbound : Side → Bool
  | opener => true
  | acceptor => false

theorem Side.eq_or_other (side other : Side) : side = other ∨ side.other = other := by
  cases side <;> cases other <;> decide

namespace WireEnd

/-- The manager, with the record that the end makes when its loop starts. -/
def shownManager (node : WireEnd) (outbound : Bool) : PeerServerManager :=
  if node.phase = .running then node.manager else node.recorded outbound

/-- The end holds the bytes of what the other one holds as messages. -/
structure Shows (node : WireEnd) (outbound : Bool) (image : PeerEnd) : Prop where
  manager : image.manager = node.shownManager outbound
  peer : image.peer = node.peer
  networkCodes : image.networkCodes = node.networkCodes
  queue : node.queue = image.queue.map ServerMessage.encode
  waiting : node.waiting = image.waiting.map ServerMessage.encode
  datagrams : node.datagrams = image.datagrams.map ServerMessage.encode
  delivered : image.delivered = node.delivered
  idle : node.phase ≠ .running → image.queue = [] ∧ image.waiting = none ∧ image.stream = []

variable {node : WireEnd} {outbound : Bool} {image : PeerEnd}

@[simp] theorem established_phase (node : WireEnd) (outbound : Bool) :
    (node.established outbound).phase = .running := rfl

@[simp] theorem failed_phase (node : WireEnd) (error : PeerError) :
    (node.failed error).phase = .failed error := rfl

theorem shownManager_of_running (running : node.phase = .running) :
    node.shownManager outbound = node.manager := if_pos running

theorem Shows.manager_of_running (shows : Shows node outbound image)
    (running : node.phase = .running) : image.manager = node.manager :=
  shows.manager.trans (shownManager_of_running running)

theorem Shows.info (shows : Shows node outbound image) (running : node.phase = .running) :
    image.info = node.info := by
  unfold PeerEnd.info WireEnd.info
  rw [shows.manager_of_running running, shows.peer]

/-- The bytes of the stream are not shown by one end. -/
theorem Shows.bytes (shows : Shows node outbound image) (arrived underWay : List UInt8) :
    Shows { node with arrived := arrived, underWay := underWay } outbound image :=
  ⟨shows.manager, shows.peer, shows.networkCodes, shows.queue, shows.waiting, shows.datagrams,
    shows.delivered, shows.idle⟩

/-- An end whose loop has not started comes to another phase without it. -/
theorem Shows.stays (shows : Shows node outbound image) (before : node.phase ≠ .running)
    {phase : PeerPhase} (after : phase ≠ .running) :
    Shows { node with phase := phase } outbound image := by
  refine ⟨?_, shows.peer, shows.networkCodes, shows.queue, shows.waiting, shows.datagrams,
    shows.delivered, fun _ => shows.idle before⟩
  rw [shows.manager]
  unfold shownManager
  rw [if_neg before, if_neg after]
  rfl

theorem Shows.established (shows : Shows node outbound image) (before : node.phase ≠ .running) :
    Shows (node.established outbound) outbound image := by
  refine ⟨?_, shows.peer, shows.networkCodes, shows.queue, shows.waiting, shows.datagrams,
    shows.delivered, fun idle => absurd rfl idle⟩
  rw [shows.manager]
  unfold shownManager
  rw [if_neg before]
  exact (if_pos rfl).symm

theorem Shows.send (shows : Shows node outbound image) (running : node.phase = .running)
    (message : ServerMessage) : Shows (node.send message) outbound (image.send message) := by
  unfold WireEnd.send PeerEnd.send
  rw [shows.info running]
  have room : node.queue.length = image.queue.length := by
    rw [shows.queue, List.length_map]
  rw [room]
  cases node.info.sender with
  | none => exact shows
  | some sender =>
    dsimp only
    by_cases free : image.queue.length < peerQueueCapacity
    · rw [if_pos free, if_pos free]
      refine ⟨shows.manager, shows.peer, shows.networkCodes, ?_, shows.waiting, shows.datagrams,
        shows.delivered, fun other => absurd running other⟩
      dsimp only
      rw [shows.queue, List.map_append]
      rfl
    · rw [if_neg free, if_neg free]
      exact ⟨shows.manager, shows.peer, shows.networkCodes, shows.queue, rfl, shows.datagrams,
        shows.delivered, fun other => absurd running other⟩

theorem Shows.forward (shows : Shows node outbound image) (running : node.phase = .running)
    (networkCode : String) (data : List UInt8) (fits : Bool) :
    Shows (node.forward networkCode data fits) outbound (image.forward networkCode data fits) := by
  unfold WireEnd.forward PeerEnd.forward
  rw [shows.manager_of_running running, shows.peer]
  cases node.manager.forwardToPeer (fun _ _ => fits) node.peer networkCode data with
  | none => exact shows
  | some forwarded =>
    refine ⟨(shownManager_of_running running).symm, rfl, shows.networkCodes, shows.queue,
      shows.waiting, ?_, shows.delivered, fun other => absurd running other⟩
    dsimp only
    rw [shows.datagrams, List.map_append]
    rfl

theorem Shows.setNetworkStates (shows : Shows node outbound image)
    (networkStates : Map String NetworkState) :
    Shows { node with manager := { node.manager with networkStates := networkStates } } outbound
      { image with manager := { image.manager with networkStates := networkStates } } := by
  refine ⟨?_, shows.peer, shows.networkCodes, shows.queue, shows.waiting, shows.datagrams,
    shows.delivered, shows.idle⟩
  dsimp only
  rw [shows.manager]
  unfold shownManager
  split <;> rfl

theorem Shows.handlePingResponse (shows : Shows node outbound image)
    (running : node.phase = .running) (now requestTimestamp : UInt64) :
    Shows (node.handlePingResponse now requestTimestamp) outbound
      (image.handlePingResponse now requestTimestamp) := by
  unfold WireEnd.handlePingResponse PeerEnd.handlePingResponse
  rw [shows.manager_of_running running, shows.peer]
  exact ⟨(if_pos running).symm, rfl, shows.networkCodes, shows.queue, shows.waiting,
    shows.datagrams, shows.delivered, fun other => absurd running other⟩

theorem Shows.pullClientInfo (shows : Shows node outbound image) (running : node.phase = .running) :
    Shows node.pullClientInfo outbound image.pullClientInfo := by
  unfold WireEnd.pullClientInfo PeerEnd.pullClientInfo
  rw [shows.manager_of_running running]
  cases node.manager.networkStates.keys with
  | nil => exact shows
  | cons networkCode others => exact shows.send running _

/-- A datagram that waits for room in the queue is the message that waits for it. -/
theorem Shows.resumed (shows : Shows node outbound image) (running : node.phase = .running)
    (message : ServerMessage) :
    Shows { node with queue := node.queue ++ [message.encode], waiting := none } outbound
      (image.resumed message) := by
  refine ⟨shows.manager, shows.peer, shows.networkCodes, ?_, rfl, shows.datagrams,
    shows.delivered, fun idle => absurd running idle⟩
  unfold PeerEnd.resumed
  rw [shows.queue, List.map_append]
  rfl

/-- The bytes of a message are handled as the message. -/
theorem Shows.handlePeerMessage (shows : Shows node outbound image)
    (running : node.phase = .running) (now : UInt64) {message : ServerMessage}
    (fits : message.encode.length < 2 ^ 64) :
    Shows (node.handlePeerMessage now message.encode) outbound
      (image.handlePeerMessage now message) := by
  have manager := shows.manager_of_running running
  unfold WireEnd.handlePeerMessage
  rw [ServerMessage.decode_encode fits]
  cases message with
  | authReq tokenHash => exact shows
  | authRes success text => exact shows
  | pingReq timestamp => exact shows.send running _
  | clientInfoReq networkCodes =>
    have answered := shows.send running
      (.clientInfoRes (node.manager.handleClientInfoRequest networkCodes))
    rw [← manager] at answered ⊢
    exact answered
  | pingRes requestTimestamp responseTimestamp => exact shows.handlePingResponse running now _
  | forwardData forward =>
    refine ⟨shows.manager, shows.peer, shows.networkCodes, shows.queue, shows.waiting,
      shows.datagrams, ?_, fun other => absurd running other⟩
    unfold PeerEnd.handlePeerMessage PeerEnd.handleForward
    dsimp only
    rw [manager, shows.delivered]
  | clientInfoRes networks =>
    unfold PeerEnd.handlePeerMessage
    dsimp only
    rw [manager, shows.peer, shows.networkCodes]
    exact ⟨(if_pos running).symm, rfl, rfl, shows.queue, shows.waiting, shows.datagrams,
      shows.delivered, fun other => absurd running other⟩

end WireEnd

namespace WireLink

variable {codec : FrameCodec} {link next : WireLink} {image : PeerLink}

@[simp] theorem update_self (link : WireLink) (side : Side) (node : WireEnd) :
    (link.update side node).ends side = node := Function.update_self ..

theorem update_of_ne (link : WireLink) {side other : Side} (different : other ≠ side)
    (node : WireEnd) : (link.update side node).ends other = link.ends other :=
  Function.update_of_ne different ..

@[simp] theorem update_other (link : WireLink) (side : Side) (node : WireEnd) :
    (link.update side node).ends side.other = link.ends side.other :=
  link.update_of_ne side.other_ne node

theorem update_update (link : WireLink) (side : Side) (first second : WireEnd) :
    (link.update side first).update side second = link.update side second :=
  congrArg WireLink.mk (Function.update_idem ..)

/-! ### The messages under way -/

/-- What the acceptor says when the token is another one. -/
def refusalError : Side → String
  | .opener => "auth failed: Invalid token"
  | .acceptor => "Invalid token from peer"

/-- The errors of an authentication that was given up: for lost patience, at the end of the stream
or with the connection. -/
def GaveUp (side : Side) (error : PeerError) : Prop :=
  error = .message (timeoutError side) ∨ error = .message (hangUpError side) ∨
    ∃ lost, error = lossError side lost

theorem not_refusalError_of_gaveUp {error : PeerError} (gaveUp : GaveUp .acceptor error) :
    error ≠ .message (refusalError .acceptor) := by
  obtain rfl | rfl | ⟨lost, rfl⟩ := gaveUp
  · decide
  · decide
  · exact fun same => by cases same

/-- What an end has said of the authentication and the other one has not taken. -/
def greeting (link : WireLink) : Side → List ServerMessage
  | .opener =>
    if (link.ends .acceptor).phase = .authenticating ∧ (link.ends .opener).phase ≠ .connecting then
      [.authReq (link.ends .opener).tokenHash]
    else []
  | .acceptor =>
    if (link.ends .opener).phase = .running then []
    else if (link.ends .acceptor).phase = .running then [.authRes true "OK"]
    else if (link.ends .acceptor).phase = .failed (.message (refusalError .acceptor)) then
      [.authRes false "Invalid token"]
    else []

/-- The bytes between two ends are those of the messages. -/
structure Carries (codec : FrameCodec) (arrived underWay : List UInt8)
    (messages : List ServerMessage) : Prop where
  bytes : arrived ++ underWay = codec.putAll (messages.map ServerMessage.encode)
  fits : ∀ message ∈ messages, message.encode.length ≤ codec.limit

/-- The first of the messages is found as soon as enough of it has arrived. -/
theorem Carries.take {arrived underWay : List UInt8} {messages : List ServerMessage}
    (carries : Carries codec arrived underWay messages) :
    codec.reader.take () arrived = .more ∨
      ∃ message others rest, messages = message :: others ∧
        codec.reader.take () arrived = .item (some message.encode) () rest ∧
        Carries codec rest underWay others := by
  have fits : ∀ frame ∈ messages.map ServerMessage.encode, frame.length ≤ codec.limit := by
    intro frame member
    obtain ⟨message, isMessage, rfl⟩ := List.mem_map.mp member
    exact carries.fits message isMessage
  obtain waits | ⟨frame, others, rest, frames, taken, left⟩ :=
    FrameCodec.take_arrived carries.bytes fits
  · exact .inl waits
  · obtain ⟨message, later, rfl, rfl, rfl⟩ := List.map_eq_cons_iff.mp frames
    exact .inr ⟨message, later, rest, rfl, taken, left, fun other member =>
      carries.fits other (List.mem_cons_of_mem _ member)⟩

/-- A message is written behind the others. -/
theorem Carries.write {arrived underWay : List UInt8} {messages : List ServerMessage}
    {message : ServerMessage} (carries : Carries codec arrived underWay messages)
    (fits : message.encode.length ≤ codec.limit) :
    Carries codec arrived (underWay ++ codec.put message.encode) (messages ++ [message]) := by
  refine ⟨?_, List.forall_mem_append.mpr ⟨carries.fits, List.forall_mem_singleton.mpr fits⟩⟩
  rw [← List.append_assoc, carries.bytes, List.map_append, FrameCodec.putAll_append]
  exact congrArg _ (List.append_nil _).symm

/-- What the two phases say: the loops run with one token only, and an authentication that failed
did so for another token, for lost patience or with the connection. -/
structure Verdict (link : WireLink) : Prop where
  opened : ∀ side, (link.ends side).phase ≠ .closed
  listens : (link.ends .acceptor).phase ≠ .connecting
  accepted : (link.ends .acceptor).phase = .running →
    (link.ends .opener).tokenHash = (link.ends .acceptor).tokenHash
  asked : (link.ends .acceptor).phase = .running → (link.ends .opener).phase ≠ .connecting
  followed : (link.ends .opener).phase = .running → (link.ends .acceptor).phase = .running
  failed : ∀ side error, (link.ends side).phase = .failed error →
    GaveUp side error ∨
      ((link.ends .opener).tokenHash ≠ (link.ends .acceptor).tokenHash ∧
        error = .message (refusalError side))

/-- The connection down to its bytes is in the state of the connection of messages. -/
structure Relates (codec : FrameCodec) (link : WireLink) (image : PeerLink) : Prop where
  shows : ∀ side, (link.ends side).Shows side.isOutbound (image.ends side)
  carries : ∀ side, (∀ error, (link.ends side.other).phase ≠ .failed error) →
    Carries codec (link.ends side.other).arrived (link.ends side).underWay
      (link.greeting side ++ (image.ends side).stream)
  verdict : link.Verdict

/-- Both ends are where they were, with the tokens they had. -/
structure Agrees (next link : WireLink) : Prop where
  phase : ∀ side, (next.ends side).phase = (link.ends side).phase
  token : ∀ side, (next.ends side).tokenHash = (link.ends side).tokenHash

theorem Agrees.trans {middle : WireLink} (first : Agrees next middle)
    (second : Agrees middle link) :
    Agrees next link :=
  ⟨fun side => (first.phase side).trans (second.phase side),
    fun side => (first.token side).trans (second.token side)⟩

theorem agrees_update {side : Side} {node : WireEnd} (phase : node.phase = (link.ends side).phase)
    (token : node.tokenHash = (link.ends side).tokenHash) :
    Agrees (link.update side node) link := by
  refine ⟨fun other => ?_, fun other => ?_⟩
  · by_cases same : other = side
    · rw [same, update_self, phase]
    · rw [link.update_of_ne same]
  · by_cases same : other = side
    · rw [same, update_self, token]
    · rw [link.update_of_ne same]

theorem Agrees.greeting (agrees : Agrees next link) : next.greeting = link.greeting := by
  funext side
  cases side with
  | opener =>
    unfold WireLink.greeting
    rw [agrees.phase, agrees.phase, agrees.token]
  | acceptor =>
    unfold WireLink.greeting
    rw [agrees.phase, agrees.phase]

theorem Agrees.verdict (agrees : Agrees next link) (verdict : link.Verdict) : next.Verdict := by
  refine ⟨fun side => ?_, ?_, ?_, ?_, ?_, fun side error => ?_⟩
  · rw [agrees.phase]
    exact verdict.opened side
  · rw [agrees.phase]
    exact verdict.listens
  · rw [agrees.phase, agrees.token, agrees.token]
    exact verdict.accepted
  · rw [agrees.phase, agrees.phase]
    exact verdict.asked
  · rw [agrees.phase, agrees.phase]
    exact verdict.followed
  · rw [agrees.phase, agrees.token, agrees.token]
    exact verdict.failed side error

/-- Nothing of the authentication is left for an end whose loop runs. -/
theorem greeting_of_running {side : Side} (running : (link.ends side).phase = .running) :
    link.greeting side.other = [] := by
  cases side with
  | opener => exact if_pos running
  | acceptor =>
    refine if_neg fun both => ?_
    rw [running] at both
    cases both.1

/-! ### Steps at one end -/

/-- An end after a step that neither reads nor writes bytes. -/
structure Untouched (node before : WireEnd) : Prop where
  phase : node.phase = before.phase
  token : node.tokenHash = before.tokenHash
  underWay : node.underWay = before.underWay
  arrived : node.arrived = before.arrived

/-- What has to be shown after a step at one end. -/
theorem relates_update {side : Side} {node : WireEnd} {after : PeerLink}
    (verdict : (link.update side node).Verdict)
    (shows : node.Shows side.isOutbound (after.ends side))
    (others : (link.ends side.other).Shows side.other.isOutbound (after.ends side.other))
    (writes : (∀ error, (link.ends side.other).phase ≠ .failed error) →
      Carries codec (link.ends side.other).arrived node.underWay
        ((link.update side node).greeting side ++ (after.ends side).stream))
    (reads : (∀ error, node.phase ≠ .failed error) →
      Carries codec node.arrived (link.ends side.other).underWay
        ((link.update side node).greeting side.other ++ (after.ends side.other).stream)) :
    Relates codec (link.update side node) after := by
  refine ⟨fun other => ?_, fun other alive => ?_, verdict⟩
  · obtain rfl | rfl := side.eq_or_other other
    · rw [update_self]
      exact shows
    · rw [update_other]
      exact others
  · obtain rfl | rfl := side.eq_or_other other
    · rw [update_other] at alive ⊢
      rw [update_self]
      exact writes alive
    · rw [Side.other_other, update_self] at alive
      rw [Side.other_other, update_self, update_other]
      exact reads alive

/-- A step at one end that keeps its phase. -/
theorem Relates.update (relates : Relates codec link image) {side : Side} {node : WireEnd}
    {after : PeerLink} (phase : node.phase = (link.ends side).phase)
    (token : node.tokenHash = (link.ends side).tokenHash)
    (shows : node.Shows side.isOutbound (after.ends side))
    (others : (link.ends side.other).Shows side.other.isOutbound (after.ends side.other))
    (writes : (∀ error, (link.ends side.other).phase ≠ .failed error) →
      Carries codec (link.ends side.other).arrived node.underWay
        (link.greeting side ++ (after.ends side).stream))
    (reads : (∀ error, (link.ends side).phase ≠ .failed error) →
      Carries codec node.arrived (link.ends side.other).underWay
        (link.greeting side.other ++ (after.ends side.other).stream)) :
    Relates codec (link.update side node) after := by
  have agrees := agrees_update phase token
  refine relates_update (agrees.verdict relates.verdict) shows others ?_ ?_
  · rw [agrees.greeting]
    exact writes
  · rw [agrees.greeting, phase]
    exact reads

/-- Such a step at one end, matched by a step that keeps the stream. -/
theorem Relates.local (relates : Relates codec link image) {side : Side} {node : WireEnd}
    {imageNode : PeerEnd} (untouched : Untouched node (link.ends side))
    (shows : node.Shows side.isOutbound imageNode)
    (stream : imageNode.stream = (image.ends side).stream) :
    Relates codec (link.update side node) (image.update side imageNode) := by
  have kept := image.update_of_ne side.other_ne imageNode
  refine relates.update untouched.phase untouched.token ?_ ?_ (fun alive => ?_) fun alive => ?_
  · rw [PeerLink.update_self]
    exact shows
  · rw [kept]
    exact relates.shows side.other
  · rw [untouched.underWay, PeerLink.update_self, stream]
    exact relates.carries side alive
  · have carries := relates.carries side.other (by rwa [Side.other_other])
    rw [Side.other_other] at carries
    rw [untouched.arrived, kept]
    exact carries

theorem untouched_send (node : WireEnd) (message : ServerMessage) :
    Untouched (node.send message) node := by
  unfold WireEnd.send
  split
  · exact ⟨rfl, rfl, rfl, rfl⟩
  · split <;> exact ⟨rfl, rfl, rfl, rfl⟩

theorem untouched_forward (node : WireEnd) (networkCode : String) (data : List UInt8)
    (fits : Bool) : Untouched (node.forward networkCode data fits) node := by
  unfold WireEnd.forward
  split <;> exact ⟨rfl, rfl, rfl, rfl⟩

theorem untouched_pullClientInfo (node : WireEnd) : Untouched node.pullClientInfo node := by
  unfold WireEnd.pullClientInfo
  split
  · exact ⟨rfl, rfl, rfl, rfl⟩
  · exact untouched_send node _

theorem untouched_handlePeerMessage (node : WireEnd) (now : UInt64) (data : List UInt8) :
    Untouched (node.handlePeerMessage now data) node := by
  unfold WireEnd.handlePeerMessage
  split
  · exact untouched_send node _
  · exact ⟨rfl, rfl, rfl, rfl⟩
  · exact ⟨rfl, rfl, rfl, rfl⟩
  · exact untouched_send node _
  · exact ⟨rfl, rfl, rfl, rfl⟩
  · exact ⟨rfl, rfl, rfl, rfl⟩

theorem stream_send (node : PeerEnd) (message : ServerMessage) :
    (node.send message).stream = node.stream := by
  unfold PeerEnd.send
  split
  · rfl
  · split <;> rfl

theorem stream_forward (node : PeerEnd) (networkCode : String) (data : List UInt8) (fits : Bool) :
    (node.forward networkCode data fits).stream = node.stream := by
  unfold PeerEnd.forward
  split <;> rfl

theorem stream_pullClientInfo (node : PeerEnd) : node.pullClientInfo.stream = node.stream := by
  unfold PeerEnd.pullClientInfo
  split
  · rfl
  · exact stream_send node _

theorem stream_handlePeerMessage (node : PeerEnd) (now : UInt64) (message : ServerMessage) :
    (node.handlePeerMessage now message).stream = node.stream := by
  cases message with
  | pingReq timestamp => exact stream_send node _
  | clientInfoReq networkCodes => exact stream_send node _
  | _ => rfl

/-! ### Steps that read and write -/

/-- The loop writes a message of its queue. -/
theorem Relates.write (relates : Relates codec link image) {side : Side} {message : ServerMessage}
    (rest : List ServerMessage) (running : (link.ends side).phase = .running)
    (fits : message.encode.length ≤ codec.limit) :
    Relates codec
      (link.update side { link.ends side with
        queue := rest.map ServerMessage.encode
        underWay := (link.ends side).underWay ++ codec.put message.encode })
      (image.update side ((image.ends side).written message rest)) := by
  have shows := relates.shows side
  have kept := image.update_of_ne side.other_ne ((image.ends side).written message rest)
  refine relates.update rfl rfl ?_ ?_ (fun alive => ?_) fun alive => ?_
  · rw [PeerLink.update_self]
    exact ⟨shows.manager, shows.peer, shows.networkCodes, rfl, shows.waiting, shows.datagrams,
      shows.delivered, fun idle => absurd running idle⟩
  · rw [kept]
    exact relates.shows side.other
  · rw [PeerLink.update_self]
    have written := (relates.carries side alive).write fits
    rw [List.append_assoc] at written
    exact written
  · have carries := relates.carries side.other (by rwa [Side.other_other])
    rw [Side.other_other] at carries
    rw [kept]
    exact carries

/-- The loop takes a message of the other end off the bytes that have arrived. -/
theorem Relates.take (relates : Relates codec link image) {side : Side}
    (running : (link.ends side).phase = .running) :
    codec.reader.take () (link.ends side).arrived = .more ∨
      ∃ message others rest, (image.ends side.other).stream = message :: others ∧
        message.encode.length ≤ codec.limit ∧
        codec.reader.take () (link.ends side).arrived = .item (some message.encode) () rest ∧
        Relates codec (link.update side ((link.ends side).taken rest))
          (image.update side.other ((image.ends side.other).taken others)) := by
  have alive : ∀ error, (link.ends side.other.other).phase ≠ .failed error := by
    intro error failed
    rw [Side.other_other, running] at failed
    cases failed
  have carries := relates.carries side.other alive
  rw [greeting_of_running running, List.nil_append, Side.other_other] at carries
  obtain waits | ⟨message, others, rest, stream, taken, left⟩ := carries.take
  · exact .inl waits
  · have fits := carries.fits message (stream ▸ List.mem_cons_self)
    have kept := image.update_of_ne side.other_ne.symm ((image.ends side.other).taken others)
    have shows := relates.shows side.other
    refine .inr ⟨message, others, rest, stream, fits, taken,
      relates.update rfl rfl ?_ ?_ (fun alive => ?_) fun _ => ?_⟩
    · rw [kept]
      exact (relates.shows side).bytes rest (link.ends side).underWay
    · rw [PeerLink.update_self]
      exact ⟨shows.manager, shows.peer, shows.networkCodes, shows.queue, shows.waiting,
        shows.datagrams, shows.delivered, fun idle => by
          have empty := (shows.idle idle).2.2
          rw [stream] at empty
          cases empty⟩
    · rw [kept]
      exact relates.carries side alive
    · rw [greeting_of_running running, PeerLink.update_self]
      exact left

/-- The loop waits, or it handles a message of the other end. -/
theorem Relates.read (relates : Relates codec link image) (bounded : codec.limit < 2 ^ 64)
    {side : Side} (running : (link.ends side).phase = .running) (now : UInt64) :
    codec.reader.take () (link.ends side).arrived = .more ∨
      ∃ message others rest, (image.ends side.other).stream = message :: others ∧
        codec.reader.take () (link.ends side).arrived = .item (some message.encode) () rest ∧
        Relates codec
          (link.update side (((link.ends side).taken rest).handlePeerMessage now message.encode))
          (image.read side now message others) := by
  obtain more | ⟨message, others, rest, stream, fits, taken, after⟩ := relates.take running
  · exact .inl more
  · refine .inr ⟨message, others, rest, stream, taken, ?_⟩
    have shows : ((link.ends side).taken rest).Shows side.isOutbound (image.ends side) :=
      (relates.shows side).bytes rest (link.ends side).underWay
    have handled := shows.handlePeerMessage running now (Nat.lt_of_le_of_lt fits bounded)
    have untouched := untouched_handlePeerMessage ((link.ends side).taken rest) now message.encode
    rw [← link.update_update side ((link.ends side).taken rest)]
    refine after.local ?_ handled ?_
    · rw [update_self]
      exact untouched
    · rw [image.update_of_ne side.other_ne.symm]
      exact stream_handlePeerMessage _ _ _

/-- Some bytes arrive. -/
theorem Relates.arrive (relates : Relates codec link image) (side : Side) (count : Nat) :
    Relates codec
      ((link.update side.other { link.ends side.other with
        underWay := (link.ends side.other).underWay.drop count }).update side
        { link.ends side with
          arrived := (link.ends side).arrived ++ (link.ends side.other).underWay.take count })
      image := by
  have ownEnd := link.update_of_ne side.other_ne.symm { link.ends side.other with
    underWay := (link.ends side.other).underWay.drop count }
  have agrees : Agrees (link.update side.other { link.ends side.other with
      underWay := (link.ends side.other).underWay.drop count }) link := agrees_update rfl rfl
  have agreesTwice := (agrees_update (congrArg WireEnd.phase ownEnd).symm
    (congrArg WireEnd.tokenHash ownEnd).symm : Agrees (WireLink.update _ side
      { link.ends side with
        arrived := (link.ends side).arrived ++ (link.ends side.other).underWay.take count })
      _).trans agrees
  refine relates_update (agreesTwice.verdict relates.verdict) ?_ ?_ ?_ ?_
  · exact (relates.shows side).bytes _ _
  · rw [update_self]
    exact (relates.shows side.other).bytes _ _
  · rw [agreesTwice.greeting, update_self]
    exact relates.carries side
  · rw [agreesTwice.greeting, update_self]
    intro alive
    have carries := relates.carries side.other (by rwa [Side.other_other])
    rw [Side.other_other] at carries
    refine ⟨?_, carries.fits⟩
    rw [List.append_assoc, List.take_append_drop]
    exact carries.bytes

/-! ### The authentication -/

theorem update_opener_acceptor (link : WireLink) (node : WireEnd) :
    (link.update .opener node).ends .acceptor = link.ends .acceptor :=
  link.update_of_ne (by decide) node

theorem update_acceptor_opener (link : WireLink) (node : WireEnd) :
    (link.update .acceptor node).ends .opener = link.ends .opener :=
  link.update_of_ne (by decide) node

/-- What has to be shown after a step of the opener. -/
theorem relates_opener {node : WireEnd} (verdict : (link.update .opener node).Verdict)
    (shows : node.Shows true (image.ends .opener))
    (others : (link.ends .acceptor).Shows false (image.ends .acceptor))
    (writes : (∀ error, (link.ends .acceptor).phase ≠ .failed error) →
      Carries codec (link.ends .acceptor).arrived node.underWay
        ((link.update .opener node).greeting .opener ++ (image.ends .opener).stream))
    (reads : (∀ error, node.phase ≠ .failed error) →
      Carries codec node.arrived (link.ends .acceptor).underWay
        ((link.update .opener node).greeting .acceptor ++ (image.ends .acceptor).stream)) :
    Relates codec (link.update .opener node) image :=
  relates_update verdict shows others writes reads

/-- What has to be shown after a step of the acceptor. -/
theorem relates_acceptor {node : WireEnd} (verdict : (link.update .acceptor node).Verdict)
    (shows : node.Shows false (image.ends .acceptor))
    (others : (link.ends .opener).Shows true (image.ends .opener))
    (writes : (∀ error, (link.ends .opener).phase ≠ .failed error) →
      Carries codec (link.ends .opener).arrived node.underWay
        ((link.update .acceptor node).greeting .acceptor ++ (image.ends .acceptor).stream))
    (reads : (∀ error, node.phase ≠ .failed error) →
      Carries codec node.arrived (link.ends .opener).underWay
        ((link.update .acceptor node).greeting .opener ++ (image.ends .opener).stream)) :
    Relates codec (link.update .acceptor node) image :=
  relates_update verdict shows others writes reads

/-- The opener comes to another phase. -/
theorem Verdict.opener (verdict : link.Verdict) {node : WireEnd}
    (token : node.tokenHash = (link.ends .opener).tokenHash) (opened : node.phase ≠ .closed)
    (asked : node.phase ≠ .connecting)
    (followed : node.phase = .running → (link.ends .acceptor).phase = .running)
    (failed : ∀ error, node.phase = .failed error →
      GaveUp .opener error ∨
        ((link.ends .opener).tokenHash ≠ (link.ends .acceptor).tokenHash ∧
          error = .message (refusalError .opener))) :
    (link.update .opener node).Verdict := by
  refine ⟨fun side => ?_, ?_, ?_, ?_, ?_, fun side error => ?_⟩
  · cases side with
    | opener =>
      rw [update_self]
      exact opened
    | acceptor =>
      rw [update_opener_acceptor]
      exact verdict.opened .acceptor
  · rw [update_opener_acceptor]
    exact verdict.listens
  · rw [update_opener_acceptor, update_self, token]
    exact verdict.accepted
  · rw [update_self]
    exact fun _ => asked
  · rw [update_opener_acceptor, update_self]
    exact followed
  · rw [update_opener_acceptor, update_self, token]
    cases side with
    | opener =>
      rw [update_self]
      exact failed error
    | acceptor =>
      rw [update_opener_acceptor]
      exact verdict.failed .acceptor error

/-- The acceptor comes to another phase when it has waited for the token. -/
theorem Verdict.acceptor (verdict : link.Verdict) {node : WireEnd}
    (waits : (link.ends .acceptor).phase = .authenticating)
    (token : node.tokenHash = (link.ends .acceptor).tokenHash) (opened : node.phase ≠ .closed)
    (listens : node.phase ≠ .connecting)
    (accepted : node.phase = .running →
      (link.ends .opener).tokenHash = (link.ends .acceptor).tokenHash ∧
        (link.ends .opener).phase ≠ .connecting)
    (failed : ∀ error, node.phase = .failed error →
      GaveUp .acceptor error ∨
        ((link.ends .opener).tokenHash ≠ (link.ends .acceptor).tokenHash ∧
          error = .message (refusalError .acceptor))) :
    (link.update .acceptor node).Verdict := by
  refine ⟨fun side => ?_, ?_, ?_, ?_, ?_, fun side error => ?_⟩
  · cases side with
    | opener =>
      rw [update_acceptor_opener]
      exact verdict.opened .opener
    | acceptor =>
      rw [update_self]
      exact opened
  · rw [update_self]
    exact listens
  · rw [update_acceptor_opener, update_self, token]
    exact fun running => (accepted running).1
  · rw [update_acceptor_opener, update_self]
    exact fun running => (accepted running).2
  · rw [update_acceptor_opener]
    intro running
    rw [verdict.followed running] at waits
    cases waits
  · rw [update_acceptor_opener, update_self, token]
    cases side with
    | opener =>
      rw [update_acceptor_opener]
      exact verdict.failed .opener error
    | acceptor =>
      rw [update_self]
      exact failed error

/-- The opener sends its token. -/
theorem Relates.connect (relates : Relates codec link image)
    (connecting : (link.ends .opener).phase = .connecting)
    (fits : (ServerMessage.authReq (link.ends .opener).tokenHash).encode.length ≤ codec.limit) :
    Relates codec (link.update .opener ((link.ends .opener).connectToPeerOnce codec)) image := by
  have sent : (link.ends .opener).connectToPeerOnce codec =
      { link.ends .opener with
        underWay := (link.ends .opener).underWay ++
          codec.put (ServerMessage.authReq (link.ends .opener).tokenHash).encode
        phase := .authenticating } := by
    unfold WireEnd.connectToPeerOnce WireEnd.write
    rw [if_pos fits]
  have verdict := relates.verdict
  have idle : (link.ends .opener).phase ≠ .running := by
    rw [connecting]
    decide
  have notAccepted : (link.ends .acceptor).phase ≠ .running := fun running =>
    verdict.asked running connecting
  rw [sent]
  refine relates_opener ?_ ?_ (relates.shows .acceptor) (fun alive => ?_) fun _ => ?_
  · exact verdict.opener rfl (fun same => by cases same) (fun same => by cases same)
      (fun same => by cases same) fun error same => by cases same
  · have started : PeerPhase.authenticating ≠ .running := by decide
    exact ((relates.shows .opener).stays idle started).bytes _ _
  · have waits : (link.ends .acceptor).phase = .authenticating := by
      cases phase : (link.ends .acceptor).phase with
      | connecting => exact absurd phase verdict.listens
      | authenticating => rfl
      | running => exact absurd phase notAccepted
      | failed error => exact absurd phase (alive error)
      | closed => exact absurd phase (verdict.opened .acceptor)
    have before := relates.carries .opener alive
    have stream := ((relates.shows .opener).idle idle).2.2
    have nothing : link.greeting .opener = [] := if_neg fun both => both.2 connecting
    have written := before.write fits
    rw [nothing, stream] at written
    unfold greeting
    rw [update_opener_acceptor, update_self, if_pos ⟨waits, fun same => by cases same⟩, stream]
    exact written
  · have before := relates.carries .acceptor (fun error failed => by
      rw [Side.other, connecting] at failed
      cases failed)
    unfold greeting at before ⊢
    dsimp only at before ⊢
    rw [if_neg idle] at before
    rw [update_self, if_neg (fun same => by cases same), update_opener_acceptor]
    exact before

theorem not_running_of_waits (verdict : link.Verdict)
    (waits : (link.ends .acceptor).phase = .authenticating) :
    (link.ends .opener).phase ≠ .running := by
  intro running
  rw [verdict.followed running] at waits
  cases waits

/-- The acceptor has said nothing while it waits for the token. -/
theorem greeting_acceptor_of_waits (verdict : link.Verdict)
    (waits : (link.ends .acceptor).phase = .authenticating) : link.greeting .acceptor = [] := by
  unfold greeting
  dsimp only
  rw [if_neg (not_running_of_waits verdict waits), waits, if_neg (fun same => by cases same),
    if_neg (fun same => by cases same)]

/-- An end gives up the authentication. -/
theorem Relates.fail (relates : Relates codec link image) {side : Side} {error : PeerError}
    (waits : (link.ends side).phase = .authenticating) (known : GaveUp side error) :
    Relates codec (link.update side ((link.ends side).failed error)) image := by
  have verdict := relates.verdict
  have idle : (link.ends side).phase ≠ .running := by
    rw [waits]
    exact fun same => by cases same
  have failing : PeerPhase.failed error ≠ .running := fun same => by cases same
  cases side with
  | opener =>
    refine relates_opener ?_ ((relates.shows .opener).stays idle failing) (relates.shows .acceptor)
      (fun alive => ?_) fun alive => absurd rfl (alive error)
    · refine verdict.opener rfl (fun same => by cases same) (fun same => by cases same)
        (fun same => by cases same) fun other same => ?_
      cases same
      exact .inl known
    · have before := relates.carries .opener alive
      unfold greeting at before ⊢
      dsimp only at before ⊢
      rw [update_opener_acceptor, update_self]
      by_cases listens : (link.ends .acceptor).phase = .authenticating
      · rw [if_pos ⟨listens, fun same => by rw [waits] at same; cases same⟩] at before
        rw [if_pos ⟨listens, fun same => by cases same⟩]
        exact before
      · rw [if_neg fun both => listens both.1] at before ⊢
        exact before
  | acceptor =>
    refine relates_acceptor ?_ ((relates.shows .acceptor).stays idle failing)
      (relates.shows .opener)
      (fun alive => ?_) fun alive => absurd rfl (alive error)
    · refine verdict.acceptor waits rfl (fun same => by cases same) (fun same => by cases same)
        (fun same => by cases same) fun other same => ?_
      cases same
      exact .inl known
    · have before := relates.carries .acceptor alive
      have other := not_refusalError_of_gaveUp known
      rw [greeting_acceptor_of_waits verdict waits] at before
      unfold greeting
      dsimp only
      rw [update_acceptor_opener, update_self, if_neg (not_running_of_waits verdict waits),
        if_neg (fun same => by cases same), if_neg (fun same => by cases same; exact other rfl)]
      exact before

/-- The answers of the acceptor are short. -/
theorem length_authRes (large : 32 ≤ codec.limit) :
    (ServerMessage.authRes true "OK").encode.length ≤ codec.limit ∧
      (ServerMessage.authRes false "Invalid token").encode.length ≤ codec.limit := by
  have welcome : (ServerMessage.authRes true "OK").encode.length = 8 := by decide
  have refusal : (ServerMessage.authRes false "Invalid token").encode.length = 17 := by decide
  omega

theorem handleAuthRequest_of_eq (node : WireEnd) {tokenHash : String} (large : 32 ≤ codec.limit)
    (fits : (ServerMessage.authReq tokenHash).encode.length < 2 ^ 64)
    (same : tokenHash = node.tokenHash) :
    node.handleAuthRequest codec (ServerMessage.authReq tokenHash).encode =
      ({ node with underWay := node.underWay ++ codec.put (ServerMessage.authRes true "OK").encode }
        :
        WireEnd).established false := by
  unfold WireEnd.handleAuthRequest WireEnd.write
  rw [ServerMessage.decode_encode fits]
  dsimp only
  rw [if_neg (not_not_intro same), if_pos (length_authRes large).1]

theorem handleAuthRequest_of_ne (node : WireEnd) {tokenHash : String} (large : 32 ≤ codec.limit)
    (fits : (ServerMessage.authReq tokenHash).encode.length < 2 ^ 64)
    (different : tokenHash ≠ node.tokenHash) :
    node.handleAuthRequest codec (ServerMessage.authReq tokenHash).encode =
      ({ node with
        underWay :=
          node.underWay ++ codec.put (ServerMessage.authRes false "Invalid token").encode } :
        WireEnd).failed (.message (refusalError .acceptor)) := by
  unfold WireEnd.handleAuthRequest WireEnd.write
  rw [ServerMessage.decode_encode fits]
  dsimp only
  rw [if_pos different, if_pos (length_authRes large).2]
  rfl

/-- The acceptor waits, or it takes the token and answers. -/
theorem Relates.takeToken (relates : Relates codec link image) (large : 32 ≤ codec.limit)
    (bounded : codec.limit < 2 ^ 64) (waits : (link.ends .acceptor).phase = .authenticating) :
    codec.reader.take () (link.ends .acceptor).arrived = .more ∨
      ∃ buf rest, codec.reader.take () (link.ends .acceptor).arrived = .item (some buf) () rest ∧
        Relates codec
          (link.update .acceptor
            (handleFirst codec ((link.ends .acceptor).taken rest) buf .acceptor)) image := by
  have verdict := relates.verdict
  have idle : (link.ends .acceptor).phase ≠ .running := by
    rw [waits]
    exact fun same => by cases same
  have openerIdle := not_running_of_waits verdict waits
  have incoming := relates.carries .opener fun error failed => by
    rw [Side.other, waits] at failed
    cases failed
  have outgoing := relates.carries .acceptor
  rw [greeting_acceptor_of_waits verdict waits,
    ((relates.shows .acceptor).idle idle).2.2] at outgoing
  rw [((relates.shows .opener).idle openerIdle).2.2, List.append_nil] at incoming
  obtain more | ⟨message, others, rest, messages, taken, left⟩ := incoming.take
  · exact .inl more
  · have asked : (link.ends .opener).phase ≠ .connecting ∧
        message = .authReq (link.ends .opener).tokenHash ∧ others = [] := by
      unfold greeting at messages
      dsimp only at messages
      split at messages
      · next both =>
        cases messages
        exact ⟨both.2, rfl, rfl⟩
      · cases messages
    obtain ⟨notConnecting, rfl, rfl⟩ := asked
    obtain ⟨welcomed, refused⟩ := length_authRes large
    have readable : (ServerMessage.authReq (link.ends .opener).tokenHash).encode.length < 2 ^ 64 :=
      Nat.lt_of_le_of_lt (incoming.fits _ (messages ▸ List.mem_cons_self)) bounded
    refine .inr ⟨_, rest, taken, ?_⟩
    unfold handleFirst
    dsimp only
    by_cases same : (link.ends .opener).tokenHash = (link.ends .acceptor).tokenHash
    · rw [handleAuthRequest_of_eq ((link.ends .acceptor).taken rest) large readable same]
      refine relates_acceptor ?_ ?_ (relates.shows .opener) (fun alive => ?_) fun _ => ?_
      · exact verdict.acceptor waits rfl (fun same => by cases same) (fun same => by cases same)
          (fun _ => ⟨same, notConnecting⟩) fun error same => by cases same
      · exact ((relates.shows .acceptor).bytes rest _).established idle
      · have written := (outgoing alive).write welcomed
        unfold greeting
        dsimp only
        rw [update_acceptor_opener, if_neg openerIdle, update_self, WireEnd.established_phase,
          if_pos rfl,
          ((relates.shows .acceptor).idle idle).2.2]
        exact written
      · unfold greeting
        dsimp only
        rw [update_self, if_neg (fun both => by cases both.1),
          ((relates.shows .opener).idle openerIdle).2.2]
        exact left
    · rw [handleAuthRequest_of_ne ((link.ends .acceptor).taken rest) large readable same]
      have failing : PeerPhase.failed (.message (refusalError .acceptor)) ≠ .running :=
        fun same => by cases same
      refine relates_acceptor ?_ ?_ (relates.shows .opener) (fun alive => ?_)
        fun alive => absurd rfl (alive _)
      · refine verdict.acceptor waits rfl (fun same => by cases same) (fun same => by cases same)
          (fun same => by cases same) fun error isError => ?_
        cases isError
        exact .inr ⟨same, rfl⟩
      · exact ((relates.shows .acceptor).stays idle failing).bytes rest _
      · have written := (outgoing alive).write refused
        unfold greeting
        dsimp only
        rw [update_acceptor_opener, if_neg openerIdle, update_self, WireEnd.failed_phase,
          if_neg failing, if_pos rfl,
          ((relates.shows .acceptor).idle idle).2.2]
        exact written

theorem handleAuthResponse_encode (node : WireEnd) {success : Bool} {text : String}
    (fits : (ServerMessage.authRes success text).encode.length < 2 ^ 64) :
    node.handleAuthResponse (ServerMessage.authRes success text).encode =
      if success = true then node.established true
      else node.failed (.message ("auth failed: " ++ text)) := by
  unfold WireEnd.handleAuthResponse
  rw [ServerMessage.decode_encode fits]

/-- A refusal tells that the tokens are different. -/
theorem Verdict.different (verdict : link.Verdict)
    (refused : (link.ends .acceptor).phase = .failed (.message (refusalError .acceptor))) :
    (link.ends .opener).tokenHash ≠ (link.ends .acceptor).tokenHash := by
  obtain gaveUp | ⟨different, -⟩ := verdict.failed .acceptor _ refused
  · exact absurd rfl (not_refusalError_of_gaveUp gaveUp)
  · exact different

/-- The opener waits, or it takes the answer. -/
theorem Relates.takeAnswer (relates : Relates codec link image) (bounded : codec.limit < 2 ^ 64)
    (waits : (link.ends .opener).phase = .authenticating) :
    codec.reader.take () (link.ends .opener).arrived = .more ∨
      ∃ buf rest, codec.reader.take () (link.ends .opener).arrived = .item (some buf) () rest ∧
        Relates codec
          (link.update .opener (handleFirst codec ((link.ends .opener).taken rest) buf .opener))
          image := by
  have verdict := relates.verdict
  have idle : (link.ends .opener).phase ≠ .running := by
    rw [waits]
    exact fun same => by cases same
  have incoming := relates.carries .acceptor fun error failed => by
    rw [Side.other, waits] at failed
    cases failed
  obtain more | ⟨message, others, rest, messages, taken, left⟩ := incoming.take
  · exact .inl more
  · have readable := Nat.lt_of_le_of_lt
      (incoming.fits message (messages ▸ List.mem_cons_self)) bounded
    refine .inr ⟨_, rest, taken, ?_⟩
    unfold greeting at messages
    dsimp only at messages
    rw [if_neg idle] at messages
    by_cases accepts : (link.ends .acceptor).phase = .running
    · rw [if_pos accepts] at messages
      obtain ⟨rfl, rfl⟩ := List.cons_eq_cons.mp messages
      unfold handleFirst
      dsimp only
      rw [handleAuthResponse_encode ((link.ends .opener).taken rest) readable, if_pos rfl]
      refine relates_opener ?_ ?_ (relates.shows .acceptor) (fun alive => ?_) fun _ => ?_
      · exact verdict.opener rfl (fun same => by cases same) (fun same => by cases same)
          (fun _ => accepts) fun error same => by cases same
      · exact ((relates.shows .opener).bytes rest (link.ends .opener).underWay).established idle
      · have before := relates.carries .opener alive
        have late : (link.ends .acceptor).phase ≠ .authenticating := by
          rw [accepts]
          exact fun same => by cases same
        unfold greeting at before ⊢
        dsimp only at before ⊢
        rw [if_neg fun both => late both.1] at before
        rw [update_opener_acceptor, if_neg fun both => late both.1]
        exact before
      · unfold greeting
        dsimp only
        rw [update_self, WireEnd.established_phase, if_pos rfl]
        exact left
    · have silent := ((relates.shows .acceptor).idle accepts).2.2
      rw [if_neg accepts, silent, List.append_nil] at messages
      by_cases refuses : (link.ends .acceptor).phase = .failed (.message (refusalError .acceptor))
      · rw [if_pos refuses] at messages
        obtain ⟨rfl, rfl⟩ := List.cons_eq_cons.mp messages
        have failing : PeerPhase.failed (.message (refusalError .opener)) ≠ .running :=
          fun same => by cases same
        unfold handleFirst
        dsimp only
        rw [handleAuthResponse_encode ((link.ends .opener).taken rest) readable,
          if_neg Bool.false_ne_true]
        refine relates_opener ?_ ?_ (relates.shows .acceptor)
          (fun alive => absurd refuses (alive _)) fun alive => absurd rfl (alive _)
        · refine verdict.opener rfl (fun same => by cases same) (fun same => by cases same)
            (fun same => by cases same) fun error same => ?_
          cases same
          exact .inr ⟨verdict.different refuses, rfl⟩
        · exact ((relates.shows .opener).bytes rest (link.ends .opener).underWay).stays idle failing
      · rw [if_neg refuses] at messages
        cases messages

/-! ### Every run -/

/-- What a step on the wire is on the level of the messages. -/
def shown : WireLinkEvent → List PeerLinkEvent
  | .forward side networkCode data fits => [.forward side networkCode data fits]
  | .setNetworkStates side networkStates => [.setNetworkStates side networkStates]
  | .networkSyncTick side => [.networkSyncTick side]
  | .pingTick side now => [.pingTick side now]
  | .writeNext side => [.writeNext side]
  | .readNext side now => [.readNext side now]
  | .resume side => [.resume side]
  | _ => []

theorem length_shown (event : WireLinkEvent) : (shown event).length ≤ 1 := by
  cases event <;> first | exact Nat.le_refl 1 | exact Nat.zero_le 1

/-- The loop of an end that selects does so on the level of the messages. -/
theorem Relates.selects (relates : Relates codec link image) {side : Side}
    (selects : (link.ends side).selects = true) :
    (link.ends side).phase = .running ∧ image.selects side = true := by
  unfold WireEnd.selects at selects
  obtain ⟨running, free⟩ := (Bool.and_eq_true _ _).mp selects
  refine ⟨of_decide_eq_true running, ?_⟩
  unfold PeerLink.selects
  rw [(relates.shows side).waiting] at free
  rw [← free, Option.isNone_map]

theorem run_one {event : PeerLinkEvent} {after : PeerLink} (steps : image.step event = some after) :
    PeerLink.machine.run image [event] = some after :=
  Machine.run_cons_eq_some.mpr ⟨after, steps, rfl⟩

/-- Every step on the wire is a step of the messages, or none. -/
theorem simulates (large : 32 ≤ codec.limit) (bounded : codec.limit < 2 ^ 64) :
    Simulates (machine codec) PeerLink.machine (Fits codec) shown (Relates codec) := by
  intro link image event next relates permitted steps
  change link.step codec event = some next at steps
  cases event with
  | connect =>
    unfold step at steps
    dsimp only at steps
    split at steps
    · next connecting =>
      cases steps
      exact ⟨image, rfl, relates.connect connecting permitted⟩
    · cases steps
  | authenticate side =>
    unfold step at steps
    dsimp only at steps
    split at steps
    · next waits =>
      have takes : codec.reader.take () (link.ends side).arrived = .more ∨
          ∃ buf rest, codec.reader.take () (link.ends side).arrived = .item (some buf) () rest ∧
            Relates codec (link.update side
              (handleFirst codec ((link.ends side).taken rest) buf side)) image := by
        cases side with
        | opener => exact relates.takeAnswer bounded waits
        | acceptor => exact relates.takeToken large bounded waits
      obtain more | ⟨buf, rest, taken, after⟩ := takes
      · rw [more] at steps
        cases steps
      · rw [taken] at steps
        cases steps
        exact ⟨image, rfl, after⟩
    · cases steps
  | timeout side =>
    unfold step at steps
    dsimp only at steps
    split at steps
    · next waits =>
      cases steps
      exact ⟨image, rfl, relates.fail waits (.inl rfl)⟩
    · cases steps
  | hangUp side =>
    unfold step at steps
    dsimp only at steps
    split at steps
    · next waits =>
      cases steps
      exact ⟨image, rfl, relates.fail waits (.inr (.inl rfl))⟩
    · cases steps
  | lose side error =>
    unfold step at steps
    dsimp only at steps
    split at steps
    · next waits =>
      cases steps
      exact ⟨image, rfl, relates.fail waits (.inr (.inr ⟨error, rfl⟩))⟩
    · cases steps
  | arrive side count =>
    cases steps
    exact ⟨image, rfl, relates.arrive side count⟩
  | forward side networkCode data fits =>
    unfold step at steps
    dsimp only at steps
    split at steps
    · next running =>
      cases steps
      refine ⟨_, run_one rfl, relates.local (untouched_forward _ _ _ _) ?_ (stream_forward _ _ _ _)⟩
      exact (relates.shows side).forward running networkCode data fits
    · cases steps
  | setNetworkStates side networkStates =>
    cases steps
    refine ⟨_, run_one rfl, relates.local ⟨rfl, rfl, rfl, rfl⟩ ?_ rfl⟩
    exact (relates.shows side).setNetworkStates networkStates
  | networkSyncTick side =>
    unfold step at steps
    dsimp only at steps
    split at steps
    · next selects =>
      cases steps
      obtain ⟨running, free⟩ := relates.selects selects
      refine ⟨_, run_one (if_pos free), relates.local (untouched_pullClientInfo _) ?_
        (stream_pullClientInfo _)⟩
      exact (relates.shows side).pullClientInfo running
    · cases steps
  | pingTick side now =>
    unfold step at steps
    dsimp only at steps
    split at steps
    · next selects =>
      cases steps
      obtain ⟨running, free⟩ := relates.selects selects
      refine ⟨_, run_one (if_pos free), relates.local (untouched_send _ _) ?_ (stream_send _ _)⟩
      exact (relates.shows side).send running _
    · cases steps
  | writeNext side =>
    have queue := (relates.shows side).queue
    unfold step at steps
    dsimp only at steps
    split at steps
    · next data rest isQueue =>
      split at steps
      · next selects =>
        cases steps
        obtain ⟨running, free⟩ := relates.selects selects
        rw [isQueue] at queue
        obtain ⟨message, others, isImage, rfl, rfl⟩ := List.map_eq_cons_iff.mp queue.symm
        have within : message.encode.length ≤ codec.limit := by
          have short : ∀ data ∈ (link.ends side).queue.head?, data.length ≤ codec.limit := permitted
          rw [isQueue] at short
          exact short _ rfl
        refine ⟨image.update side ((image.ends side).written message others), run_one ?_, ?_⟩
        · rw [PeerLink.step, isImage]
          exact if_pos free
        · unfold WireEnd.write
          rw [if_pos within]
          exact relates.write others running within
      · cases steps
    · cases steps
  | readNext side now =>
    unfold step at steps
    dsimp only at steps
    split at steps
    · next selects =>
      obtain ⟨running, free⟩ := relates.selects selects
      obtain more | ⟨message, others, rest, stream, taken, after⟩ :=
        relates.read bounded running now
      · rw [more] at steps
        cases steps
      · rw [taken] at steps
        cases steps
        refine ⟨image.read side now message others, run_one ?_, after⟩
        rw [PeerLink.step, stream]
        exact if_pos free
    · cases steps
  | resume side =>
    have waiting := (relates.shows side).waiting
    unfold step at steps
    dsimp only at steps
    split at steps
    · next data isWaiting =>
      split at steps
      · next both =>
        cases steps
        obtain ⟨running, room⟩ := both
        rw [isWaiting] at waiting
        obtain ⟨message, isImage, rfl⟩ := Option.map_eq_some_iff.mp waiting.symm
        have shows := relates.shows side
        refine ⟨image.update side ((image.ends side).resumed message), run_one ?_,
          relates.local ⟨rfl, rfl, rfl, rfl⟩ (shows.resumed running message) rfl⟩
        rw [PeerLink.step, isImage]
        refine if_pos ?_
        rwa [shows.queue, List.length_map] at room
      · cases steps
    · cases steps

/-- The connection of messages that a connection shows when it is set up. -/
def messages (link : WireLink) : PeerLink where
  ends side :=
    { manager := (link.ends side).recorded side.isOutbound
      peer := (link.ends side).peer
      networkCodes := (link.ends side).networkCodes
      queue := []
      waiting := none
      stream := []
      datagrams := []
      accepted := []
      handled := []
      delivered := (link.ends side).delivered }

theorem Started.idle (started : link.Started) (side : Side) :
    (link.ends side).phase ≠ .running := by
  cases side with
  | opener =>
    rw [started.opener]
    exact fun same => by cases same
  | acceptor =>
    rw [started.acceptor]
    exact fun same => by cases same

theorem Started.relates (started : link.Started) : Relates codec link link.messages := by
  have opener := started.opener
  have acceptor := started.acceptor
  refine ⟨fun side => ?_, fun side _ => ?_, ?_⟩
  · refine ⟨(if_neg (started.idle side)).symm, rfl, rfl, started.queue side, started.waiting side,
      started.datagrams side, rfl, fun _ => ⟨rfl, rfl, rfl⟩⟩
  · have nothing : link.greeting side = [] := by
      cases side with
      | opener => exact if_neg fun both => both.2 opener
      | acceptor =>
        unfold greeting
        dsimp only
        rw [opener, acceptor, if_neg (fun same => by cases same),
          if_neg (fun same => by cases same), if_neg (fun same => by cases same)]
    rw [nothing, started.arrived, started.underWay]
    exact ⟨rfl, fun message member => by cases member⟩
  · refine ⟨fun side => ?_, ?_, ?_, ?_, ?_, fun side error failed => ?_⟩
    · cases side with
      | opener =>
        rw [opener]
        exact fun same => by cases same
      | acceptor =>
        rw [acceptor]
        exact fun same => by cases same
    · rw [acceptor]
      exact fun same => by cases same
    · exact fun running => absurd running (started.idle .acceptor)
    · exact fun running => absurd running (started.idle .acceptor)
    · exact fun running => absurd running (started.idle .opener)
    · cases side with
      | opener =>
        rw [opener] at failed
        cases failed
      | acceptor =>
        rw [acceptor] at failed
        cases failed

/-- Two servers on the wire talk to each other as the protocol of messages says, and only when they
have the same token; an authentication fails for another token, for lost patience or with the
connection. -/
theorem talks_over_wire (large : 32 ≤ codec.limit) (bounded : codec.limit < 2 ^ 64)
    (started : link.Started) {events : List WireLinkEvent} {final : WireLink}
    (fits : (machine codec).Guarded (Fits codec) link events)
    (reaches : (machine codec).run link events = some final) :
    (∀ side, (final.ends side).phase = .running →
      (final.ends .opener).tokenHash = (final.ends .acceptor).tokenHash) ∧
    (∀ side error, (final.ends side).phase = .failed error →
      GaveUp side error ∨ ((final.ends .opener).tokenHash ≠ (final.ends .acceptor).tokenHash ∧
        error = .message (refusalError side))) ∧
    ∃ image, PeerLink.machine.run link.messages (events.flatMap shown) = some image ∧
      Relates codec final image := by
  obtain ⟨image, runs, relates⟩ :=
    Vnt.Base.Simulates.run (simulates large bounded) started.relates fits reaches
  refine ⟨fun side running => ?_, relates.verdict.failed, image, runs, relates⟩
  cases side with
  | opener => exact relates.verdict.accepted (relates.verdict.followed running)
  | acceptor => exact relates.verdict.accepted running

instance instDecidableFits (codec : FrameCodec) (link : WireLink) :
    (event : WireLinkEvent) → Decidable (Fits codec link event)
  | .connect => inferInstanceAs (Decidable (_ ≤ _))
  | .writeNext side => inferInstanceAs (Decidable
      (∀ data ∈ (link.ends side).queue.head?, data.length ≤ codec.limit))
  | .authenticate _ | .timeout _ | .hangUp _ | .lose _ _ | .arrive _ _ | .forward _ _ _ _
  | .setNetworkStates _ _ | .networkSyncTick _ | .pingTick _ _ | .readNext _ _ | .resume _ =>
    .isTrue trivial

/-- One end of a connection that was just set up, of a server with the example network. -/
def exampleEnd (phase : PeerPhase) : WireEnd where
  tokenHash := "9f86"
  manager :=
    { networkStates := (∅ : Map String NetworkState).insert "net" NetworkState.exampleState
      peerInfos := fun _ => PeerServerInfo.new "peer" false
      ipToRoutes := ∅ }
  peer := 0
  addr := "peer"
  tx := 0
  connection := 0
  phase := phase
  networkCodes := []
  queue := []
  waiting := none
  underWay := []
  arrived := []
  datagrams := []
  delivered := []

def exampleLink : WireLink where
  ends
    | .opener => exampleEnd .connecting
    | .acceptor => exampleEnd .authenticating

theorem started_exampleLink : exampleLink.Started where
  opener := rfl
  acceptor := rfl
  queue side := by cases side <;> rfl
  waiting side := by cases side <;> rfl
  underWay side := by cases side <;> rfl
  arrived side := by cases side <;> rfl
  datagrams side := by cases side <;> rfl

/-- The ends authenticate and the opener asks for the clients, all of it in pieces. -/
def syncRun : List WireLinkEvent :=
  [.connect, .arrive .acceptor 3, .arrive .acceptor 20, .authenticate .acceptor,
    .arrive .opener 30, .authenticate .opener, .networkSyncTick .opener, .writeNext .opener,
    .arrive .acceptor 5, .arrive .acceptor 20, .readNext .acceptor 7, .writeNext .acceptor,
    .arrive .opener 60, .readNext .opener 8]

theorem talks_over_wire_syncRun : ∃ final,
    (machine FrameCodec.standard).run exampleLink syncRun = some final ∧
    (final.ends .opener).networkCodes = ["net"] ∧
    (final.ends .opener).tokenHash = (final.ends .acceptor).tokenHash := by
  have reached : ∃ final, (machine FrameCodec.standard).run exampleLink syncRun = some final ∧
      (final.ends .opener).networkCodes = ["net"] ∧ (final.ends .opener).phase = .running :=
    ⟨_, rfl, by decide, by decide⟩
  obtain ⟨final, reaches, codes, running⟩ := reached
  have fits : (machine FrameCodec.standard).Guarded (Fits FrameCodec.standard) exampleLink
      syncRun := by decide
  exact ⟨final, reaches, codes, (talks_over_wire (by decide) (by decide) started_exampleLink fits
    reaches).1 .opener running⟩

end WireLink

end Vnt.Server
