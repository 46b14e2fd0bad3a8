/-
This file embeds two servers at the ends of one QUIC connection as a machine. At each end the
loop of the peer moves the messages of its queue into the stream and handles the messages it
reads from the other end's stream, and two timers ask for clients and for the latency. A forward
goes past the queue: it is handed to the connection as a datagram. The loop selects over the
queue, the stream and the timers only, so no event of the machine takes a datagram out again. The
histories say which forwards were accepted and which were handled.
-/

import Mathlib.Algebra.GroupWithZero.Nat
import Vnt.Base.Machine
import Vnt.Server.PeerServer

namespace Vnt.Server

open Vnt.Base

/-- The capacity of the queue of a loop. -/
def peerQueueCapacity : Nat := 1024

/-- One end of the connection: the manager with the record of the other end, the queue of the
loop, the message whose sending waits for room in it, and what this end has written to the
connection and the other has not read. -/
structure PeerEnd where
  manager : PeerServerManager
  peer : PeerId
  networkCodes : List String
  queue : List ServerMessage
  waiting : Option ServerMessage
  stream : List ServerMessage
  datagrams : List ServerMessage
  accepted : List ServerForwardData
  handled : List ServerForwardData
  delivered : List (Sender × List UInt8)

namespace PeerEnd

/-- The shared record of the other end. -/
def info (node : PeerEnd) : PeerServerInfo := node.manager.peerInfos node.peer

/-- `PeerServerInfo::send`: without a sender the message is lost, without room it waits. -/
def send (node : PeerEnd) (message : ServerMessage) : PeerEnd :=
  match node.info.sender with
  | none => node
  | some _ =>
    if node.queue.length < peerQueueCapacity then { node with queue := node.queue ++ [message] }
    else { node with waiting := some message }

/-- `forward_to_peer`; `fits` tells whether the connection takes the datagram. -/
def forward (node : PeerEnd) (networkCode : String) (data : List UInt8) (fits : Bool) : PeerEnd :=
  match node.manager.forwardToPeer (fun _ _ => fits) node.peer networkCode data with
  | some (_, message) =>
    { node with
      datagrams := node.datagrams ++ [.forwardData message]
      accepted := node.accepted ++ [message] }
  | none => node

/-- `pull_client_info_from_peer`. -/
def pullClientInfo (node : PeerEnd) : PeerEnd :=
  match node.manager.networkStates.keys with
  | [] => node
  | networkCodes => node.send (.clientInfoReq networkCodes)

/-- `ping_peer`. -/
def pingPeer (node : PeerEnd) (now : UInt64) : PeerEnd := node.send (.pingReq now)

/-- `handle_ping_response`. -/
def handlePingResponse (node : PeerEnd) (now requestTimestamp : UInt64) : PeerEnd :=
  let rtt := now.toNat - requestTimestamp.toNat
  { node with
    manager := node.manager.updatePeer node.peer fun info =>
      info.updateLatency (UInt32.ofNat (rtt / 2)) }

/-- `handle_forward_data`, with its history. -/
def handleForward (node : PeerEnd) (forward : ServerForwardData) : PeerEnd :=
  { node with
    handled := node.handled ++ [forward]
    delivered := node.delivered ++ (node.manager.handleForwardData forward).toList }

/-- `handle_peer_message`. -/
def handlePeerMessage (node : PeerEnd) (now : UInt64) : ServerMessage → PeerEnd
  | .pingReq timestamp => node.send (.pingRes timestamp now)
  | .pingRes requestTimestamp _ => node.handlePingResponse now requestTimestamp
  | .forwardData forward => node.handleForward forward
  | .clientInfoReq networkCodes =>
    node.send (.clientInfoRes (node.manager.handleClientInfoRequest networkCodes))
  | .clientInfoRes networks =>
    let synced := node.manager.handleClientInfoResponse node.peer node.networkCodes networks
    { node with manager := synced.1, networkCodes := synced.2 }
  | .authReq _ => node
  | .authRes _ _ => node

/-- The loop has written a message of its queue to the stream. -/
def written (node : PeerEnd) (message : ServerMessage) (rest : List ServerMessage) : PeerEnd :=
  { node with queue := rest, stream := node.stream ++ [message] }

/-- The other end has read from the stream. -/
def taken (node : PeerEnd) (rest : List ServerMessage) : PeerEnd := { node with stream := rest }

/-- A message that waited has got its room in the queue. -/
def resumed (node : PeerEnd) (message : ServerMessage) : PeerEnd :=
  { node with queue := node.queue ++ [message], waiting := none }

end PeerEnd

/-- The two ends of a connection. -/
inductive Side where
  | opener
  | acceptor
  deriving DecidableEq, Repr

def Side.other : Side → Side
  | opener => acceptor
  | acceptor => opener

@[simp] theorem Side.other_other (side : Side) : side.other.other = side := by
  cases side <;> rfl

theorem Side.other_ne (side : Side) : side.other ≠ side := by
  cases side <;> decide

/-- Two servers and the connection between them. -/
structure PeerLink where
  ends : Side → PeerEnd

/-- One step at one end. The first three come from outside of the loop: a forward, the work of
the other tasks on the network states, and the timers; the rest are the loop's own. -/
inductive PeerLinkEvent where
  | forward (side : Side) (networkCode : String) (data : List UInt8) (fits : Bool)
  | setNetworkStates (side : Side) (networkStates : Map String NetworkState)
  | networkSyncTick (side : Side)
  | pingTick (side : Side) (now : UInt64)
  | writeNext (side : Side)
  | readNext (side : Side) (now : UInt64)
  | resume (side : Side)

/-- The event is a step of a loop that no timer starts. -/
def PeerLinkEvent.isInternal : PeerLinkEvent → Bool
  | writeNext _ | readNext _ _ | resume _ => true
  | _ => false

namespace PeerLink

/-- The connection after a change at one end. -/
def update (link : PeerLink) (side : Side) (node : PeerEnd) : PeerLink :=
  ⟨Function.update link.ends side node⟩

@[simp] theorem update_self (link : PeerLink) (side : Side) (node : PeerEnd) :
    (link.update side node).ends side = node := Function.update_self ..

theorem update_of_ne (link : PeerLink) {side other : Side} (different : other ≠ side)
    (node : PeerEnd) : (link.update side node).ends other = link.ends other :=
  Function.update_of_ne different ..

/-- The loop at an end selects, it does not wait for room in its queue. -/
def selects (link : PeerLink) (side : Side) : Bool := (link.ends side).waiting.isNone

/-- The loop reads a message of the other end and handles it. -/
def read (link : PeerLink) (side : Side) (now : UInt64) (message : ServerMessage)
    (rest : List ServerMessage) : PeerLink :=
  (link.update side.other ((link.ends side.other).taken rest)).update side
    ((link.ends side).handlePeerMessage now message)

def step (link : PeerLink) : PeerLinkEvent → Option PeerLink
  | .forward side networkCode data fits =>
    some (link.update side ((link.ends side).forward networkCode data fits))
  | .setNetworkStates side networkStates =>
    some (link.update side { link.ends side with
      manager := { (link.ends side).manager with networkStates := networkStates } })
  | .networkSyncTick side =>
    if link.selects side = true then some (link.update side (link.ends side).pullClientInfo)
    else none
  | .pingTick side now =>
    if link.selects side = true then some (link.update side ((link.ends side).pingPeer now))
    else none
  | .writeNext side =>
    match (link.ends side).queue with
    | message :: rest =>
      if link.selects side = true then
        some (link.update side ((link.ends side).written message rest))
      else none
    | [] => none
  | .readNext side now =>
    match (link.ends side.other).stream with
    | message :: rest =>
      if link.selects side = true then some (link.read side now message rest) else none
    | [] => none
  | .resume side =>
    match (link.ends side).waiting with
    | some message =>
      if (link.ends side).queue.length < peerQueueCapacity then
        some (link.update side ((link.ends side).resumed message))
      else none
    | none => none

def machine : Machine PeerLink PeerLinkEvent where
  step := step

/-- No step of a loop is enabled until a timer fires or a task of the servers acts. -/
def Quiet (link : PeerLink) : Prop :=
  ∀ event : PeerLinkEvent, event.isInternal = true → link.step event = none

/-- When nothing is left to do, every forward that was accepted at one end has been passed
exactly once to `handle_forward_data` at the other. -/
def Consumed (link : PeerLink) : Prop :=
  link.Quiet → ∀ side : Side, ((link.ends side.other).handled).Perm (link.ends side).accepted

/-- The forward finds no connection, or one that does not take the datagram. -/
def Refused (link : PeerLink) : PeerLinkEvent → Prop
  | .forward side networkCode data fits =>
    (link.ends side).info.sendDatagram (fun _ _ => fits) (.forwardData ⟨networkCode, data⟩) = false
  | _ => True

/-- A connection that was just set up: nothing is under way. -/
def Started (link : PeerLink) : Prop :=
  ∀ side, (link.ends side).queue = [] ∧ (link.ends side).waiting = none ∧
    (link.ends side).stream = [] ∧ (link.ends side).datagrams = [] ∧
    (link.ends side).accepted = [] ∧ (link.ends side).handled = []

end PeerLink

/-! ### No forward is in the queue or in the stream -/

/-- The message is a forward. -/
def ServerMessage.isForward : ServerMessage → Bool
  | .forwardData _ => true
  | _ => false

/-- Nothing the loop of an end has to do with is a forward, and none was handled. -/
structure PeerEnd.Bypassed (node : PeerEnd) : Prop where
  queue : ∀ message ∈ node.queue, message.isForward = false
  waiting : ∀ message ∈ node.waiting, message.isForward = false
  stream : ∀ message ∈ node.stream, message.isForward = false
  handled : node.handled = []

namespace PeerEnd

variable {node : PeerEnd} {message : ServerMessage} {now : UInt64}

theorem Bypassed.send (bypassed : node.Bypassed) (other : message.isForward = false) :
    (node.send message).Bypassed := by
  unfold PeerEnd.send
  split
  · exact bypassed
  · split
    · refine ⟨fun found member => ?_, bypassed.waiting, bypassed.stream, bypassed.handled⟩
      rcases List.mem_append.mp member with before | new
      · exact bypassed.queue found before
      · rw [List.mem_singleton.mp new]
        exact other
    · refine ⟨bypassed.queue, fun found member => ?_, bypassed.stream, bypassed.handled⟩
      cases member
      exact other

theorem Bypassed.handlePeerMessage (bypassed : node.Bypassed) (other : message.isForward = false) :
    (node.handlePeerMessage now message).Bypassed := by
  cases message with
  | forwardData forward => cases other
  | pingReq timestamp => exact bypassed.send rfl
  | clientInfoReq networkCodes => exact bypassed.send rfl
  | pingRes requestTimestamp responseTimestamp =>
    exact ⟨bypassed.queue, bypassed.waiting, bypassed.stream, bypassed.handled⟩
  | clientInfoRes networks =>
    exact ⟨bypassed.queue, bypassed.waiting, bypassed.stream, bypassed.handled⟩
  | authReq tokenHash => exact bypassed
  | authRes success text => exact bypassed

theorem Bypassed.pullClientInfo (bypassed : node.Bypassed) : node.pullClientInfo.Bypassed := by
  unfold PeerEnd.pullClientInfo
  split
  · exact bypassed
  · exact bypassed.send rfl

theorem Bypassed.forward (bypassed : node.Bypassed) (networkCode : String) (data : List UInt8)
    (fits : Bool) : (node.forward networkCode data fits).Bypassed := by
  unfold PeerEnd.forward
  split
  · exact ⟨bypassed.queue, bypassed.waiting, bypassed.stream, bypassed.handled⟩
  · exact bypassed

theorem Bypassed.written {rest : List ServerMessage} (bypassed : node.Bypassed)
    (queue : node.queue = message :: rest) : (node.written message rest).Bypassed := by
  have all := bypassed.queue
  rw [queue] at all
  obtain ⟨first, others⟩ := List.forall_mem_cons.mp all
  refine ⟨others, bypassed.waiting, fun found member => ?_, bypassed.handled⟩
  rcases List.mem_append.mp member with before | new
  · exact bypassed.stream found before
  · rw [List.mem_singleton.mp new]
    exact first

theorem Bypassed.taken {rest : List ServerMessage} (bypassed : node.Bypassed)
    (stream : node.stream = message :: rest) :
    (node.taken rest).Bypassed ∧ message.isForward = false := by
  have all := bypassed.stream
  rw [stream] at all
  obtain ⟨first, others⟩ := List.forall_mem_cons.mp all
  exact ⟨⟨bypassed.queue, bypassed.waiting, others, bypassed.handled⟩, first⟩

theorem Bypassed.resumed (bypassed : node.Bypassed) (waiting : node.waiting = some message) :
    (node.resumed message).Bypassed := by
  refine ⟨fun found member => ?_, (fun found member => by cases member), bypassed.stream,
    bypassed.handled⟩
  rcases List.mem_append.mp member with before | new
  · exact bypassed.queue found before
  · rw [List.mem_singleton.mp new]
    exact bypassed.waiting message waiting

@[simp] theorem send_accepted (node : PeerEnd) (message : ServerMessage) :
    (node.send message).accepted = node.accepted := by
  unfold send
  split
  · rfl
  · split <;> rfl

@[simp] theorem pullClientInfo_accepted (node : PeerEnd) :
    node.pullClientInfo.accepted = node.accepted := by
  unfold pullClientInfo
  split
  · rfl
  · exact send_accepted node _

@[simp] theorem handlePeerMessage_accepted (node : PeerEnd) (now : UInt64)
    (message : ServerMessage) :
    (node.handlePeerMessage now message).accepted = node.accepted := by
  cases message with
  | pingReq timestamp => exact send_accepted node _
  | clientInfoReq networkCodes => exact send_accepted node _
  | _ => rfl

/-- What a forward adds to the history of accepted forwards. -/
theorem forward_accepted (node : PeerEnd) (networkCode : String) (data : List UInt8)
    (fits : Bool) :
    (node.forward networkCode data fits).accepted =
      if node.info.sendDatagram (fun _ _ => fits) (.forwardData ⟨networkCode, data⟩) = true then
        node.accepted ++ [⟨networkCode, data⟩]
      else node.accepted := by
  unfold PeerEnd.forward PeerServerManager.forwardToPeer PeerEnd.info
  split
  · next outcome =>
    split at outcome
    · next sent =>
      cases outcome
      rw [if_pos sent]
    · cases outcome
  · next outcome =>
    split at outcome
    · cases outcome
    · next refused => rw [if_neg refused]

end PeerEnd

namespace PeerLink

variable {link next : PeerLink} {event : PeerLinkEvent}

/-- What an event does, with what it needs. -/
inductive Effect (link : PeerLink) : PeerLinkEvent → PeerLink → Prop
  | forwarded (side : Side) (networkCode : String) (data : List UInt8) (fits : Bool) :
    Effect link (.forward side networkCode data fits)
      (link.update side ((link.ends side).forward networkCode data fits))
  | statesSet (side : Side) (networkStates : Map String NetworkState) :
    Effect link (.setNetworkStates side networkStates)
      (link.update side { link.ends side with
        manager := { (link.ends side).manager with networkStates := networkStates } })
  | pulled (side : Side) (selects : link.selects side = true) :
    Effect link (.networkSyncTick side) (link.update side (link.ends side).pullClientInfo)
  | pinged (side : Side) (now : UInt64) (selects : link.selects side = true) :
    Effect link (.pingTick side now) (link.update side ((link.ends side).pingPeer now))
  | written (side : Side) (message : ServerMessage) (rest : List ServerMessage)
    (selects : link.selects side = true) (queue : (link.ends side).queue = message :: rest) :
    Effect link (.writeNext side) (link.update side ((link.ends side).written message rest))
  | taken (side : Side) (now : UInt64) (message : ServerMessage) (rest : List ServerMessage)
    (selects : link.selects side = true)
    (stream : (link.ends side.other).stream = message :: rest) :
    Effect link (.readNext side now) (link.read side now message rest)
  | resumed (side : Side) (message : ServerMessage)
    (waiting : (link.ends side).waiting = some message)
    (room : (link.ends side).queue.length < peerQueueCapacity) :
    Effect link (.resume side) (link.update side ((link.ends side).resumed message))

theorem step_effect (enabled : link.step event = some next) : Effect link event next := by
  cases event with
  | forward side networkCode data fits =>
    cases enabled
    exact .forwarded side networkCode data fits
  | setNetworkStates side networkStates =>
    cases enabled
    exact .statesSet side networkStates
  | networkSyncTick side =>
    rw [step] at enabled
    split at enabled
    · next selects =>
      cases enabled
      exact .pulled side selects
    · cases enabled
  | pingTick side now =>
    rw [step] at enabled
    split at enabled
    · next selects =>
      cases enabled
      exact .pinged side now selects
    · cases enabled
  | writeNext side =>
    rw [step] at enabled
    split at enabled
    · next message rest queue =>
      split at enabled
      · next selects =>
        cases enabled
        exact .written side message rest selects queue
      · cases enabled
    · cases enabled
  | readNext side now =>
    rw [step] at enabled
    split at enabled
    · next message rest stream =>
      split at enabled
      · next selects =>
        cases enabled
        exact .taken side now message rest selects stream
      · cases enabled
    · cases enabled
  | resume side =>
    rw [step] at enabled
    split at enabled
    · next message waiting =>
      split at enabled
      · next room =>
        cases enabled
        exact .resumed side message waiting room
      · cases enabled
    · cases enabled

/-- The loops of both ends have nothing to do with forwards. -/
def Bypassed (link : PeerLink) : Prop := ∀ side, (link.ends side).Bypassed

theorem Bypassed.update (bypassed : link.Bypassed) {side : Side} {node : PeerEnd}
    (changed : node.Bypassed) : (link.update side node).Bypassed := by
  intro other
  by_cases same : other = side
  · rw [same, update_self]
    exact changed
  · rw [link.update_of_ne same]
    exact bypassed other

theorem Bypassed.step (bypassed : link.Bypassed) (effect : Effect link event next) :
    next.Bypassed := by
  cases effect with
  | forwarded side networkCode data fits =>
    exact bypassed.update ((bypassed side).forward networkCode data fits)
  | statesSet side networkStates =>
    exact bypassed.update ⟨(bypassed side).queue, (bypassed side).waiting, (bypassed side).stream,
      (bypassed side).handled⟩
  | pulled side selects => exact bypassed.update (bypassed side).pullClientInfo
  | pinged side now selects => exact bypassed.update ((bypassed side).send rfl)
  | written side message rest selects queue =>
    exact bypassed.update ((bypassed side).written queue)
  | taken side now message rest selects stream =>
    obtain ⟨others, first⟩ := (bypassed side.other).taken stream
    exact (bypassed.update others).update ((bypassed side).handlePeerMessage first)
  | resumed side message waiting room =>
    exact bypassed.update ((bypassed side).resumed waiting)

/-! ### The forwards that were accepted -/

/-- No forward was accepted so far. -/
def NothingAccepted (link : PeerLink) : Prop := ∀ side, (link.ends side).accepted = []

theorem nothingAccepted_update {side : Side} {node : PeerEnd}
    (unchanged : node.accepted = (link.ends side).accepted) :
    (link.update side node).NothingAccepted ↔ link.NothingAccepted := by
  refine forall_congr' fun other => ?_
  by_cases same : other = side
  · rw [same, update_self, unchanged]
  · rw [link.update_of_ne same]

/-- What a step does to the histories of accepted forwards. -/
theorem nothingAccepted_step (effect : Effect link event next) :
    next.NothingAccepted ↔ link.NothingAccepted ∧ link.Refused event := by
  cases effect with
  | forwarded side networkCode data fits =>
    unfold Refused
    by_cases sent : (link.ends side).info.sendDatagram (fun _ _ => fits)
        (.forwardData ⟨networkCode, data⟩) = true
    · refine ⟨fun nothing => ?_, fun both => absurd sent (by simp [both.2])⟩
      have grown := nothing side
      rw [update_self, PeerEnd.forward_accepted, if_pos sent] at grown
      exact absurd grown (List.append_ne_nil_of_right_ne_nil _ (List.cons_ne_nil _ _))
    · have unchanged : ((link.ends side).forward networkCode data fits).accepted =
          (link.ends side).accepted := by
        rw [PeerEnd.forward_accepted, if_neg sent]
      rw [nothingAccepted_update unchanged, and_iff_left (Bool.eq_false_iff.mpr sent)]
  | statesSet side networkStates =>
    refine Iff.trans ?_ (and_iff_left trivial).symm
    exact nothingAccepted_update rfl
  | pulled side selects =>
    refine Iff.trans ?_ (and_iff_left trivial).symm
    exact nothingAccepted_update (PeerEnd.pullClientInfo_accepted _)
  | pinged side now selects =>
    refine Iff.trans ?_ (and_iff_left trivial).symm
    exact nothingAccepted_update (PeerEnd.send_accepted ..)
  | written side message rest selects queue =>
    refine Iff.trans ?_ (and_iff_left trivial).symm
    exact nothingAccepted_update rfl
  | taken side now message rest selects stream =>
    refine Iff.trans ?_ (and_iff_left trivial).symm
    refine (nothingAccepted_update ?_).trans (nothingAccepted_update rfl)
    rw [PeerEnd.handlePeerMessage_accepted, link.update_of_ne side.other_ne.symm]
  | resumed side message waiting room =>
    refine Iff.trans ?_ (and_iff_left trivial).symm
    exact nothingAccepted_update rfl

/-- A run accepts no forward exactly when each of its forwards is refused. -/
theorem nothingAccepted_iff_guarded {events : List PeerLinkEvent}
    (nothing : link.NothingAccepted) :
    machine.Throughout NothingAccepted link events ↔ machine.Guarded Refused link events := by
  refine Machine.throughout_iff_guarded (fun _ _ _ (_ : True) _ => trivial)
    (fun state event next _ holds enabled => ?_) (fun state event disabled => ?_) trivial nothing
  · rw [nothingAccepted_step (step_effect enabled), and_iff_right holds]
  · cases event with
    | forward side networkCode data fits => cases disabled
    | _ => trivial

end PeerLink

/-! ### Coming to rest -/

/-- What a message in the stream can still cause: a request is answered. -/
def ServerMessage.weight : ServerMessage → Nat
  | .pingReq _ => 4
  | .clientInfoReq _ => 4
  | _ => 1

namespace PeerEnd

/-- What an end can still cause: a message of the queue is to be written, and one that waits is
to be queued first. -/
def weight (node : PeerEnd) : Nat :=
  (node.queue.map fun message => message.weight + 1).sum +
    (node.waiting.elim 0 fun message => message.weight + 2) +
    (node.stream.map ServerMessage.weight).sum

variable {node : PeerEnd}

theorem weight_send (selects : node.waiting = none) (message : ServerMessage) :
    (node.send message).weight ≤ node.weight + message.weight + 2 := by
  unfold send
  split
  · omega
  · split
    · simp only [weight, List.map_append, List.sum_append, List.map_cons, List.map_nil,
        List.sum_cons, List.sum_nil]
      omega
    · simp only [weight, selects, Option.elim_none, Option.elim_some]
      omega

theorem weight_written {message : ServerMessage} {rest : List ServerMessage}
    (queue : node.queue = message :: rest) :
    (node.written message rest).weight < node.weight := by
  simp only [written, weight, queue, List.map_cons, List.sum_cons, List.map_append, List.sum_append,
    List.map_nil, List.sum_nil]
  omega

theorem weight_taken {message : ServerMessage} {rest : List ServerMessage}
    (stream : node.stream = message :: rest) :
    (node.taken rest).weight + message.weight = node.weight := by
  simp only [taken, weight, stream, List.map_cons, List.sum_cons]
  omega

theorem weight_resumed {message : ServerMessage} (waiting : node.waiting = some message) :
    (node.resumed message).weight < node.weight := by
  simp only [resumed, weight, waiting, List.map_append, List.sum_append, List.map_cons,
    List.map_nil, List.sum_cons, List.sum_nil, Option.elim_none, Option.elim_some]
  omega

/-- Handling a message costs less than the message was worth. -/
theorem weight_handlePeerMessage (selects : node.waiting = none) (now : UInt64)
    (message : ServerMessage) :
    (node.handlePeerMessage now message).weight < node.weight + message.weight := by
  cases message with
  | pingReq timestamp =>
    have := weight_send selects (.pingRes timestamp now)
    simp only [handlePeerMessage, ServerMessage.weight] at this ⊢
    omega
  | clientInfoReq networkCodes =>
    have := weight_send selects (.clientInfoRes (node.manager.handleClientInfoRequest networkCodes))
    simp only [handlePeerMessage, ServerMessage.weight] at this ⊢
    omega
  | _ => exact Nat.lt_succ_self _

end PeerEnd

namespace PeerLink

variable {link next : PeerLink} {event : PeerLinkEvent}

def weight (link : PeerLink) : Nat := (link.ends .opener).weight + (link.ends .acceptor).weight

theorem weight_update (link : PeerLink) (side : Side) (node : PeerEnd) :
    (link.update side node).weight + (link.ends side).weight = link.weight + node.weight := by
  cases side with
  | opener =>
    rw [weight, weight, update_self, link.update_of_ne (by decide)]
    omega
  | acceptor =>
    rw [weight, weight, update_self, link.update_of_ne (by decide)]
    omega

theorem weight_step (internal : event.isInternal = true) (effect : Effect link event next) :
    next.weight < link.weight := by
  cases effect with
  | forwarded side networkCode data fits => cases internal
  | statesSet side networkStates => cases internal
  | pulled side selects => cases internal
  | pinged side now selects => cases internal
  | written side message rest selects queue =>
    have changed := link.weight_update side ((link.ends side).written message rest)
    have less := PeerEnd.weight_written queue
    omega
  | taken side now message rest selects stream =>
    have removed := link.weight_update side.other ((link.ends side.other).taken rest)
    have answered := (link.update side.other ((link.ends side.other).taken rest)).weight_update
      side ((link.ends side).handlePeerMessage now message)
    have less := PeerEnd.weight_handlePeerMessage (Option.isNone_iff_eq_none.mp selects) now
      message
    have left := PeerEnd.weight_taken stream
    rw [link.update_of_ne side.other_ne.symm] at answered
    unfold read
    omega
  | resumed side message waiting room =>
    have changed := link.weight_update side ((link.ends side).resumed message)
    have less := PeerEnd.weight_resumed waiting
    omega

/-- The loops always come to rest. -/
theorem exists_quiet (link : PeerLink) : ∃ events final,
    (∀ event ∈ events, event.isInternal = true) ∧ machine.run link events = some final ∧
      final.Quiet := by
  induction bound : link.weight using Nat.strong_induction_on generalizing link with
  | _ weight inductionHypothesis =>
    by_cases quiet : link.Quiet
    · exact ⟨[], link, by simp, rfl, quiet⟩
    · obtain ⟨event, notDone⟩ := not_forall.mp quiet
      obtain ⟨internal, enabled⟩ := Classical.not_imp.mp notDone
      obtain ⟨next, enabled⟩ := Option.ne_none_iff_exists'.mp enabled
      have less := weight_step internal (step_effect enabled)
      obtain ⟨events, final, allInternal, reaches, rest⟩ :=
        inductionHypothesis next.weight (bound ▸ less) next rfl
      refine ⟨event :: events, final, List.forall_mem_cons.mpr ⟨internal, allInternal⟩, ?_, rest⟩
      exact Machine.run_cons_eq_some.mpr ⟨next, enabled, reaches⟩

/-! ### When the forwards are consumed -/

theorem refused_of_internal (internal : event.isInternal = true) (link : PeerLink) :
    link.Refused event := by
  cases event with
  | forward side networkCode data fits => cases internal
  | _ => trivial

/-- A forward that was accepted stays a datagram that nobody reads. Whatever the loops do after
a run, the forwards are consumed whenever they come to rest, before and after, if and only if
the connection took none of the forwards of the run. -/
theorem consumed_throughout_iff {events : List PeerLinkEvent} {state : PeerLink}
    (started : link.Started) (reaches : machine.run link events = some state) :
    (∀ later : List PeerLinkEvent, (∀ event ∈ later, event.isInternal = true) →
      machine.Throughout Consumed link (events ++ later)) ↔
    machine.Guarded Refused link events := by
  have bypassed : link.Bypassed := fun side => by
    obtain ⟨queue, waiting, stream, -, -, handled⟩ := started side
    exact ⟨by simp [queue], by simp [waiting], by simp [stream], handled⟩
  have unhandled : ∀ run, machine.Throughout Bypassed link run := fun run =>
    (machine.guarded_trivial link run).throughout
      (fun _ _ _ holds _ enabled => holds.step (step_effect enabled)) bypassed
  have nothing : link.NothingAccepted := fun side => (started side).2.2.2.2.1
  constructor
  · intro consumed
    obtain ⟨later, final, internal, continues, quiet⟩ := state.exists_quiet
    have reachesFinal : machine.run link (events ++ later) = some final := by
      rw [Machine.run_append, reaches, Option.bind_some, continues]
    have last : final.NothingAccepted := fun side => by
      have same := (consumed later internal).final reachesFinal quiet side
      rw [((unhandled _).final reachesFinal side.other).handled] at same
      exact same.nil_eq.symm
    have accepted : machine.Throughout NothingAccepted link (events ++ later) :=
      Machine.throughout_of_final (fun _ _ _ enabled holds =>
        ((nothingAccepted_step (step_effect enabled)).mp holds).1) reachesFinal last
    exact ((nothingAccepted_iff_guarded nothing).mp accepted).of_append
  · intro guarded later internal
    have refused : machine.Guarded Refused link (events ++ later) :=
      guarded.append fun event member => refused_of_internal (internal event member)
    have accepted := (nothingAccepted_iff_guarded nothing).mpr refused
    refine (accepted.and (unhandled _)).mono fun state both _ side => ?_
    rw [(both.2 side.other).handled, both.1 side]

/-- One end of a connection that was just set up, of a server with the example network. -/
def exampleEnd : PeerEnd where
  manager :=
    { networkStates := (∅ : Map String NetworkState).insert "net" NetworkState.exampleState
      peerInfos := fun _ => (PeerServerInfo.new "peer" true).setConnected 0 0
      ipToRoutes := ∅ }
  peer := 0
  networkCodes := []
  queue := []
  waiting := none
  stream := []
  datagrams := []
  accepted := []
  handled := []
  delivered := []

def exampleLink : PeerLink := ⟨fun _ => exampleEnd⟩

theorem started_exampleLink : exampleLink.Started := fun _ => ⟨rfl, rfl, rfl, rfl, rfl, rfl⟩

/-- One end measures the latency and asks for the clients, and nothing is forwarded. -/
def syncRun : List PeerLinkEvent :=
  [.pingTick .opener 5, .networkSyncTick .opener, .writeNext .opener, .readNext .acceptor 6,
    .writeNext .opener, .readNext .acceptor 7, .writeNext .acceptor, .readNext .opener 8]

theorem consumed_syncRun : machine.Throughout Consumed exampleLink syncRun := by
  have reaches : ∃ state, machine.run exampleLink syncRun = some state := ⟨_, rfl⟩
  obtain ⟨state, reaches⟩ := reaches
  have guarded : machine.Guarded Refused exampleLink syncRun :=
    ⟨trivial, fun _ _ => ⟨trivial, fun _ _ => ⟨trivial, fun _ _ => ⟨trivial, fun _ _ =>
      ⟨trivial, fun _ _ => ⟨trivial, fun _ _ => ⟨trivial, fun _ _ => ⟨trivial, fun _ _ =>
        trivial⟩⟩⟩⟩⟩⟩⟩⟩
  have consumed := (consumed_throughout_iff started_exampleLink reaches).mpr guarded [] (by simp)
  rwa [List.append_nil] at consumed

/-- A packet of the example network for 10.26.0.2. -/
def examplePacketBytes : List UInt8 :=
  NetHeader.toBytes ⟨0x81, 0x54, 0, 0, 0, 0x0A1A0003, 0x0A1A0002⟩

/-- One packet is forwarded. -/
def forwardRun : List PeerLinkEvent := [.forward .opener "net" examplePacketBytes true]

/-- The forward is accepted and never handled. -/
theorem not_consumed_forwardRun : ¬machine.Throughout Consumed exampleLink forwardRun := by
  intro throughout
  have reaches : ∃ final, machine.run exampleLink forwardRun = some final ∧ final.Quiet ∧
      (final.ends .acceptor).handled = [] ∧
      (final.ends .opener).accepted = [⟨"net", examplePacketBytes⟩] := by
    refine ⟨_, rfl, fun event internal => ?_, rfl, rfl⟩
    cases event with
    | writeNext side => cases side <;> rfl
    | readNext side now => cases side <;> rfl
    | resume side => cases side <;> rfl
    | _ => cases internal
  obtain ⟨final, isFinal, quiet, handled, accepted⟩ := reaches
  have same := throughout.final isFinal quiet .opener
  rw [accepted] at same
  cases same.length_eq.symm.trans (congrArg List.length handled)

end PeerLink

end Vnt.Server
