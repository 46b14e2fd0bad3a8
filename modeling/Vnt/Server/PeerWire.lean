/-
This file gives the messages that two servers exchange, as their description declares them, and
embeds the connection of two servers down to its bytes. The one that opens the connection sends the
hash of its token, the other one compares it with its own and answers, and only then do the loops of
both start. The messages are put as frames onto a stream of bytes, which arrive in pieces; the queue
of a loop holds messages that are encoded already.
-/

import Mathlib.Logic.Equiv.Option
import Vnt.Base.Framing
import Vnt.Base.MessageFormat
import Vnt.Server.PeerLink

namespace Vnt.Server

open Vnt.Base Vnt.Base.Protobuf Vnt.Base.Protobuf.Format

/-! ### The messages -/

def ServerForwardData.format : Format ServerForwardData :=
  (implicit 1 (.refl true) .string "")
    |>.both (implicit 2 (.refl true) .bytes []) (.refl true)
    |>.ofEquiv {
      toFun := fun forward => (forward.networkCode, forward.data)
      invFun := fun (networkCode, data) => ⟨networkCode, data⟩
      left_inv := fun _ => rfl
      right_inv := fun _ => rfl }

def ClientLatencyInfo.format : Format ClientLatencyInfo :=
  (implicit 1 (.refl true) .fixed32 0)
    |>.both (implicit 2 (.refl true) .uint32 0) (.refl true)
    |>.ofEquiv {
      toFun := fun client => (client.ip, client.latencyMs)
      invFun := fun (ip, latencyMs) => ⟨ip, latencyMs⟩
      left_inv := fun _ => rfl
      right_inv := fun _ => rfl }

def NetworkInfo.format : Format NetworkInfo :=
  (implicit 1 (.refl true) .string "")
    |>.both (repeated 2 (.refl true) ClientLatencyInfo.format.codec) (.refl true)
    |>.ofEquiv {
      toFun := fun network => (network.networkCode, network.clients)
      invFun := fun (networkCode, clients) => ⟨networkCode, clients⟩
      left_inv := fun _ => rfl
      right_inv := fun _ => rfl }

/-- `ServerAuthRequest`, the token hash. -/
def serverAuthRequest : Format String := implicit 1 (.refl true) .string ""

/-- `ServerAuthResponse`, whether the token is right and a message. -/
def serverAuthResponse : Format (Bool × String) :=
  (implicit 1 (.refl true) .bool false).both (implicit 2 (.refl true) .string "") (.refl true)

/-- `ServerPingRequest`, its time. -/
def serverPingRequest : Format UInt64 := implicit 1 (.refl true) .uint64 0

/-- `ServerPingResponse`, the time of the request and its own. -/
def serverPingResponse : Format (UInt64 × UInt64) :=
  (implicit 1 (.refl true) .uint64 0).both (implicit 2 (.refl true) .uint64 0) (.refl true)

/-- `ServerClientInfoRequest`, the networks. -/
def serverClientInfoRequest : Format (List String) := repeated 1 (.refl true) .string

/-- `ServerClientInfoResponse`, the networks with their clients. -/
def serverClientInfoResponse : Format (List NetworkInfo) :=
  repeated 1 (.refl true) NetworkInfo.format.codec

namespace ServerMessage

def parts : ServerMessage ≃ (((((String ⊕ Bool × String) ⊕ UInt64) ⊕ UInt64 × UInt64) ⊕
    ServerForwardData) ⊕ List String) ⊕ List NetworkInfo where
  toFun
    | authReq tokenHash => .inl (.inl (.inl (.inl (.inl (.inl tokenHash)))))
    | authRes success message => .inl (.inl (.inl (.inl (.inl (.inr (success, message))))))
    | pingReq timestamp => .inl (.inl (.inl (.inl (.inr timestamp))))
    | pingRes requestTimestamp responseTimestamp =>
      .inl (.inl (.inl (.inr (requestTimestamp, responseTimestamp))))
    | forwardData forward => .inl (.inl (.inr forward))
    | clientInfoReq networkCodes => .inl (.inr networkCodes)
    | clientInfoRes networks => .inr networks
  invFun
    | .inl (.inl (.inl (.inl (.inl (.inl tokenHash))))) => authReq tokenHash
    | .inl (.inl (.inl (.inl (.inl (.inr (success, message)))))) => authRes success message
    | .inl (.inl (.inl (.inl (.inr timestamp)))) => pingReq timestamp
    | .inl (.inl (.inl (.inr (requestTimestamp, responseTimestamp)))) =>
      pingRes requestTimestamp responseTimestamp
    | .inl (.inl (.inr forward)) => forwardData forward
    | .inl (.inr networkCodes) => clientInfoReq networkCodes
    | .inr networks => clientInfoRes networks
  left_inv message := by cases message <;> rfl
  right_inv part := by rcases part with (((((_ | _) | _) | _) | _) | _) | _ <;> rfl

/-- The payload of a `ServerMessage`. -/
def format : Format (Option ServerMessage) :=
  (message 1 (.refl true) serverAuthRequest)
    |>.either (message 2 (.refl true) serverAuthResponse) (.refl true) rfl rfl
    |>.either (message 4 (.refl true) serverPingRequest) (.refl true) rfl rfl
    |>.either (message 5 (.refl true) serverPingResponse) (.refl true) rfl rfl
    |>.either (message 6 (.refl true) ServerForwardData.format) (.refl true) rfl rfl
    |>.either (message 7 (.refl true) serverClientInfoRequest) (.refl true) rfl rfl
    |>.either (message 8 (.refl true) serverClientInfoResponse) (.refl true) rfl rfl
    |>.ofEquiv (Equiv.optionCongr parts)

/-- `encode_bytes_mut` of a message with this payload. -/
def encode (message : ServerMessage) : List UInt8 := format.encode (some message)

/-- `ServerMessage::decode`: the payload, if there is one. -/
def decode (bytes : List UInt8) : Option (Option ServerMessage) := format.decode bytes

theorem decode_encode {message : ServerMessage} (fits : message.encode.length < 2 ^ 64) :
    decode message.encode = some (some message) := format.decode_encode fits

end ServerMessage

/-! ### One end of the connection -/

/-- Why the loop of a connection does not start: an error with a text of the code's own, or the one
that reading from a lost connection gives. -/
inductive PeerError where
  | message (text : String)
  | lost (error : String)
  deriving DecidableEq, Repr

/-- How far the task of a connection has come. -/
inductive PeerPhase where
  | connecting
  | authenticating
  | running
  | failed (error : PeerError)
  | closed
  deriving DecidableEq, Repr

/-- One end of the connection: the hash of its token, its manager and the identity its record of the
other end has or will have, with what goes into the record; the queue of its loop; the bytes it has
written that have not arrived at the other end, and those that have arrived here. -/
structure WireEnd where
  tokenHash : String
  manager : PeerServerManager
  peer : PeerId
  addr : String
  tx : PeerSender
  connection : PeerConnection
  phase : PeerPhase
  networkCodes : List String
  queue : List (List UInt8)
  waiting : Option (List UInt8)
  underWay : List UInt8
  arrived : List UInt8
  datagrams : List (List UInt8)
  delivered : List (Sender × List UInt8)

namespace WireEnd

def info (node : WireEnd) : PeerServerInfo := node.manager.peerInfos node.peer

def failed (node : WireEnd) (error : PeerError) : WireEnd := { node with phase := .failed error }

/-- The record of the other end once it is connected. -/
def record (node : WireEnd) (outbound : Bool) : PeerServerInfo :=
  (PeerServerInfo.new node.addr outbound).setConnected node.tx node.connection

/-- The manager with the record of the other end. -/
def recorded (node : WireEnd) (outbound : Bool) : PeerServerManager :=
  node.manager.updatePeer node.peer fun _ => node.record outbound

/-- The loop starts. -/
def established (node : WireEnd) (outbound : Bool) : WireEnd :=
  { node with manager := node.recorded outbound, phase := .running }

/-- The loop has ended. -/
def closed (node : WireEnd) : WireEnd :=
  { node with
    manager := (node.manager.updatePeer node.peer PeerServerInfo.setDisconnected).cleanupRoutes
      node.peer node.networkCodes
    phase := .closed }

/-- `framed_write.send`, which refuses frames above the limit. -/
def write (node : WireEnd) (codec : FrameCodec) (data : List UInt8) : Option WireEnd :=
  if data.length ≤ codec.limit then some { node with underWay := node.underWay ++ codec.put data }
  else none

/-- The first message of `connect_to_peer_once`. -/
def connectToPeerOnce (node : WireEnd) (codec : FrameCodec) : WireEnd :=
  match node.write codec (ServerMessage.authReq node.tokenHash).encode with
  | none => node.failed (.message "frame size too big")
  | some node => { node with phase := .authenticating }

/-- What `handle_peer_connection` does with the first message. -/
def handleAuthRequest (node : WireEnd) (codec : FrameCodec) (buf : List UInt8) : WireEnd :=
  match ServerMessage.decode buf with
  | none => node.failed (.message "failed to decode Protobuf message")
  | some (some (.authReq tokenHash)) =>
    if tokenHash ≠ node.tokenHash then
      ((node.write codec (ServerMessage.authRes false "Invalid token").encode).getD node).failed
        (.message "Invalid token from peer")
    else
      match node.write codec (ServerMessage.authRes true "OK").encode with
      | none => node.failed (.message "frame size too big")
      | some node => node.established false
  | some _ => node.failed (.message "expected auth request")

/-- What `connect_to_peer_once` does with the answer. -/
def handleAuthResponse (node : WireEnd) (buf : List UInt8) : WireEnd :=
  match ServerMessage.decode buf with
  | none => node.failed (.message "failed to decode Protobuf message")
  | some (some (.authRes success message)) =>
    if success = true then node.established true
    else node.failed (.message ("auth failed: " ++ message))
  | some _ => node.failed (.message "expected auth response")

/-- `PeerServerInfo::send`: without a sender the message is lost, without room it waits. -/
def send (node : WireEnd) (message : ServerMessage) : WireEnd :=
  match node.info.sender with
  | none => node
  | some _ =>
    if node.queue.length < peerQueueCapacity then
      { node with queue := node.queue ++ [message.encode] }
    else { node with waiting := some message.encode }

/-- `forward_to_peer`; `fits` tells whether the connection takes the datagram. -/
def forward (node : WireEnd) (networkCode : String) (data : List UInt8) (fits : Bool) : WireEnd :=
  match node.manager.forwardToPeer (fun _ _ => fits) node.peer networkCode data with
  | some (_, message) =>
    { node with datagrams := node.datagrams ++ [(ServerMessage.forwardData message).encode] }
  | none => node

/-- `pull_client_info_from_peer`. -/
def pullClientInfo (node : WireEnd) : WireEnd :=
  match node.manager.networkStates.keys with
  | [] => node
  | networkCodes => node.send (.clientInfoReq networkCodes)

/-- `ping_peer`. -/
def pingPeer (node : WireEnd) (now : UInt64) : WireEnd := node.send (.pingReq now)

/-- `handle_ping_response`. -/
def handlePingResponse (node : WireEnd) (now requestTimestamp : UInt64) : WireEnd :=
  let rtt := now.toNat - requestTimestamp.toNat
  { node with
    manager := node.manager.updatePeer node.peer fun info =>
      info.updateLatency (UInt32.ofNat (rtt / 2)) }

/-- `handle_peer_message`. -/
def handlePeerMessage (node : WireEnd) (now : UInt64) (data : List UInt8) : WireEnd :=
  match ServerMessage.decode data with
  | some (some (.pingReq timestamp)) => node.send (.pingRes timestamp now)
  | some (some (.pingRes requestTimestamp _)) => node.handlePingResponse now requestTimestamp
  | some (some (.forwardData forward)) =>
    { node with delivered := node.delivered ++ (node.manager.handleForwardData forward).toList }
  | some (some (.clientInfoReq networkCodes)) =>
    node.send (.clientInfoRes (node.manager.handleClientInfoRequest networkCodes))
  | some (some (.clientInfoRes networks)) =>
    let synced := node.manager.handleClientInfoResponse node.peer node.networkCodes networks
    { node with manager := synced.1, networkCodes := synced.2 }
  | _ => node

/-- A frame has been taken off the bytes that have arrived. -/
def taken (node : WireEnd) (rest : List UInt8) : WireEnd := { node with arrived := rest }

/-- The loop selects: it runs and does not wait for room in its queue. -/
def selects (node : WireEnd) : Bool := decide (node.phase = .running) && node.waiting.isNone

end WireEnd

/-! ### The connection -/

/-- Two servers and the connection between them. -/
structure WireLink where
  ends : Side → WireEnd

/-- One step at one end: next to those of the loops, those of the authentication, the arrival of
some bytes, and what ends it early: the patience, the end of the stream, a lost connection. -/
inductive WireLinkEvent where
  | connect
  | authenticate (side : Side)
  | timeout (side : Side)
  | hangUp (side : Side)
  | lose (side : Side) (error : String)
  | arrive (side : Side) (count : Nat)
  | forward (side : Side) (networkCode : String) (data : List UInt8) (fits : Bool)
  | setNetworkStates (side : Side) (networkStates : Map String NetworkState)
  | networkSyncTick (side : Side)
  | pingTick (side : Side) (now : UInt64)
  | writeNext (side : Side)
  | readNext (side : Side) (now : UInt64)
  | resume (side : Side)

namespace WireLink

/-- The connection after a change at one end. -/
def update (link : WireLink) (side : Side) (node : WireEnd) : WireLink :=
  ⟨Function.update link.ends side node⟩

/-- What an end says when it waits for the first message no longer. -/
def timeoutError : Side → String
  | .opener => "auth response timeout or error"
  | .acceptor => "peer auth timeout"

/-- What an end says when the stream has ended before the first message. -/
def hangUpError : Side → String
  | .opener => "auth response timeout or error"
  | .acceptor => "peer connection closed"

/-- What an end says when reading the first message fails with this error. -/
def lossError : Side → String → PeerError
  | .opener, _ => .message "auth response timeout or error"
  | .acceptor, error => .lost error

/-- An end takes the first message of the other one. -/
def handleFirst (codec : FrameCodec) (node : WireEnd) (buf : List UInt8) : Side → WireEnd
  | .opener => node.handleAuthResponse buf
  | .acceptor => node.handleAuthRequest codec buf

/-- What an end says when its first frame is none. -/
def frameError : Side → String
  | .opener => "auth response timeout or error"
  | .acceptor => "frame size too big"

def step (codec : FrameCodec) (link : WireLink) : WireLinkEvent → Option WireLink
  | .connect =>
    if (link.ends .opener).phase = .connecting then
      some (link.update .opener ((link.ends .opener).connectToPeerOnce codec))
    else none
  | .authenticate side =>
    let node := link.ends side
    if node.phase = .authenticating then
      match codec.reader.take () node.arrived with
      | .more => none
      | .ended => some (link.update side (node.failed (.message (frameError side))))
      | .item none _ rest => some (link.update side (node.taken rest))
      | .item (some buf) _ rest =>
        some (link.update side (handleFirst codec (node.taken rest) buf side))
    else none
  | .timeout side =>
    if (link.ends side).phase = .authenticating then
      some (link.update side ((link.ends side).failed (.message (timeoutError side))))
    else none
  | .hangUp side =>
    if (link.ends side).phase = .authenticating then
      some (link.update side ((link.ends side).failed (.message (hangUpError side))))
    else none
  | .lose side error =>
    if (link.ends side).phase = .authenticating then
      some (link.update side ((link.ends side).failed (lossError side error)))
    else none
  | .arrive side count =>
    let writer := link.ends side.other
    let reader := link.ends side
    some ((link.update side.other { writer with underWay := writer.underWay.drop count }).update
      side
      { reader with arrived := reader.arrived ++ writer.underWay.take count })
  | .forward side networkCode data fits =>
    if (link.ends side).phase = .running then
      some (link.update side ((link.ends side).forward networkCode data fits))
    else none
  | .setNetworkStates side networkStates =>
    some (link.update side { link.ends side with
      manager := { (link.ends side).manager with networkStates := networkStates } })
  | .networkSyncTick side =>
    if (link.ends side).selects = true then some (link.update side (link.ends side).pullClientInfo)
    else none
  | .pingTick side now =>
    if (link.ends side).selects = true then some (link.update side ((link.ends side).pingPeer now))
    else none
  | .writeNext side =>
    match (link.ends side).queue with
    | data :: rest =>
      if (link.ends side).selects = true then
        some (link.update side
          (match ({ link.ends side with queue := rest } : WireEnd).write codec data with
          | some node => node
          | none => (link.ends side).closed))
      else none
    | [] => none
  | .readNext side now =>
    let node := link.ends side
    if node.selects = true then
      match codec.reader.take () node.arrived with
      | .more => none
      | .ended => some (link.update side node.closed)
      | .item none _ rest => some (link.update side (node.taken rest))
      | .item (some data) _ rest =>
        some (link.update side ((node.taken rest).handlePeerMessage now data))
    else none
  | .resume side =>
    match (link.ends side).waiting with
    | some data =>
      if (link.ends side).phase = .running ∧ (link.ends side).queue.length < peerQueueCapacity then
        some (link.update side { link.ends side with
          queue := (link.ends side).queue ++ [data], waiting := none })
      else none
    | none => none

def machine (codec : FrameCodec) : Machine WireLink WireLinkEvent where
  step := step codec

/-- A connection that was just set up. -/
structure Started (link : WireLink) : Prop where
  opener : (link.ends .opener).phase = .connecting
  acceptor : (link.ends .acceptor).phase = .authenticating
  queue : ∀ side, (link.ends side).queue = []
  waiting : ∀ side, (link.ends side).waiting = none
  underWay : ∀ side, (link.ends side).underWay = []
  arrived : ∀ side, (link.ends side).arrived = []
  datagrams : ∀ side, (link.ends side).datagrams = []

/-- What is written is within the limit of the frames. -/
def Fits (codec : FrameCodec) (link : WireLink) : WireLinkEvent → Prop
  | .connect => (ServerMessage.authReq (link.ends .opener).tokenHash).encode.length ≤ codec.limit
  | .writeNext side => ∀ data ∈ (link.ends side).queue.head?, data.length ≤ codec.limit
  | _ => True

end WireLink

end Vnt.Server
