/-
This file follows the calls with which a client asks a server for the devices of its network. A call
takes a number, registers a waiter under it, sends its request and waits until the answer comes or
the time is over; its waiter is taken from the register when it is dropped. Many calls are under way
at once, their requests and answers may be lost, doubled or reordered, and the table of the server
changes all the time. Other clients can have packets of theirs sent over the connection as well, and
the client does not tell those that look like an answer. A call that returns a list returns one that
the server held while the call was waiting, or what such a packet of its number said, and the
register holds the waiters of the calls that are neither answered nor over.
-/

import Vnt.Client.RpcClientList
import Vnt.Tunnel.WireMessages

namespace Vnt.Client

open Vnt.Base Vnt.Server
open Vnt.Registration (decodeError)

/-! ### The register -/

/-- `RpcNotifier`: the senders of the requests that wait, each as the place of its call among all
calls, and the number that was given last. -/
structure RpcNotifier where
  pendingRequests : Map UInt64 Nat
  rpcId : UInt64

namespace RpcNotifier

/-- `RpcNotifier::new`. -/
def new : RpcNotifier := ⟨∅, 0⟩

/-- The first part of `create_request_and_waiter`; the number starts again when there is none
left. -/
def nextId (notifier : RpcNotifier) : RpcNotifier := { notifier with rpcId := notifier.rpcId + 1 }

/-- The second part of `create_request_and_waiter`. -/
def register (notifier : RpcNotifier) (id : UInt64) (waiter : Nat) : RpcNotifier :=
  { notifier with pendingRequests := notifier.pendingRequests.insert id waiter }

/-- `RpcResponseWaiter::drop`; an answer takes its sender out in the same way. -/
def remove (notifier : RpcNotifier) (id : UInt64) : RpcNotifier :=
  { notifier with pendingRequests := notifier.pendingRequests.erase id }

end RpcNotifier

/-! ### A call -/

/-- The encoded `RpcMessageRequest` of `client_list_target`. -/
def encodeRequest (id : UInt64) : List UInt8 := Proto.RpcMessageRequest.format.encode ⟨id, some ()⟩

/-- The packet of `client_list_target`, as `send_to_gateway_expired` passes it on. -/
def requestPacket (id : UInt64) : Except String (List UInt8) := do
  let request := encodeRequest id
  let packet ← NetPacket.new (.zeroed (headLength + request.length))
  let packet := ((packet.setMsgType .rpcReq).setGatewayFlag true).setTtl 1
  let packet ← packet.setPayload request
  return (packet.setGatewayFlag true).intoBytes

/-- What a call came to: the tunnel did not take its packet, or the wait ended. -/
inductive RpcEnd where
  | notSent (message : String)
  | waited (wait : RpcWait)

/-- What `client_list_target` returns after such an end. -/
def RpcEnd.result (id : UInt64) : RpcEnd → Except String (List ClientInfo)
  | .notSent message => clientListTarget ⟨true, encodeRequest id, fun _ => .error message, .timeout⟩
  | .waited wait => clientListTarget ⟨true, encodeRequest id, fun _ => .ok (), wait⟩

/-- Where a call stands. After the number is taken the waiter is registered, after the packet is
sent the call waits, and before it returns its waiter is dropped. -/
inductive RpcStage where
  | numbered
  | registered
  | waiting
  | leaving (result : RpcEnd)
  | returned (result : RpcEnd)
  | cancelled

/-- A call of `client_list_target`, with what is in the channel of its waiter. -/
structure RpcCall where
  id : UInt64
  stage : RpcStage
  received : Option RpcMessageResponse

/-- What happens to a call. The tunnel takes its packet or does not. -/
inductive CallEvent where
  | register
  | send (taken : Except String Unit)
  | wake
  | timeout
  | drop
  | cancel

namespace RpcCall

/-- The next stage of a call and the packet it sends; `registered` tells whether its sender is still
in the register. The waiter wakes with what is in its channel, or when the sender is gone. -/
def step (call : RpcCall) (registered : Bool) :
    CallEvent → Option (RpcStage × Option (List UInt8))
  | .register =>
    match call.stage with
    | .numbered => some (.registered, none)
    | _ => none
  | .send taken =>
    match call.stage with
    | .registered =>
      match requestPacket call.id, taken with
      | .error message, _ => some (.leaving (.notSent message), none)
      | .ok _, .error message => some (.leaving (.notSent message), none)
      | .ok bytes, .ok () => some (.waiting, some bytes)
    | _ => none
  | .wake =>
    match call.stage, call.received with
    | .waiting, some response => some (.leaving (.waited (.received response)), none)
    | .waiting, none => if registered = true then none else some (.leaving (.waited .closed), none)
    | _, _ => none
  | .timeout =>
    match call.stage with
    | .waiting => some (.leaving (.waited .timeout), none)
    | _ => none
  | .drop =>
    match call.stage with
    | .leaving result => some (.returned result, none)
    | _ => none
  | .cancel =>
    match call.stage with
    | .registered => some (.cancelled, none)
    | .waiting => some (.cancelled, none)
    | _ => none

/-- The sender of the call is in the register. -/
def Awaited (call : RpcCall) : Prop :=
  call.received = none ∧
    (call.stage = .registered ∨ call.stage = .waiting ∨ ∃ result, call.stage = .leaving result)

/-- The call is past the sending of its packet. -/
def begun (call : RpcCall) : Bool :=
  match call.stage with
  | .numbered => false
  | .registered => false
  | _ => true

end RpcCall

/-- What an event of a call does to the register. -/
def CallEvent.onNotifier (event : CallEvent) (notifier : RpcNotifier) (id : UInt64) (waiter : Nat) :
    RpcNotifier :=
  match event with
  | .register => notifier.register id waiter
  | .drop => notifier.remove id
  | .cancel => notifier.remove id
  | _ => notifier

/-! ### The answers -/

/-- `ClientInfo`, as it is read. -/
def ClientInfo.ofProto (info : Proto.ClientInfo) : ClientInfo where
  name := info.name
  version := info.version
  ip := info.ip
  keySign := info.keySign
  online := info.online
  lastConnectedTime := info.lastConnectedTime.toInt
  id := info.id

/-- `RpcMessageResponse::decode`. -/
def decodeRpcMessageResponse (buf : List UInt8) : Except String RpcMessageResponse :=
  match Proto.RpcMessageResponse.format.decode buf with
  | none => .error decodeError
  | some response =>
    .ok ⟨response.id, response.rpcResPayload.map fun res => res.list.map ClientInfo.ofProto⟩

/-- `handle` and the arm `RpcRes` of `handle_server_data`, `none` for a packet of another kind. -/
def rpcResponseOf (compression : PacketCompression) (data : List UInt8) :
    Except String (Option RpcMessageResponse) := do
  let packet ← NetPacket.new (.ofBytes data)
  if packet.isGateway = false then
    return none
  let msgType ← packet.msgType
  let packet ← compression.decompress packet
  match msgType with
  | .rpcRes => return some (← decodeRpcMessageResponse packet.payload)
  | _ => return none

/-! ### The exchange -/

/-- A client and the server it asks, with the calls so far and the packets that are or were under
way, which may be taken in any order, more than once or never. -/
structure RpcExchange where
  handler : ControlHandler
  session : Session
  compression : PacketCompression
  notifier : RpcNotifier
  calls : List RpcCall
  requests : List (List UInt8)
  responses : List (List UInt8)

/-- A call takes its number or goes on, the server or the client takes a packet, the server forwards
what another client sent, or the server changes, perhaps with a new connection of the client. -/
inductive RpcEvent where
  | create
  | call (index : Nat) (event : CallEvent)
  | serve (index : Nat) (clock : UInt64)
  | deliver (index : Nat)
  | other (bytes : List UInt8)
  | server (handler : ControlHandler) (session : Session)

namespace RpcExchange

/-- No call was made yet. -/
def start (handler : ControlHandler) (session : Session) (compression : PacketCompression) :
    RpcExchange where
  handler := handler
  session := session
  compression := compression
  notifier := .new
  calls := []
  requests := []
  responses := []

/-- `notify_response`. -/
def notifyResponse (state : RpcExchange) (response : RpcMessageResponse) : RpcExchange :=
  match state.notifier.pendingRequests.lookup response.id with
  | none => state
  | some waiter =>
    { state with
      notifier := state.notifier.remove response.id
      calls := state.calls.modify waiter fun call => { call with received := some response } }

def step (codec : HandlerCodec) (state : RpcExchange) : RpcEvent → Option RpcExchange
  | .create =>
    let notifier := state.notifier.nextId
    some { state with
      notifier := notifier
      calls := state.calls ++ [⟨notifier.rpcId, .numbered, none⟩] }
  | .call index event =>
    match state.calls[index]? with
    | none => none
    | some call =>
      let registered := decide (state.notifier.pendingRequests.lookup call.id = some index)
      match call.step registered event with
      | none => none
      | some (stage, packet) =>
        some { state with
          notifier := event.onNotifier state.notifier call.id index
          calls := state.calls.set index { call with stage := stage }
          requests := state.requests ++ packet.toList }
  | .serve index clock =>
    match state.requests[index]? with
    | none => none
    | some bytes =>
      let result := state.handler.handleData codec clock bytes
      some { state with
        responses := state.responses ++
          result.actions.filterMap (sentTo state.session.sender) }
  | .deliver index =>
    match state.responses[index]? with
    | none => none
    | some bytes =>
      match rpcResponseOf state.compression bytes with
      | .ok (some response) => some (state.notifyResponse response)
      | _ => some state
  | .other bytes => some { state with responses := state.responses ++ [bytes] }
  | .server handler session => some { state with handler := handler, session := session }

/-- The calls of one client to one server as a machine. -/
def machine (keySign : String → String) : Machine RpcExchange RpcEvent where
  step := step (wireCodec keySign).toHandlerCodec

/-- The list of the server for this client. -/
def serverList (state : RpcExchange) : List Server.ClientInfo :=
  state.handler.networkState.clientInfoList state.session.ip

/-- The call waits, and the list of the server is this one. -/
def Waits (index : Nat) (list : List Server.ClientInfo) (state : RpcExchange) : Prop :=
  (∃ call, state.calls[index]? = some call ∧ call.stage = .waiting) ∧ list = state.serverList

end RpcExchange

/-- The server has confirmed the session of the client, whose connection lives. -/
structure Serves (handler : ControlHandler) (session : Session) : Prop where
  active : handler.session = some session
  confirmed : session.registrationStatus = .confirmed
  alive : handler.senderAlive = true

/-- The encoded list, which the number of its call makes a response. -/
def encodedList (list : List Server.ClientInfo) : List UInt8 :=
  Proto.ClientListResponse.format.encode ⟨list.map clientInfoToProto⟩

/-- What is needed of an event: there are numbers left, and a list can be written. -/
def RpcExchange.Fits (state : RpcExchange) : RpcEvent → Prop
  | .create => state.calls.length + 1 < 2 ^ 64
  | .serve _ _ => (encodedList state.serverList).length < 2 ^ 63
  | .server handler session => Serves handler session
  | _ => True

instance (handler : ControlHandler) (session : Session) : Decidable (Serves handler session) :=
  decidable_of_iff (handler.session = some session ∧
    session.registrationStatus = .confirmed ∧ handler.senderAlive = true)
    ⟨fun ⟨active, confirmed, alive⟩ => ⟨active, confirmed, alive⟩,
      fun ⟨active, confirmed, alive⟩ => ⟨active, confirmed, alive⟩⟩

instance : ∀ (state : RpcExchange) (event : RpcEvent), Decidable (state.Fits event)
  | state, .create => inferInstanceAs (Decidable (state.calls.length + 1 < 2 ^ 64))
  | state, .serve _ _ =>
    inferInstanceAs (Decidable ((encodedList state.serverList).length < 2 ^ 63))
  | _, .server handler session => inferInstanceAs (Decidable (Serves handler session))
  | _, .call _ _ => .isTrue trivial
  | _, .deliver _ => .isTrue trivial
  | _, .other _ => .isTrue trivial

/-- A list of the server as the client reads it. -/
def readAs (list : List Server.ClientInfo) : List ClientInfo :=
  list.map fun info => ClientInfo.ofProto (clientInfoToProto info)

/-- What another client had sent over the connection reads as this response. -/
def Forged (compression : PacketCompression) (foreign : List UInt8 → Prop)
    (response : RpcMessageResponse) : Prop :=
  ∃ bytes, foreign bytes ∧ rpcResponseOf compression bytes = .ok (some response)

/-- A call returns a list that the server held while the call was waiting, or it took what another
client had sent under its number for the answer, or it failed in one of two ways; no two calls have
one number, and the register holds the waiters of the calls that are neither answered nor over. -/
structure Answers (keySign : String → String) (start : RpcExchange) (events : List RpcEvent)
    (final : RpcExchange) : Prop where
  returned : ∀ index call result, final.calls[index]? = some call → call.stage = .returned result →
    (∃ list, result.result call.id = .ok (readAs list) ∧
      (RpcExchange.machine keySign).Sometime (RpcExchange.Waits index list) start events) ∨
    (∃ response, result = .waited (.received response) ∧ response.id = call.id ∧
      Forged start.compression (fun bytes => RpcEvent.other bytes ∈ events) response) ∨
    result.result call.id = .error "timeout waiting for response" ∨
    ∃ message, result = .notSent message ∧ result.result call.id = .error message
  distinct : (final.calls.map RpcCall.id).Nodup
  registered : ∀ id, (final.notifier.pendingRequests.lookup id).isSome = true ↔
    ∃ call ∈ final.calls, call.id = id ∧ call.Awaited

end Vnt.Client
