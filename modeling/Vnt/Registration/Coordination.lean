/-
This file embeds how a client registers with several servers at once. The first server gives an
address; the others are asked for the same one, all at the same time, and when all have registered
the client, all are asked to confirm. The servers are independent, each with its own table, which
other clients change at any time, and what they answer arrives in any order. As soon as a server has
a session of the client, other things than its answers are sent over the connection as well, and the
client takes whatever comes first for the answer it waits for. Each step of a server and each step
of the client is one event.
-/

import Vnt.Base.Machine
import Vnt.Server.NetworkState

namespace Vnt.Registration

open Vnt.Base Vnt.Server

/-! ### Messages -/

/-- `RegResponseMsg`. -/
structure RegResponseMsg where
  ip : Ipv4Addr
  prefixLen : UInt8
  gateway : Ipv4Addr
  serverVersion : String
  deriving DecidableEq, Repr

/-- `ErrorResponseMsg`. -/
structure ErrorResponseMsg where
  code : UInt32
  message : String
  deriving DecidableEq, Repr

/-- `ConfirmRegResponseMsg`. -/
structure ConfirmRegResponseMsg where
  success : Bool
  deriving DecidableEq, Repr

inductive RequestMessage where
  | reg (request : RegRequestMsg)
  | confirmReg
  deriving DecidableEq, Repr

inductive ResponseMessage where
  | reg (response : RegResponseMsg)
  | error (response : ErrorResponseMsg)
  | confirmReg (response : ConfirmRegResponseMsg)
  deriving DecidableEq, Repr

/-! ### The client's configuration -/

/-- `Config`: the fields a registration is made from. -/
structure Config where
  networkCode : String
  deviceId : String
  deviceName : String
  ip : Option Ipv4Addr
  keySign : Option String
  deriving DecidableEq, Repr

/-- `ConnectRegConfig`: the configuration towards one server. -/
structure ConnectRegConfig where
  networkCode : String
  deviceId : String
  deviceName : String
  ip : Option Ipv4Addr
  keySign : Option String
  ipVariable : Bool
  deriving DecidableEq, Repr

/-- `Config::to_connect_config`. -/
def Config.toConnectConfig (config : Config) : ConnectRegConfig where
  networkCode := config.networkCode
  deviceId := config.deviceId
  deviceName := config.deviceName
  ip := config.ip
  keySign := config.keySign
  ipVariable := config.ip.isNone

/-- The version of the client, and the one of the server. -/
def clientVersion : String := "2.0.0"

def serverVersion : String := "2.0.1"

/-- `ConnectRegConfig::reg_msg_request`. -/
def ConnectRegConfig.regMsgRequest (config : ConnectRegConfig) (mode : RegistrationMode) :
    RegRequestMsg where
  networkCode := config.networkCode
  deviceId := config.deviceId
  ip := config.ip
  name := config.deviceName
  version := clientVersion
  keySign := config.keySign
  ipVariable := config.ipVariable
  registrationMode := mode

/-! ### One server -/

/-- What a server sends over a connection: its answers, and anything else, such as a packet of
another client or a ping, with what `ResponseMessage::from_slice` reads from it. -/
inductive Frame where
  | answer (response : ResponseMessage)
  | other (content : Except String ResponseMessage)
  deriving DecidableEq

/-- `ResponseMessage::from_slice`. -/
def Frame.content : Frame → Except String ResponseMessage
  | .answer response => .ok response
  | .other content => content

def Frame.isAnswer : Frame → Bool
  | .answer _ => true
  | .other _ => false

/-- How far the client has come with a server: it sent nothing, it waits for the answer to a
request, or it has the result. -/
inductive Exchange where
  | idle
  | waiting
  | collected (result : Except String ResponseMessage)
  deriving DecidableEq

/-- A `ServerTurnManager` and the server it is connected to: its network state, and the session of
the connection. The requests are on their way to the server, the frames on their way back, and in
between is the answer that the server is about to send. -/
structure Link where
  config : ConnectRegConfig
  network : NetworkState
  session : Option Session
  requests : List RequestMessage
  response : Option ResponseMessage
  frames : List Frame
  exchange : Exchange

namespace Link

/-- The answer of `handle_reg` for a session. -/
def regResponse (link : Link) (session : Session) : RegResponseMsg where
  ip := session.ip
  prefixLen := UInt8.ofNat link.network.net.prefixLen.val
  gateway := link.network.gateway
  serverVersion := serverVersion

/-- `handle_reg` after the checks, for a new connection. -/
def handleReg (link : Link) (req : RegRequestMsg) (randomId : RandomId) (sender : Sender)
    (now : SystemTime) (stats : StatsRef) : Link :=
  match link.network.register req randomId sender now stats with
  | .ok (network, session, _) =>
    { link with
      network := network
      session := some session
      response := some (.reg (link.regResponse session)) }
  | .error message => { link with response := some (.error ⟨400, message⟩) }

/-- `handle_confirm_reg`; the row is saved first. -/
def handleConfirmReg (link : Link) (saved : Except String Unit) : Option Link :=
  match link.session with
  | none => none
  | some session =>
    if session.registrationStatus ≠ .pendingConfirmation then none
    else
      match saved with
      | .error message =>
        some { link with
          response := some (.error ⟨500, s!"Failed to save registration: {message}"⟩) }
      | .ok () =>
        some { link with
          session := some { session with registrationStatus := .confirmed }
          response := some (.confirmReg ⟨true⟩) }

/-- The result of the exchange, when the client has it. -/
def result (link : Link) : Option (Except String ResponseMessage) :=
  match link.exchange with
  | .collected result => some result
  | _ => none

/-- A request goes out. -/
def send (link : Link) (request : RequestMessage) : Link :=
  { link with requests := link.requests ++ [request], exchange := .waiting }

/-- `connect_and_reg` in its first half. -/
def requestReg (link : Link) : Link := link.send (.reg (link.config.regMsgRequest .preRegister))

/-- `set_ip`, and the request goes out. -/
def requestIp (ip : Ipv4Addr) (link : Link) : Link :=
  { link with config := { link.config with ip := some ip } }.requestReg

/-- `send_confirm` in its first half. -/
def requestConfirm (link : Link) : Link := link.send .confirmReg

end Link

/-! ### The client -/

/-- Where `coordinated_registration` is. -/
inductive Phase where
  | first
  | others (reg : RegResponseMsg)
  | confirming (reg : RegResponseMsg)
  | finished (result : Except String RegResponseMsg)
  deriving DecidableEq

/-- The client and its servers. -/
structure Coordination where
  phase : Phase
  links : List Link

/-- Why the pre-registration with a server failed. -/
def preRegistrationFailure (number : Nat) : Except String ResponseMessage → Option String
  | .ok (.reg _) => none
  | .ok (.error response) => some s!"Server {number} registration failed: {response.message}"
  | .error message => some s!"Server {number} registration failed: {message}"
  | .ok (.confirmReg _) => some s!"Unexpected response from server {number}"

/-- Why the confirmation of a server failed, the failures of `send_confirm` included. -/
def confirmationFailure (number : Nat) : Except String ResponseMessage → Option String
  | .ok (.confirmReg response) =>
    if response.success then none else some s!"Server {number} confirmation failed"
  | .ok (.error response) =>
    some s!"Server {number} confirmation failed: Confirm failed: {response.message}"
  | .ok (.reg _) => some s!"Server {number} confirmation failed: Unexpected response"
  | .error message => some s!"Server {number} confirmation failed: {message}"

/-- The first failure among the results, which are numbered from a start on. -/
def firstFailure (failure : Nat → Except String ResponseMessage → Option String) (start : Nat)
    (results : List (Except String ResponseMessage)) : Option String :=
  (results.zipIdx start).findSome? fun numbered => failure numbered.2 numbered.1

namespace Coordination

def finish (state : Coordination) (result : Except String RegResponseMsg) : Coordination :=
  { state with phase := .finished result }

/-- Step 3 begins: all servers are asked to confirm. -/
def beginConfirm (state : Coordination) (reg : RegResponseMsg) : Coordination :=
  ⟨.confirming reg, state.links.map Link.requestConfirm⟩

/-- Step 1 ends: the others are asked for the address, when there are any. -/
def afterFirst (first : Link) (rest : List Link) (response : ResponseMessage) : Coordination :=
  let state : Coordination := ⟨.first, first :: rest⟩
  match response with
  | .reg reg =>
    if rest = [] then state.beginConfirm reg
    else ⟨.others reg, first :: rest.map (Link.requestIp reg.ip)⟩
  | .error response =>
    state.finish (.error s!"First server registration failed: {response.message}")
  | .confirmReg _ => state.finish (.error "Unexpected response from first server")

/-- The client goes on as far as its results allow. -/
def advance (state : Coordination) : Coordination :=
  match state.phase, state.links with
  | .first, first :: rest =>
    match first.result with
    | none => state
    | some (.error message) => state.finish (.error message)
    | some (.ok response) => afterFirst first rest response
  | .others reg, _ :: rest =>
    match rest.mapM Link.result with
    | none => state
    | some results =>
      match firstFailure preRegistrationFailure 1 results with
      | some message => state.finish (.error message)
      | none => state.beginConfirm reg
  | .confirming reg, links =>
    match links.mapM Link.result with
    | none => state
    | some results =>
      match firstFailure confirmationFailure 0 results with
      | some message => state.finish (.error message)
      | none => state.finish (.ok reg)
  | _, _ => state

/-- `coordinated_registration` at its start. -/
def start (config : Config) (networks : List NetworkState) : Coordination :=
  match networks.map fun network =>
    Link.mk config.toConnectConfig network none [] none [] .idle with
  | [] => ⟨.finished (.error "No servers to register"), []⟩
  | first :: rest => ⟨.first, first.requestReg :: rest⟩

end Coordination

/-- A server handles the request of the client or refuses a registration, its answer goes out or
something else does, a frame reaches the client or fails to, or other clients change the table of a
server. -/
inductive CoordinationEvent where
  | register (index : Nat) (randomId : RandomId) (sender : Sender) (now : SystemTime)
      (stats : StatsRef)
  | refuse (index : Nat) (message : String)
  | confirm (index : Nat) (saved : Except String Unit)
  | respond (index : Nat)
  | push (index : Nat) (content : Except String ResponseMessage)
  | receive (index : Nat)
  | fail (index : Nat) (message : String)
  | change (index : Nat) (table : NetworkStateInner)

/-- The server an event is about. -/
def CoordinationEvent.index : CoordinationEvent → Nat
  | .register index .. | .refuse index _ | .confirm index _ | .respond index | .push index _
  | .receive index | .fail index _ | .change index _ => index

namespace Coordination

/-- One link after an event on it, `none` when the event is not enabled. The server handles one
request at a time, and sends its answer before the next. -/
def stepLink (link : Link) : CoordinationEvent → Option Link
  | .register _ randomId sender now stats =>
    match link.requests, link.response with
    | .reg req :: rest, none =>
      some ({ link with requests := rest }.handleReg req randomId sender now stats)
    | _, _ => none
  | .refuse _ message =>
    match link.requests, link.response with
    | .reg _ :: rest, none =>
      some { link with requests := rest, response := some (.error ⟨400, message⟩) }
    | _, _ => none
  | .confirm _ saved =>
    match link.requests, link.response with
    | .confirmReg :: rest, none => { link with requests := rest }.handleConfirmReg saved
    | _, _ => none
  | .respond _ =>
    link.response.map fun response =>
      { link with response := none, frames := link.frames ++ [.answer response] }
  | .push _ content =>
    if link.session.isSome = true then
      some { link with frames := link.frames ++ [.other content] }
    else none
  | .receive _ =>
    match link.exchange, link.frames with
    | .waiting, frame :: rest =>
      some { link with frames := rest, exchange := .collected frame.content }
    | _, _ => none
  | .fail _ message =>
    match link.exchange with
    | .waiting => some { link with exchange := .collected (.error message) }
    | _ => none
  | .change _ table => some { link with network := { link.network with leaseState := table } }

/-- The client and its servers as a machine. -/
def machine : Machine Coordination CoordinationEvent where
  step := fun state event =>
    match state.links[event.index]? with
    | none => none
    | some link =>
      (stepLink link event).map fun next =>
        advance { state with links := state.links.set event.index next }

end Coordination

end Vnt.Registration
