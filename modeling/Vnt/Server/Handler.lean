/-
This file embeds what the server does with the bytes it receives on a connection that has
registered. A packet for the gateway is answered to its sender, a unicast goes to the best route
or to the local sender of its destination, and the three kinds of broadcast go to the local
senders they select. What is done is given as a list of actions, in order; the senders are taken
from the network state of the session, and the routes from the manager of the peers.
-/

import Vnt.Protocol.SelectiveBroadcast
import Vnt.Server.ClientList
import Vnt.Server.Icmp
import Vnt.Server.PeerServer

namespace Vnt.Server

open Vnt.Base

/-- `ClientInfo` of the list a client asks for. -/
structure ClientInfo where
  name : String
  version : String
  ip : Ipv4Addr
  keySign : Option String
  online : Bool
  lastConnectedTime : Nat
  id : String
  deriving DecidableEq, Repr

/-- The messages whose bytes the handler reads or writes as a whole: whether bytes are a
`ConfirmReg`, a request with its number and whether it asks for the clients, and the two
lists. -/
structure HandlerCodec where
  isConfirmReg : List UInt8 → Bool
  decodeRpcRequest : List UInt8 → Except String (UInt64 × Bool)
  encodeClientListResponse : UInt64 → List ClientInfo → List UInt8
  encodeClientSimpleInfoList : ClientSimpleInfoList → List UInt8

/-- One thing that the handling of a packet does. -/
inductive HandlerAction where
  | trySend (sender : Sender) (data : List UInt8)
  | forward (peer : PeerId) (message : ServerForwardData)
  | recordTx (ip : Ipv4Addr) (bytes : Nat)
  | recordRx (ip : Ipv4Addr) (bytes : Nat)
  | updateClientLatency (networkCode : String) (ip : Ipv4Addr) (latencyMs : UInt32)
  | confirmReg
  deriving DecidableEq, Repr

/-- `ControlHandler`: the session, with the network state it holds, the manager of the peers,
which messages a connection takes as a datagram, and whether the connection still lives. -/
structure ControlHandler where
  session : Option Session
  networkState : NetworkState
  peerManager : Option PeerServerManager
  accepts : PeerConnection → ServerMessage → Bool
  senderAlive : Bool

/-- What the handling of a packet did, and how it ended. -/
structure HandlerResult where
  actions : List HandlerAction
  outcome : Except Fault Unit

namespace HandlerResult

/-- The handling returned. -/
def done (actions : List HandlerAction) : HandlerResult := ⟨actions, .ok ()⟩

/-- The handling returned an error, after it had done something. -/
def fail (actions : List HandlerAction) (message : String) : HandlerResult :=
  ⟨actions, .error (.error message)⟩

end HandlerResult

/-- `NetPacket::decr_ttl` of the server, `none` for `false`. -/
def decrTtl (packet : NetPacket) : Option NetPacket :=
  if packet.header.currTtl ≤ 1 then none
  else
    some { packet with
      header := { packet.header with
        ttlByte := (packet.header.ttlByte &&& 0xF0) ||| (packet.header.currTtl - 1) } }

namespace NetworkState

/-- `client_info_list`. -/
def clientInfoList (state : NetworkState) (excludeIp : Ipv4Addr) : List ClientInfo :=
  state.leaseState.deviceMap.values.filterMap fun entry =>
    match entry.ip with
    | some ip =>
      if ip = excludeIp then none
      else
        some
          { name := entry.deviceName
            version := entry.deviceVersion
            ip := ip
            keySign := entry.keySign
            online := entry.isConnected
            lastConnectedTime := systemTimeToSecs entry.lastConnectTime
            id := entry.deviceId }
    | none => none

/-- The senders of the addresses that are selected, but not that of the source. -/
def broadcastList (state : NetworkState) (src : Ipv4Addr) (selects : Ipv4Addr → Bool) :
    List Sender :=
  (state.senderMap.entries.filter fun entry =>
    selects entry.1 && decide (entry.1 ≠ src)).map fun entry => entry.2

end NetworkState

namespace ControlHandler

/-- `handle_rpc`. -/
def handleRpc (codec : HandlerCodec) (handler : ControlHandler) (session : Session)
    (packet : NetPacket) : HandlerResult :=
  match codec.decodeRpcRequest packet.payload with
  | .error message => .fail [] message
  | .ok (_, false) => .done []
  | .ok (id, true) =>
    let list := handler.networkState.clientInfoList session.ip
    .done [.trySend session.sender
      (gatewayPacket .rpcRes 0 (codec.encodeClientListResponse id list))]

/-- `handle_gateway` on a `PingTurn`. -/
def handlePingTurn (codec : HandlerCodec) (handler : ControlHandler) (session : Session)
    (packet : NetPacket) : HandlerResult :=
  let pong := HandlerResult.done [.trySend session.sender (packet.setMsgType .pongTurn).intoBytes]
  if packet.payload.length = 8 then pong
  else if packet.payload.length ≠ 8 + 8 then .done []
  else
    let dataVersion := ofBigEndian (packet.payload.drop 8)
    match handler.networkState.leaseState.changedClientSimpleList session.ip dataVersion with
    | some list =>
      let time := Int.bmod (ofBigEndian (packet.payload.take 8)) (2 ^ 64)
      .done [.trySend session.sender (gatewayPacket .pushClientIps 0
        (codec.encodeClientSimpleInfoList { list with time := time }))]
    | none => pong

/-- `handle_gateway` on a `Pong`. -/
def handlePong (session : Session) (now : UInt64) (packet : NetPacket) : HandlerResult :=
  if packet.payload.length = 8 then
    let rtt := now.toNat - ofBigEndian packet.payload
    .done [.updateClientLatency session.networkCode session.ip (UInt32.ofNat (rtt / 2))]
  else .done []

/-- `handle_gateway`. -/
def handleGateway (codec : HandlerCodec) (handler : ControlHandler) (session : Session)
    (now : UInt64) (packet : NetPacket) (msgType : MsgType) : HandlerResult :=
  if handler.senderAlive = false then .fail [] "Sender is already dropped"
  else if packet.header.currTtl = 0 then .done []
  else
    match msgType with
    | .turn =>
      match handleIcmpPing packet with
      | .ok (some reply) => .done [.trySend session.sender reply]
      | .ok none => .done []
      | .error fault => ⟨[], .error fault⟩
    | .pingTurn => handler.handlePingTurn codec session packet
    | .pong => handlePong session now packet
    | .rpcReq => handler.handleRpc codec session packet
    | _ => .done []

/-- The local delivery of a unicast. -/
def deliverLocal (handler : ControlHandler) (dest : Ipv4Addr) (data : List UInt8) :
    List HandlerAction :=
  match handler.networkState.senderMap.lookup dest with
  | some sender => [.recordRx dest data.length, .trySend sender data]
  | none => []

/-- The unicast arm of `handle_data`, after the time to live was taken. -/
def handleUnicast (handler : ControlHandler) (session : Session) (dest : Ipv4Addr)
    (data : List UInt8) : List HandlerAction :=
  match handler.peerManager with
  | some manager =>
    match manager.forwardWithBestRoute handler.accepts session.networkCode dest data with
    | some (peer, message) => [.forward peer message]
    | none => handler.deliverLocal dest data
  | none => handler.deliverLocal dest data

/-- Put a packet into the senders of a broadcast. -/
def broadcast (senders : List Sender) (data : List UInt8) : List HandlerAction :=
  senders.map fun sender => .trySend sender data

/-- The arms of the two selective broadcasts; `selects` tells from the addresses of the message
and the address of a client whether the client is a target. -/
def handleSelective (handler : ControlHandler) (packet : NetPacket)
    (selects : List Ipv4Addr → Ipv4Addr → Bool) : HandlerResult :=
  match SelectiveBroadcast.fromSlice packet.payload with
  | .error message => .fail [] message
  | .ok selective =>
    match NetPacket.new (.ofBytes selective.data) with
    | .error message => .fail [] message
    | .ok inner =>
      match decrTtl inner with
      | none => .done []
      | some inner =>
        .done (broadcast (handler.networkState.broadcastList packet.header.srcId
          (selects selective.ips)) inner.intoBytes)

/-- The arms of `handle_data`, for a packet that is not for the gateway. -/
def handleType (handler : ControlHandler) (session : Session) (packet : NetPacket) :
    MsgType → HandlerResult
  | .turn | .ping | .pong | .punchStart1 | .punchStart2 | .quic =>
    match decrTtl packet with
    | none => .done []
    | some packet =>
      .done (handler.handleUnicast session packet.header.destId packet.intoBytes)
  | .broadcast =>
    match decrTtl packet with
    | none => .done []
    | some packet =>
      .done (broadcast (handler.networkState.broadcastList packet.header.srcId fun _ => true)
        packet.intoBytes)
  | .excludeBroadcast => handler.handleSelective packet fun ips ip => !decide (ip ∈ ips)
  | .targetBroadcast => handler.handleSelective packet fun ips ip => decide (ip ∈ ips)
  | _ => .done []

/-- `handle_data`. -/
def handleData (codec : HandlerCodec) (handler : ControlHandler) (now : UInt64)
    (buf : List UInt8) : HandlerResult :=
  match handler.session with
  | none => .fail [] "Session is not active"
  | some session =>
    match session.registrationStatus with
    | .pendingConfirmation =>
      if codec.isConfirmReg buf = true then .done [.confirmReg] else .done []
    | .confirmed =>
      match NetPacket.new (.ofBytes buf) with
      | .error message => .fail [] message
      | .ok packet =>
        match packet.msgType with
        | .error message => .fail [] message
        | .ok msgType =>
          if packet.isGateway = true then handler.handleGateway codec session now packet msgType
          else
            let result := handler.handleType session packet msgType
            { result with
              actions := .recordTx packet.header.srcId buf.length :: result.actions }

end ControlHandler

end Vnt.Server
