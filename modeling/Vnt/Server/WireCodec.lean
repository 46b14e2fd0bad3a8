/-
This file gives the server the codec of the message descriptions, which its handlers were left to
take as it comes: what is a request, which requests ask for the clients of the network, and how the
answers and the lists of clients become bytes.
-/

import Vnt.Protocol.RpcMessage
import Vnt.Registration.WireFormat
import Vnt.Server.ClientConnection

namespace Vnt.Server

open Vnt.Base.Protobuf
open Vnt.Registration (NumberedRequest decodeError)

/-- The request as the service takes it, which has no use for the number of the server. -/
def toServer : NumberedRequest → RequestMessage
  | .reg msg => .reg msg.toRegRequestMsg
  | .confirmReg => .confirmReg

/-- `proto::ClientInfo` of an entry; the time is cast to a number with a sign. -/
def clientInfoToProto (info : ClientInfo) : Proto.ClientInfo where
  name := info.name
  version := info.version
  ip := info.ip
  keySign := info.keySign
  online := info.online
  lastConnectedTime := Int64.ofNat info.lastConnectedTime
  id := info.id

/-- `ClientSimpleInfoList::encode`. -/
def encodeClientSimpleInfoList (list : ClientSimpleInfoList) : List UInt8 :=
  Proto.ClientSimpleInfoList.format.encode
    { dataVersion := UInt64.ofNat list.dataVersion
      list := list.list.map fun info => ⟨info.ip, info.online⟩
      isAll := list.isAll
      time := Int64.ofInt list.time }

/-- `RequestMessage::from_slice`, as the service takes it. -/
def decodeRequest (buf : List UInt8) : Except String RequestMessage :=
  match NumberedRequest.fromSlice buf with
  | .error message => .error message
  | .ok request => .ok (toServer request)

/-- `matches!(RequestMessage::from_slice(buf), Ok(RequestMessage::ConfirmReg(_)))`. -/
def isConfirmReg (buf : List UInt8) : Bool :=
  match decodeRequest buf with
  | .ok .confirmReg => true
  | _ => false

/-- The codec of the message descriptions, with the sign of a secret. -/
def wireCodec (keySign : String → String) : ConnectionCodec where
  isConfirmReg := isConfirmReg
  decodeRpcRequest buf :=
    match Proto.RpcMessageRequest.format.decode buf with
    | none => .error decodeError
    | some request => .ok (request.id, request.rpcReqPayload.isSome)
  encodeClientListResponse id list :=
    Proto.RpcMessageResponse.format.encode ⟨id, some ⟨list.map clientInfoToProto⟩⟩
  encodeClientSimpleInfoList := encodeClientSimpleInfoList
  encodeRegResponse ip prefixLen gateway :=
    Registration.ResponseMessage.encode (.reg ⟨ip, prefixLen, gateway, Registration.serverVersion⟩)
  encodeErrorResponse code message := Registration.ResponseMessage.encode (.error ⟨code, message⟩)
  encodeConfirmRegResponse success := Registration.ResponseMessage.encode (.confirmReg ⟨success⟩)
  keySign := keySign
  decodeRequest := decodeRequest
  isConfirmReg_iff buf := by
    unfold isConfirmReg
    split
    · next confirms => exact iff_of_true rfl confirms
    · next other => exact iff_of_false Bool.false_ne_true other

/-! ### The packets of the gateway -/

/-- What an action puts on the connection of the session. -/
def sentTo (sender : Sender) : HandlerAction → Option (List UInt8)
  | .trySend receiver data => if receiver = sender then some data else none
  | _ => none

theorem msgType_gatewayHeader (msgType : MsgType) (seq : UInt32) :
    MsgType.ofByte (gatewayHeader msgType seq).msgType = .ok msgType := by
  have kept : (gatewayHeader msgType seq).msgType = msgType.toByte := by
    show ((msgType.toByte &&& 0x7F) ||| 0x80) &&& 0x7F = msgType.toByte
    cases msgType <;> decide
  rw [kept, MsgType.ofByte_toByte]

theorem currTtl_gatewayHeader (msgType : MsgType) (seq : UInt32) :
    (gatewayHeader msgType seq).currTtl ≠ 0 := by
  show (((1 : UInt8) <<< 4) ||| ((1 : UInt8) &&& 0x0F)) &&& 0x0F ≠ 0
  decide

/-- The handler of a confirmed session takes a packet of the gateway as one that is meant for the
server. -/
theorem handleData_gatewayPacket {codec : HandlerCodec} {handler : ControlHandler}
    {session : Session} {clock : UInt64} {msgType : MsgType} {payload : List UInt8}
    (active : handler.session = some session)
    (confirmed : session.registrationStatus = .confirmed) :
    handler.handleData codec clock (gatewayPacket msgType 0 payload) =
      handler.handleGateway codec session clock ⟨[], gatewayHeader msgType 0, payload, []⟩
        msgType := by
  have read : NetPacket.new (.ofBytes (gatewayPacket msgType 0 payload)) =
      .ok ⟨[], gatewayHeader msgType 0, payload, []⟩ :=
    NetPacket.new_ofBytes_intoBytes ⟨[], gatewayHeader msgType 0, payload, []⟩
  have isType : NetPacket.msgType ⟨[], gatewayHeader msgType 0, payload, []⟩ = .ok msgType :=
    msgType_gatewayHeader msgType 0
  have isGateway : NetPacket.isGateway ⟨[], gatewayHeader msgType 0, payload, []⟩ = true := by
    show (((0 : UInt8) ||| gatewayMask) &&& gatewayMask != 0) = true
    decide
  unfold ControlHandler.handleData
  rw [active]
  dsimp only
  rw [confirmed]
  dsimp only
  rw [read]
  dsimp only
  rw [isType]
  dsimp only
  rw [if_pos isGateway]

end Vnt.Server
