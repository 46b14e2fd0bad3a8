/-
This file embeds how the messages of a registration become bytes and are read from them, for the
client and for the server. The two programs keep types of their own beside those of the description:
the mode of a registration is a number on the wire, and the length of a prefix has more bits there
than in the programs. What one of the two programs writes, the other reads, and a request even when
its fields come in another order or among fields of a later version.
-/

import Vnt.Protocol.ControlMessage
import Vnt.Registration.Coordination

namespace Vnt.Registration

open Vnt.Base.Protobuf Vnt.Server

/-- The text of an error of `prost`; what it says about the place is left out. -/
def decodeError : String := "failed to decode Protobuf message"

/-! ### Requests -/

/-- `RegRequestMsg`, with the number of the server. -/
structure NumberedRegRequest extends RegRequestMsg where
  serverId : UInt32
  deriving DecidableEq, Repr

/-- `registration_mode as i32`. -/
def modeToProto : RegistrationMode → Int32
  | .normal => 0
  | .preRegister => 1

/-- `msg.registration_mode()`: a number that is no mode stands for the default. -/
def modeOfProto (value : Int32) : RegistrationMode := if value = 1 then .preRegister else .normal

/-- `RegRequestMsg::to`. -/
def NumberedRegRequest.toProto (msg : NumberedRegRequest) : Proto.RegRequestMsg where
  networkCode := msg.networkCode
  deviceId := msg.deviceId
  ip := msg.ip
  name := msg.name
  version := msg.version
  keySign := msg.keySign
  ipVariable := msg.ipVariable
  serverId := msg.serverId
  registrationMode := modeToProto msg.registrationMode

/-- `RegRequestMsg::from`. -/
def NumberedRegRequest.ofProto (msg : Proto.RegRequestMsg) : NumberedRegRequest where
  networkCode := msg.networkCode
  deviceId := msg.deviceId
  ip := msg.ip
  name := msg.name
  version := msg.version
  keySign := msg.keySign
  ipVariable := msg.ipVariable
  serverId := msg.serverId
  registrationMode := modeOfProto msg.registrationMode

theorem NumberedRegRequest.ofProto_toProto (msg : NumberedRegRequest) :
    ofProto msg.toProto = msg := by
  obtain ⟨⟨networkCode, deviceId, ip, name, version, keySign, ipVariable, mode⟩, serverId⟩ := msg
  cases mode <;> rfl

/-- `RequestMessage`, with the number of the server. -/
inductive NumberedRequest where
  | reg (msg : NumberedRegRequest)
  | confirmReg
  deriving DecidableEq, Repr

namespace NumberedRequest

def toProto : NumberedRequest → Proto.RequestMessage
  | .reg msg => ⟨some (.reg msg.toProto)⟩
  | .confirmReg => ⟨some (.confirmReg ())⟩

/-- `RequestMessage::encode`. -/
def encode (request : NumberedRequest) : List UInt8 :=
  Proto.RequestMessage.format.encode request.toProto

/-- The request of a payload. -/
def ofPayload : Option Proto.RequestPayload → Except String NumberedRequest
  | none => .error "unsupported"
  | some (.reg msg) => .ok (.reg (.ofProto msg))
  | some (.confirmReg _) => .ok .confirmReg

/-- `RequestMessage::from_slice`. -/
def fromSlice (buf : List UInt8) : Except String NumberedRequest :=
  match Proto.RequestMessage.format.decode buf with
  | none => .error decodeError
  | some msg => ofPayload msg.requestPayload

theorem ofPayload_toProto (request : NumberedRequest) :
    ofPayload request.toProto.requestPayload = .ok request := by
  cases request with
  | reg msg => exact congrArg (fun msg => Except.ok (reg msg)) msg.ofProto_toProto
  | confirmReg => rfl

/-- A request that fits into memory is read as it was written. -/
theorem fromSlice_encode {request : NumberedRequest} (fits : request.encode.length < 2 ^ 64) :
    fromSlice request.encode = .ok request := by
  unfold fromSlice encode
  rw [Proto.RequestMessage.format.decode_encode fits]
  exact request.ofPayload_toProto

/-- A registration whose fields are arranged in another way, with others among them. -/
def arranged (fields : List Field) : List UInt8 :=
  encodeFields [⟨1, .delimited (encodeFields fields)⟩]

/-- A registration is read from every arrangement of its fields, whatever fields of other numbers
are among them. -/
theorem fromSlice_arranged {msg : NumberedRegRequest} {fields : List Field}
    (fits : (arranged fields).length < 2 ^ 64) (valid : ∀ field ∈ fields, field.Valid)
    (arranges : ∀ tag ∈ Proto.RegRequestMsg.format.tags,
      fields.filter (fun field => field.tag = tag) =
        (Proto.RegRequestMsg.format.fields msg.toProto).filter fun field => field.tag = tag) :
    fromSlice (arranged fields) = .ok (.reg msg) := by
  have inner : Proto.RegRequestMsg.format.decode (encodeFields fields) = some msg.toProto :=
    Proto.RegRequestMsg.separate_format.decode_eq valid arranges
  have wrapped : ∀ field ∈ [(⟨1, .delimited (encodeFields fields)⟩ : Vnt.Base.Protobuf.Field)],
      field.Valid :=
    valid_of_shaped fits (List.forall_mem_singleton.mpr ⟨Nat.one_pos, show 1 < 2 ^ 29 by decide⟩)
      (List.forall_mem_singleton.mpr trivial)
  have outer : Proto.RequestMessage.format.decode (arranged fields) =
      some ⟨some (.reg msg.toProto)⟩ := by
    unfold Format.decode Format.mergeBytes arranged
    rw [decodeFields_encodeFields wrapped, Option.bind_some]
    show ((((Proto.RegRequestMsg.format.decode (encodeFields fields)).map some).map _).map _).map _
      >>= _ = _
    rw [inner]
    rfl
  unfold fromSlice
  rw [outer]
  exact ofPayload_toProto (.reg msg)

end NumberedRequest

/-! ### Responses -/

/-- `RegResponseMsg::to`. -/
def RegResponseMsg.toProto (msg : RegResponseMsg) : Proto.RegResponseMsg where
  ip := msg.ip
  prefixLen := msg.prefixLen.toUInt32
  gateway := msg.gateway
  serverVersion := msg.serverVersion

/-- `RegResponseMsg::from`. -/
def RegResponseMsg.ofProto (msg : Proto.RegResponseMsg) : RegResponseMsg where
  ip := msg.ip
  prefixLen := (msg.prefixLen &&& 0xFF).toUInt8
  gateway := msg.gateway
  serverVersion := msg.serverVersion

theorem RegResponseMsg.ofProto_toProto (msg : RegResponseMsg) : ofProto msg.toProto = msg := by
  obtain ⟨ip, prefixLen, gateway, serverVersion⟩ := msg
  have kept : (prefixLen.toUInt32 &&& 0xFF).toUInt8 = prefixLen := by
    rw [UInt32.toUInt8_and, UInt8.toUInt8_toUInt32]
    exact UInt8.and_neg_one
  exact congrArg (RegResponseMsg.mk ip · gateway serverVersion) kept

namespace ResponseMessage

def toProto : ResponseMessage → Proto.ResponseMessage
  | .reg msg => ⟨some (.reg msg.toProto)⟩
  | .error msg => ⟨some (.error ⟨msg.code, msg.message⟩)⟩
  | .confirmReg msg => ⟨some (.confirmReg ⟨msg.success⟩)⟩

/-- `ResponseMessage::encode`. -/
def encode (response : ResponseMessage) : List UInt8 :=
  Proto.ResponseMessage.format.encode response.toProto

/-- The response of a payload. -/
def ofPayload : Option Proto.ResponsePayload → Except String ResponseMessage
  | none => .error "unsupported"
  | some (.reg msg) => .ok (.reg (.ofProto msg))
  | some (.error msg) => .ok (.error ⟨msg.code, msg.message⟩)
  | some (.confirmReg msg) => .ok (.confirmReg ⟨msg.success⟩)

/-- `ResponseMessage::from_slice`. -/
def fromSlice (buf : List UInt8) : Except String ResponseMessage :=
  match Proto.ResponseMessage.format.decode buf with
  | none => .error decodeError
  | some msg => ofPayload msg.responsePayload

theorem ofPayload_toProto (response : ResponseMessage) :
    ofPayload response.toProto.responsePayload = .ok response := by
  cases response with
  | reg msg => exact congrArg (fun msg => Except.ok (reg msg)) msg.ofProto_toProto
  | error msg => rfl
  | confirmReg msg => rfl

/-- A response that fits into memory is read as it was written. -/
theorem fromSlice_encode {response : ResponseMessage} (fits : response.encode.length < 2 ^ 64) :
    fromSlice response.encode = .ok response := by
  unfold fromSlice encode
  rw [Proto.ResponseMessage.format.decode_encode fits]
  exact response.ofPayload_toProto

end ResponseMessage

end Vnt.Registration
