/-
This file gives the messages by which a client registers and learns of the other clients, as their
description declares them: each message with its fields under their numbers. The description is the
same for both programs. A request is one of two messages and a response one of three. The fields of
a registration are separate from each other, so it is read alike in whatever order they come.
-/

import Mathlib.Logic.Equiv.Option
import Vnt.Base.MessageFormat
import Vnt.Ipv4

namespace Vnt.Proto

open Vnt.Base.Protobuf Vnt.Base.Protobuf.Format

/-! ### Requests -/

structure RegRequestMsg where
  networkCode : String
  deviceId : String
  ip : Option UInt32
  name : String
  version : String
  keySign : Option String
  ipVariable : Bool
  serverId : UInt32
  registrationMode : Int32
  deriving DecidableEq, Repr

def RegRequestMsg.format : Format RegRequestMsg :=
  (implicit 1 (.refl true) .string "")
    |>.both (implicit 2 (.refl true) .string "") (.refl true)
    |>.both (optional 3 (.refl true) .fixed32) (.refl true)
    |>.both (implicit 4 (.refl true) .string "") (.refl true)
    |>.both (implicit 5 (.refl true) .string "") (.refl true)
    |>.both (optional 6 (.refl true) .string) (.refl true)
    |>.both (implicit 7 (.refl true) .bool false) (.refl true)
    |>.both (implicit 8 (.refl true) .fixed32 0) (.refl true)
    |>.both (implicit 9 (.refl true) .int32 0) (.refl true)
    |>.ofEquiv {
      toFun := fun msg => ((((((((msg.networkCode, msg.deviceId), msg.ip), msg.name), msg.version),
        msg.keySign), msg.ipVariable), msg.serverId), msg.registrationMode)
      invFun := fun ((((((((networkCode, deviceId), ip), name), version), keySign), ipVariable),
        serverId), registrationMode) =>
          ⟨networkCode, deviceId, ip, name, version, keySign, ipVariable, serverId,
            registrationMode⟩
      left_inv := fun _ => rfl
      right_inv := fun _ => rfl }

theorem RegRequestMsg.separate_format : RegRequestMsg.format.Separate := by
  unfold RegRequestMsg.format
  refine Separate.ofEquiv ?_ _
  repeat refine Separate.both ?_ (separate_of_tags rfl)
  exact separate_of_tags rfl

/-- `ConfirmRegMsg`, which has no fields. -/
abbrev ConfirmRegMsg : Type := Unit

/-- `request_message::RequestPayload`. -/
inductive RequestPayload where
  | reg (msg : RegRequestMsg)
  | confirmReg (msg : ConfirmRegMsg)
  deriving DecidableEq, Repr

def RequestPayload.parts : RequestPayload ≃ RegRequestMsg ⊕ ConfirmRegMsg where
  toFun
    | .reg msg => .inl msg
    | .confirmReg msg => .inr msg
  invFun
    | .inl msg => .reg msg
    | .inr msg => .confirmReg msg
  left_inv payload := by cases payload <;> rfl
  right_inv part := by cases part <;> rfl

/-- `RequestMessage`. -/
structure RequestMessage where
  requestPayload : Option RequestPayload
  deriving DecidableEq, Repr

def RequestMessage.format : Format RequestMessage :=
  (message 1 (.refl true) RegRequestMsg.format)
    |>.either (message 2 (.refl true) Format.empty) (.refl true) rfl rfl
    |>.ofEquiv (Equiv.optionCongr RequestPayload.parts)
    |>.ofEquiv ⟨RequestMessage.requestPayload, RequestMessage.mk, fun _ => rfl, fun _ => rfl⟩

/-! ### Responses -/

structure RegResponseMsg where
  ip : UInt32
  prefixLen : UInt32
  gateway : UInt32
  serverVersion : String
  deriving DecidableEq, Repr

def RegResponseMsg.format : Format RegResponseMsg :=
  (implicit 1 (.refl true) .fixed32 0)
    |>.both (implicit 2 (.refl true) .uint32 0) (.refl true)
    |>.both (implicit 3 (.refl true) .fixed32 0) (.refl true)
    |>.both (implicit 4 (.refl true) .string "") (.refl true)
    |>.ofEquiv {
      toFun := fun msg => (((msg.ip, msg.prefixLen), msg.gateway), msg.serverVersion)
      invFun := fun (((ip, prefixLen), gateway), serverVersion) =>
        ⟨ip, prefixLen, gateway, serverVersion⟩
      left_inv := fun _ => rfl
      right_inv := fun _ => rfl }

structure ErrorResponseMsg where
  code : UInt32
  message : String
  deriving DecidableEq, Repr

def ErrorResponseMsg.format : Format ErrorResponseMsg :=
  (implicit 1 (.refl true) .uint32 0)
    |>.both (implicit 2 (.refl true) .string "") (.refl true)
    |>.ofEquiv {
      toFun := fun msg => (msg.code, msg.message)
      invFun := fun (code, message) => ⟨code, message⟩
      left_inv := fun _ => rfl
      right_inv := fun _ => rfl }

structure ConfirmRegResponseMsg where
  success : Bool
  deriving DecidableEq, Repr

def ConfirmRegResponseMsg.format : Format ConfirmRegResponseMsg :=
  (implicit 1 (.refl true) .bool false).ofEquiv
    ⟨ConfirmRegResponseMsg.success, ConfirmRegResponseMsg.mk, fun _ => rfl, fun _ => rfl⟩

/-- `response_message::ResponsePayload`. -/
inductive ResponsePayload where
  | reg (msg : RegResponseMsg)
  | error (msg : ErrorResponseMsg)
  | confirmReg (msg : ConfirmRegResponseMsg)
  deriving DecidableEq, Repr

def ResponsePayload.parts :
    ResponsePayload ≃ (RegResponseMsg ⊕ ErrorResponseMsg) ⊕ ConfirmRegResponseMsg where
  toFun
    | .reg msg => .inl (.inl msg)
    | .error msg => .inl (.inr msg)
    | .confirmReg msg => .inr msg
  invFun
    | .inl (.inl msg) => .reg msg
    | .inl (.inr msg) => .error msg
    | .inr msg => .confirmReg msg
  left_inv payload := by cases payload <;> rfl
  right_inv part := by rcases part with (_ | _) | _ <;> rfl

/-- `ResponseMessage`. -/
structure ResponseMessage where
  responsePayload : Option ResponsePayload
  deriving DecidableEq, Repr

def ResponseMessage.format : Format ResponseMessage :=
  (message 1 (.refl true) RegResponseMsg.format)
    |>.either (message 2 (.refl true) ErrorResponseMsg.format) (.refl true) rfl rfl
    |>.either (message 3 (.refl true) ConfirmRegResponseMsg.format) (.refl true) rfl rfl
    |>.ofEquiv (Equiv.optionCongr ResponsePayload.parts)
    |>.ofEquiv ⟨ResponseMessage.responsePayload, ResponseMessage.mk, fun _ => rfl, fun _ => rfl⟩

/-! ### The list of clients -/

structure ClientSimpleInfo where
  ip : UInt32
  online : Bool
  deriving DecidableEq, Repr

def ClientSimpleInfo.format : Format ClientSimpleInfo :=
  (implicit 1 (.refl true) .fixed32 0)
    |>.both (implicit 2 (.refl true) .bool false) (.refl true)
    |>.ofEquiv {
      toFun := fun info => (info.ip, info.online)
      invFun := fun (ip, online) => ⟨ip, online⟩
      left_inv := fun _ => rfl
      right_inv := fun _ => rfl }

structure ClientSimpleInfoList where
  dataVersion : UInt64
  list : List ClientSimpleInfo
  isAll : Bool
  time : Int64
  deriving DecidableEq, Repr

def ClientSimpleInfoList.format : Format ClientSimpleInfoList :=
  (implicit 1 (.refl true) .uint64 0)
    |>.both (repeated 2 (.refl true) ClientSimpleInfo.format.codec) (.refl true)
    |>.both (implicit 3 (.refl true) .bool false) (.refl true)
    |>.both (implicit 4 (.refl true) .int64 0) (.refl true)
    |>.ofEquiv {
      toFun := fun list => (((list.dataVersion, list.list), list.isAll), list.time)
      invFun := fun (((dataVersion, list), isAll), time) => ⟨dataVersion, list, isAll, time⟩
      left_inv := fun _ => rfl
      right_inv := fun _ => rfl }

end Vnt.Proto
