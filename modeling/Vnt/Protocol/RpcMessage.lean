/-
This file gives the messages of a request to a server, of which there is one, for the devices of the
network, as their description declares them. A request has the number under which its response is
awaited.
-/

import Vnt.Base.MessageFormat

namespace Vnt.Proto

open Vnt.Base.Protobuf Vnt.Base.Protobuf.Format

/-- `ClientListRequest`, which has no fields. -/
abbrev ClientListRequest : Type := Unit

/-- `RpcMessageRequest`, with the one payload there is. -/
structure RpcMessageRequest where
  id : UInt64
  rpcReqPayload : Option ClientListRequest
  deriving DecidableEq, Repr

def RpcMessageRequest.format : Format RpcMessageRequest :=
  (implicit 1 (.refl true) .uint64 0)
    |>.both (message 2 (.refl true) Format.empty) (.refl true)
    |>.ofEquiv {
      toFun := fun request => (request.id, request.rpcReqPayload)
      invFun := fun (id, rpcReqPayload) => ⟨id, rpcReqPayload⟩
      left_inv := fun _ => rfl
      right_inv := fun _ => rfl }

structure ClientInfo where
  name : String
  version : String
  ip : UInt32
  keySign : Option String
  online : Bool
  lastConnectedTime : Int64
  id : String
  deriving DecidableEq, Repr

def ClientInfo.format : Format ClientInfo :=
  (implicit 1 (.refl true) .string "")
    |>.both (implicit 2 (.refl true) .string "") (.refl true)
    |>.both (implicit 3 (.refl true) .fixed32 0) (.refl true)
    |>.both (optional 4 (.refl true) .string) (.refl true)
    |>.both (implicit 5 (.refl true) .bool false) (.refl true)
    |>.both (implicit 6 (.refl true) .int64 0) (.refl true)
    |>.both (implicit 7 (.refl true) .string "") (.refl true)
    |>.ofEquiv {
      toFun := fun info => ((((((info.name, info.version), info.ip), info.keySign), info.online),
        info.lastConnectedTime), info.id)
      invFun := fun ((((((name, version), ip), keySign), online), lastConnectedTime), id) =>
        ⟨name, version, ip, keySign, online, lastConnectedTime, id⟩
      left_inv := fun _ => rfl
      right_inv := fun _ => rfl }

structure ClientListResponse where
  list : List ClientInfo
  deriving DecidableEq, Repr

def ClientListResponse.format : Format ClientListResponse :=
  (repeated 1 (.refl true) ClientInfo.format.codec).ofEquiv
    ⟨ClientListResponse.list, ClientListResponse.mk, fun _ => rfl, fun _ => rfl⟩

/-- `RpcMessageResponse`, with the one payload there is. -/
structure RpcMessageResponse where
  id : UInt64
  rpcResPayload : Option ClientListResponse
  deriving DecidableEq, Repr

def RpcMessageResponse.format : Format RpcMessageResponse :=
  (implicit 1 (.refl true) .uint64 0)
    |>.both (message 2 (.refl true) ClientListResponse.format) (.refl true)
    |>.ofEquiv {
      toFun := fun response => (response.id, response.rpcResPayload)
      invFun := fun (id, rpcResPayload) => ⟨id, rpcResPayload⟩
      left_inv := fun _ => rfl
      right_inv := fun _ => rfl }

end Vnt.Proto
