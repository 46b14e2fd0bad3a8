/-
This file settles what a client learns about the devices of its network when it asks all servers.
The lists of the servers that answer are merged by device id, and a server that fails is passed
over. Every device is listed once, as the first server that answered with it reported it. A device
that moved to another server may so be listed as offline while it is online.
-/

import Vnt.Base.Merging
import Vnt.Protocol.NetPacket

namespace Vnt.Client

open Vnt.Base

/-- `ClientInfo`. -/
structure ClientInfo where
  name : String
  version : String
  ip : UInt32
  keySign : Option String
  online : Bool
  lastConnectedTime : Int
  id : String
  deriving DecidableEq, Repr

/-- `RpcMessageResponse`; a client list is the only payload there is. -/
structure RpcMessageResponse where
  id : UInt64
  rpcResPayload : Option (List ClientInfo)
  deriving DecidableEq, Repr

/-- How the wait for a response ends. -/
inductive RpcWait where
  | timeout
  | closed
  | received (response : RpcMessageResponse)
  deriving DecidableEq, Repr

/-- `RpcResponseWaiter::wait_for_response`. -/
def RpcWait.result : RpcWait → Except String RpcMessageResponse
  | .timeout => .error "timeout waiting for response"
  | .closed => .error "closed connection"
  | .received response => .ok response

/-- What a request to one server meets: whether there is a notifier for the server, the encoded
request, what the tunnel says to the packet, and how the wait ends. -/
structure RpcTarget where
  hasNotifier : Bool
  request : List UInt8
  sendToGateway : NetPacket → Except String Unit
  wait : RpcWait

/-- `ServerRPC::client_list_target`. -/
def clientListTarget (target : RpcTarget) : Except String (List ClientInfo) := do
  if target.hasNotifier = false then
    throw "no RPC notifier"
  let packet ← NetPacket.new (.zeroed (headLength + target.request.length))
  let packet := ((packet.setMsgType .rpcReq).setGatewayFlag true).setTtl 1
  let packet ← packet.setPayload target.request
  target.sendToGateway packet
  let response ← target.wait.result
  match response.rpcResPayload with
  | some list => return list
  | none =>
    throw (s!"unexpected response: RpcMessageResponse \x7b id: {response.id}, " ++
      "rpc_res_payload: None \x7d")

/-- `map.entry(client.id.clone()).or_insert(client)`. -/
def orInsert (map : Map String ClientInfo) (client : ClientInfo) : Map String ClientInfo :=
  match map.lookup client.id with
  | some _ => map
  | none => map.insert client.id client

/-- One turn of the loop of `client_list`. -/
def mergeAnswer (map : Map String ClientInfo) :
    Except String (List ClientInfo) → Map String ClientInfo
  | .ok list => list.foldl orInsert map
  | .error _ => map

/-- `ServerRPC::client_list`, which asks the servers in the order of the list. -/
def clientList (targets : UInt32 → RpcTarget) (serverIds : List UInt32) : List ClientInfo :=
  Map.values (serverIds.foldl
    (fun map serverId => mergeAnswer map (clientListTarget (targets serverId))) ∅)

/-- What the answering servers report, in the order of the queries. -/
def reports (targets : UInt32 → RpcTarget) (serverIds : List UInt32) : List ClientInfo :=
  serverIds.flatMap fun serverId =>
    match clientListTarget (targets serverId) with
    | .ok list => list
    | .error _ => []

/-- Some answering server reports the device so. -/
def Reported (targets : UInt32 → RpcTarget) (serverIds : List UInt32) (client : ClientInfo) :
    Prop :=
  ∃ serverId ∈ serverIds, ∃ list, clientListTarget (targets serverId) = .ok list ∧ client ∈ list

/-- Every device that some answering server reports is listed once and no other one is, as online
exactly when some answering server reports it online. -/
structure ClientListRight (targets : UInt32 → RpcTarget) (serverIds : List UInt32) : Prop where
  once : ((clientList targets serverIds).map ClientInfo.id).Nodup
  known : ∀ id, id ∈ (clientList targets serverIds).map ClientInfo.id ↔
    ∃ client, Reported targets serverIds client ∧ client.id = id
  online : ∀ client ∈ clientList targets serverIds, client.online = true ↔
    ∃ other, Reported targets serverIds other ∧ other.id = client.id ∧ other.online = true

/-- The first report of a device has it online if any report does. -/
def FirstOnline (targets : UInt32 → RpcTarget) (serverIds : List UInt32) : Prop :=
  ∀ id first, (reports targets serverIds).find? (fun client => decide (client.id = id)) =
    some first →
    (∃ other, Reported targets serverIds other ∧ other.id = id ∧ other.online = true) →
      first.online = true

variable {targets : UInt32 → RpcTarget} {serverIds : List UInt32}

/-- The first report of a device stays. -/
theorem writes_orInsert :
    Writes ClientInfo.id (fun known client => known.getD client) orInsert where
  lookup map client id := by
    unfold orInsert
    by_cases same : id = client.id
    · subst same
      rw [if_pos rfl]
      cases known : map.lookup client.id with
      | none =>
        rw [AList.lookup_insert]
        rfl
      | some first => exact known
    · rw [if_neg same]
      cases map.lookup client.id with
      | none => exact AList.lookup_insert_ne same
      | some first => rfl
  key known client same := by
    cases known with
    | none => rfl
    | some first => exact same first rfl

theorem mem_reports_iff {client : ClientInfo} :
    client ∈ reports targets serverIds ↔ Reported targets serverIds client := by
  unfold reports Reported
  rw [List.mem_flatMap]
  refine exists_congr fun serverId => and_congr_right fun _ => ?_
  cases clientListTarget (targets serverId) with
  | ok list => simp
  | error message => simp

theorem clientList_eq :
    clientList targets serverIds = Map.values ((reports targets serverIds).foldl orInsert ∅) := by
  unfold clientList reports
  rw [List.foldl_flatMap]
  refine congrArg (fun merge => Map.values (serverIds.foldl merge ∅)) ?_
  funext map serverId
  unfold mergeAnswer
  cases clientListTarget (targets serverId) with
  | ok list => rfl
  | error message => rfl

/-- A device is listed as it was reported first. -/
theorem mem_clientList_iff {client : ClientInfo} :
    client ∈ clientList targets serverIds ↔
      (reports targets serverIds).find? (fun other => decide (other.id = client.id)) =
        some client := by
  rw [clientList_eq, (writes_orInsert.keyed keyed_empty).mem_values_iff,
    writes_orInsert.lookup_of_first (fun _ => rfl) (fun _ _ => rfl)]

/-- The merged list is right if and only if the first report of every device that is online
anywhere has it online. -/
theorem clientListRight_iff (targets : UInt32 → RpcTarget) (serverIds : List UInt32) :
    ClientListRight targets serverIds ↔ FirstOnline targets serverIds := by
  constructor
  · intro right id first isFirst reportedOnline
    have same : first.id = id := of_decide_eq_true (List.find?_eq_some_iff_append.mp isFirst).1
    subst same
    exact (right.online first (mem_clientList_iff.mpr isFirst)).mpr reportedOnline
  · intro firstOnline
    refine ⟨?_, fun id => ?_, fun client member => ⟨fun online => ?_, fun reportedOnline => ?_⟩⟩
    · rw [clientList_eq]
      exact (writes_orInsert.keyed keyed_empty).nodup
    · rw [clientList_eq, writes_orInsert.mem_map_values_iff]
      exact exists_congr fun client => and_congr_left' mem_reports_iff
    · have first := mem_clientList_iff.mp member
      exact ⟨client, mem_reports_iff.mp (List.mem_of_find?_eq_some first), rfl, online⟩
    · exact firstOnline client.id client (mem_clientList_iff.mp member) reportedOnline

/-- A server that answers with one client. -/
def answering (client : ClientInfo) : RpcTarget where
  hasNotifier := true
  request := []
  sendToGateway _ := .ok ()
  wait := .received ⟨0, some [client]⟩

/-- The device has moved to the second server; the first one still lists it as offline. -/
def movedDevice (serverId : UInt32) : RpcTarget :=
  answering ⟨"device", "1", 5, none, decide (serverId = 2), 0, "id"⟩

/-- Whether the device is listed as online depends on which server is asked first. -/
theorem not_clientListRight_movedDevice :
    clientList movedDevice [1, 2] = [⟨"device", "1", 5, none, false, 0, "id"⟩] ∧
    clientList movedDevice [2, 1] = [⟨"device", "1", 5, none, true, 0, "id"⟩] ∧
    ¬ClientListRight movedDevice [1, 2] := by
  have listed : clientList movedDevice [1, 2] = [⟨"device", "1", 5, none, false, 0, "id"⟩] := by
    decide
  refine ⟨listed, by decide, fun right => ?_⟩
  have online := (right.online ⟨"device", "1", 5, none, false, 0, "id"⟩ (by
    rw [listed]
    exact List.mem_singleton.mpr rfl)).mpr
    ⟨⟨"device", "1", 5, none, true, 0, "id"⟩, ⟨2, by decide, _, rfl, by decide⟩, rfl, rfl⟩
  cases online

end Vnt.Client
