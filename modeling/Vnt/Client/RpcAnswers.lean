/-
This file proves what the calls of a client return. Every answer under way is one that the server
gave to a call of its number, or was sent by another client. So an answer of the server meets a
waiting call only with a list that the server held while this call was waiting. The numbers of the
calls are their places, hence no waiter is replaced in the register and none is dropped while its
call waits.
-/

import Vnt.Client.RpcNotifier

namespace Vnt.Client

open Vnt.Base Vnt.Base.Protobuf Vnt.Server

/-! ### The packets -/

/-- The packet of a request. -/
def requestBytes (id : UInt64) : List UInt8 := gatewayPacket .rpcReq 0 (encodeRequest id)

/-- The packet of a response. -/
def responseBytes (id : UInt64) (list : List Server.ClientInfo) : List UInt8 :=
  gatewayPacket .rpcRes 0
    (Proto.RpcMessageResponse.format.encode ⟨id, some ⟨list.map clientInfoToProto⟩⟩)

theorem requestPacket_eq (id : UInt64) : requestPacket id = .ok (requestBytes id) := by
  have header : (((NetHeader.zero.setMsgType MsgType.rpcReq.toByte).setFlag gatewayMask true).setTtl
      1 1).setFlag gatewayMask true = gatewayHeader .rpcReq 0 := by decide
  unfold requestPacket requestBytes gatewayPacket
  dsimp only
  rw [NetPacket.new_zeroed, ← header]
  show (NetPacket.setPayload _ (encodeRequest id) >>= _) = _
  rw [NetPacket.setPayload_of_length _ List.length_replicate]
  rfl

theorem length_encodeRequest (id : UInt64) : (encodeRequest id).length ≤ 40 := by
  have number := Format.length_encode_implicit 1 (.refl true) .uint64 0 id
  have payload := Format.length_encode_message 2 (.refl true) Format.empty ()
  have numberContent : (ValueCodec.uint64.write id).content.length = 0 := rfl
  have payloadContent : (Format.empty.encode ()).length = 0 := rfl
  have both : (encodeRequest id).length ≤ _ :=
    Format.length_encode_ofEquiv_le (Format.length_encode_both_le number payload)
  omega

theorem decode_encodeRequest (id : UInt64) :
    Proto.RpcMessageRequest.format.decode (encodeRequest id) = some ⟨id, some ()⟩ := by
  have short := length_encodeRequest id
  exact Proto.RpcMessageRequest.format.decode_encode (by
    show (encodeRequest id).length < 2 ^ 64
    omega)

/-- A server takes a request and answers with the list it holds. -/
theorem handleData_requestBytes {keySign : String → String} {handler : ControlHandler}
    {session : Session} {clock : UInt64} (serves : Serves handler session) (id : UInt64) :
    handler.handleData (wireCodec keySign).toHandlerCodec clock (requestBytes id) =
      .done [.trySend session.sender
        (responseBytes id (handler.networkState.clientInfoList session.ip))] := by
  have read : (wireCodec keySign).decodeRpcRequest (encodeRequest id) = .ok (id, true) := by
    unfold wireCodec
    dsimp only
    rw [decode_encodeRequest]
    rfl
  unfold requestBytes
  rw [handleData_gatewayPacket serves.active serves.confirmed]
  unfold ControlHandler.handleGateway
  rw [serves.alive, if_neg Bool.false_ne_true.symm, if_neg (currTtl_gatewayHeader _ _)]
  dsimp only
  unfold ControlHandler.handleRpc
  dsimp only
  rw [read]
  rfl

theorem decode_encodeResponse {id : UInt64} {list : List Server.ClientInfo}
    (fits : (encodedList list).length < 2 ^ 63) :
    decodeRpcMessageResponse (Proto.RpcMessageResponse.format.encode
      ⟨id, some ⟨list.map clientInfoToProto⟩⟩) = .ok ⟨id, some (readAs list)⟩ := by
  have number := Format.length_encode_implicit 1 (.refl true) .uint64 0 id
  have payload := Format.length_encode_message 2 (.refl true) Proto.ClientListResponse.format
    ⟨list.map clientInfoToProto⟩
  have numberContent : (ValueCodec.uint64.write id).content.length = 0 := rfl
  have short : (Proto.RpcMessageResponse.format.encode
      ⟨id, some ⟨list.map clientInfoToProto⟩⟩).length < 2 ^ 64 := by
    have both : (Proto.RpcMessageResponse.format.encode
        ⟨id, some ⟨list.map clientInfoToProto⟩⟩).length ≤ _ :=
      Format.length_encode_ofEquiv_le (Format.length_encode_both_le number payload)
    unfold encodedList at fits
    omega
  unfold decodeRpcMessageResponse readAs
  rw [Proto.RpcMessageResponse.format.decode_encode short]
  dsimp only
  rw [Option.map_some, List.map_map]
  rfl

/-- The client reads the answer of the server as it was given. -/
theorem rpcResponseOf_responseBytes (compression : PacketCompression) {id : UInt64}
    {list : List Server.ClientInfo} (fits : (encodedList list).length < 2 ^ 63) :
    rpcResponseOf compression (responseBytes id list) = .ok (some ⟨id, some (readAs list)⟩) := by
  unfold rpcResponseOf responseBytes
  generalize isPayload : Proto.RpcMessageResponse.format.encode
    ⟨id, some ⟨list.map clientInfoToProto⟩⟩ = payload
  have isGateway : NetPacket.isGateway ⟨[], gatewayHeader .rpcRes 0, payload, []⟩ = true := by
    change ((gatewayHeader .rpcRes 0).flagsByte &&& gatewayMask != 0) = true
    decide
  have read : NetPacket.new (.ofBytes (gatewayPacket .rpcRes 0 payload)) =
      .ok ⟨[], gatewayHeader .rpcRes 0, payload, []⟩ :=
    NetPacket.new_ofBytes_intoBytes ⟨[], gatewayHeader .rpcRes 0, payload, []⟩
  have isType : NetPacket.msgType ⟨[], gatewayHeader .rpcRes 0, payload, []⟩ = .ok .rpcRes :=
    msgType_gatewayHeader .rpcRes 0
  have decoded : decodeRpcMessageResponse payload = .ok ⟨id, some (readAs list)⟩ := by
    rw [← isPayload]
    exact decode_encodeResponse fits
  rw [read]
  show (if NetPacket.isGateway _ = false then _ else NetPacket.msgType _ >>= _) = _
  rw [isGateway, if_neg Bool.false_ne_true.symm, isType]
  show (compression.decompress _ >>= _) = _
  rw [Tunnel.decompress_gatewayPacket]
  show (decodeRpcMessageResponse payload >>= _) = _
  rw [decoded]
  rfl

/-! ### Calls that go on -/

/-- The calls go on: each keeps its number, and one that is past its sending does not wait again. -/
def GoOn (before after : List RpcCall) : Prop :=
  ∀ (index : Nat) (call : RpcCall), before[index]? = some call → ∃ later : RpcCall,
    after[index]? = some later ∧ later.id = call.id ∧ (call.begun = true → later.begun = true ∧
      (later.stage = .waiting → call.stage = .waiting))

theorem GoOn.refl (calls : List RpcCall) : GoOn calls calls :=
  fun _ call found => ⟨call, found, rfl, fun begun => ⟨begun, id⟩⟩

theorem GoOn.append (calls new : List RpcCall) : GoOn calls (calls ++ new) :=
  fun _ call found => ⟨call,
    (List.getElem?_append_left (List.getElem?_eq_some_iff.mp found).1).trans found, rfl,
    fun begun => ⟨begun, id⟩⟩

theorem getElem?_set_of_found {calls : List RpcCall} {index : Nat} {call : RpcCall}
    (found : calls[index]? = some call) (next : RpcCall) (other : Nat) :
    (calls.set index next)[other]? = if other = index then some next else calls[other]? := by
  split
  · next same =>
    rw [same]
    exact List.getElem?_set_self (List.getElem?_eq_some_iff.mp found).1
  · next different => exact List.getElem?_set_ne (Ne.symm different)

theorem GoOn.set {calls : List RpcCall} {index : Nat} {call next : RpcCall}
    (found : calls[index]? = some call) (sameId : next.id = call.id)
    (kept : call.begun = true → next.begun = true ∧
      (next.stage = .waiting → call.stage = .waiting)) :
    GoOn calls (calls.set index next) := by
  intro other otherCall otherFound
  rw [getElem?_set_of_found found]
  by_cases same : other = index
  · subst same
    cases found.symm.trans otherFound
    exact ⟨next, if_pos rfl, sameId, kept⟩
  · exact ⟨otherCall, (if_neg same).trans otherFound, rfl, fun begun => ⟨begun, id⟩⟩

/-! ### What holds of the calls, the register and the packets -/

section Sound

variable (shown : Nat → List Server.ClientInfo → Prop) (forged : RpcMessageResponse → Prop)

/-- An end of a call that answers it: with a list that was shown to it, with what was forged under
its number, or after too long a time. -/
def RightEnd (index : Nat) (id : UInt64) : RpcEnd → Prop
  | .notSent _ => True
  | .waited .timeout => True
  | .waited .closed => False
  | .waited (.received response) =>
    (∃ list, response = ⟨id, some (readAs list)⟩ ∧ shown index list) ∨
      response.id = id ∧ forged response

/-- A response is an answer to the request of a call, or was forged under its number. -/
def Answering (index : Nat) (call : RpcCall) (response : RpcMessageResponse) : Prop :=
  (call.begun = true ∧ ∃ list, response = ⟨call.id, some (readAs list)⟩ ∧
    (call.stage = .waiting → shown index list)) ∨
  response.id = call.id ∧ forged response

/-- The number of a call is its place, and what it received answers it. -/
structure CallSound (index : Nat) (call : RpcCall) : Prop where
  numbered : call.id.toNat = index + 1
  received : ∀ response, call.received = some response →
    call.stage ≠ .numbered ∧ Answering shown forged index call response
  ended : ∀ result, call.stage = .leaving result ∨ call.stage = .returned result →
    RightEnd shown forged index call.id result

def CallsSound (calls : List RpcCall) : Prop :=
  ∀ (index : Nat) (call : RpcCall), calls[index]? = some call → CallSound shown forged index call

/-- The register holds the waiters that are awaited. -/
def PendingSound (calls : List RpcCall) (pending : Map UInt64 Nat) : Prop :=
  ∀ id index, pending.lookup id = some index ↔
    ∃ call : RpcCall, calls[index]? = some call ∧ call.id = id ∧ call.Awaited

/-- A request under way was sent by a call. -/
def RequestsSound (calls : List RpcCall) (requests : List (List UInt8)) : Prop :=
  ∀ bytes ∈ requests, ∃ (index : Nat) (call : RpcCall), calls[index]? = some call ∧
    call.begun = true ∧
    bytes = requestBytes call.id

/-- A response under way answers a call with a list that was shown to it, should it still wait, or
comes from another client. -/
def ResponsesSound (foreign : List UInt8 → Prop) (calls : List RpcCall)
    (responses : List (List UInt8)) : Prop :=
  ∀ bytes ∈ responses, foreign bytes ∨
    ∃ (index : Nat) (call : RpcCall) (list : List Server.ClientInfo),
      calls[index]? = some call ∧ call.begun = true ∧
      (encodedList list).length < 2 ^ 63 ∧ bytes = responseBytes call.id list ∧
        (call.stage = .waiting → shown index list)

variable {shown forged} {foreign : List UInt8 → Prop} {calls after : List RpcCall}
  {pending : Map UInt64 Nat} {index : Nat} {call next : RpcCall}

theorem RightEnd.mono {later : Nat → List Server.ClientInfo → Prop}
    {others : RpcMessageResponse → Prop}
    (weaker : ∀ index list, shown index list → later index list)
    (more : ∀ response, forged response → others response) {id : UInt64} {result : RpcEnd}
    (right : RightEnd shown forged index id result) : RightEnd later others index id result := by
  cases result with
  | notSent message => trivial
  | waited wait =>
    cases wait with
    | timeout => trivial
    | closed => exact right
    | received response =>
      rcases right with ⟨list, same, isShown⟩ | ⟨same, isForged⟩
      · exact .inl ⟨list, same, weaker index list isShown⟩
      · exact .inr ⟨same, more response isForged⟩

theorem CallsSound.mono {later : Nat → List Server.ClientInfo → Prop}
    {others : RpcMessageResponse → Prop}
    (weaker : ∀ index list, shown index list → later index list)
    (more : ∀ response, forged response → others response)
    (sound : CallsSound shown forged calls) : CallsSound later others calls := by
  intro index call found
  obtain ⟨numbered, received, ended⟩ := sound index call found
  refine ⟨numbered, fun response isResponse => ?_,
    fun result stage => (ended result stage).mono weaker more⟩
  obtain ⟨isNumbered, answering⟩ := received response isResponse
  refine ⟨isNumbered, ?_⟩
  rcases answering with ⟨begun, list, same, isShown⟩ | ⟨same, isForged⟩
  · exact .inl ⟨begun, list, same, fun waits => weaker index list (isShown waits)⟩
  · exact .inr ⟨same, more response isForged⟩

/-- The number tells the call. -/
theorem CallsSound.eq_of_id (sound : CallsSound shown forged calls) {other : Nat}
    {otherCall : RpcCall}
    (found : calls[index]? = some call) (otherFound : calls[other]? = some otherCall)
    (same : otherCall.id = call.id) : other = index := by
  have first := (sound index call found).numbered
  have second := (sound other otherCall otherFound).numbered
  rw [same, first] at second
  omega

theorem CallsSound.set (sound : CallsSound shown forged calls)
    (found : calls[index]? = some call) (nextSound : CallSound shown forged index next) :
    CallsSound shown forged (calls.set index next) := by
  intro other otherCall otherFound
  rw [getElem?_set_of_found found] at otherFound
  split at otherFound
  · next same =>
    cases otherFound
    exact same ▸ nextSound
  · exact sound other otherCall otherFound

theorem CallsSound.append (sound : CallsSound shown forged calls)
    (nextSound : CallSound shown forged calls.length next) :
    CallsSound shown forged (calls ++ [next]) := by
  intro other otherCall otherFound
  rcases Nat.lt_or_ge other calls.length with inside | outside
  · rw [List.getElem?_append_left inside] at otherFound
    exact sound other otherCall otherFound
  · rw [List.getElem?_append_right outside] at otherFound
    obtain ⟨isFirst, same⟩ := List.getElem?_eq_some_iff.mp otherFound
    rw [List.length_singleton] at isFirst
    have place : other = calls.length := by omega
    rw [List.getElem_singleton] at same
    rw [place, ← same]
    exact nextSound

/-- Whether the sender of a call is in the register. -/
theorem PendingSound.lookup_id (sound : PendingSound calls pending)
    (callsSound : CallsSound shown forged calls) (found : calls[index]? = some call) (other : Nat) :
    pending.lookup call.id = some other ↔ other = index ∧ call.Awaited := by
  rw [sound call.id other]
  constructor
  · rintro ⟨otherCall, otherFound, same, awaited⟩
    have place := callsSound.eq_of_id found otherFound same
    subst place
    cases found.symm.trans otherFound
    exact ⟨rfl, awaited⟩
  · rintro ⟨rfl, awaited⟩
    exact ⟨call, found, rfl, awaited⟩

/-- One call changes, and with it at most the entry of its number. -/
theorem PendingSound.set (sound : PendingSound calls pending)
    (callsSound : CallsSound shown forged calls) (found : calls[index]? = some call)
    (sameId : next.id = call.id) {changed : Map UInt64 Nat}
    (others : ∀ id, id ≠ call.id → changed.lookup id = pending.lookup id)
    (own : ∀ other, changed.lookup call.id = some other ↔ other = index ∧ next.Awaited) :
    PendingSound (calls.set index next) changed := by
  intro id other
  by_cases isOwn : id = call.id
  · subst isOwn
    rw [own]
    constructor
    · rintro ⟨rfl, awaited⟩
      exact ⟨next, (getElem?_set_of_found found next _).trans (if_pos rfl), sameId, awaited⟩
    · rintro ⟨otherCall, otherFound, same, awaited⟩
      rw [getElem?_set_of_found found] at otherFound
      split at otherFound
      · next place =>
        cases otherFound
        exact ⟨place, awaited⟩
      · next place => exact absurd (callsSound.eq_of_id found otherFound same) place
  · rw [others id isOwn, sound id other]
    refine exists_congr fun otherCall => ?_
    rw [getElem?_set_of_found found]
    by_cases place : other = index
    · subst place
      rw [if_pos rfl, found]
      constructor
      · rintro ⟨same, isId, -⟩
        cases same
        exact absurd isId.symm isOwn
      · rintro ⟨same, isId, -⟩
        cases same
        exact absurd (isId.symm.trans sameId) isOwn
    · rw [if_neg place]

theorem PendingSound.append (sound : PendingSound calls pending) (notAwaited : ¬next.Awaited) :
    PendingSound (calls ++ [next]) pending := by
  intro id other
  rw [sound id other]
  refine exists_congr fun call => ?_
  rcases Nat.lt_or_ge other calls.length with inside | outside
  · rw [List.getElem?_append_left inside]
  · rw [List.getElem?_append_right outside, List.getElem?_eq_none outside]
    constructor
    · rintro ⟨absent, -⟩
      cases absent
    · rintro ⟨found, -, awaited⟩
      obtain ⟨isFirst, same⟩ := List.getElem?_eq_some_iff.mp found
      rw [List.length_singleton] at isFirst
      have same : next = call := by rw [← same, List.getElem_singleton]
      exact absurd (same ▸ awaited) notAwaited

theorem RequestsSound.goOn {requests : List (List UInt8)} (sound : RequestsSound calls requests)
    (goOn : GoOn calls after) : RequestsSound after requests := by
  intro bytes member
  obtain ⟨index, call, found, begun, same⟩ := sound bytes member
  obtain ⟨later, laterFound, sameId, kept⟩ := goOn index call found
  exact ⟨index, later, laterFound, (kept begun).1, by rw [sameId, same]⟩

theorem ResponsesSound.goOn {later : Nat → List Server.ClientInfo → Prop}
    {others : List UInt8 → Prop} (weaker : ∀ index list, shown index list → later index list)
    (more : ∀ bytes, foreign bytes → others bytes) {responses : List (List UInt8)}
    (sound : ResponsesSound shown foreign calls responses) (goOn : GoOn calls after) :
    ResponsesSound later others after responses := by
  intro bytes member
  rcases sound bytes member with isForeign | ⟨index, call, list, found, begun, fits, same, isShown⟩
  · exact .inl (more bytes isForeign)
  · obtain ⟨next, nextFound, sameId, kept⟩ := goOn index call found
    exact .inr ⟨index, next, list, nextFound, (kept begun).1, fits, by rw [sameId, same],
      fun waits => weaker index list (isShown ((kept begun).2 waits))⟩

end Sound

/-! ### What one event does -/

/-- The next stage of a call and the packet it sends, for each event that can occur. -/
inductive Takes (call : RpcCall) (registered : Bool) :
    CallEvent → RpcStage → Option (List UInt8) → Prop where
  | register (stage : call.stage = .numbered) : Takes call registered .register .registered none
  | refused {taken : Except String Unit} {message : String} (stage : call.stage = .registered) :
    Takes call registered (.send taken) (.leaving (.notSent message)) none
  | sent {taken : Except String Unit} (stage : call.stage = .registered) :
    Takes call registered (.send taken) .waiting (some (requestBytes call.id))
  | answered {response : RpcMessageResponse} (stage : call.stage = .waiting)
    (received : call.received = some response) :
    Takes call registered .wake (.leaving (.waited (.received response))) none
  | closed (stage : call.stage = .waiting) (received : call.received = none)
    (gone : registered = false) : Takes call registered .wake (.leaving (.waited .closed)) none
  | late (stage : call.stage = .waiting) :
    Takes call registered .timeout (.leaving (.waited .timeout)) none
  | drop {result : RpcEnd} (stage : call.stage = .leaving result) :
    Takes call registered .drop (.returned result) none
  | cancel (stage : call.stage = .registered ∨ call.stage = .waiting) :
    Takes call registered .cancel .cancelled none

theorem takes_of_step {call : RpcCall} {registered : Bool} {event : CallEvent} {stage : RpcStage}
    {packet : Option (List UInt8)} (steps : call.step registered event = some (stage, packet)) :
    Takes call registered event stage packet := by
  cases event with
  | register =>
    unfold RpcCall.step at steps
    dsimp only at steps
    split at steps
    · next isStage =>
      cases steps
      exact .register isStage
    · cases steps
  | send taken =>
    unfold RpcCall.step at steps
    dsimp only at steps
    rw [requestPacket_eq] at steps
    split at steps
    · next isStage =>
      cases taken with
      | ok taken =>
        cases steps
        exact .sent isStage
      | error message =>
        cases steps
        exact .refused isStage
    · cases steps
  | wake =>
    unfold RpcCall.step at steps
    dsimp only at steps
    split at steps
    · next isStage isReceived =>
      cases steps
      exact .answered isStage isReceived
    · next isStage isReceived =>
      split at steps
      · cases steps
      · next gone =>
        cases steps
        exact .closed isStage isReceived (Bool.eq_false_iff.mpr gone)
    · cases steps
  | timeout =>
    unfold RpcCall.step at steps
    dsimp only at steps
    split at steps
    · next isStage =>
      cases steps
      exact .late isStage
    · cases steps
  | drop =>
    unfold RpcCall.step at steps
    dsimp only at steps
    split at steps
    · next isStage =>
      cases steps
      exact .drop isStage
    · cases steps
  | cancel =>
    unfold RpcCall.step at steps
    dsimp only at steps
    split at steps
    · next isStage =>
      cases steps
      exact .cancel (.inl isStage)
    · next isStage =>
      cases steps
      exact .cancel (.inr isStage)
    · cases steps

section Step

variable {shown : Nat → List Server.ClientInfo → Prop} {forged : RpcMessageResponse → Prop}
  {index : Nat} {call : RpcCall} {registered : Bool} {event : CallEvent} {stage : RpcStage}
    {packet : Option (List UInt8)}

/-- A call past its sending stays past it and does not come to wait again. -/
theorem Takes.kept (takes : Takes call registered event stage packet) (begun : call.begun = true) :
    RpcCall.begun { call with stage := stage } = true ∧
      (stage = .waiting → call.stage = .waiting) := by
  obtain ⟨id, callStage, received⟩ := call
  cases takes with
  | register isStage =>
    cases isStage
    cases begun
  | refused isStage =>
    cases isStage
    cases begun
  | sent isStage =>
    cases isStage
    cases begun
  | answered isStage isReceived => exact ⟨rfl, fun _ => isStage⟩
  | closed isStage isReceived gone => exact ⟨rfl, fun _ => isStage⟩
  | late isStage => exact ⟨rfl, fun _ => isStage⟩
  | drop isStage =>
    refine ⟨rfl, fun waits => ?_⟩
    cases waits
  | cancel isStage =>
    refine ⟨rfl, fun waits => ?_⟩
    cases waits

theorem Takes.ne_numbered (takes : Takes call registered event stage packet) :
    stage ≠ .numbered := by
  intro same
  cases takes <;> cases same

/-- What a call sends is its request. -/
theorem Takes.isRequest (takes : Takes call registered event stage packet) {bytes : List UInt8}
    (sends : packet = some bytes) :
    RpcCall.begun { call with stage := stage } = true ∧ bytes = requestBytes call.id := by
  cases takes with
  | sent isStage =>
    cases sends
    exact ⟨rfl, rfl⟩
  | _ => cases sends

theorem Takes.callSound (takes : Takes call registered event stage packet)
    (sound : CallSound shown forged index call) (inRegister : registered = true ↔ call.Awaited) :
    CallSound shown forged index { call with stage := stage } := by
  obtain ⟨numbered, isReceived, ended⟩ := sound
  have received : ∀ response, call.received = some response →
      stage ≠ .numbered ∧ Answering shown forged index { call with stage := stage } response := by
    intro response isResponse
    obtain ⟨isNumbered, answering⟩ := isReceived response isResponse
    refine ⟨takes.ne_numbered, ?_⟩
    rcases answering with ⟨begun, list, same, isShown⟩ | isForged
    · obtain ⟨later, waits⟩ := takes.kept begun
      exact .inl ⟨later, list, same, fun isWaiting => isShown (waits isWaiting)⟩
    · exact .inr isForged
  refine ⟨numbered, received, fun result isResult => ?_⟩
  have fromStage : stage = .leaving result ∨ stage = .returned result := isResult
  cases takes with
  | register isStage => rcases fromStage with same | same <;> cases same
  | sent isStage => rcases fromStage with same | same <;> cases same
  | cancel isStage => rcases fromStage with same | same <;> cases same
  | refused isStage =>
    rcases fromStage with same | same <;> cases same
    trivial
  | answered isStage isResponse =>
    rcases fromStage with same | same <;> cases same
    rcases (isReceived _ isResponse).2 with ⟨-, list, same, isShown⟩ | isForged
    · exact .inl ⟨list, same, isShown isStage⟩
    · exact .inr isForged
  | closed isStage isNone gone =>
    have present := inRegister.mpr ⟨isNone, .inr (.inl isStage)⟩
    rw [gone] at present
    cases present
  | late isStage =>
    rcases fromStage with same | same <;> cases same
    trivial
  | drop isStage =>
    rcases fromStage with same | same <;> cases same
    exact ended _ (.inl isStage)

/-- Whether the sender of a call is in the register after an event of the call. -/
theorem Takes.lookup_onNotifier (takes : Takes call registered event stage packet)
    (sound : CallSound shown forged index call) {notifier : RpcNotifier}
    (before : ∀ other, notifier.pendingRequests.lookup call.id = some other ↔
      other = index ∧ call.Awaited) (other : Nat) :
    (event.onNotifier notifier call.id index).pendingRequests.lookup call.id = some other ↔
      other = index ∧ RpcCall.Awaited { call with stage := stage } := by
  have unchanged : (call.Awaited ↔ RpcCall.Awaited { call with stage := stage }) →
      (notifier.pendingRequests.lookup call.id = some other ↔
        other = index ∧ RpcCall.Awaited { call with stage := stage }) :=
    fun same => (before other).trans (and_congr_right' same)
  have removed : ¬RpcCall.Awaited { call with stage := stage } →
      ((notifier.remove call.id).pendingRequests.lookup call.id = some other ↔
        other = index ∧ RpcCall.Awaited { call with stage := stage }) := by
    intro notAwaited
    rw [show (notifier.remove call.id).pendingRequests.lookup call.id = none from
      AList.lookup_erase call.id notifier.pendingRequests]
    constructor
    · intro absent
      cases absent
    · rintro ⟨-, awaited⟩
      exact absurd awaited notAwaited
  cases takes with
  | register isStage =>
    have isNone : call.received = none := by
      cases isReceived : call.received with
      | none => rfl
      | some response => exact absurd isStage (sound.received response isReceived).1
    have inserted : (notifier.register call.id index).pendingRequests.lookup call.id = some index :=
      AList.lookup_insert notifier.pendingRequests
    show (notifier.register call.id index).pendingRequests.lookup call.id = some other ↔ _
    rw [inserted]
    constructor
    · intro same
      cases same
      exact ⟨rfl, isNone, .inl rfl⟩
    · rintro ⟨rfl, -⟩
      rfl
  | refused isStage =>
    exact unchanged ⟨fun awaited => ⟨awaited.1, .inr (.inr ⟨_, rfl⟩)⟩,
      fun awaited => ⟨awaited.1, .inl isStage⟩⟩
  | sent isStage =>
    exact unchanged ⟨fun awaited => ⟨awaited.1, .inr (.inl rfl)⟩,
      fun awaited => ⟨awaited.1, .inl isStage⟩⟩
  | answered isStage isReceived =>
    exact unchanged ⟨fun awaited => ⟨awaited.1, .inr (.inr ⟨_, rfl⟩)⟩,
      fun awaited => ⟨awaited.1, .inr (.inl isStage)⟩⟩
  | closed isStage isReceived isGone =>
    exact unchanged ⟨fun awaited => ⟨awaited.1, .inr (.inr ⟨_, rfl⟩)⟩,
      fun awaited => ⟨awaited.1, .inr (.inl isStage)⟩⟩
  | late isStage =>
    exact unchanged ⟨fun awaited => ⟨awaited.1, .inr (.inr ⟨_, rfl⟩)⟩,
      fun awaited => ⟨awaited.1, .inr (.inl isStage)⟩⟩
  | drop isStage =>
    refine removed ?_
    rintro ⟨-, same | same | ⟨result, same⟩⟩ <;> cases same
  | cancel isStage =>
    refine removed ?_
    rintro ⟨-, same | same | ⟨result, same⟩⟩ <;> cases same

/-- An event of a call leaves the senders of the others. -/
theorem lookup_onNotifier_of_ne (event : CallEvent) (notifier : RpcNotifier) {id other : UInt64}
    (different : other ≠ id) (waiter : Nat) :
    (event.onNotifier notifier id waiter).pendingRequests.lookup other =
      notifier.pendingRequests.lookup other := by
  cases event with
  | register => exact AList.lookup_insert_ne different
  | drop => exact AList.lookup_erase_ne different
  | cancel => exact AList.lookup_erase_ne different
  | _ => rfl

end Step

/-! ### Every run -/

/-- The server held a list while a call was waiting. -/
def Shown (keySign : String → String) (start : RpcExchange) (past : List RpcEvent) (index : Nat)
    (list : List Server.ClientInfo) : Prop :=
  (RpcExchange.machine keySign).Sometime (RpcExchange.Waits index list) start past

/-- Another client had this sent over the connection. -/
def Foreign (past : List RpcEvent) (bytes : List UInt8) : Prop := RpcEvent.other bytes ∈ past

/-- What holds after the events of a run. -/
structure Sound (keySign : String → String) (start : RpcExchange) (past : List RpcEvent)
    (state : RpcExchange) : Prop where
  serves : Serves state.handler state.session
  compression : state.compression = start.compression
  counted : state.notifier.rpcId.toNat = state.calls.length
  calls : CallsSound (Shown keySign start past) (Forged start.compression (Foreign past))
    state.calls
  pending : PendingSound state.calls state.notifier.pendingRequests
  requests : RequestsSound state.calls state.requests
  responses : ResponsesSound (Shown keySign start past) (Foreign past) state.calls state.responses

variable {keySign : String → String} {start state next : RpcExchange} {past : List RpcEvent}

theorem Shown.append {index : Nat} {list : List Server.ClientInfo}
    (isShown : Shown keySign start past index list) (later : List RpcEvent) :
    Shown keySign start (past ++ later) index list :=
  Machine.Sometime.append isShown later

theorem Foreign.append {bytes : List UInt8} (foreign : Foreign past bytes)
    (later : List RpcEvent) : Foreign (past ++ later) bytes :=
  List.mem_append_left later foreign

theorem Forged.append {compression : PacketCompression} {response : RpcMessageResponse}
    (forged : Forged compression (Foreign past) response) (later : List RpcEvent) :
    Forged compression (Foreign (past ++ later)) response := by
  obtain ⟨bytes, foreign, reads⟩ := forged
  exact ⟨bytes, foreign.append later, reads⟩

/-- What holds after some events holds after more of them, where they change nothing. -/
theorem Sound.append (sound : Sound keySign start past state) (later : List RpcEvent) :
    Sound keySign start (past ++ later) state where
  serves := sound.serves
  compression := sound.compression
  counted := sound.counted
  calls := sound.calls.mono (fun _ _ isShown => isShown.append later)
    fun _ forged => forged.append later
  pending := sound.pending
  requests := sound.requests
  responses := sound.responses.goOn (fun _ _ isShown => isShown.append later)
    (fun _ foreign => foreign.append later) (GoOn.refl _)

theorem sound_start {handler : ControlHandler} {session : Session} (serves : Serves handler session)
    (compression : PacketCompression) :
    Sound keySign (.start handler session compression) []
      (.start handler session compression) where
  serves := serves
  compression := rfl
  counted := rfl
  calls := fun _ _ found => by cases found
  pending := fun id index => by
    constructor
    · intro found
      cases found
    · rintro ⟨call, found, -⟩
      cases found
  requests := List.forall_mem_nil _
  responses := List.forall_mem_nil _

theorem Sound.create (sound : Sound keySign start past state)
    (fits : state.calls.length + 1 < 2 ^ 64)
    (steps : (RpcExchange.machine keySign).step state .create = some next) :
    Sound keySign start (past ++ [.create]) next := by
  cases steps
  have counted : (state.notifier.rpcId + 1).toNat = state.calls.length + 1 := by
    rw [UInt64.toNat_add, sound.counted]
    exact Nat.mod_eq_of_lt fits
  have kept := sound.append [.create]
  refine ⟨kept.serves, kept.compression, ?_, ?_, kept.pending.append ?_,
    kept.requests.goOn (GoOn.append _ _),
    kept.responses.goOn (fun _ _ => id) (fun _ => id) (GoOn.append _ _)⟩
  · rw [List.length_append]
    exact counted
  · refine kept.calls.append ⟨counted, ?_, ?_⟩
    · intro response isResponse
      cases isResponse
    · rintro result (same | same) <;> cases same
  · rintro ⟨-, same | same | ⟨result, same⟩⟩ <;> cases same

theorem Sound.call (sound : Sound keySign start past state) {index : Nat} {event : CallEvent}
    (steps : (RpcExchange.machine keySign).step state (.call index event) = some next) :
    Sound keySign start (past ++ [.call index event]) next := by
  replace steps : RpcExchange.step (wireCodec keySign).toHandlerCodec state (.call index event) =
    some next := steps
  unfold RpcExchange.step at steps
  dsimp only at steps
  cases found : state.calls[index]? with
  | none =>
    rw [found] at steps
    cases steps
  | some call =>
    rw [found] at steps
    dsimp only at steps
    cases outcome : call.step
        (decide (state.notifier.pendingRequests.lookup call.id = some index)) event with
    | none =>
      rw [outcome] at steps
      cases steps
    | some result =>
      obtain ⟨stage, packet⟩ := result
      rw [outcome] at steps
      cases steps
      have takes := takes_of_step outcome
      have before := sound.pending.lookup_id sound.calls found
      have inRegister : decide (state.notifier.pendingRequests.lookup call.id = some index) = true ↔
          call.Awaited := by
        rw [decide_eq_true_iff, before]
        exact and_iff_right rfl
      have kept := sound.append [.call index event]
      have callSound := takes.callSound (kept.calls index call found) inRegister
      have goOn : GoOn state.calls (state.calls.set index { call with stage := stage }) :=
        GoOn.set found rfl takes.kept
      refine ⟨kept.serves, kept.compression, ?_, kept.calls.set found callSound, ?_, ?_, ?_⟩
      · have sameId :
          (event.onNotifier state.notifier call.id index).rpcId = state.notifier.rpcId := by
          cases event <;> rfl
        show (event.onNotifier state.notifier call.id index).rpcId.toNat = _
        rw [sameId, List.length_set]
        exact sound.counted
      · have sameId : ({ call with stage := stage } : RpcCall).id = call.id := rfl
        exact sound.pending.set sound.calls found sameId
          (fun other different => lookup_onNotifier_of_ne event state.notifier different index)
          (takes.lookup_onNotifier (sound.calls index call found) before)
      · refine List.forall_mem_append.mpr ⟨sound.requests.goOn goOn, fun bytes member => ?_⟩
        obtain ⟨begun, isRequest⟩ := takes.isRequest (Option.mem_toList.mp member)
        exact ⟨index, _, (getElem?_set_of_found found _ index).trans (if_pos rfl), begun, isRequest⟩
      · exact kept.responses.goOn (fun _ _ => id) (fun _ => id) goOn

/-- The server answers a request with the list that it holds now, and the call of the request may be
waiting. -/
theorem Sound.serve (sound : Sound keySign start past state) {index : Nat} {clock : UInt64}
    (reaches : (RpcExchange.machine keySign).run start past = some state)
    (fits : (encodedList state.serverList).length < 2 ^ 63)
    (steps : (RpcExchange.machine keySign).step state (.serve index clock) = some next) :
    Sound keySign start (past ++ [.serve index clock]) next := by
  replace steps : RpcExchange.step (wireCodec keySign).toHandlerCodec state (.serve index clock) =
    some next := steps
  unfold RpcExchange.step at steps
  dsimp only at steps
  cases found : state.requests[index]? with
  | none =>
    rw [found] at steps
    cases steps
  | some bytes =>
    rw [found] at steps
    dsimp only at steps
    cases steps
    have kept := sound.append [.serve index clock]
    refine ⟨kept.serves, kept.compression, kept.counted, kept.calls, kept.pending, kept.requests,
      List.forall_mem_append.mpr ⟨kept.responses, ?_⟩⟩
    obtain ⟨place, call, callFound, begun, rfl⟩ :=
      sound.requests bytes (List.mem_of_getElem? found)
    rw [handleData_requestBytes sound.serves]
    have sent : sentTo state.session.sender (.trySend state.session.sender
        (responseBytes call.id state.serverList)) =
          some (responseBytes call.id state.serverList) := if_pos rfl
    intro answer member
    have isAnswer : answer ∈ [HandlerAction.trySend state.session.sender
        (responseBytes call.id state.serverList)].filterMap (sentTo state.session.sender) := member
    rw [List.filterMap_cons_some sent, List.filterMap_nil, List.mem_singleton] at isAnswer
    exact .inr ⟨place, call, state.serverList, callFound, begun, fits, isAnswer, fun waits =>
      Shown.append (Machine.sometime_of_final reaches ⟨⟨call, callFound, waits⟩, rfl⟩) _⟩

theorem modify_of_found {calls : List RpcCall} {index : Nat} {call : RpcCall}
    (found : calls[index]? = some call) (change : RpcCall → RpcCall) :
    calls.modify index change = calls.set index (change call) := by
  rw [List.modify_eq_set_getElem?, found]
  rfl

/-- A call that waits is answered, and its waiter is no longer registered. -/
theorem Sound.answered (sound : Sound keySign start past state) {index : Nat} {call : RpcCall}
    {response : RpcMessageResponse} (found : state.calls[index]? = some call)
    (awaited : call.Awaited) (answering : Answering (Shown keySign start past)
      (Forged start.compression (Foreign past)) index call response) :
    Sound keySign start past { state with
      notifier := state.notifier.remove call.id
      calls := state.calls.modify index fun other =>
        { other with received := some response } } := by
  obtain ⟨numbered, -, ended⟩ := sound.calls index call found
  have isNumbered : call.stage ≠ .numbered := by
    intro isStage
    rcases awaited.2 with same | same | ⟨result, same⟩ <;> cases isStage.symm.trans same
  rw [modify_of_found found]
  generalize isNext : ({ call with received := some response } : RpcCall) = next
  have sameId : next.id = call.id := isNext ▸ rfl
  have callSound : CallSound (Shown keySign start past) (Forged start.compression (Foreign past))
      index next := by
    subst isNext
    refine ⟨numbered, fun other isResponse => ?_, ended⟩
    cases isResponse
    exact ⟨isNumbered, answering⟩
  have goOn : GoOn state.calls (state.calls.set index next) := by
    refine GoOn.set found sameId fun begun => ?_
    subst isNext
    exact ⟨begun, id⟩
  refine ⟨sound.serves, sound.compression, ?_, sound.calls.set found callSound, ?_,
    sound.requests.goOn goOn, sound.responses.goOn (fun _ _ => id) (fun _ => id) goOn⟩
  · rw [List.length_set]
    exact sound.counted
  · refine sound.pending.set sound.calls found sameId
      (fun other different => AList.lookup_erase_ne different) fun other => ?_
    rw [show (state.notifier.remove call.id).pendingRequests.lookup call.id = none from
      AList.lookup_erase call.id state.notifier.pendingRequests]
    subst isNext
    constructor
    · intro absent
      cases absent
    · rintro ⟨-, isNone, -⟩
      cases isNone

/-- A response is put into the channel of the call whose number it has, when the waiter is still
registered. -/
theorem Sound.notifyResponse (sound : Sound keySign start past state)
    {response : RpcMessageResponse}
    (answering : ∀ index call, state.calls[index]? = some call → call.id = response.id →
      Answering (Shown keySign start past) (Forged start.compression (Foreign past)) index call
        response) :
    Sound keySign start past (state.notifyResponse response) := by
  unfold RpcExchange.notifyResponse
  cases waiter : state.notifier.pendingRequests.lookup response.id with
  | none => exact sound
  | some holder =>
    obtain ⟨call, found, same, awaited⟩ := (sound.pending response.id holder).mp waiter
    have kept := sound.answered found awaited (answering holder call found same)
    rw [same] at kept
    exact kept

theorem Sound.deliver (sound : Sound keySign start past state) {index : Nat}
    (steps : (RpcExchange.machine keySign).step state (.deliver index) = some next) :
    Sound keySign start (past ++ [.deliver index]) next := by
  refine Sound.append ?_ [.deliver index]
  replace steps : RpcExchange.step (wireCodec keySign).toHandlerCodec state (.deliver index) =
    some next := steps
  unfold RpcExchange.step at steps
  dsimp only at steps
  cases found : state.responses[index]? with
  | none =>
    rw [found] at steps
    cases steps
  | some bytes =>
    rw [found] at steps
    dsimp only at steps
    rcases sound.responses bytes (List.mem_of_getElem? found) with foreign |
      ⟨place, call, list, callFound, begun, fits, rfl, isShown⟩
    · split at steps
      · next response reads =>
        cases steps
        rw [sound.compression] at reads
        exact sound.notifyResponse fun index call callFound same =>
          .inr ⟨same.symm, bytes, foreign, reads⟩
      · cases steps
        exact sound
    · rw [rpcResponseOf_responseBytes state.compression fits] at steps
      cases steps
      refine sound.notifyResponse fun other otherCall otherFound same => ?_
      have isPlace := sound.calls.eq_of_id callFound otherFound same
      subst isPlace
      cases callFound.symm.trans otherFound
      exact .inl ⟨begun, list, rfl, isShown⟩

theorem Sound.step (sound : Sound keySign start past state) {event : RpcEvent}
    (reaches : (RpcExchange.machine keySign).run start past = some state)
    (fits : state.Fits event) (steps : (RpcExchange.machine keySign).step state event = some next) :
    Sound keySign start (past ++ [event]) next := by
  cases event with
  | create => exact sound.create fits steps
  | call index event => exact sound.call steps
  | serve index clock => exact sound.serve reaches fits steps
  | deliver index => exact sound.deliver steps
  | other bytes =>
    cases steps
    have kept := sound.append [.other bytes]
    refine ⟨kept.serves, kept.compression, kept.counted, kept.calls, kept.pending, kept.requests,
      List.forall_mem_append.mpr ⟨kept.responses, fun foreign member => .inl ?_⟩⟩
    rw [List.mem_singleton.mp member]
    exact List.mem_append_right past (List.mem_singleton_self _)
  | server handler session =>
    cases steps
    have kept := sound.append [.server handler session]
    exact ⟨fits, kept.compression, kept.counted, kept.calls, kept.pending, kept.requests,
      kept.responses⟩

theorem sound_of_run {final : RpcExchange} {events : List RpcEvent}
    (initial : Sound keySign start [] start)
    (fits : (RpcExchange.machine keySign).Guarded RpcExchange.Fits start events)
    (reaches : (RpcExchange.machine keySign).run start events = some final) :
    Sound keySign start events final := by
  refine Machine.run_induction (fun past state =>
    (RpcExchange.machine keySign).Guarded RpcExchange.Fits start past →
      Sound keySign start past state) (fun _ => initial) ?_ reaches fits
  intro past state event next before inductionHypothesis steps guarded
  have fitsNow : state.Fits event := (guarded.of_run before).1
  exact (inductionHypothesis guarded.of_append).step before fitsNow steps

/-- The session of the example, with the address 10.26.0.3. -/
def exampleSession : Session where
  networkCode := "net"
  deviceId := "b"
  ip := 0x0A1A0003
  randomId := 0
  sender := 10
  registrationStatus := .confirmed

/-- A server that knows one device. -/
def exampleHandler : ControlHandler where
  session := some exampleSession
  networkState := { NetworkState.exampleState with
    leaseState := NetworkStateInner.empty.apply NetworkState.exampleNet 0x0A1A0001
      (.allocateIp (NetworkState.exampleRequest "a" none false) 3 0 3) }
  peerManager := none
  accepts _ _ := false
  senderAlive := true

end Vnt.Client
