/-
This file puts the messages of a registration on the connection of a client: the codec that the loop
of a connection was left to take as it comes is the one of the message descriptions. Whatever
happened on the connection before, the bytes a client writes for its request are taken for this
request, in every arrangement of its fields, and what the server writes back is read by the client
as the outcome of the registration. The same holds of the confirmation of a pre-registration.
-/

import Vnt.Server.WireCodec

namespace Vnt.Registration

open Vnt.Base Vnt.Base.Protobuf Vnt.Server

/-! ### What the client reads -/

/-- The client reads a byte string that fits into memory as a response. -/
def Reads (bytes : List UInt8) (response : ResponseMessage) : Prop :=
  bytes.length < 2 ^ 64 → ResponseMessage.fromSlice bytes = .ok response

theorem reads_encode (response : ResponseMessage) : Reads response.encode response :=
  ResponseMessage.fromSlice_encode

/-- The one new byte string for the client is read as a response. -/
def Replied (before after : ClientConnection) (response : ResponseMessage) : Prop :=
  ∃ bytes, after.puts = before.puts ++ [(before.sender, bytes)] ∧ Reads bytes response

/-- What becomes of a connection when a registration has ended: the session with its address, or
none with the reason, is told to the client, and only a panic ends the connection without a word. -/
def Answered (outcome : Except Fault (LiveSession × NetworkState))
    (before after : ClientConnection) : Prop :=
  match outcome with
  | .ok (live, state) =>
    after.stage = .serving ∧ after.session = some live ∧
      Replied before after (.reg ⟨live.session.ip, UInt8.ofNat state.net.prefixLen.val,
        state.gateway, serverVersion⟩)
  | .error (.error message) =>
    after.stage = .serving ∧ after.session = none ∧ Replied before after (.error ⟨400, message⟩)
  | .error .panics => after.stage = .ended ∧ after.session = none ∧ after.puts = before.puts

section Runs

variable {keySign : String → String} {server : GroupServer} {heap : StatsHeap} {sender : Sender}
  {events : List ConnectionEvent} {before : ClientConnection} {received : Received}

/-- A connection that waits for its first byte string has no session and registered nobody. -/
theorem fresh_of_run {codec : ConnectionCodec}
    (reaches : (ClientConnection.machine codec).run (.start server heap sender) events =
      some before) (accepting : before.stage = .accepting) :
    before.session = none ∧ before.registrations = [] := by
  let Fresh (connection : ClientConnection) : Prop :=
    connection.stage = .accepting → connection.session = none ∧ connection.registrations = []
  have initial : Fresh (.start server heap sender) := fun _ => ⟨rfl, rfl⟩
  refine Machine.run_induction (fun _ => Fresh) initial ?_ reaches accepting
  intro past connection event after _ fresh enabled waits
  cases event with
  | receive received =>
    obtain ⟨⟨handled, outcome⟩, _, same⟩ := Option.map_eq_some_iff.mp enabled
    subst same
    cases outcome <;> cases waits
  | others server heap =>
    cases enabled
    exact fresh waits

/-- A reply that is taken is one more byte string for its sender. -/
theorem reply_of_replied (connection : ClientConnection) (receiver : Sender) (data : List UInt8)
    (replied : received.replied = true) : connection.reply receiver data received =
      ({ connection with puts := connection.puts ++ [(receiver, data)] }, .ok ()) := by
  unfold ClientConnection.reply
  rw [if_pos replied]

variable (keySign) in
/-- What a registration answers, given what became of it. -/
theorem answered_receive {req : RegRequestMsg} (accepting : before.stage = .accepting)
    (fresh : before.session = none) (isRequest : decodeRequest received.buf = .ok (.reg req))
    (alive : received.senderAlive = true) (replied : received.replied = true) :
    ∃ after, before.receive (wireCodec keySign) received = some after ∧
      after.registrations = before.registrations ++ [req] ∧ after.sender = before.sender ∧
      after.server = (before.register (wireCodec keySign) req received).1.server ∧
      Answered (before.register (wireCodec keySign) req received).2 before after := by
  have same := before.sameHandler_register (wireCodec keySign) received req
  have inactive : ¬before.session.isSome = true := by
    rw [fresh]
    exact Bool.false_ne_true
  have decoded : (wireCodec keySign).decodeRequest received.buf = .ok (.reg req) := isRequest
  unfold ClientConnection.receive ClientConnection.handleReg
  rw [accepting]
  dsimp only
  rw [if_neg inactive, decoded]
  dsimp only
  rw [alive, if_neg Bool.false_ne_true.symm]
  generalize before.register (wireCodec keySign) req received = result at same ⊢
  obtain ⟨registered, outcome⟩ := result
  have same : registered = { before with server := registered.server, heap := registered.heap } :=
    same
  have puts : registered.puts = before.puts := by rw [same]
  have registrations : registered.registrations = before.registrations := by rw [same]
  have session : registered.session = none := by rw [same, fresh]
  have owner : registered.sender = before.sender := by rw [same]
  rw [← registrations]
  cases outcome with
  | error fault =>
    cases fault with
    | error message =>
      dsimp only
      rw [reply_of_replied _ _ _ replied]
      exact ⟨_, rfl, rfl, owner, rfl, rfl, session, _, congrArg (· ++ _) puts, reads_encode _⟩
    | panics => exact ⟨_, rfl, rfl, owner, rfl, rfl, session, puts⟩
  | ok found =>
    obtain ⟨live, state⟩ := found
    dsimp only
    rw [reply_of_replied _ _ _ replied]
    exact ⟨_, rfl, rfl, owner, rfl, rfl, rfl, _, congrArg (· ++ _) puts, reads_encode _⟩

theorem decodeRequest_arranged {msg : NumberedRegRequest} {fields : List Field}
    (isRequest : received.buf = NumberedRequest.arranged fields)
    (fits : received.buf.length < 2 ^ 64) (valid : ∀ field ∈ fields, field.Valid)
    (arranges : ∀ tag ∈ Proto.RegRequestMsg.format.tags,
      fields.filter (fun field => field.tag = tag) =
        (Proto.RegRequestMsg.format.fields msg.toProto).filter fun field => field.tag = tag) :
    decodeRequest received.buf = .ok (.reg msg.toRegRequestMsg) := by
  rw [isRequest] at fits ⊢
  unfold decodeRequest
  rw [NumberedRequest.fromSlice_arranged fits valid arranges]
  rfl

/-- The bytes of a registration, in any arrangement, are taken for it, and the reply is read as its
outcome. -/
theorem registers_over_wire {msg : NumberedRegRequest} {fields : List Field}
    (reaches : (ClientConnection.machine (wireCodec keySign)).run (.start server heap sender)
      events = some before)
    (accepting : before.stage = .accepting)
    (isRequest : received.buf = NumberedRequest.arranged fields)
    (fits : received.buf.length < 2 ^ 64) (valid : ∀ field ∈ fields, field.Valid)
    (arranges : ∀ tag ∈ Proto.RegRequestMsg.format.tags,
      fields.filter (fun field => field.tag = tag) =
        (Proto.RegRequestMsg.format.fields msg.toProto).filter fun field => field.tag = tag)
    (alive : received.senderAlive = true) (replied : received.replied = true) :
    ∃ after, (ClientConnection.machine (wireCodec keySign)).step before (.receive received) =
        some after ∧ after.registrations = [msg.toRegRequestMsg] ∧
      Answered (before.register (wireCodec keySign) msg.toRegRequestMsg received).2 before
        after := by
  obtain ⟨fresh, unregistered⟩ := fresh_of_run reaches accepting
  obtain ⟨after, handles, registers, -, -, answered⟩ := answered_receive keySign accepting
    fresh (decodeRequest_arranged isRequest fits valid arranges) alive replied
  rw [unregistered] at registers
  exact ⟨after, handles, registers, answered⟩

/-! ### Two phases -/

/-- What others do to the shared state is nothing to the connection itself; the state that a session
holds is not dropped. -/
theorem run_others (codec : ConnectionCodec) {between : List ConnectionEvent} {ref : StateRef}
    (waiting : ClientConnection)
    (others : ∀ event ∈ between, ∃ server heap, event = .others server heap ∧
      ∃ held, server.service.states[ref]? = some held)
    (known : ∃ held, waiting.server.service.states[ref]? = some held) :
    ∃ after, (ClientConnection.machine codec).run waiting between = some after ∧
      waiting.SameHandler after ∧ ∃ held, after.server.service.states[ref]? = some held := by
  induction between generalizing waiting with
  | nil => exact ⟨waiting, rfl, rfl, known⟩
  | cons event rest inductionHypothesis =>
    obtain ⟨⟨server, heap, isOthers, kept⟩, later⟩ := List.forall_mem_cons.mp others
    obtain ⟨after, runs, same, held⟩ := inductionHypothesis
      { waiting with server := server, heap := heap } later kept
    refine ⟨after, ?_, same, held⟩
    rw [isOthers, Machine.run_cons]
    exact runs

/-- A registration that succeeds leaves the state of its session. -/
theorem known_of_register {codec : ConnectionCodec} {req : RegRequestMsg} {live : LiveSession}
    {state : NetworkState}
    (succeeds : (before.register codec req received).2 = .ok (live, state)) :
    (before.register codec req received).1.server.service.states[live.state]? = some state := by
  rcases before.register_cases codec received req with ⟨fault, failed⟩ | ⟨located, ref, -, asked⟩
  · rw [failed] at succeeds
    cases succeeds
  · rw [asked] at succeeds ⊢
    unfold ClientConnection.allocate at succeeds ⊢
    cases found : located.server.service.states[ref]? with
    | none =>
      rw [found] at succeeds
      cases succeeds
    | some held =>
      rw [found] at succeeds
      dsimp only at succeeds ⊢
      split at succeeds
      · cases succeeds
      · next registered =>
        cases succeeds
        exact List.getElem?_set_self (List.getElem?_eq_some_iff.mp found).1

variable (keySign) in
/-- A confirmation that is saved confirms the session and is answered. -/
theorem confirms_receive {waiting : ClientConnection} {live : LiveSession} {state : NetworkState}
    (serving : waiting.stage = .serving) (active : waiting.session = some live)
    (pending : live.session.registrationStatus = .pendingConfirmation)
    (known : waiting.server.service.states[live.state]? = some state)
    (isConfirm : received.buf = NumberedRequest.encode .confirmReg)
    (alive : received.senderAlive = true) (replied : received.replied = true)
    (saved : received.saved = .ok ()) :
    ∃ after, waiting.receive (wireCodec keySign) received = some after ∧
      after.stage = .serving ∧ after.registrations = waiting.registrations ∧
      after.session = some { live with
        session := { live.session with registrationStatus := .confirmed } } ∧
      Replied waiting after (.confirmReg ⟨true⟩) := by
  have confirms : (wireCodec keySign).isConfirmReg received.buf = true := by
    rw [isConfirm]
    rfl
  unfold ClientConnection.receive ClientConnection.handleData
  rw [serving]
  dsimp only
  rw [active]
  dsimp only
  rw [known]
  dsimp only
  rw [ClientConnection.handleData_pending rfl pending, if_pos confirms]
  have asks : HandlerAction.confirmReg ∈ (HandlerResult.done [.confirmReg]).actions :=
    List.mem_singleton_self _
  unfold ClientConnection.handleConfirmReg
  rw [if_pos asks, active]
  dsimp only
  rw [alive, if_neg Bool.false_ne_true.symm, if_neg (not_not.mpr pending), saved]
  dsimp only
  rw [reply_of_replied _ _ _ replied]
  exact ⟨_, rfl, rfl, rfl, rfl, _, rfl, reads_encode _⟩

/-- A client that registers in two phases reads first the address of its session and then that it
is confirmed, whatever happens to the shared state in between. -/
theorem two_phases_over_wire {msg : NumberedRegRequest} {fields : List Field}
    {confirm : Received} {between : List ConnectionEvent} {live : LiveSession}
    {state : NetworkState}
    (reaches : (ClientConnection.machine (wireCodec keySign)).run (.start server heap sender)
      events = some before)
    (accepting : before.stage = .accepting)
    (isRequest : received.buf = NumberedRequest.arranged fields)
    (fits : received.buf.length < 2 ^ 64) (valid : ∀ field ∈ fields, field.Valid)
    (arranges : ∀ tag ∈ Proto.RegRequestMsg.format.tags,
      fields.filter (fun field => field.tag = tag) =
        (Proto.RegRequestMsg.format.fields msg.toProto).filter fun field => field.tag = tag)
    (inTwoPhases : msg.registrationMode = .preRegister)
    (succeeds : (before.register (wireCodec keySign) msg.toRegRequestMsg received).2 =
      .ok (live, state))
    (others : ∀ event ∈ between, ∃ server heap, event = .others server heap ∧
      ∃ held, server.service.states[live.state]? = some held)
    (isConfirm : confirm.buf = NumberedRequest.encode .confirmReg)
    (saved : confirm.saved = .ok ())
    (alive : received.senderAlive = true ∧ confirm.senderAlive = true)
    (replied : received.replied = true ∧ confirm.replied = true) :
    ∃ after first second, (ClientConnection.machine (wireCodec keySign)).run before
        (.receive received :: between ++ [.receive confirm]) = some after ∧
      after.registrations = [msg.toRegRequestMsg] ∧
      after.session = some { live with
        session := { live.session with registrationStatus := .confirmed } } ∧
      after.puts = before.puts ++ [(before.sender, first), (before.sender, second)] ∧
      Reads first (.reg ⟨live.session.ip, UInt8.ofNat state.net.prefixLen.val, state.gateway,
        serverVersion⟩) ∧
      Reads second (.confirmReg ⟨true⟩) := by
  obtain ⟨fresh, unregistered⟩ := fresh_of_run reaches accepting
  obtain ⟨waiting, handles, registers, owner, isServer, answered⟩ := answered_receive
    keySign accepting fresh (decodeRequest_arranged isRequest fits valid arranges) alive.1 replied.1
  have kept := known_of_register succeeds
  obtain ⟨ip, _, isSession⟩ := before.register_ok _ received _ succeeds
  have pending : live.session.registrationStatus = .pendingConfirmation := by
    rw [isSession, Session.new, inTwoPhases]
  rw [succeeds] at answered
  obtain ⟨serving, active, first, firstPut, readsFirst⟩ := answered
  obtain ⟨later, waits, same, held, isHeld⟩ := run_others (wireCodec keySign) waiting others
    ⟨state, isServer ▸ kept⟩
  obtain ⟨after, confirms, -, registrations, confirmed, second, secondPut, readsSecond⟩ :=
    confirms_receive keySign (by rw [same, serving]) (by rw [same, active])
      pending isHeld isConfirm alive.2 replied.2 saved
  refine ⟨after, first, second, ?_, ?_, confirmed, ?_, readsFirst, readsSecond⟩
  · rw [List.cons_append, Machine.run_cons_eq_some]
    refine ⟨waiting, handles, ?_⟩
    rw [Machine.run_append, waits, Option.bind_some, Machine.run_cons_eq_some]
    exact ⟨after, confirms, rfl⟩
  · rw [registrations, same, registers, unregistered]
    rfl
  · rw [secondPut, same, firstPut, owner, List.append_assoc]
    rfl

end Runs

/-! ### A client of a later version -/

/-- A registration with an address, in two phases. -/
def exampleRequest : NumberedRegRequest where
  networkCode := "net"
  deviceId := "a"
  ip := some 0x0A1A0005
  name := "laptop"
  version := ""
  keySign := some "5510feb3db5fdfa2caffebaa3f4cb3bd"
  ipVariable := false
  registrationMode := .preRegister
  serverId := 7

/-- Its fields, the last one first and with one that the description does not have. -/
def exampleFields : List Field :=
  ⟨12, .delimited [1, 2]⟩ :: (Proto.RegRequestMsg.format.fields exampleRequest.toProto).reverse

def exampleSign : String → String := fun _ => "5510feb3db5fdfa2caffebaa3f4cb3bd"

/-- The bytes of a client that arrive while everything works. -/
def exampleReceived : Received :=
  ClientConnection.receivedNow (NumberedRequest.arranged exampleFields)

def exampleStart : ClientConnection := .start ClientConnection.preRegistrationServer [] 10

theorem registers_over_wire_example : ∃ after,
    (ClientConnection.machine (wireCodec exampleSign)).step exampleStart
    (.receive exampleReceived) =
        some after ∧ after.registrations = [exampleRequest.toRegRequestMsg] ∧
      Answered (exampleStart.register (wireCodec exampleSign) exampleRequest.toRegRequestMsg
        exampleReceived).2 exampleStart after :=
  @registers_over_wire exampleSign ClientConnection.preRegistrationServer [] 10 [] exampleStart
    exampleReceived exampleRequest exampleFields rfl rfl rfl (by decide +kernel)
    (by decide +kernel) (by decide +kernel) rfl rfl

/-- The confirmation of that client, after another connection changed a counter. -/
theorem two_phases_over_wire_example : ∃ live state after first second,
    (exampleStart.register (wireCodec exampleSign) exampleRequest.toRegRequestMsg
      exampleReceived).2 = .ok (live, state) ∧
    (ClientConnection.machine (wireCodec exampleSign)).run exampleStart
      (.receive exampleReceived ::
        [.others (exampleStart.register (wireCodec exampleSign) exampleRequest.toRegRequestMsg
          exampleReceived).1.server [⟨1, 0⟩]] ++
        [.receive (ClientConnection.receivedNow (NumberedRequest.encode .confirmReg))]) =
          some after ∧
    after.registrations = [exampleRequest.toRegRequestMsg] ∧
    after.session = some { live with
      session := { live.session with registrationStatus := .confirmed } } ∧
    after.puts = [(10, first), (10, second)] ∧
    Reads first (.reg ⟨live.session.ip, UInt8.ofNat state.net.prefixLen.val, state.gateway,
      serverVersion⟩) ∧
    Reads second (.confirmReg ⟨true⟩) := by
  have succeeds : ∃ live state, (exampleStart.register (wireCodec exampleSign)
      exampleRequest.toRegRequestMsg exampleReceived).2 = .ok (live, state) := ⟨_, _, rfl⟩
  obtain ⟨live, state, succeeds⟩ := succeeds
  have others : ∀ event ∈ [ConnectionEvent.others (exampleStart.register (wireCodec exampleSign)
      exampleRequest.toRegRequestMsg exampleReceived).1.server [⟨1, 0⟩]],
      ∃ server heap, event = .others server heap ∧
        ∃ held, server.service.states[live.state]? = some held := by
    refine List.forall_mem_singleton.mpr ⟨_, _, rfl, state, ?_⟩
    exact known_of_register succeeds
  obtain ⟨after, first, second, outcome⟩ := @two_phases_over_wire exampleSign
    ClientConnection.preRegistrationServer [] 10 [] exampleStart exampleReceived exampleRequest
    exampleFields (ClientConnection.receivedNow (NumberedRequest.encode .confirmReg)) _ live state
    rfl rfl rfl (by decide +kernel) (by decide +kernel) (by decide +kernel) rfl succeeds others rfl
    rfl ⟨rfl, rfl⟩ ⟨rfl, rfl⟩
  exact ⟨live, state, after, first, second, succeeds, outcome⟩

end Vnt.Registration
