/-
This file embeds one client's connection to the server as a machine: the loop that takes byte
strings from the connection, the registration that the first of them asks for, and what the handler
does with the others. Between two byte strings anything may become of the state the handler shares
with other connections. A session that waits for its confirmation is shown to be inert: until it is
confirmed, a byte string has no effect but a reply to its own sender.
-/

import Vnt.Server.Group
import Vnt.Server.Traffic

namespace Vnt.Server

open Vnt.Base

/-- `RequestMessage`. -/
inductive RequestMessage where
  | reg (msg : RegRequestMsg)
  | confirmReg
  deriving DecidableEq, Repr

/-- The messages of a server together with `RequestMessage::from_slice`. -/
structure ConnectionCodec extends ServerCodec where
  decodeRequest : List UInt8 → Except String RequestMessage
  isConfirmReg_iff : ∀ buf, isConfirmReg buf = true ↔ decodeRequest buf = .ok .confirmReg

/-- How far the loop of a connection has come: it waits for the first byte string, for another one,
or has ended with an error. -/
inductive ConnectionStage where
  | accepting
  | serving
  | ended
  deriving DecidableEq, Repr

/-- A connection: the server and the counters it shares, its own sender, the session of its handler,
and what the handler did so far. -/
structure ClientConnection where
  server : GroupServer
  heap : StatsHeap
  sender : Sender
  session : Option LiveSession
  stage : ConnectionStage
  puts : List (Sender × List UInt8)
  forwards : List (PeerId × ServerForwardData)
  registrations : List RegRequestMsg

/-- A byte string that was received, and what the handling of it finds: the two clocks, the random
number and the rows of a registration, what the peers' connections take, whether the sender of the
connection is left, how the save of a confirmation ends and whether a reply is taken. -/
structure Received where
  buf : List UInt8
  now : UInt64
  time : SystemTime
  randomId : RandomId
  records : List DeviceRecord
  accepts : PeerConnection → ServerMessage → Bool
  senderAlive : Bool
  saved : Except String Unit
  replied : Bool

inductive ConnectionEvent where
  | receive (received : Received)
  | others (server : GroupServer) (heap : StatsHeap)

namespace ClientConnection

def start (server : GroupServer) (heap : StatsHeap) (sender : Sender) : ClientConnection where
  server := server
  heap := heap
  sender := sender
  session := none
  stage := .accepting
  puts := []
  forwards := []
  registrations := []

/-! ### Registration -/

/-- `get_or_create_network_state` without interference. -/
def getOrCreateNetworkState (connection : ClientConnection) (networkCode : String)
    (config : NetworkConfig) (received : Received) : Except Fault (ClientConnection × StateRef) :=
  let service := connection.server.service
  match service.provider.lookup networkCode with
  | some ref => .ok (connection, ref)
  | none =>
    match NetworkState.newFromDb networkCode config.net config.leaseDuration received.time
        connection.heap.length received.records with
    | some state =>
      .ok ({ connection with
        server := { connection.server with
          service := { service with
            states := service.states ++ [state]
            provider := service.provider.insert networkCode service.states.length } }
        heap := connection.heap ++
          received.records.map fun record => ⟨record.txBytes, record.rxBytes⟩ },
        service.states.length)
    | none => .error .panics

/-- The address of a registration, in the state that was found for its network. -/
def allocate (connection : ClientConnection) (ref : StateRef) (req : RegRequestMsg)
    (received : Received) : ClientConnection × Except Fault (LiveSession × NetworkState) :=
  match connection.server.service.states[ref]? with
  | none => (connection, .error .panics)
  | some state =>
    match state.register req received.randomId connection.sender received.time
        connection.heap.length with
    | .error message => (connection, .error (.error message))
    | .ok (next, session, _) =>
      ({ connection with
          server := { connection.server with
            service := { connection.server.service with
              states := connection.server.service.states.set ref next } }
          heap := connection.heap ++ [TrafficStats.new] },
        .ok (⟨session, ref⟩, next))

/-- `ControlService::register` without interference. -/
def register (codec : ConnectionCodec) (connection : ClientConnection) (req : RegRequestMsg)
    (received : Received) : ClientConnection × Except Fault (LiveSession × NetworkState) :=
  let service := connection.server.service
  match req.check, service.validateRegistration codec.keySign req,
      service.allowedConfig req.networkCode with
  | .error message, _, _ => (connection, .error (.error message))
  | .ok (), .error message, _ => (connection, .error (.error message))
  | .ok (), .ok (), .error message => (connection, .error (.error message))
  | .ok (), .ok (), .ok config =>
    match connection.getOrCreateNetworkState req.networkCode config received with
    | .error fault => (connection, .error fault)
    | .ok (located, ref) => located.allocate ref req received

/-- `sender.send(…).await?` of a reply. -/
def reply (connection : ClientConnection) (sender : Sender) (data : List UInt8)
    (received : Received) : ClientConnection × Except Fault Unit :=
  if received.replied = true then
    ({ connection with puts := connection.puts ++ [(sender, data)] }, .ok ())
  else (connection, .error (.error "channel closed"))

/-- `handle_reg`. -/
def handleReg (codec : ConnectionCodec) (connection : ClientConnection) (received : Received) :
    ClientConnection × Except Fault Unit :=
  if connection.session.isSome = true then
    (connection, .error (.error "Session is already active"))
  else
    match codec.decodeRequest received.buf with
    | .error message => (connection, .error (.error message))
    | .ok .confirmReg => (connection, .error (.error "Expected registration request"))
    | .ok (.reg reg) =>
      if received.senderAlive = false then
        (connection, .error (.error "Sender is already dropped"))
      else
        let (after, outcome) := connection.register codec reg received
        let registered := { after with registrations := after.registrations ++ [reg] }
        match outcome with
        | .error (.error message) =>
          registered.reply connection.sender (codec.encodeErrorResponse 400 message) received
        | .error .panics => (registered, .error .panics)
        | .ok (live, state) =>
          { registered with session := some live }.reply connection.sender
            (codec.encodeRegResponse live.session.ip (UInt8.ofNat state.net.prefixLen.val)
              state.gateway) received

/-! ### Data -/

/-- `handle_confirm_reg`; what it saves in the database is no part of the network state. -/
def handleConfirmReg (codec : ConnectionCodec) (connection : ClientConnection)
    (received : Received) : ClientConnection × Except Fault Unit :=
  match connection.session with
  | none => (connection, .error (.error "Session is not active"))
  | some live =>
    if received.senderAlive = false then (connection, .error (.error "Sender is already dropped"))
    else if live.session.registrationStatus ≠ .pendingConfirmation then
      (connection, .error (.error "Session is not in pending confirmation state"))
    else
      match received.saved with
      | .error message =>
        connection.reply connection.sender
          (codec.encodeErrorResponse 500 s!"Failed to save registration: {message}") received
      | .ok () =>
        { connection with
          session := some { live with
            session := { live.session with registrationStatus := .confirmed } } }.reply
          connection.sender (codec.encodeConfirmRegResponse true) received

/-- What one action of the handler but a confirmation does. -/
def perform (connection : ClientConnection) (state : NetworkState) :
    HandlerAction → ClientConnection
  | .trySend sender data => { connection with puts := connection.puts ++ [(sender, data)] }
  | .forward peer message =>
    { connection with forwards := connection.forwards ++ [(peer, message)] }
  | .recordTx ip bytes =>
    { connection with heap := state.recordTxTraffic connection.heap ip bytes }
  | .recordRx ip bytes =>
    { connection with heap := state.recordRxTraffic connection.heap ip bytes }
  | .updateClientLatency networkCode ip latencyMs =>
    { connection with
      server := { connection.server with
        service := connection.server.service.updateClientLatency networkCode ip latencyMs } }
  | .confirmReg => connection

/-- `handle_data`. -/
def handleData (codec : ConnectionCodec) (connection : ClientConnection) (received : Received) :
    ClientConnection × Except Fault Unit :=
  match connection.session with
  | none => (connection, .error (.error "Session is not active"))
  | some live =>
    match connection.server.service.states[live.state]? with
    | none => (connection, .error .panics)
    | some state =>
      let handler := connection.server.handler live state received.accepts received.senderAlive
      let result := handler.handleData codec.toHandlerCodec received.now received.buf
      if .confirmReg ∈ result.actions then connection.handleConfirmReg codec received
      else (result.actions.foldl (perform · state) connection, result.outcome)

/-- The loop: the first byte string goes to `handle_reg`, all others to `handle_data`, and an error
ends it. -/
def receive (codec : ConnectionCodec) (connection : ClientConnection) (received : Received) :
    Option ClientConnection :=
  let handled :=
    match connection.stage with
    | .accepting => some (connection.handleReg codec received)
    | .serving => some (connection.handleData codec received)
    | .ended => none
  handled.map fun (after, outcome) =>
    { after with
      stage :=
        match outcome with
        | .ok () => .serving
        | .error _ => .ended }

/-- A connection as a machine. -/
def machine (codec : ConnectionCodec) : Machine ClientConnection ConnectionEvent where
  step connection
    | .receive received => connection.receive codec received
    | .others server heap => some { connection with server := server, heap := heap }

/-! ### What the parts of a registration leave alone -/

section Frames

variable (codec : ConnectionCodec) (connection : ClientConnection) (received : Received)
  (req : RegRequestMsg)

/-- Everything but the shared state is as it was. -/
def SameHandler (before after : ClientConnection) : Prop :=
  after = { before with server := after.server, heap := after.heap }

theorem sameHandler_getOrCreate {config : NetworkConfig} {networkCode : String}
    {located : ClientConnection} {ref : StateRef}
    (found : connection.getOrCreateNetworkState networkCode config received = .ok (located, ref)) :
    connection.SameHandler located := by
  unfold getOrCreateNetworkState at found
  dsimp only at found
  split at found
  · cases found
    rfl
  · split at found
    · cases found
      rfl
    · cases found

/-- A registration fails with nothing changed, or comes to ask for an address. -/
theorem register_cases :
    (∃ fault, connection.register codec req received = (connection, .error fault)) ∨
      ∃ located ref, connection.SameHandler located ∧
        connection.register codec req received = located.allocate ref req received := by
  unfold register
  dsimp only
  split
  · exact .inl ⟨_, rfl⟩
  · exact .inl ⟨_, rfl⟩
  · exact .inl ⟨_, rfl⟩
  · split
    · exact .inl ⟨_, rfl⟩
    · next located ref found =>
      exact .inr ⟨located, ref, connection.sameHandler_getOrCreate received found, rfl⟩

theorem sameHandler_allocate (ref : StateRef) :
    connection.SameHandler (connection.allocate ref req received).1 := by
  unfold allocate
  split
  · rfl
  · split <;> rfl

theorem sameHandler_register :
    connection.SameHandler (connection.register codec req received).1 := by
  rcases connection.register_cases codec received req with
    ⟨fault, failed⟩ | ⟨located, ref, same, asked⟩
  · rw [failed]
    rfl
  · have after := located.sameHandler_allocate received req ref
    rw [asked]
    unfold SameHandler at same after ⊢
    rw [after, same]

/-- A registration that succeeds leaves a session of its request. -/
theorem register_ok {live : LiveSession} {state : NetworkState}
    (succeeds : (connection.register codec req received).2 = .ok (live, state)) :
    ∃ ip sender, live.session = Session.new req ip received.randomId sender := by
  rcases connection.register_cases codec received req with
    ⟨fault, failed⟩ | ⟨located, ref, same, asked⟩
  · rw [failed] at succeeds
    cases succeeds
  · rw [asked, allocate] at succeeds
    split at succeeds
    · cases succeeds
    · split at succeeds
      · cases succeeds
      · next registered =>
        cases succeeds
        obtain ⟨table, ip, old, -, -, isSession, -⟩ := NetworkState.register_cases registered
        exact ⟨ip, _, isSession⟩

/-- A reply reaches the sender it is for, or nothing. -/
theorem reply_fst (sender : Sender) (data : List UInt8) :
    (connection.reply sender data received).1 =
      { connection with
        puts := connection.puts ++ if received.replied = true then [(sender, data)] else [] } := by
  unfold reply
  split
  · rfl
  · rw [List.append_nil]

end Frames

/-! ### Unconfirmed sessions are inert -/

/-- The handler has no session, or one that waits for its confirmation. -/
def Unconfirmed (connection : ClientConnection) : Prop :=
  ∀ live, connection.session = some live →
    live.session.registrationStatus = .pendingConfirmation

/-- What the handling of a byte string may do: without a confirmed session it answers its own sender
at most, forwards nothing, and changes the shared state only as a registration does; with a session
it does not register; and a session is confirmed after it only if it was before, if it comes from a
normal registration, or if its confirmation was saved. -/
structure Inert (codec : ConnectionCodec) (before : ClientConnection) (received : Received)
    (after : ClientConnection) : Prop where
  ownSender : before.Unconfirmed →
    ∃ puts, after.puts = before.puts ++ puts ∧ ∀ put ∈ puts, put.1 = before.sender
  noForward : before.Unconfirmed → after.forwards = before.forwards
  untouched : before.Unconfirmed → (after.server = before.server ∧ after.heap = before.heap) ∨
    ∃ req, codec.decodeRequest received.buf = .ok (.reg req) ∧
      after.registrations = before.registrations ++ [req] ∧
      after.server = (before.register codec req received).1.server ∧
      after.heap = (before.register codec req received).1.heap
  once : before.session.isSome = true → after.registrations = before.registrations
  confirmed : ∀ live, after.session = some live → live.session.registrationStatus = .confirmed →
    before.session = some live ∨
      (∃ req, codec.decodeRequest received.buf = .ok (.reg req) ∧
        req.registrationMode = .normal ∧ before.session = none ∧
        after.registrations = before.registrations ++ [req]) ∨
      (codec.decodeRequest received.buf = .ok .confirmReg ∧ received.saved = .ok () ∧
        ∃ pending, before.session = some pending ∧
          pending.session.registrationStatus = .pendingConfirmation)

section Inert

variable {codec : ConnectionCodec} {connection : ClientConnection} {received : Received}

theorem Inert.refl : Inert codec connection received connection where
  ownSender := fun _ => ⟨[], (List.append_nil _).symm, nofun⟩
  noForward := fun _ => rfl
  untouched := fun _ => .inl ⟨rfl, rfl⟩
  once := fun _ => rfl
  confirmed := fun _ same _ => .inl same

/-- A registration that was asked for changes the shared state and may leave a session and a
reply. -/
theorem inert_registered {req : RegRequestMsg} {after : ClientConnection}
    {puts : List (Sender × List UInt8)} (none : connection.session = none)
    (decoded : codec.decodeRequest received.buf = .ok (.reg req))
    (isAfter : after = { (connection.register codec req received).1 with
      registrations := (connection.register codec req received).1.registrations ++ [req]
      session := after.session
      puts := (connection.register codec req received).1.puts ++ puts })
    (own : ∀ put ∈ puts, put.1 = connection.sender)
    (mode : ∀ live, after.session = some live → live.session.registrationStatus = .confirmed →
      req.registrationMode = .normal) : Inert codec connection received after := by
  have same := connection.sameHandler_register codec received req
  have registers : after.registrations = connection.registrations ++ [req] := by
    rw [isAfter, same]
  refine ⟨fun _ => ⟨puts, ?_, own⟩, fun _ => ?_,
    fun _ => .inr ⟨req, decoded, registers, ?_, ?_⟩, fun active => ?_,
    fun live isLive confirmed =>
      .inr (.inl ⟨req, decoded, mode live isLive confirmed, none, registers⟩)⟩
  · rw [isAfter, same]
  · rw [isAfter, same]
  · rw [isAfter]
  · rw [isAfter]
  · rw [none] at active
    cases active

theorem put_of_reply {sender : Sender} {data : List UInt8} {put : Sender × List UInt8}
    (member : put ∈ if received.replied = true then [(sender, data)] else []) : put.1 = sender := by
  split at member
  · rw [List.mem_singleton.mp member]
  · cases member

theorem mode_of_confirmed {req : RegRequestMsg} {ip : Ipv4Addr} {randomId : RandomId}
    {sender : Sender}
    (confirmed : (Session.new req ip randomId sender).registrationStatus = .confirmed) :
    req.registrationMode = .normal := by
  unfold Session.new at confirmed
  dsimp only at confirmed
  split at confirmed
  · assumption
  · cases confirmed

theorem inert_handleReg : Inert codec connection received
    (connection.handleReg codec received).1 := by
  unfold handleReg
  split
  · exact .refl
  · next inactive =>
    have none : connection.session = none := Option.not_isSome_iff_eq_none.mp inactive
    split
    · exact .refl
    · exact .refl
    · next req decoded =>
      split
      · exact .refl
      · have same := connection.sameHandler_register codec received req
        have unset : (connection.register codec req received).1.session = Option.none := by
          rw [same, none]
        dsimp only
        split
        · rw [reply_fst]
          refine inert_registered none decoded rfl (fun put => put_of_reply) fun live isLive => ?_
          cases unset.symm.trans isLive
        · refine @inert_registered codec connection received req _
            [] none decoded ?_ nofun fun live isLive => ?_
          · rw [List.append_nil]
          · cases unset.symm.trans isLive
        · next live state succeeds =>
          rw [reply_fst]
          refine inert_registered none decoded rfl (fun put => put_of_reply) ?_
          intro found isFound confirmed
          cases isFound
          obtain ⟨ip, sender, isSession⟩ := connection.register_ok codec received req succeeds
          rw [isSession] at confirmed
          exact mode_of_confirmed confirmed

theorem inert_handleConfirmReg
    (decoded : connection.Unconfirmed → codec.decodeRequest received.buf = .ok .confirmReg) :
    Inert codec connection received (connection.handleConfirmReg codec received).1 := by
  unfold handleConfirmReg
  split
  · exact .refl
  · next live active =>
    split
    · exact .refl
    · split
      · exact .refl
      · next pending =>
        have waiting := not_not.mp pending
        have unconfirmed : connection.Unconfirmed := fun found same =>
          Option.some.inj (active.symm.trans same) ▸ waiting
        split
        · rw [reply_fst]
          exact ⟨fun _ => ⟨_, rfl, fun put => put_of_reply⟩, fun _ => rfl,
            fun _ => .inl ⟨rfl, rfl⟩, fun _ => rfl, fun _ same _ => .inl same⟩
        · next saved =>
          rw [reply_fst]
          exact ⟨fun _ => ⟨_, rfl, fun put => put_of_reply⟩, fun _ => rfl,
            fun _ => .inl ⟨rfl, rfl⟩, fun _ => rfl,
            fun _ _ _ => .inr (.inr ⟨decoded unconfirmed, saved, live, active, waiting⟩)⟩

/-- The actions of a confirmed session may reach others, but neither its session nor its
registrations. -/
theorem perform_foldl (state : NetworkState) (actions : List HandlerAction) :
    (actions.foldl (perform · state) connection).session = connection.session ∧
      (actions.foldl (perform · state) connection).registrations = connection.registrations := by
  induction actions generalizing connection with
  | nil => exact ⟨rfl, rfl⟩
  | cons action rest inductionHypothesis =>
    obtain ⟨session, registrations⟩ :=
      @inductionHypothesis (connection.perform state action)
    cases action <;> exact ⟨session, registrations⟩

/-- A session that waits for its confirmation has no action but the confirmation. -/
theorem handleData_pending {handler : ControlHandler} {session : Session} {now : UInt64}
    {buf : List UInt8} (active : handler.session = some session)
    (pending : session.registrationStatus = .pendingConfirmation) :
    handler.handleData codec.toHandlerCodec now buf =
      .done (if codec.isConfirmReg buf = true then [.confirmReg] else []) := by
  unfold ControlHandler.handleData
  rw [active]
  dsimp only
  rw [pending]
  dsimp only
  split <;> rfl

theorem inert_handleData : Inert codec connection received
    (connection.handleData codec received).1 := by
  unfold handleData
  split
  · exact .refl
  · next live active =>
    split
    · exact .refl
    · next state known =>
      dsimp only
      cases status : live.session.registrationStatus with
      | pendingConfirmation =>
        by_cases confirms : codec.isConfirmReg received.buf = true
        · rw [handleData_pending rfl status, if_pos confirms]
          refine inert_handleConfirmReg fun _ => ?_
          exact (codec.isConfirmReg_iff received.buf).mp confirms
        · rw [handleData_pending rfl status, if_neg confirms]
          exact .refl
      | confirmed =>
        have notUnconfirmed : ¬ connection.Unconfirmed := fun unconfirmed => by
          cases status.symm.trans (unconfirmed live active)
        split
        · exact inert_handleConfirmReg fun unconfirmed => absurd unconfirmed notUnconfirmed
        · obtain ⟨session, registrations⟩ := @perform_foldl connection state
            ((connection.server.handler live state received.accepts
              received.senderAlive).handleData codec.toHandlerCodec received.now
                received.buf).actions
          exact ⟨fun unconfirmed => absurd unconfirmed notUnconfirmed,
            fun unconfirmed => absurd unconfirmed notUnconfirmed,
            fun unconfirmed => absurd unconfirmed notUnconfirmed, fun _ => registrations,
            fun found isFound _ => .inl (session.symm.trans isFound)⟩

/-- The handling of a byte string in any state is inert, and the loop adds nothing to it. -/
theorem inert_receive {after : ClientConnection}
    (handles : connection.receive codec received = some after) :
    Inert codec connection received after := by
  obtain ⟨⟨handled, outcome⟩, isHandled, same⟩ := Option.map_eq_some_iff.mp handles
  subst same
  split at isHandled
  · have inert : Inert codec connection received (connection.handleReg codec received).1 :=
      inert_handleReg
    rw [Option.some.inj isHandled] at inert
    exact ⟨inert.ownSender, inert.noForward, inert.untouched, inert.once, inert.confirmed⟩
  · have inert : Inert codec connection received (connection.handleData codec received).1 :=
      inert_handleData
    rw [Option.some.inj isHandled] at inert
    exact ⟨inert.ownSender, inert.noForward, inert.untouched, inert.once, inert.confirmed⟩
  · cases isHandled

end Inert

/-! ### Runs -/

section Runs

variable {codec : ConnectionCodec} {connection : ClientConnection} {received : Received}

/-- Only the first byte string is taken for a registration, so a connection registers at most
once. -/
def RegisteredOnce (connection : ClientConnection) : Prop :=
  connection.registrations.length ≤ 1 ∧
    (connection.stage = .accepting → connection.registrations = [])

theorem registrations_handleReg :
    (connection.handleReg codec received).1.registrations = connection.registrations ∨
      ∃ req, (connection.handleReg codec received).1.registrations =
        connection.registrations ++ [req] := by
  have same (req : RegRequestMsg) : (connection.register codec req received).1.registrations =
      connection.registrations := by
    rw [sameHandler_register codec connection received req]
  unfold handleReg
  split
  · exact .inl rfl
  · split
    · exact .inl rfl
    · exact .inl rfl
    · next req decoded =>
      split
      · exact .inl rfl
      · refine .inr ⟨req, ?_⟩
        rw [← same req]
        dsimp only
        split
        · rw [reply_fst]
        · rfl
        · rw [reply_fst]

theorem registrations_handleData :
    (connection.handleData codec received).1.registrations = connection.registrations := by
  cases active : connection.session with
  | none => rw [handleData, active]
  | some live => exact inert_handleData.once (by rw [active]; rfl)

theorem RegisteredOnce.receive {after : ClientConnection} (once : connection.RegisteredOnce)
    (handles : connection.receive codec received = some after) : after.RegisteredOnce := by
  obtain ⟨⟨handled, outcome⟩, isHandled, same⟩ := Option.map_eq_some_iff.mp handles
  subst same
  refine ⟨?_, fun accepting => ?_⟩
  · split at isHandled
    · next accepting =>
      have fresh := once.2 accepting
      have isAfter : (connection.handleReg codec received).1 = handled :=
        congrArg Prod.fst (Option.some.inj isHandled)
      rcases @registrations_handleReg codec connection received with unchanged | ⟨req, added⟩
      · rw [← isAfter, unchanged, fresh]
        exact Nat.zero_le 1
      · rw [← isAfter, added, fresh]
        exact Nat.le_refl 1
    · have isAfter : (connection.handleData codec received).1 = handled :=
        congrArg Prod.fst (Option.some.inj isHandled)
      rw [← isAfter, registrations_handleData]
      exact once.1
    · cases isHandled
  · cases outcome <;> cases accepting

theorem registeredOnce_of_run {server : GroupServer} {heap : StatsHeap} {sender : Sender}
    {events : List ConnectionEvent}
    (reaches : (machine codec).run (start server heap sender) events = some connection) :
    connection.RegisteredOnce := by
  have initial : (start server heap sender).RegisteredOnce := ⟨Nat.zero_le 1, fun _ => rfl⟩
  refine Machine.run_induction (fun _ => RegisteredOnce) initial ?_ reaches
  intro past before event after _ once enabled
  cases event with
  | receive received => exact once.receive enabled
  | others server heap =>
    cases enabled
    exact once

end Runs

/-- On every connection, each byte string that is received is inert as long as no session is
confirmed, and at most one of them registers. -/
theorem inert_of_run {codec : ConnectionCodec} {server : GroupServer} {heap : StatsHeap}
    {sender : Sender} {events : List ConnectionEvent} {before after : ClientConnection}
    {received : Received}
    (reaches : (machine codec).run (start server heap sender) events = some before)
    (handles : (machine codec).step before (.receive received) = some after) :
    Inert codec before received after ∧ after.registrations.length ≤ 1 :=
  ⟨inert_receive handles, ((registeredOnce_of_run reaches).receive handles).1⟩

/-! ### A pre-registration -/

/-- The codec of the run below: one byte string is the request of a client, one confirms. -/
def preRegistrationCodec : ConnectionCodec where
  isConfirmReg := fun buf => buf == [0x12, 0x00]
  decodeRpcRequest := fun _ => .error "failed to decode Protobuf message"
  encodeClientListResponse := fun _ _ => []
  encodeClientSimpleInfoList := fun _ => []
  encodeRegResponse := fun _ _ _ => [0x0A]
  encodeErrorResponse := fun _ _ => [0x12]
  encodeConfirmRegResponse := fun _ => [0x1A, 0x02, 0x08, 0x01]
  keySign := fun _ => "5510feb3db5fdfa2caffebaa3f4cb3bd"
  decodeRequest := fun buf =>
    if buf = [0x0A] then
      .ok (.reg { NetworkState.examplePreRegistration "a" with
        keySign := some "5510feb3db5fdfa2caffebaa3f4cb3bd" })
    else if buf = [0x12, 0x00] then .ok .confirmReg
    else .error "failed to decode Protobuf message"
  isConfirmReg_iff := by
    intro buf
    rw [beq_iff_eq]
    split
    · next first => simp [first]
    · next other =>
      split
      · next confirms => simp [confirms]
      · next neither => simp [neither]

/-- A server with the example network. -/
def preRegistrationServer : GroupServer where
  service := .new
    { defaultLeaseDuration := 86400000000000
      dbNets := (∅ : Map String ManagedNetwork).insert "net"
        ⟨⟨NetworkState.exampleNet, 86400000000000⟩, "Secret-Of-The-Network-0001"⟩
      whiteList := [] }
  peers := none

/-- A byte string that arrives while everything works. -/
def receivedNow (buf : List UInt8) : Received :=
  ⟨buf, 0, 0, 1, [], fun _ _ => true, true, .ok (), true⟩

/-- A broadcast that a client sends before it confirms. -/
def earlyBroadcast : Received :=
  receivedNow [0x84, 0x55, 0, 0, 0, 0, 0, 0, 10, 26, 0, 2, 10, 26, 0, 255]

theorem inert_earlyBroadcast : ∃ before after,
    (machine preRegistrationCodec).run (start preRegistrationServer [] 10)
      [.receive (receivedNow [0x0A])] = some before ∧
    (machine preRegistrationCodec).step before (.receive earlyBroadcast) = some after ∧
    before.session.isSome = true ∧ after.puts = [(10, [0x0A])] ∧
    Inert preRegistrationCodec before earlyBroadcast after ∧ after.registrations.length ≤ 1 := by
  have reaches : ∃ before after,
      (machine preRegistrationCodec).run (start preRegistrationServer [] 10)
        [.receive (receivedNow [0x0A])] = some before ∧
      (machine preRegistrationCodec).step before (.receive earlyBroadcast) = some after ∧
      before.session.isSome = true ∧ after.puts = [(10, [0x0A])] := ⟨_, _, rfl, rfl, rfl, rfl⟩
  obtain ⟨before, after, reaches, handles, active, puts⟩ := reaches
  exact ⟨before, after, reaches, handles, active, puts, inert_of_run reaches handles⟩

end ClientConnection

end Vnt.Server
