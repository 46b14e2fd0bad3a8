/-
This file proves that the networks of a group of servers are isolated and that nobody joins one
without its secret. What the handler of a session puts into a sender, and what a server puts into
one for another server, stays in the network of the session it comes from, whatever the packets
say, and each sender was installed for a client that presented the sign of the secret that the
network had when it was checked.
-/

import Vnt.Server.Confinement
import Vnt.Server.NetworksInvariant

namespace Vnt.Server

open Vnt.Base

/-! ### One server of the group -/

namespace GroupServer

variable {codec : ServerCodec} {number : Nat} {server next : GroupServer} {event : GroupEvent}
  {output : Output} {admitted : Sender → String → Prop} {valid : RegRequestMsg → Sender → Prop}
  {code : String}

/-- A server that is sound and still has the state of a session at its place. -/
structure Serves (admitted : Sender → String → Prop) (valid : RegRequestMsg → Sender → Prop)
    (live : LiveSession) (server : GroupServer) : Prop where
  sound : server.service.Sound admitted valid
  code : server.service.codes[live.state]? = some live.session.networkCode
  own : admitted live.session.sender live.session.networkCode

/-- What actions have put into senders and forwarded, with the server they left. -/
structure Keeps (admitted : Sender → String → Prop) (valid : RegRequestMsg → Sender → Prop)
    (live : LiveSession)
    (result : GroupServer × List (Sender × List UInt8) × List (Nat × ServerForwardData)) :
    Prop where
  serves : result.1.Serves admitted valid live
  puts : ∀ put ∈ result.2.1, admitted put.1 live.session.networkCode
  forwards : ∀ sent ∈ result.2.2, sent.2.networkCode = live.session.networkCode

variable {live : LiveSession}

theorem Serves.confirmReg (serves : server.Serves admitted valid live) (codec : ServerCodec)
    (index : Nat) (senderAlive : Bool) (saved : Except String Unit) :
    (server.confirmReg codec index live senderAlive saved).1.Serves admitted valid live ∧
      ∀ put ∈ (server.confirmReg codec index live senderAlive saved).2,
        admitted put.1 live.session.networkCode := by
  unfold GroupServer.confirmReg
  split
  · exact ⟨serves, nofun⟩
  · split
    · exact ⟨serves, List.forall_mem_singleton.mpr serves.own⟩
    · refine ⟨⟨⟨serves.sound.provider, serves.sound.registrations, ?_, serves.sound.installed⟩,
        serves.code, serves.own⟩, List.forall_mem_singleton.mpr serves.own⟩
      intro other member
      rcases List.mem_or_eq_of_mem_set member with before | rfl
      · exact serves.sound.sessions other before
      · exact ⟨serves.code, serves.own⟩

variable {handler : ControlHandler} {action : HandlerAction} {actions : List HandlerAction}

theorem Serves.perform (serves : server.Serves admitted valid live) (codec : ServerCodec)
    (index : Nat) (senderAlive : Bool) (saved : Except String Unit)
    (reaches : ∀ ip sender, handler.networkState.senderMap.lookup ip = some sender →
      admitted sender live.session.networkCode)
    (confined : handler.Confined live.session action) :
    Keeps admitted valid live (server.perform codec index live senderAlive saved action) := by
  cases action with
  | trySend sender data =>
    refine ⟨serves, List.forall_mem_singleton.mpr ?_, nofun⟩
    rcases confined with own | ⟨ip, present⟩
    · rw [own]
      exact serves.own
    · exact reaches ip sender present
  | forward peer message =>
    refine ⟨serves, nofun, fun sent member => ?_⟩
    obtain ⟨peers, -, rfl⟩ := Option.map_eq_some_iff.mp (Option.mem_toList.mp member)
    exact confined
  | recordTx ip bytes => exact ⟨serves, nofun, nofun⟩
  | recordRx ip bytes => exact ⟨serves, nofun, nofun⟩
  | updateClientLatency networkCode ip latencyMs =>
    refine ⟨⟨serves.sound.updateClientLatency networkCode ip latencyMs, ?_, serves.own⟩, nofun,
      nofun⟩
    rw [show (server.perform codec index live senderAlive saved
        (.updateClientLatency networkCode ip latencyMs)).1.service.codes = server.service.codes from
      NetworkService.codes_updateClientLatency networkCode ip latencyMs]
    exact serves.code
  | confirmReg =>
    obtain ⟨after, puts⟩ := serves.confirmReg codec index senderAlive saved
    exact ⟨after, puts, nofun⟩

/-- The actions of a handler, when each of them is confined. -/
theorem Serves.performAll (serves : server.Serves admitted valid live) (codec : ServerCodec)
    (index : Nat) (senderAlive : Bool) (saved : Except String Unit)
    (reaches : ∀ ip sender, handler.networkState.senderMap.lookup ip = some sender →
      admitted sender live.session.networkCode)
    (confined : ∀ action ∈ actions, handler.Confined live.session action) :
    Keeps admitted valid live (performAll codec index live senderAlive saved server actions) := by
  induction actions generalizing server with
  | nil => exact ⟨serves, nofun, nofun⟩
  | cons action rest inductionHypothesis =>
    obtain ⟨first, others⟩ := List.forall_mem_cons.mp confined
    have kept := serves.perform codec index senderAlive saved reaches first
    have later := inductionHypothesis kept.serves others
    exact ⟨later.serves, List.forall_mem_append.mpr ⟨kept.puts, later.puts⟩,
      List.forall_mem_append.mpr ⟨kept.forwards, later.forwards⟩⟩

/-- A packet on a session. -/
theorem sound_receive {index : Nat} {now : UInt64} {buf : List UInt8}
    {accepts : PeerConnection → ServerMessage → Bool} {senderAlive : Bool}
    {saved : Except String Unit}
    (sound : server.service.Sound admitted valid)
    (receives : server.receive codec number index now buf accepts senderAlive saved =
      some (next, output)) :
    next.service.Sound admitted valid ∧
      (∀ put ∈ output.puts, put.server = number ∧ admitted put.sender put.networkCode) ∧
      (∀ datagram ∈ output.datagrams, datagram.message.networkCode = datagram.networkCode) ∧
      output.admissions = [] := by
  obtain ⟨live, found, receives⟩ := Option.bind_eq_some_iff.mp receives
  obtain ⟨state, isState, same⟩ := Option.map_eq_some_iff.mp receives
  cases same
  obtain ⟨isCode, own⟩ := sound.sessions live (List.mem_of_getElem? found)
  have stateCode : state.networkCode = live.session.networkCode := by
    unfold NetworkService.codes at isCode
    rw [List.getElem?_map, isState] at isCode
    exact Option.some.inj isCode
  have reaches : ∀ ip sender, state.senderMap.lookup ip = some sender →
      admitted sender live.session.networkCode := by
    rw [← stateCode]
    exact sound.installed state (List.mem_of_getElem? isState)
  have serves : server.Serves admitted valid live := ⟨sound, isCode, own⟩
  let handler := server.handler live state accepts senderAlive
  have confined : ∀ action ∈ (handler.handleData codec.toHandlerCodec now buf).actions,
      handler.Confined live.session action :=
    ControlHandler.confined_handleData codec.toHandlerCodec rfl now buf
  have kept := serves.performAll codec index senderAlive saved reaches confined
  refine ⟨kept.serves.sound, ?_, ?_, rfl⟩
  · intro put member
    obtain ⟨sent, isSent, rfl⟩ := List.mem_map.mp member
    exact ⟨rfl, kept.puts sent isSent⟩
  · intro datagram member
    obtain ⟨sent, isSent, rfl⟩ := List.mem_map.mp member
    exact kept.forwards sent isSent

/-- The senders that are admitted after a step. -/
def Output.Admits (admitted : Sender → String → Prop) (output : Output) (sender : Sender)
    (code : String) : Prop :=
  admitted sender code ∨
    ∃ admission ∈ output.admissions, admission.sender = sender ∧ admission.req.networkCode = code

/-- What a step of a server leaves. -/
structure StepKeeps (admitted : Sender → String → Prop) (valid : RegRequestMsg → Sender → Prop)
    (number : Nat) (next : GroupServer) (output : Output) : Prop where
  sound : next.service.Sound (Output.Admits admitted output) valid
  puts : ∀ put ∈ output.puts,
    put.server = number ∧ Output.Admits admitted output put.sender put.networkCode
  datagrams : ∀ datagram ∈ output.datagrams,
    datagram.message.networkCode = datagram.networkCode
  admissions : ∀ admission ∈ output.admissions,
    admission.server = number ∧ valid admission.req admission.sender

theorem stepKeeps_of_sound (sound : next.service.Sound admitted valid) :
    StepKeeps admitted valid number next .none where
  sound := sound.mono (fun _ _ => .inl) fun _ _ => id
  puts := nofun
  datagrams := nofun
  admissions := nofun

theorem stepKeeps_allocate {index : Nat} {randomId : RandomId} {now : SystemTime}
    {stats : StatsRef} (sound : server.service.Sound admitted valid)
    (allocates : server.allocate codec number index randomId now stats = some (next, output)) :
    StepKeeps admitted valid number next output := by
  obtain ⟨⟨service, result⟩, allocated, same⟩ := Option.map_eq_some_iff.mp allocates
  rcases sound.allocate allocated with ⟨rfl, after⟩ | ⟨registration, session, state, rfl, member,
    sessionCode, after⟩
  · cases same
    exact stepKeeps_of_sound after
  · cases same
    have admits : ∀ sender code, (admitted sender code ∨ sender = registration.sender ∧
        code = registration.req.networkCode) → Output.Admits admitted
          { puts := [], datagrams := [],
            admissions := [⟨number, registration.sender, registration.req⟩] } sender code := by
      rintro sender code (before | ⟨rfl, rfl⟩)
      · exact .inl before
      · exact .inr ⟨_, List.mem_singleton_self _, rfl, rfl⟩
    refine ⟨after.mono admits fun _ _ => id, ?_, nofun, ?_⟩
    · exact List.forall_mem_singleton.mpr ⟨rfl, admits _ _ (.inr ⟨rfl, sessionCode⟩)⟩
    · exact List.forall_mem_singleton.mpr ⟨rfl, (sound.registrations registration member).1⟩

/-- Every step of a server keeps it sound. -/
theorem stepKeeps (sound : server.service.Sound admitted valid)
    (validates : ∀ place req sender, event = .register place req sender →
      server.service.validateRegistration codec.keySign req = .ok () → valid req sender)
    (steps : server.step codec number event = some (next, output)) :
    StepKeeps admitted valid number next output := by
  cases event with
  | register place req sender =>
    obtain ⟨service, begins, same⟩ := Option.map_eq_some_iff.mp steps
    cases same
    exact stepKeeps_of_sound (sound.beginRegister begins (validates place req sender rfl))
  | continueRegister place index =>
    obtain ⟨service, continues, same⟩ := Option.map_eq_some_iff.mp steps
    cases same
    exact stepKeeps_of_sound (sound.continueRegister continues)
  | createState place index now stats records =>
    obtain ⟨service, creates, same⟩ := Option.map_eq_some_iff.mp steps
    cases same
    exact stepKeeps_of_sound (sound.createState creates)
  | allocate place index randomId now stats => exact stepKeeps_allocate sound steps
  | receive place index now buf accepts senderAlive saved =>
    obtain ⟨after, puts, datagrams, none⟩ := sound_receive sound steps
    refine ⟨after.mono (fun _ _ => .inl) fun _ _ => id, ?_, datagrams, ?_⟩
    · exact fun put member => (puts put member).imp_right .inl
    · rw [none]
      nofun
  | close place index heap now =>
    obtain ⟨service, closes, same⟩ := Option.map_eq_some_iff.mp steps
    cases same
    exact stepKeeps_of_sound (sound.closeSession closes)
  | operate place ref operation =>
    cases steps
    exact stepKeeps_of_sound (sound.modifyState ref fun state => state.follows_operate operation)
  | request place request =>
    dsimp only [GroupServer.step] at steps
    split at steps
    · cases steps
      exact stepKeeps_of_sound
        ⟨sound.provider, sound.registrations, sound.sessions, sound.installed⟩
    · cases steps
      exact stepKeeps_of_sound sound
  | finish place index succeeds =>
    obtain ⟨change, -, same⟩ := Option.map_eq_some_iff.mp steps
    have rest : NetworkService.Sound admitted valid
        { server.service with changes := server.service.changes.eraseIdx index } :=
      ⟨sound.provider, sound.registrations, sound.sessions, sound.installed⟩
    cases same
    refine stepKeeps_of_sound ?_
    show (if succeeds = true then _ else _ : NetworkService).Sound admitted valid
    split
    · exact rest.applyChange change
    · exact rest
  | learn place peers =>
    cases steps
    exact stepKeeps_of_sound sound
  | deliver index => cases steps

end GroupServer

/-! ### The group -/

namespace Group

/-- A registration for the network with the sender was admitted by the server. -/
def Admitted (group : Group) (number : Nat) (sender : Sender) (code : String) : Prop :=
  ∃ admission ∈ group.admissions,
    admission.server = number ∧ admission.sender = sender ∧ admission.req.networkCode = code

/-- The request came with the sender and presented the sign of the secret that its network had when
the server checked it. -/
def Validated (codec : ServerCodec) (settings : List ServiceSettings) (past : List GroupEvent)
    (number : Nat) (req : RegRequestMsg) (sender : Sender) : Prop :=
  ∃ before later group server network,
    past = before ++ .register number req sender :: later ∧
    (machine codec).run (start settings) before = some group ∧
    group.servers[number]? = some server ∧
    server.service.dbNets.lookup req.networkCode = some network ∧
    req.keySign = some (codec.keySign network.secret)

/-- What every run keeps. -/
structure Isolated (codec : ServerCodec) (settings : List ServiceSettings)
    (past : List GroupEvent) (group : Group) : Prop where
  servers : ∀ number (server : GroupServer), group.servers[number]? = some server →
    server.service.Sound (group.Admitted number) (Validated codec settings past number)
  datagrams : ∀ datagram ∈ group.inFlight, datagram.message.networkCode = datagram.networkCode
  puts : ∀ put ∈ group.puts, group.Admitted put.server put.sender put.networkCode
  admissions : ∀ admission ∈ group.admissions,
    Validated codec settings past admission.server admission.req admission.sender

variable {codec : ServerCodec} {settings : List ServiceSettings} {past : List GroupEvent}
  {group next : Group} {event : GroupEvent}

theorem Validated.append {number : Nat} {req : RegRequestMsg} {sender : Sender}
    (validated : Validated codec settings past number req sender) (event : GroupEvent) :
    Validated codec settings (past ++ [event]) number req sender := by
  obtain ⟨before, later, group, server, network, rfl, reaches, known, found, signed⟩ :=
    validated
  refine ⟨before, later ++ [event], group, server, network, ?_, reaches, known, found,
    signed⟩
  rw [List.append_assoc, List.cons_append]

theorem validateRegistration_ok {service : NetworkService} {keySign : String → String}
    {req : RegRequestMsg} (valid : service.validateRegistration keySign req = .ok ()) :
    ∃ network, service.dbNets.lookup req.networkCode = some network ∧
      req.keySign = some (keySign network.secret) := by
  unfold NetworkService.validateRegistration at valid
  split at valid
  · cases valid
  · next network found =>
    split at valid
    · cases valid
    · split at valid
      · cases valid
      · next provided isProvided =>
        split at valid
        · cases valid
        · next same =>
          rw [Decidable.not_not.mp same] at isProvided
          exact ⟨network, found, isProvided⟩

theorem isolated_start (codec : ServerCodec) (settings : List ServiceSettings) :
    Isolated codec settings [] (start settings) where
  servers := by
    intro number server found
    obtain ⟨own, -, rfl⟩ := List.mem_map.mp (List.mem_of_getElem? found)
    exact NetworkService.sound_new own
  datagrams _ member := by cases member
  puts _ member := by cases member
  admissions _ member := by cases member

theorem Isolated.deliver (isolated : Isolated codec settings past group) {index : Nat}
    (delivers : group.deliver index = some next) :
    Isolated codec settings (past ++ [.deliver index]) next := by
  have servers : ∀ number (server : GroupServer), group.servers[number]? = some server →
      server.service.Sound (group.Admitted number)
        (Validated codec settings (past ++ [.deliver index]) number) :=
    fun number server found => (isolated.servers number server found).mono (fun _ _ => id)
      fun _ _ validated => validated.append _
  have admissions : ∀ admission ∈ group.admissions,
      Validated codec settings (past ++ [.deliver index]) admission.server admission.req
        admission.sender :=
    fun admission member => (isolated.admissions admission member).append _
  obtain ⟨datagram, found, delivers⟩ := Option.bind_eq_some_iff.mp delivers
  obtain ⟨server, isServer, delivers⟩ := Option.bind_eq_some_iff.mp delivers
  obtain ⟨manager, isManager, same⟩ := Option.map_eq_some_iff.mp delivers
  split at same
  · next sender data handed =>
    subst same
    refine ⟨servers, isolated.datagrams, ?_, admissions⟩
    refine List.forall_mem_append.mpr ⟨isolated.puts, List.forall_mem_singleton.mpr ?_⟩
    show group.Admitted datagram.target sender datagram.networkCode
    obtain ⟨peers, -, rfl⟩ := Option.map_eq_some_iff.mp isManager
    obtain ⟨state, isState, handed⟩ := Option.bind_eq_some_iff.mp handed
    split at handed
    · cases handed
    · obtain ⟨other, present, same⟩ := Option.map_eq_some_iff.mp handed
      cases same
      rw [← isolated.datagrams datagram (List.mem_of_getElem? found)]
      exact ((isolated.servers _ server isServer).networkStates isState).2 _ _ present
  · subst same
    exact ⟨servers, isolated.datagrams, isolated.puts, admissions⟩

/-- The servers after a step of one of them. -/
theorem servers_commit {number other : Nat} {after found : GroupServer} {output : Output}
    (isFound : (group.commit number after output).servers[other]? = some found) :
    number = other ∧ found = after ∨ number ≠ other ∧ group.servers[other]? = some found := by
  unfold commit at isFound
  rw [List.getElem?_set] at isFound
  split at isFound
  · next same =>
    split at isFound
    · exact .inl ⟨same, (Option.some.inj isFound).symm⟩
    · cases isFound
  · next different => exact .inr ⟨different, isFound⟩

/-- A step of one server leaves the group isolated. -/
theorem Isolated.commit (isolated : Isolated codec settings past group) {number : Nat}
    {server after : GroupServer} {output : Output}
    (reaches : (machine codec).run (start settings) past = some group)
    (isServer : group.servers[number]? = some server)
    (place : event.server = some number)
    (steps : server.step codec number event = some (after, output)) :
    Isolated codec settings (past ++ [event]) (group.commit number after output) ∧
      ∀ admission ∈ output.admissions, admission.server = number := by
  have validates : ∀ place req sender, event = .register place req sender →
      server.service.validateRegistration codec.keySign req = .ok () →
      Validated codec settings (past ++ [event]) number req sender := by
    rintro place req sender rfl valid
    obtain ⟨network, found, signed⟩ := validateRegistration_ok valid
    cases ‹GroupEvent.server _ = some number›
    exact ⟨past, [], group, server, network, rfl, reaches, isServer, found, signed⟩
  have kept := GroupServer.stepKeeps ((isolated.servers number server isServer).mono
    (fun _ _ => id) fun _ _ validated => validated.append event) validates steps
  have earlier : ∀ {place sender code}, group.Admitted place sender code →
      (group.commit number after output).Admitted place sender code := by
    rintro place sender code ⟨admission, member, same⟩
    exact ⟨admission, List.mem_append_left _ member, same⟩
  have now : ∀ {sender code}, GroupServer.Output.Admits (group.Admitted number) output sender code →
      (group.commit number after output).Admitted number sender code := by
    rintro sender code (before | ⟨admission, member, sameSender, sameCode⟩)
    · exact earlier before
    · exact ⟨admission, List.mem_append_right _ member, (kept.admissions admission member).1,
        sameSender, sameCode⟩
  refine ⟨?_, fun admission member => (kept.admissions admission member).1⟩
  constructor
  · intro other found isFound
    rcases servers_commit isFound with ⟨rfl, rfl⟩ | ⟨-, before⟩
    · exact kept.sound.mono (fun _ _ => now) fun _ _ => id
    · exact (isolated.servers other found before).mono (fun _ _ => earlier)
        fun _ _ validated => validated.append event
  · exact List.forall_mem_append.mpr ⟨isolated.datagrams, kept.datagrams⟩
  · refine List.forall_mem_append.mpr ⟨fun put member => earlier (isolated.puts put member), ?_⟩
    intro put member
    obtain ⟨isNumber, admits⟩ := kept.puts put member
    rw [isNumber]
    exact now admits
  · refine List.forall_mem_append.mpr ⟨fun admission member =>
      (isolated.admissions admission member).append event, fun admission member => ?_⟩
    obtain ⟨isNumber, valid⟩ := kept.admissions admission member
    rw [isNumber]
    exact valid

theorem step_eq_some (enabled : (machine codec).step group event = some next) :
    (∃ index, event = .deliver index ∧ group.deliver index = some next) ∨
      ∃ number server after output, event.server = some number ∧
        group.servers[number]? = some server ∧
        server.step codec number event = some (after, output) ∧
        next = group.commit number after output := by
  cases event with
  | deliver index => exact .inl ⟨index, rfl, enabled⟩
  | _ =>
    obtain ⟨server, isServer, enabled⟩ := Option.bind_eq_some_iff.mp enabled
    obtain ⟨⟨after, output⟩, steps, same⟩ := Option.map_eq_some_iff.mp enabled
    exact .inr ⟨_, server, after, output, rfl, isServer, steps, same.symm⟩

end Group

/-! ### A sender belongs to one registration -/

namespace GroupServer

variable {codec : ServerCodec} {number : Nat} {server next : GroupServer} {event : GroupEvent}
  {output : Output} {taken : Sender → Prop}

theorem dwindles_updateClientLatency (service : NetworkService) (networkCode : String)
    (ip : Ipv4Addr) (latencyMs : UInt32) :
    service.Dwindles (service.updateClientLatency networkCode ip latencyMs) := by
  unfold NetworkService.updateClientLatency
  split
  · exact ⟨.refl _, rfl⟩
  · exact .refl service

theorem dwindles_performAll (codec : ServerCodec) (index : Nat) (live : LiveSession)
    (senderAlive : Bool) (saved : Except String Unit) (server : GroupServer)
    (actions : List HandlerAction) :
    server.service.Dwindles
      (performAll codec index live senderAlive saved server actions).1.service := by
  induction actions generalizing server with
  | nil => exact .refl _
  | cons action rest inductionHypothesis =>
    have first : server.service.Dwindles
        (server.perform codec index live senderAlive saved action).1.service := by
      cases action with
      | updateClientLatency networkCode ip latencyMs =>
        exact dwindles_updateClientLatency _ _ _ _
      | confirmReg =>
        show server.service.Dwindles
          (server.confirmReg codec index live senderAlive saved).1.service
        unfold confirmReg
        split
        · exact .refl _
        · split <;> exact ⟨.refl _, rfl⟩
      | _ => exact .refl _
    have later := inductionHypothesis
      (server.perform codec index live senderAlive saved action).1
    exact ⟨later.waiting.trans first.waiting, later.used.trans first.used⟩

/-- What a step leaves of the senders: an admitted one is new, and there is at most one. -/
structure StepDistinct (taken : Sender → Prop) (next : GroupServer) (output : Output) : Prop where
  distinct : next.service.Distinct fun sender =>
    taken sender ∨ ∃ admission ∈ output.admissions, admission.sender = sender
  fresh : ∀ admission ∈ output.admissions, ¬taken admission.sender
  single : ∀ admission ∈ output.admissions, ∀ other ∈ output.admissions, admission = other

theorem stepDistinct_of_distinct (distinct : next.service.Distinct taken)
    (none : output.admissions = []) : StepDistinct taken next output := by
  refine ⟨⟨distinct.nodup, distinct.used, ?_⟩, ?_, ?_⟩
  · rintro sender (before | ⟨admission, member, -⟩)
    · exact distinct.taken sender before
    · rw [none] at member
      cases member
  all_goals
    intro admission member
    rw [none] at member
    cases member

theorem stepDistinct (distinct : server.service.Distinct taken)
    (steps : server.step codec number event = some (next, output)) :
    StepDistinct taken next output := by
  have dwindles : ∀ {service : NetworkService}, server.service.Dwindles service →
      service.Distinct taken := fun dwindles => distinct.dwindles dwindles
  cases event with
  | register place req sender =>
    obtain ⟨service, begins, same⟩ := Option.map_eq_some_iff.mp steps
    cases same
    exact stepDistinct_of_distinct (distinct.beginRegister begins) rfl
  | continueRegister place index =>
    obtain ⟨service, continues, same⟩ := Option.map_eq_some_iff.mp steps
    cases same
    exact stepDistinct_of_distinct
      (dwindles (NetworkService.dwindles_continueRegister continues)) rfl
  | createState place index now stats records =>
    obtain ⟨service, creates, same⟩ := Option.map_eq_some_iff.mp steps
    cases same
    exact stepDistinct_of_distinct (dwindles (NetworkService.dwindles_createState creates)) rfl
  | allocate place index randomId now stats =>
    obtain ⟨⟨service, result⟩, allocated, same⟩ := Option.map_eq_some_iff.mp steps
    obtain ⟨kept, admits⟩ := distinct.allocate allocated
    cases result with
    | none =>
      cases same
      exact stepDistinct_of_distinct kept rfl
    | some admitted =>
      cases same
      obtain ⟨fresh, after⟩ := admits admitted rfl
      refine ⟨⟨after.nodup, after.used, ?_⟩, List.forall_mem_singleton.mpr fresh, ?_⟩
      · rintro sender (before | ⟨admission, member, rfl⟩)
        · exact after.taken sender (.inl before)
        · cases List.mem_singleton.mp member
          exact after.taken _ (.inr rfl)
      · intro admission member other isOther
        rw [List.mem_singleton.mp member, List.mem_singleton.mp isOther]
  | receive place index now buf accepts senderAlive saved =>
    obtain ⟨live, found, receives⟩ := Option.bind_eq_some_iff.mp steps
    obtain ⟨state, isState, same⟩ := Option.map_eq_some_iff.mp receives
    cases same
    exact stepDistinct_of_distinct (dwindles (dwindles_performAll _ _ _ _ _ _ _)) rfl
  | close place index heap now =>
    obtain ⟨service, closes, same⟩ := Option.map_eq_some_iff.mp steps
    obtain ⟨live, -, rfl⟩ := Option.map_eq_some_iff.mp closes
    cases same
    exact stepDistinct_of_distinct (dwindles ⟨.refl _, rfl⟩) rfl
  | operate place ref operation =>
    cases steps
    exact stepDistinct_of_distinct (dwindles ⟨.refl _, rfl⟩) rfl
  | request place request =>
    dsimp only [GroupServer.step] at steps
    split at steps
    · cases steps
      exact stepDistinct_of_distinct (dwindles ⟨.refl _, rfl⟩) rfl
    · cases steps
      exact stepDistinct_of_distinct distinct rfl
  | finish place index succeeds =>
    obtain ⟨change, -, same⟩ := Option.map_eq_some_iff.mp steps
    cases same
    refine stepDistinct_of_distinct (dwindles ?_) rfl
    show server.service.Dwindles (if succeeds = true then _ else _)
    split
    · have applied := NetworkService.dwindles_applyChange
        { server.service with changes := server.service.changes.eraseIdx index } change
      exact ⟨applied.waiting, applied.used⟩
    · exact ⟨.refl _, rfl⟩
  | learn place peers =>
    cases steps
    exact stepDistinct_of_distinct distinct rfl
  | deliver index => cases steps

end GroupServer

namespace Group

/-- A sender of the server was admitted. -/
def Taken (group : Group) (number : Nat) (sender : Sender) : Prop :=
  ∃ admission ∈ group.admissions, admission.server = number ∧ admission.sender = sender

/-- Each admitted sender belongs to one registration. -/
structure OneSession (group : Group) : Prop where
  distinct : ∀ number (server : GroupServer), group.servers[number]? = some server →
    server.service.Distinct (group.Taken number)
  unique : ∀ admission ∈ group.admissions, ∀ other ∈ group.admissions,
    admission.server = other.server → admission.sender = other.sender → admission = other

variable {codec : ServerCodec} {settings : List ServiceSettings} {group next : Group}
  {event : GroupEvent}

theorem oneSession_start (settings : List ServiceSettings) : (start settings).OneSession where
  distinct := by
    intro number server found
    obtain ⟨own, -, rfl⟩ := List.mem_map.mp (List.mem_of_getElem? found)
    refine ⟨List.nodup_nil, (fun _ member => by cases member), ?_⟩
    rintro sender ⟨admission, member, -⟩
    cases member
  unique _ member := by cases member

theorem OneSession.commit (oneSession : group.OneSession) {number : Nat}
    {server after : GroupServer} {output : Output}
    (isServer : group.servers[number]? = some server)
    (steps : server.step codec number event = some (after, output))
    (admitted : ∀ admission ∈ output.admissions, admission.server = number) :
    (group.commit number after output).OneSession := by
  have kept := GroupServer.stepDistinct (oneSession.distinct number server isServer) steps
  constructor
  · intro other found isFound
    rcases servers_commit isFound with ⟨rfl, rfl⟩ | ⟨different, wasFound⟩
    · refine ⟨kept.distinct.nodup, kept.distinct.used, ?_⟩
      rintro sender ⟨admission, member, isNumber, isSender⟩
      rcases List.mem_append.mp member with before | new
      · exact kept.distinct.taken sender (.inl ⟨admission, before, isNumber, isSender⟩)
      · exact kept.distinct.taken sender (.inr ⟨admission, new, isSender⟩)
    · have before := oneSession.distinct other found wasFound
      refine ⟨before.nodup, before.used, ?_⟩
      rintro sender ⟨admission, member, isOther, isSender⟩
      rcases List.mem_append.mp member with old | new
      · exact before.taken sender ⟨admission, old, isOther, isSender⟩
      · exact absurd ((admitted admission new).symm.trans isOther) different
  · intro first isFirst second isSecond sameServer sameSender
    rcases List.mem_append.mp isFirst with firstOld | firstNew
    · rcases List.mem_append.mp isSecond with secondOld | secondNew
      · exact oneSession.unique first firstOld second secondOld sameServer sameSender
      · exact absurd ⟨first, firstOld, sameServer.trans (admitted second secondNew), sameSender⟩
          (kept.fresh second secondNew)
    · rcases List.mem_append.mp isSecond with secondOld | secondNew
      · exact absurd ⟨second, secondOld, sameServer.symm.trans (admitted first firstNew),
          sameSender.symm⟩ (kept.fresh first firstNew)
      · exact kept.single first firstNew second secondNew

/-- The sender is one of the server, and whoever registered with it did so for the network. -/
def RegisteredFor (group : Group) (number : Nat) (sender : Sender) (code : String) : Prop :=
  group.Taken number sender ∧ ∀ admission ∈ group.admissions, admission.server = number →
    admission.sender = sender → admission.req.networkCode = code

theorem OneSession.registeredFor (oneSession : group.OneSession) {number : Nat} {sender : Sender}
    {code : String} (admitted : group.Admitted number sender code) :
    group.RegisteredFor number sender code := by
  obtain ⟨admission, member, sameServer, sameSender, sameCode⟩ := admitted
  refine ⟨⟨admission, member, sameServer, sameSender⟩, ?_⟩
  intro other isOther otherServer otherSender
  rw [oneSession.unique other isOther admission member (otherServer.trans sameServer.symm)
    (otherSender.trans sameSender.symm)]
  exact sameCode

theorem deliver_eq {index : Nat} (delivers : group.deliver index = some next) :
    next.servers = group.servers ∧ next.admissions = group.admissions := by
  obtain ⟨datagram, -, delivers⟩ := Option.bind_eq_some_iff.mp delivers
  obtain ⟨server, -, delivers⟩ := Option.bind_eq_some_iff.mp delivers
  obtain ⟨manager, -, same⟩ := Option.map_eq_some_iff.mp delivers
  split at same <;> subst same <;> exact ⟨rfl, rfl⟩

theorem isolated_of_run {events : List GroupEvent} {final : Group}
    (reaches : (machine codec).run (start settings) events = some final) :
    Isolated codec settings events final ∧ final.OneSession := by
  refine Machine.run_induction
    (fun past group => Isolated codec settings past group ∧ group.OneSession)
    ⟨isolated_start codec settings, oneSession_start settings⟩ ?_ reaches
  rintro past group event next reaches ⟨isolated, oneSession⟩ enabled
  rcases step_eq_some enabled with ⟨index, rfl, delivers⟩ | ⟨number, server, after, output, place,
    isServer, steps, rfl⟩
  · obtain ⟨sameServers, sameAdmissions⟩ := deliver_eq delivers
    refine ⟨isolated.deliver delivers, ?_, ?_⟩
    · unfold Taken
      rw [sameServers, sameAdmissions]
      exact oneSession.distinct
    · rw [sameAdmissions]
      exact oneSession.unique
  · obtain ⟨kept, admitted⟩ := isolated.commit reaches isServer place steps
    exact ⟨kept, oneSession.commit isServer steps admitted⟩

/-- In every run of a group of servers, bytes that come from a session are put only into senders
whose clients registered for the network of that session. Every sender in a network state is one of
a registration for the network of the state, and the request that came with this sender presented
the sign of the secret that its network had when it was checked. -/
theorem isolated_and_admitted {events : List GroupEvent} {final : Group}
    (reaches : (machine codec).run (start settings) events = some final) :
    (∀ put ∈ final.puts, final.RegisteredFor put.server put.sender put.networkCode) ∧
      (∀ number (server : GroupServer), final.servers[number]? = some server →
        ∀ state ∈ server.service.states, ∀ ip sender,
          state.senderMap.lookup ip = some sender →
            final.RegisteredFor number sender state.networkCode) ∧
      ∀ admission ∈ final.admissions,
        Validated codec settings events admission.server admission.req admission.sender := by
  obtain ⟨isolated, oneSession⟩ := isolated_of_run reaches
  refine ⟨fun put member => oneSession.registeredFor (isolated.puts put member), ?_,
    isolated.admissions⟩
  intro number server found state member ip sender present
  exact oneSession.registeredFor
    ((isolated.servers number server found).installed state member ip sender present)

/-! ### Two servers -/

/-- The codec of a run with one secret, in which no client asks for a list or confirms. -/
def exampleCodec : ServerCodec where
  isConfirmReg := fun _ => false
  decodeRpcRequest := fun _ => .error "failed to decode Protobuf message"
  encodeClientListResponse := fun _ _ => []
  encodeClientSimpleInfoList := fun _ => []
  encodeRegResponse := fun ip prefixLen gateway =>
    [0x0A, 0x13, 0x0D] ++ (bigEndian 4 ip.toNat).reverse ++ [0x10, prefixLen, 0x1D] ++
      (bigEndian 4 gateway.toNat).reverse ++ [0x22, 0x05, 0x32, 0x2E, 0x30, 0x2E, 0x31]
  encodeErrorResponse := fun _ _ => []
  encodeConfirmRegResponse := fun _ => [0x1A, 0x02, 0x08, 0x01]
  keySign := fun _ => "5510feb3db5fdfa2caffebaa3f4cb3bd"

/-- A server with the example network. -/
def exampleSettings : ServiceSettings where
  defaultLeaseDuration := 86400000000000
  dbNets := (∅ : Map String ManagedNetwork).insert "net"
    ⟨⟨NetworkState.exampleNet, 86400000000000⟩, "Secret-Of-The-Network-0001"⟩
  whiteList := []

/-- The request of a client that knows the secret. -/
def signedRequest (deviceId : String) (ip : Ipv4Addr) : RegRequestMsg :=
  { NetworkState.exampleRequest deviceId (some ip) false with
    keySign := some "5510feb3db5fdfa2caffebaa3f4cb3bd" }

/-- A client registers with a server that has no state of the network yet. -/
def joins (server : Nat) (deviceId : String) (ip : Ipv4Addr) (sender : Sender) : List GroupEvent :=
  [.register server (signedRequest deviceId ip) sender, .continueRegister server 0,
    .continueRegister server 0, .continueRegister server 0, .createState server 0 0 0 [],
    .allocate server 0 1 0 0]

/-- The first server has a route to 10.26.0.3 through the second one. -/
def examplePeers : PeerTable where
  peerInfos := fun _ => ⟨"10.0.0.2:2224", 10, some 0, some 0, true, true⟩
  ipToRoutes := (∅ : Map String (Map Ipv4Addr (List IpRouteInfo))).insert "net"
    ((∅ : Map Ipv4Addr (List IpRouteInfo)).insert 0x0A1A0003 [⟨0, 10⟩])
  target := fun _ => 1

/-- A client of the first server sends a packet to one of the second. -/
def exampleRun : List GroupEvent :=
  joins 0 "a" 0x0A1A0002 10 ++ joins 1 "b" 0x0A1A0003 20 ++
    [.learn 0 (some examplePeers), .learn 1 (some examplePeers),
      .receive 0 0 0 [0x81, 0x55, 0, 0, 0, 0, 0, 0, 10, 26, 0, 2, 10, 26, 0, 3] (fun _ _ => true)
        true (.ok ()), .deliver 0]

theorem isolated_and_admitted_exampleRun :
    ∃ final, (machine exampleCodec).run (start [exampleSettings, exampleSettings]) exampleRun =
        some final ∧
      final.puts.map Put.sender = [10, 20, 20] ∧
      (∀ put ∈ final.puts, final.RegisteredFor put.server put.sender put.networkCode) ∧
      (∀ number (server : GroupServer), final.servers[number]? = some server →
        ∀ state ∈ server.service.states, ∀ ip sender,
          state.senderMap.lookup ip = some sender →
            final.RegisteredFor number sender state.networkCode) ∧
      ∀ admission ∈ final.admissions, Validated exampleCodec [exampleSettings, exampleSettings]
        exampleRun admission.server admission.req admission.sender := by
  have reaches : ∃ final, (machine exampleCodec).run (start [exampleSettings, exampleSettings])
      exampleRun = some final ∧ final.puts.map Put.sender = [10, 20, 20] := ⟨_, rfl, rfl⟩
  obtain ⟨final, isFinal, senders⟩ := reaches
  exact ⟨final, isFinal, senders, isolated_and_admitted isFinal⟩

end Group

end Vnt.Server
