/-
This file proves how a coordinated registration progresses. An event moves one link, and the client
goes on when its results are there. What a phase expects of a link, by its place among the servers,
is what every run keeps in which the client takes nothing for an answer that is none: the first
server answers for itself, the others are asked after it, all are confirmed before the client
returns.
-/

import Vnt.Registration.Coordination

namespace Vnt.Registration

open Vnt.Base Vnt.Server

/-! ### What an event does to a link -/

namespace Link

/-- The response of a server: it is about to be sent, on its way, or collected. -/
def Answered (link : Link) (response : ResponseMessage) : Prop :=
  link.response = some response ∨ .answer response ∈ link.frames ∨
    link.exchange = .collected (.ok response)

/-- The session of the connection is the one a response describes. -/
def Registered (link : Link) (reg : RegResponseMsg) : Prop :=
  ∃ session, link.session = some session ∧ link.regResponse session = reg

/-- The session of the connection is confirmed. -/
def Confirmed (link : Link) : Prop :=
  ∃ session, link.session = some session ∧ session.registrationStatus = .confirmed

/-- The registration request that the server comes to next. -/
def request (link : Link) : Option RegRequestMsg :=
  match link.requests with
  | .reg req :: _ => some req
  | _ => none

theorem request_eq_some {link : Link} {req : RegRequestMsg} :
    link.request = some req ↔ ∃ rest, link.requests = .reg req :: rest := by
  unfold request
  constructor
  · intro isRequest
    split at isRequest
    · next found rest requests =>
      cases isRequest
      exact ⟨rest, requests⟩
    · cases isRequest
  · rintro ⟨rest, requests⟩
    rw [requests]

/-- The session is confirmed and has the address, prefix length and gateway of a response. -/
def HoldsLease (link : Link) (reg : RegResponseMsg) : Prop :=
  ∃ session, link.session = some session ∧ session.registrationStatus = .confirmed ∧
    session.ip = reg.ip ∧ UInt8.ofNat link.network.net.prefixLen.val = reg.prefixLen ∧
    link.network.gateway = reg.gateway

/-- The address of the session. -/
def address (link : Link) : Option Ipv4Addr := link.session.map Session.ip

/-- No registration request is under way. -/
def Settled (link : Link) : Prop := ∀ req, RequestMessage.reg req ∉ link.requests

/-- The number of requests and answers that are under way. -/
def pending (link : Link) : Nat :=
  link.requests.length + link.response.toList.length + link.frames.countP Frame.isAnswer

/-- The client has an answer of the server. -/
def Collected (link : Link) : Prop := ∃ response, link.exchange = .collected (.ok response)

/-- There is one answer to each request: nothing is under way when the client has the answer or has
asked for nothing, and one thing at most otherwise. -/
structure Paired (link : Link) : Prop where
  one : link.pending ≤ 1
  quiet : link.exchange = .idle ∨ link.Collected → link.pending = 0

/-- A link after an event: its server registered the client, its server confirmed the client,
only what is under way changed, or other clients changed the table. -/
inductive Moves (link : Link) : CoordinationEvent → Link → Prop where
  | registered {index randomId sender now stats req rest network session entry}
      (requested : link.requests = .reg req :: rest) (free : link.response = none)
      (succeeds : link.network.register req randomId sender now stats =
        .ok (network, session, entry)) :
      Moves link (.register index randomId sender now stats)
        { link with
          network := network
          session := some session
          requests := rest
          response := some (.reg (link.regResponse session)) }
  | confirmed {index session rest} (requested : link.requests = .confirmReg :: rest)
      (free : link.response = none) (holds : link.session = some session) :
      Moves link (.confirm index (.ok ()))
        { link with
          session := some { session with registrationStatus := .confirmed }
          requests := rest
          response := some (.confirmReg ⟨true⟩) }
  | exchanged {event next} (fewer : next.requests ⊆ link.requests)
      (network : next.network = link.network) (session : next.session = link.session)
      (answered : ∀ response, next.Answered response →
        link.Answered response ∨ ∃ error, response = .error error)
      (paired : link.Paired → next.Paired)
      (kept : link.exchange ≠ .waiting → next.exchange = link.exchange) :
      Moves link event next
  | changed {index table} :
      Moves link (.change index table)
        { link with network := { link.network with leaseState := table } }

/-- A server that comes to a request has sent no answer that the client has not collected, and no
other request follows. -/
theorem Paired.alone {link : Link} {request : RequestMessage} {rest : List RequestMessage}
    (paired : link.Paired) (requested : link.requests = request :: rest) :
    rest = [] ∧ link.response = none ∧ (∀ response, .answer response ∉ link.frames) ∧
      link.exchange ≠ .idle ∧ ¬link.Collected := by
  have one := paired.one
  have positive : link.pending ≠ 0 := by
    unfold pending
    rw [requested, List.length_cons]
    omega
  unfold pending at one
  rw [requested, List.length_cons] at one
  refine ⟨List.length_eq_zero_iff.mp (by omega), ?_, fun response member => ?_,
    fun idle => positive (paired.quiet (.inl idle)),
    fun collected => positive (paired.quiet (.inr collected))⟩
  · have none := List.length_eq_zero_iff.mp (show link.response.toList.length = 0 by omega)
    exact Option.toList_eq_nil_iff.mp none
  · have some := List.countP_pos_iff.mpr ⟨_, member, show Frame.isAnswer (.answer response) = true
      from rfl⟩
    omega

/-- Once the client has an answer, nothing is under way. -/
theorem Paired.nothing {link : Link} (paired : link.Paired) (collected : link.Collected) :
    link.requests = [] ∧ link.response = none ∧ ∀ response, .answer response ∉ link.frames := by
  have none := paired.quiet (.inr collected)
  unfold pending at none
  refine ⟨List.length_eq_zero_iff.mp (by omega), ?_, fun response member => ?_⟩
  · exact Option.toList_eq_nil_iff.mp (List.length_eq_zero_iff.mp (by omega))
  · have some := List.countP_pos_iff.mpr ⟨_, member, show Frame.isAnswer (.answer response) = true
      from rfl⟩
    omega

theorem Settled.of_collected {link : Link} (paired : link.Paired) (collected : link.Collected) :
    link.Settled := by
  intro req member
  rw [(paired.nothing collected).1] at member
  cases member

/-- As long as the number of what is under way stays, nothing of this changes. -/
theorem Paired.of_pending {link next : Link} (same : next.pending = link.pending)
    (exchange : next.exchange = link.exchange) (paired : link.Paired) : next.Paired := by
  refine ⟨same ▸ paired.one, fun quiet => same ▸ paired.quiet ?_⟩
  unfold Collected at quiet ⊢
  rwa [← exchange]

/-- A request whose place an answer takes leaves the number of what is under way as it is. -/
theorem Paired.answer {link next : Link} {request : RequestMessage} {rest : List RequestMessage}
    {response : ResponseMessage} (requested : link.requests = request :: rest)
    (free : link.response = none)
    (served : next.requests = rest ∧ next.response = some response ∧ next.frames = link.frames ∧
      next.exchange = link.exchange) (paired : link.Paired) : next.Paired := by
  obtain ⟨requests, isResponse, frames, exchange⟩ := served
  refine paired.of_pending ?_ exchange
  unfold pending
  rw [requests, isResponse, frames, requested, free, List.length_cons]
  rfl

/-- So does an answer that becomes a frame. -/
theorem pending_respond {link : Link} {response : ResponseMessage}
    (made : link.response = some response) :
    pending { link with response := none, frames := link.frames ++ [.answer response] } =
      link.pending := by
  unfold pending
  rw [made, List.countP_append]
  exact Nat.add_right_comm link.requests.length (link.frames.countP Frame.isAnswer) 1

/-- A frame that is no answer does not count. -/
theorem pending_push (link : Link) (content : Except String ResponseMessage) :
    pending { link with frames := link.frames ++ [.other content] } = link.pending := by
  unfold pending
  rw [List.countP_append]
  rfl

/-- The answer that the client takes was all that was under way. -/
theorem Paired.collect {link : Link} {response : ResponseMessage} {rest : List Frame}
    (arrives : link.frames = .answer response :: rest) (paired : link.Paired) :
    Paired { link with frames := rest, exchange := .collected (.ok response) } := by
  have one := paired.one
  unfold pending at one
  rw [arrives, List.countP_cons_of_pos rfl] at one
  have none : pending { link with frames := rest, exchange := .collected (.ok response) } = 0 := by
    unfold pending
    dsimp only
    omega
  exact ⟨none ▸ Nat.zero_le 1, fun _ => none⟩

/-- An answer that is no success is one of the exchanged messages. -/
theorem moves_of_error {link : Link} {request : RequestMessage} {rest : List RequestMessage}
    (requested : link.requests = request :: rest) (free : link.response = none)
    (event : CoordinationEvent) (error : ErrorResponseMsg) :
    link.Moves event { link with requests := rest, response := some (.error error) } := by
  refine .exchanged ?_ rfl rfl ?_ ?_ fun _ => rfl
  · rw [requested]
    exact List.subset_cons_self request rest
  · rintro response (made | sent | collected)
    · cases made
      exact .inr ⟨error, rfl⟩
    · exact .inl (.inr (.inl sent))
    · exact .inl (.inr (.inr collected))
  · exact Paired.answer requested free ⟨rfl, rfl, rfl, rfl⟩

/-- The frame that the client takes is an answer. -/
def TakesAnswer (link : Link) : CoordinationEvent → Prop
  | .receive _ => ∀ frame ∈ link.frames.head?, frame.isAnswer = true
  | _ => True

theorem moves_of_stepLink {link next : Link} {event : CoordinationEvent}
    (enabled : Coordination.stepLink link event = some next) (own : link.TakesAnswer event) :
    link.Moves event next := by
  cases event with
  | register index randomId sender now stats =>
    dsimp only [Coordination.stepLink] at enabled
    split at enabled
    · next req rest requested free =>
      cases enabled
      unfold handleReg
      dsimp only
      cases outcome : link.network.register req randomId sender now stats with
      | error message => exact moves_of_error requested free _ _
      | ok result => exact .registered requested free outcome
    · cases enabled
  | refuse index message =>
    dsimp only [Coordination.stepLink] at enabled
    split at enabled
    · next req rest requested free =>
      cases enabled
      exact moves_of_error requested free _ _
    · cases enabled
  | confirm index saved =>
    dsimp only [Coordination.stepLink] at enabled
    split at enabled
    · next rest requested free =>
      unfold handleConfirmReg at enabled
      dsimp only at enabled
      split at enabled
      · cases enabled
      · next session holds =>
        split at enabled
        · cases enabled
        · cases saved with
          | error message =>
            cases enabled
            exact moves_of_error requested free _ _
          | ok saved =>
            cases enabled
            exact .confirmed requested free holds
    · cases enabled
  | respond index =>
    obtain ⟨response, made, rfl⟩ := Option.map_eq_some_iff.mp enabled
    refine .exchanged (List.Subset.refl _) rfl rfl ?_ ?_ fun _ => rfl
    · rintro other (impossible | sent | collected)
      · cases impossible
      · rcases List.mem_append.mp sent with before | isNew
        · exact .inl (.inr (.inl before))
        · cases List.mem_singleton.mp isNew
          exact .inl (.inl made)
      · exact .inl (.inr (.inr collected))
    · exact Paired.of_pending (pending_respond made) rfl
  | push index content =>
    dsimp only [Coordination.stepLink] at enabled
    split at enabled
    · cases enabled
      refine .exchanged (List.Subset.refl _) rfl rfl ?_ ?_ fun _ => rfl
      · rintro other (made | sent | collected)
        · exact .inl (.inl made)
        · rcases List.mem_append.mp sent with before | isNew
          · exact .inl (.inr (.inl before))
          · cases List.mem_singleton.mp isNew
        · exact .inl (.inr (.inr collected))
      · exact Paired.of_pending (pending_push link content) rfl
    · cases enabled
  | receive index =>
    dsimp only [Coordination.stepLink] at enabled
    split at enabled
    · next frame rest waits arrives =>
      cases enabled
      have isAnswer := own frame (by rw [arrives]; rfl)
      cases frame with
      | other content => cases isAnswer
      | answer response =>
        refine .exchanged (List.Subset.refl _) rfl rfl ?_ ?_ fun early => absurd waits early
        · rintro other (made | sent | collected)
          · exact .inl (.inl made)
          · exact .inl (.inr (.inl (arrives ▸ List.mem_cons_of_mem _ sent)))
          · cases collected
            exact .inl (.inr (.inl (arrives ▸ List.mem_cons_self)))
        · exact Paired.collect arrives
    · cases enabled
  | fail index message =>
    dsimp only [Coordination.stepLink] at enabled
    split at enabled
    · next waits =>
      cases enabled
      refine .exchanged (List.Subset.refl _) rfl rfl ?_ ?_ fun early => absurd waits early
      · rintro other (made | sent | impossible)
        · exact .inl (.inl made)
        · exact .inl (.inr (.inl sent))
        · cases impossible
      · refine fun paired => ⟨paired.one, ?_⟩
        rintro (impossible | ⟨response, impossible⟩) <;> cases impossible
    · cases enabled
  | change index table =>
    cases enabled
    exact .changed

/-- The subnet and the gateway that a server announces. -/
def subnet (link : Link) : Ipv4Net × Ipv4Addr := (link.network.net, link.network.gateway)

variable {link next : Link} {event : CoordinationEvent} {reg : RegResponseMsg}

theorem subnet_of_register {req : RegRequestMsg} {randomId : RandomId} {sender : Sender}
    {now : SystemTime} {stats : StatsRef} {network : NetworkState} {session : Session}
    {entry : Option DeviceEntry} (succeeds : link.network.register req randomId sender now stats =
      .ok (network, session, entry)) :
    network.net = link.network.net ∧ network.gateway = link.network.gateway := by
  obtain ⟨table, ip, old, -, rfl, -, -⟩ := NetworkState.register_cases succeeds
  exact ⟨NetworkState.installAddress_net .., NetworkState.installAddress_gateway ..⟩

/-- No event changes what a server announces. -/
theorem Moves.subnet (moves : link.Moves event next) : next.subnet = link.subnet := by
  cases moves with
  | registered requested free succeeds =>
    obtain ⟨sameNet, sameGateway⟩ := subnet_of_register succeeds
    exact Prod.ext sameNet sameGateway
  | confirmed requested free holds => rfl
  | exchanged fewer network =>
    unfold Link.subnet
    rw [network]
  | changed => rfl

/-- An event keeps the address of the session, or the server allocated another one. -/
theorem Moves.address (moves : link.Moves event next) :
    next.address = link.address ∨ ∃ index randomId sender now stats req table ip old,
      event = .register index randomId sender now stats ∧ link.request = some req ∧
      NetworkStateInner.Allocation link.network.leaseState link.network.net link.network.gateway
        req randomId now stats (table, ip, old) ∧ next.address = some ip := by
  cases moves with
  | registered requested free succeeds =>
    obtain ⟨table, ip, old, allocation, -, rfl, -⟩ := NetworkState.register_cases succeeds
    exact .inr ⟨_, _, _, _, _, _, table, ip, old, rfl, request_eq_some.mpr ⟨_, requested⟩,
      allocation, rfl⟩
  | confirmed requested free holds =>
    refine .inl ?_
    unfold Link.address
    rw [holds]
    rfl
  | exchanged fewer network session =>
    refine .inl ?_
    unfold Link.address
    rw [session]
  | changed => exact .inl rfl

theorem Moves.regResponse (moves : link.Moves event next) (session : Session) :
    next.regResponse session = link.regResponse session := by
  obtain ⟨sameNet, sameGateway⟩ := Prod.mk.inj moves.subnet
  unfold Link.regResponse
  rw [sameNet, sameGateway]

theorem Paired.moves (paired : link.Paired) (moves : link.Moves event next) : next.Paired := by
  cases moves with
  | registered requested free succeeds =>
    exact Paired.answer requested free ⟨rfl, rfl, rfl, rfl⟩ paired
  | confirmed requested free holds =>
    exact Paired.answer requested free ⟨rfl, rfl, rfl, rfl⟩ paired
  | exchanged fewer network session answered kept => exact kept paired
  | changed => exact ⟨paired.one, paired.quiet⟩

/-- What the client has collected it keeps until it asks again. -/
theorem Collected.moves (collected : link.Collected) (moves : link.Moves event next) :
    next.Collected := by
  obtain ⟨response, isCollected⟩ := collected
  cases moves with
  | exchanged fewer network session answered paired kept =>
    refine ⟨response, (kept fun waits => ?_).trans isCollected⟩
    cases waits.symm.trans isCollected
  | _ => exact ⟨response, isCollected⟩

/-- A session keeps its address once no registration request is under way. -/
theorem Registered.moves (registered : link.Registered reg) (settled : link.Settled)
    (moves : link.Moves event next) : next.Registered reg := by
  obtain ⟨session, holds, rfl⟩ := registered
  have same := moves.regResponse
  cases moves with
  | registered requested free succeeds =>
    exact absurd (requested ▸ List.mem_cons_self) (settled _)
  | confirmed requested free found =>
    cases found.symm.trans holds
    exact ⟨_, rfl, same _⟩
  | exchanged fewer network kept => exact ⟨session, kept.trans holds, same session⟩
  | changed => exact ⟨session, holds, same session⟩

theorem Settled.moves (settled : link.Settled) (moves : link.Moves event next) :
    next.Settled := by
  cases moves with
  | registered requested free succeeds =>
    exact absurd (requested ▸ List.mem_cons_self) (settled _)
  | confirmed requested free holds =>
    exact fun req member => settled req (requested ▸ List.mem_cons_of_mem _ member)
  | exchanged fewer => exact fun req member => settled req (fewer member)
  | changed => exact settled

theorem Confirmed.moves (confirmed : link.Confirmed) (settled : link.Settled)
    (moves : link.Moves event next) : next.Confirmed := by
  obtain ⟨session, holds, isConfirmed⟩ := confirmed
  cases moves with
  | registered requested free succeeds =>
    exact absurd (requested ▸ List.mem_cons_self) (settled _)
  | confirmed requested free found => exact ⟨_, rfl, rfl⟩
  | exchanged fewer network kept => exact ⟨session, kept.trans holds, isConfirmed⟩
  | changed => exact ⟨session, holds, isConfirmed⟩

/-- What a server answered to the registration is the session of the connection. -/
structure Registering (link : Link) : Prop where
  paired : link.Paired
  answered : ∀ reg, link.Answered (.reg reg) → link.Registered reg

/-- The answer that a server has just made is the only one. -/
theorem eq_of_answered {made response : ResponseMessage} (paired : link.Paired)
    {request : RequestMessage} {rest : List RequestMessage}
    (requested : link.requests = request :: rest) (answer : next.Answered response)
    (served : next.response = some made ∧ next.frames = link.frames ∧
      next.exchange = link.exchange) : response = made := by
  obtain ⟨isMade, frames, exchange⟩ := served
  obtain ⟨-, -, noAnswer, -, uncollected⟩ := paired.alone requested
  rcases answer with isResponse | sent | collected
  · exact Option.some.inj (isResponse.symm.trans isMade)
  · exact absurd (frames ▸ sent) (noAnswer response)
  · exact absurd ⟨response, exchange ▸ collected⟩ uncollected

theorem Registering.moves (registering : link.Registering) (moves : link.Moves event next) :
    next.Registering := by
  refine ⟨registering.paired.moves moves, fun reg answer => ?_⟩
  have same := moves.regResponse
  cases moves with
  | registered requested free succeeds =>
    cases eq_of_answered registering.paired requested answer ⟨rfl, rfl, rfl⟩
    exact ⟨_, rfl, same _⟩
  | confirmed requested free holds =>
    cases eq_of_answered registering.paired requested answer ⟨rfl, rfl, rfl⟩
  | exchanged fewer network session answered =>
    rcases answered _ answer with before | ⟨error, impossible⟩
    · obtain ⟨found, holds, isReg⟩ := registering.answered reg before
      exact ⟨found, session.trans holds, (same found).trans isReg⟩
    · cases impossible
  | changed => exact registering.answered reg answer

/-- The registration request is the first one of the connection and asks for an address. -/
def Asks (link : Link) (ip : Ipv4Addr) : Prop :=
  ∀ req, RequestMessage.reg req ∈ link.requests → link.session = none ∧ req.ip = some ip

theorem Asks.moves {ip : Ipv4Addr} (asks : link.Asks ip) (paired : link.Paired)
    (moves : link.Moves event next) : next.Asks ip := by
  intro req member
  cases moves with
  | registered requested free succeeds =>
    rw [(paired.alone requested).1] at member
    cases member
  | confirmed requested free holds =>
    rw [(paired.alone requested).1] at member
    cases member
  | exchanged fewer network session =>
    obtain ⟨fresh, asked⟩ := asks req (fewer member)
    exact ⟨session.trans fresh, asked⟩
  | changed => exact asks req member

/-- Nothing was sent over the connection yet. -/
structure Idle (link : Link) : Prop where
  session : link.session = none
  requests : link.requests = []
  response : link.response = none
  frames : link.frames = []
  exchange : link.exchange = .idle

theorem Idle.configured (idle : link.Idle) (config : ConnectRegConfig) :
    ({ link with config := config } : Link).Idle :=
  ⟨idle.session, idle.requests, idle.response, idle.frames, idle.exchange⟩

/-- An idle link stays as it is, its table apart. -/
theorem Idle.stepLink (idle : link.Idle)
    (enabled : Coordination.stepLink link event = some next) : next.Idle := by
  cases event with
  | change index table =>
    cases enabled
    exact ⟨idle.session, idle.requests, idle.response, idle.frames, idle.exchange⟩
  | register | refuse | confirm =>
    dsimp only [Coordination.stepLink] at enabled
    rw [idle.requests] at enabled
    cases enabled
  | respond index =>
    dsimp only [Coordination.stepLink] at enabled
    rw [idle.response] at enabled
    cases enabled
  | push index content =>
    dsimp only [Coordination.stepLink] at enabled
    rw [idle.session] at enabled
    cases enabled
  | receive | fail =>
    dsimp only [Coordination.stepLink] at enabled
    rw [idle.exchange] at enabled
    cases enabled

/-- A link during the confirmation: it has a session, and one that its server confirmed when the
server answered so. -/
structure Confirming (link : Link) : Prop where
  session : link.session ≠ none
  settled : link.Settled
  answered : link.Answered (.confirmReg ⟨true⟩) → link.Confirmed

theorem Confirming.moves (confirming : link.Confirming) (moves : link.Moves event next) :
    next.Confirming := by
  refine ⟨?_, confirming.settled.moves moves, fun answer => ?_⟩
  · cases moves with
    | registered requested free succeeds => exact Option.some_ne_none _
    | confirmed requested free holds => exact Option.some_ne_none _
    | exchanged fewer network session => exact session ▸ confirming.session
    | changed => exact confirming.session
  · cases moves with
    | registered requested free succeeds =>
      exact absurd (requested ▸ List.mem_cons_self) (confirming.settled _)
    | confirmed requested free holds => exact ⟨_, rfl, rfl⟩
    | exchanged fewer network session answered =>
      rcases answered _ answer with before | ⟨error, impossible⟩
      · obtain ⟨found, holds, isConfirmed⟩ := confirming.answered before
        exact ⟨found, session.trans holds, isConfirmed⟩
      · cases impossible
    | changed => exact confirming.answered answer

end Link

/-! ### What a run keeps -/

/-- What a phase expects of a link: the first one answers for itself, the others are asked after
it, and a result is returned when all are confirmed. -/
def Phase.Expects : Phase → Nat → Link → Prop
  | .first, 0, link => link.Registering
  | .first, _ + 1, link => link.Idle
  | .others reg, 0, link => link.Registered reg ∧ link.Paired ∧ link.Collected
  | .others reg, _ + 1, link => link.Registering ∧ link.Asks reg.ip
  | .confirming reg, index, link => (index = 0 → link.Registered reg) ∧ link.Confirming
  | .finished (.ok reg), index, link =>
    (index = 0 → link.Registered reg) ∧ link.Settled ∧ link.Confirmed
  | .finished (.error _), _, _ => True

/-- The response that the client will return. -/
def Phase.agreed : Phase → Option RegResponseMsg
  | .first => none
  | .others reg => some reg
  | .confirming reg => some reg
  | .finished result => result.toOption

/-- An event keeps what the phase expects of the link it is about. -/
theorem Phase.Expects.moves {phase : Phase} {index : Nat} {link next : Link}
    {event : CoordinationEvent} (expected : phase.Expects index link)
    (enabled : Coordination.stepLink link event = some next) (own : link.TakesAnswer event) :
    phase.Expects index next := by
  have moves := Link.moves_of_stepLink enabled own
  cases phase with
  | first =>
    cases index with
    | zero => exact Link.Registering.moves expected moves
    | succ index => exact Link.Idle.stepLink expected enabled
  | others reg =>
    cases index with
    | zero =>
      obtain ⟨registered, paired, collected⟩ := expected
      exact ⟨registered.moves (.of_collected paired collected) moves, paired.moves moves,
        collected.moves moves⟩
    | succ index =>
      exact ⟨expected.1.moves moves, expected.2.moves expected.1.paired moves⟩
  | confirming reg =>
    exact ⟨fun isFirst => (expected.1 isFirst).moves expected.2.settled moves,
      expected.2.moves moves⟩
  | finished result =>
    cases result with
    | error message => trivial
    | ok reg =>
      obtain ⟨registered, settled, confirmed⟩ := expected
      exact ⟨fun isFirst => (registered isFirst).moves settled moves, settled.moves moves,
        confirmed.moves settled moves⟩

namespace Coordination

/-- Each link is what the phase expects of it. -/
def Consistent (state : Coordination) : Prop :=
  ∀ index link, state.links[index]? = some link → state.phase.Expects index link

/-! ### How the client goes on -/

theorem exists_of_mapM {α β : Type} {f : α → Option β} {items : List α} {results : List β}
    (collects : items.mapM f = some results) :
    ∀ item ∈ items, ∃ result ∈ results, f item = some result := by
  induction items generalizing results with
  | nil => nofun
  | cons head rest inductionHypothesis =>
    rw [List.mapM_cons] at collects
    obtain ⟨result, isResult, collects⟩ := Option.bind_eq_some_iff.mp collects
    obtain ⟨others, areOthers, same⟩ := Option.bind_eq_some_iff.mp collects
    cases same
    refine List.forall_mem_cons.mpr ⟨⟨result, List.mem_cons_self, isResult⟩, fun item member => ?_⟩
    obtain ⟨other, found, isOther⟩ := inductionHypothesis areOthers item member
    exact ⟨other, List.mem_cons_of_mem _ found, isOther⟩

theorem Link.exchange_of_result {link : Link} {result : Except String ResponseMessage}
    (isResult : link.result = some result) : link.exchange = .collected result := by
  unfold Link.result at isResult
  split at isResult
  · next found exchange =>
    cases isResult
    exact exchange
  · cases isResult

theorem of_firstFailure_eq_none {failure : Nat → Except String ResponseMessage → Option String}
    {start : Nat} {results : List (Except String ResponseMessage)}
    (succeed : firstFailure failure start results = none) :
    ∀ result ∈ results, ∃ number, failure number result = none := by
  unfold firstFailure at succeed
  rw [List.findSome?_eq_none_iff] at succeed
  intro result member
  have numbered : result ∈ (results.zipIdx start).map Prod.fst := by
    rw [List.zipIdx_map_fst]
    exact member
  obtain ⟨pair, inside, rfl⟩ := List.mem_map.mp numbered
  exact ⟨pair.2, succeed pair inside⟩

/-- The client waits, fails, or goes on with what its servers answered. -/
inductive Advances : Coordination → Coordination → Prop where
  | waits (state) : Advances state state
  | fails (state) (message) : Advances state (state.finish (.error message))
  | alone {head reg} (collected : head.exchange = .collected (.ok (.reg reg))) :
      Advances ⟨.first, [head]⟩ ⟨.confirming reg, [head.requestConfirm]⟩
  | asks {head rest reg} (collected : head.exchange = .collected (.ok (.reg reg))) :
      Advances ⟨.first, head :: rest⟩ ⟨.others reg, head :: rest.map (Link.requestIp reg.ip)⟩
  | registered {reg head rest}
      (collected : ∀ link ∈ rest, ∃ other, link.exchange = .collected (.ok (.reg other))) :
      Advances ⟨.others reg, head :: rest⟩
        ⟨.confirming reg, (head :: rest).map Link.requestConfirm⟩
  | confirmed {reg links}
      (collected : ∀ link ∈ links, link.exchange = .collected (.ok (.confirmReg ⟨true⟩))) :
      Advances ⟨.confirming reg, links⟩ ⟨.finished (.ok reg), links⟩

theorem preRegistrationFailure_eq_none {number : Nat} {result : Except String ResponseMessage}
    (succeeds : preRegistrationFailure number result = none) : ∃ reg, result = .ok (.reg reg) := by
  unfold preRegistrationFailure at succeeds
  split at succeeds
  · exact ⟨_, rfl⟩
  all_goals cases succeeds

theorem confirmationFailure_eq_none {number : Nat} {result : Except String ResponseMessage}
    (succeeds : confirmationFailure number result = none) :
    result = .ok (.confirmReg ⟨true⟩) := by
  unfold confirmationFailure at succeeds
  split at succeeds
  · next response =>
    obtain ⟨success⟩ := response
    cases success with
    | true => rfl
    | false => cases succeeds
  all_goals cases succeeds

theorem advances (state : Coordination) : Advances state state.advance := by
  obtain ⟨phase, links⟩ := state
  cases phase with
  | first =>
    cases links with
    | nil => exact .waits _
    | cons head rest =>
      unfold advance
      dsimp only
      split
      · exact .waits _
      · exact .fails _ _
      · next response outcome =>
        have collected := Link.exchange_of_result outcome
        cases response with
        | reg reg =>
          show Advances _ (if rest = [] then _ else _)
          split
          · next alone =>
            subst alone
            exact .alone collected
          · exact .asks collected
        | error response => exact .fails _ _
        | confirmReg response => exact .fails _ _
  | others reg =>
    cases links with
    | nil => exact .waits _
    | cons head rest =>
      unfold advance
      dsimp only
      split
      · exact .waits _
      · next results outcome =>
        split
        · exact .fails _ _
        · next succeed =>
          refine .registered fun link member => ?_
          obtain ⟨result, found, isResult⟩ := exists_of_mapM outcome link member
          obtain ⟨number, succeeds⟩ := of_firstFailure_eq_none succeed result found
          obtain ⟨other, rfl⟩ := preRegistrationFailure_eq_none succeeds
          exact ⟨other, Link.exchange_of_result isResult⟩
  | confirming reg =>
    show Advances ⟨.confirming reg, links⟩ (advance ⟨.confirming reg, links⟩)
    unfold advance
    dsimp only
    split
    · exact .waits _
    · next results outcome =>
      split
      · exact .fails _ _
      · next succeed =>
        refine .confirmed fun link member => ?_
        obtain ⟨result, found, isResult⟩ := exists_of_mapM outcome link member
        obtain ⟨number, succeeds⟩ := of_firstFailure_eq_none succeed result found
        rw [confirmationFailure_eq_none succeeds] at isResult
        exact Link.exchange_of_result isResult
  | finished result => cases links <;> exact .waits _

theorem step_eq_some {state next : Coordination} {event : CoordinationEvent}
    (enabled : machine.step state event = some next) :
    ∃ link moved, state.links[event.index]? = some link ∧ stepLink link event = some moved ∧
      Advances { state with links := state.links.set event.index moved } next := by
  unfold machine at enabled
  dsimp only at enabled
  split at enabled
  · cases enabled
  · next link found =>
    obtain ⟨moved, moves, rfl⟩ := Option.map_eq_some_iff.mp enabled
    exact ⟨link, moved, found, moves, advances _⟩

/-! ### Every step keeps the links as the phase expects them -/

theorem confirming_requestConfirm {link : Link} {reg : RegResponseMsg}
    (registered : link.Registered reg) (paired : link.Paired) (collected : link.Collected) :
    link.requestConfirm.Confirming := by
  obtain ⟨session, holds, -⟩ := registered
  obtain ⟨requests, response, noAnswer⟩ := paired.nothing collected
  refine ⟨?_, fun req member => ?_, ?_⟩
  · exact Option.ne_none_iff_exists'.mpr ⟨session, holds⟩
  · change RequestMessage.reg req ∈ link.requests ++ [.confirmReg] at member
    rw [requests] at member
    cases List.mem_singleton.mp member
  · rintro (made | sent | impossible)
    · cases response.symm.trans made
    · exact absurd sent (noAnswer _)
    · cases impossible

/-- A link that was idle registers with what it is asked. -/
theorem registering_requestReg {link : Link} (idle : link.Idle) :
    link.requestReg.Registering := by
  have requests := idle.requests
  have response := idle.response
  have frames := idle.frames
  refine ⟨⟨?_, ?_⟩, ?_⟩
  · unfold Link.pending Link.requestReg Link.send
    dsimp only
    rw [requests, response, frames]
    exact Nat.le_refl 1
  · rintro (impossible | ⟨response, impossible⟩) <;> cases impossible
  · rintro reg (made | sent | impossible)
    · cases response.symm.trans made
    · change Frame.answer _ ∈ link.frames at sent
      rw [frames] at sent
      cases sent
    · cases impossible

variable {state next : Coordination} {event : CoordinationEvent}

theorem Consistent.advances (consistent : state.Consistent) (advances : Advances state next) :
    next.Consistent := by
  cases advances with
  | waits => exact consistent
  | fails message => exact fun index link found => trivial
  | alone collected =>
    have registering := consistent 0 _ rfl
    have registered := registering.answered _ (.inr (.inr collected))
    rintro (_ | index) link found
    · cases found
      exact ⟨fun _ => registered,
        confirming_requestConfirm registered registering.paired ⟨_, collected⟩⟩
    · cases found
  | asks collected =>
    rintro (_ | index) link found
    · cases found
      have registering := consistent 0 _ rfl
      exact ⟨registering.answered _ (.inr (.inr collected)), registering.paired, _, collected⟩
    · rw [List.getElem?_cons_succ, List.getElem?_map, Option.map_eq_some_iff] at found
      obtain ⟨before, found, rfl⟩ := found
      have idle : before.Idle := consistent (index + 1) before found
      refine ⟨registering_requestReg (idle.configured _), fun req member => ?_⟩
      change RequestMessage.reg req ∈ before.requests ++ [_] at member
      rw [idle.requests] at member
      cases List.mem_singleton.mp member
      exact ⟨idle.session, rfl⟩
  | registered collected =>
    rintro index link found
    rw [List.getElem?_map, Option.map_eq_some_iff] at found
    obtain ⟨before, found, rfl⟩ := found
    have expected := consistent index before found
    cases index with
    | zero =>
      obtain ⟨registered, paired, collected⟩ := expected
      exact ⟨fun _ => registered, confirming_requestConfirm registered paired collected⟩
    | succ index =>
      obtain ⟨other, answered⟩ := collected before (List.mem_of_getElem? found)
      exact ⟨nofun, confirming_requestConfirm
        (expected.1.answered other (.inr (.inr answered))) expected.1.paired ⟨_, answered⟩⟩
  | confirmed collected =>
    intro index link found
    obtain ⟨registered, confirming⟩ := consistent index link found
    exact ⟨registered, confirming.settled,
      confirming.answered (.inr (.inr (collected link (List.mem_of_getElem? found))))⟩

theorem Consistent.set {link moved : Link} (consistent : state.Consistent)
    (found : state.links[event.index]? = some link) (moves : stepLink link event = some moved)
    (own : link.TakesAnswer event) :
    Consistent { state with links := state.links.set event.index moved } := by
  intro index other isOther
  rw [List.getElem?_set] at isOther
  split at isOther
  · next same =>
    subst same
    split at isOther
    · cases isOther
      exact (consistent _ link found).moves moves own
    · cases isOther
  · exact consistent index other isOther

/-- The client takes no frame for an answer that is none. -/
def TakesAnswers (state : Coordination) (event : CoordinationEvent) : Prop :=
  ∀ link ∈ state.links[event.index]?, link.TakesAnswer event

theorem Consistent.step (consistent : state.Consistent) (own : state.TakesAnswers event)
    (enabled : machine.step state event = some next) : next.Consistent := by
  obtain ⟨link, moved, found, moves, advances⟩ := step_eq_some enabled
  exact (consistent.set found moves (own link found)).advances advances

theorem consistent_start (config : Config) (networks : List NetworkState) :
    (start config networks).Consistent := by
  cases networks with
  | nil =>
    intro index link found
    cases found
  | cons head rest =>
    rintro (_ | index) link found
    · cases found
      exact registering_requestReg ⟨rfl, rfl, rfl, rfl, rfl⟩
    · obtain ⟨network, -, rfl⟩ := List.mem_map.mp (List.mem_of_getElem? found)
      exact ⟨rfl, rfl, rfl, rfl, rfl⟩

end Coordination

end Vnt.Registration
