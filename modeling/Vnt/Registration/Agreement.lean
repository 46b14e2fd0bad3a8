/-
This file settles when a coordinated registration that succeeds has the same address, prefix and
gateway on all servers. The client compares nothing that the other servers answer, and a client
without an address of its own asks them for the first server's address as one that may be varied.
So, as long as it takes nothing for an answer that is none, they agree exactly when their networks
have one prefix and one gateway, and none of the others answers with another address.
-/

import Vnt.Registration.Answers
import Vnt.Registration.Progress

namespace Vnt.Registration

open Vnt.Base Vnt.Server

namespace Coordination

variable {state next : Coordination} {event : CoordinationEvent}

/-! ### What the client leaves as it is -/

section Kept

variable {Kept : Type} {kept : Link → Kept}

/-- Asking the servers for something keeps what does not depend on the client's side. -/
theorem Advances.map_links (advances : Advances state next)
    (requestIp : ∀ ip link, kept (Link.requestIp ip link) = kept link)
    (requestConfirm : ∀ link, kept (Link.requestConfirm link) = kept link) :
    next.links.map kept = state.links.map kept := by
  cases advances with
  | waits => rfl
  | fails message => rfl
  | alone collected => exact congrArg (fun head => [head]) (requestConfirm _)
  | asks collected =>
    refine congrArg (List.cons _) ?_
    rw [List.map_map]
    exact List.map_congr_left fun link _ => requestIp _ link
  | registered collected =>
    show ((_ :: _ : List Link).map Link.requestConfirm).map kept = _
    rw [List.map_map]
    exact List.map_congr_left fun link _ => requestConfirm link
  | confirmed collected => rfl

end Kept

/-- What the servers announce. -/
def subnets (state : Coordination) : List (Ipv4Net × Ipv4Addr) := state.links.map Link.subnet

theorem subnets_step (own : state.TakesAnswers event)
    (enabled : machine.step state event = some next) : next.subnets = state.subnets := by
  obtain ⟨link, moved, found, moves, advances⟩ := step_eq_some enabled
  exact (advances.map_links (fun _ _ => rfl) fun _ => rfl).trans
    (map_set_of_getElem? found (Link.moves_of_stepLink moves (own link found)).subnet)

theorem subnets_start (config : Config) (networks : List NetworkState) :
    (start config networks).subnets =
      networks.map fun network => (network.net, network.gateway) := by
  cases networks with
  | nil => rfl
  | cons head rest =>
    show (_ :: _ : List Link).map Link.subnet = _
    rw [List.map_cons, List.map_map]
    rfl

/-! ### The addresses of the sessions -/

/-- The addresses of the sessions on the servers. -/
def addresses (state : Coordination) : List (Option Ipv4Addr) := state.links.map Link.address

/-- The registration did not fail. -/
def Succeeding (state : Coordination) : Prop := ∀ message, state.phase ≠ .finished (.error message)

/-- All sessions have the address of the response that the client will return. -/
def SharesAddress (state : Coordination) : Prop :=
  ∀ reg, state.phase.agreed = some reg → ∀ ip, some ip ∈ state.addresses → ip = reg.ip

/-- No other server answers a registration otherwise. -/
def AnswersWish (state : Coordination) : CoordinationEvent → Prop
  | .register index _ _ _ _ => 0 < index → ∀ link ∈ state.links[index]?,
      ∀ req ∈ link.request, ¬AnswersOtherwise link.network req
  | _ => True

instance (state : Coordination) : ∀ event, Decidable (AnswersWish state event)
  | .register index _ _ _ _ => inferInstanceAs (Decidable (0 < index → _))
  | .refuse _ _ | .confirm _ _ | .respond _ | .push _ _ | .receive _ | .fail _ _ | .change _ _ =>
    .isTrue trivial

instance (state : Coordination) : ∀ event, Decidable (state.TakesAnswers event)
  | .receive index => inferInstanceAs (Decidable (∀ link ∈ state.links[index]?,
      ∀ frame ∈ link.frames.head?, frame.isAnswer = true))
  | .register .. | .refuse _ _ | .confirm _ _ | .respond _ | .push _ _ | .fail _ _ | .change _ _ =>
    .isTrue fun _ _ => trivial

/-- A registration request is under way to the first server at first, and to the others after
it, with the address of the first. -/
theorem Consistent.asks {link : Link} {index : Nat} {req : RegRequestMsg}
    (consistent : state.Consistent) (found : state.links[index]? = some link)
    (isRequest : link.request = some req) :
    (index = 0 ∧ state.phase = .first) ∨
      (0 < index ∧ link.session = none ∧
        ∃ reg, state.phase = .others reg ∧ req.ip = some reg.ip) ∨
      ∃ message, state.phase = .finished (.error message) := by
  obtain ⟨rest, requests⟩ := Link.request_eq_some.mp isRequest
  have requested : RequestMessage.reg req ∈ link.requests := requests ▸ List.mem_cons_self
  have expected := consistent index link found
  cases phase : state.phase with
  | first =>
    rw [phase] at expected
    cases index with
    | zero => exact .inl ⟨rfl, rfl⟩
    | succ index => cases requests.symm.trans expected.requests
  | others reg =>
    rw [phase] at expected
    cases index with
    | zero => cases requests.symm.trans (expected.2.1.nothing expected.2.2).1
    | succ index =>
      obtain ⟨fresh, asks⟩ := expected.2 req requested
      exact .inr (.inl ⟨Nat.succ_pos index, fresh, reg, rfl, asks⟩)
  | confirming reg =>
    rw [phase] at expected
    exact absurd requested (expected.2.settled req)
  | finished result =>
    cases result with
    | error message => exact .inr (.inr ⟨message, rfl⟩)
    | ok reg =>
      rw [phase] at expected
      exact absurd requested (expected.2.1 req)

/-- With servers that answer the wish, an event keeps the addresses together. -/
theorem SharesAddress.set {link moved : Link} (shares : state.SharesAddress)
    (consistent : state.Consistent)
    (served : NetworkState.gatewayOf link.network.net = some link.network.gateway)
    (found : state.links[event.index]? = some link) (moves : stepLink link event = some moved)
    (own : link.TakesAnswer event) (wish : AnswersWish state event) :
    SharesAddress { state with links := state.links.set event.index moved } := by
  intro reg agreed ip member
  rcases (Link.moves_of_stepLink moves own).address with same | ⟨index, randomId, sender, now,
    stats, req, table, given, old, rfl, isRequest, allocation, given⟩
  · unfold addresses at member
    rw [map_set_of_getElem? found same] at member
    exact shares reg agreed ip member
  · obtain ⟨other, isOther, isAddress⟩ := List.mem_map.mp member
    rcases List.mem_or_eq_of_mem_set isOther with before | rfl
    · exact shares reg agreed ip (List.mem_map.mpr ⟨other, before, isAddress⟩)
    · cases given.symm.trans isAddress
      rcases consistent.asks found isRequest with ⟨-, phase⟩ |
        ⟨positive, -, asked, phase, asks⟩ | ⟨message, phase⟩
      · rw [show state.phase.agreed = none by rw [phase]; rfl] at agreed
        cases agreed
      · cases (show state.phase.agreed = some asked by rw [phase]; rfl).symm.trans agreed
        by_contra differs
        exact wish positive link found req isRequest
          ((allocation_ne_wish_iff served asks allocation).mp differs)
      · rw [show state.phase.agreed = none by rw [phase]; rfl] at agreed
        cases agreed

/-- Only a server that answers the wish keeps the addresses together. -/
theorem answersWish_of_sharesAddress {link moved : Link} (consistent : state.Consistent)
    (served : NetworkState.gatewayOf link.network.net = some link.network.gateway)
    (found : state.links[event.index]? = some link) (moves : stepLink link event = some moved)
    (succeeding : state.Succeeding)
    (shares : SharesAddress { state with links := state.links.set event.index moved }) :
    AnswersWish state event := by
  cases event with
  | register index randomId sender now stats =>
    intro positive other isOther req isRequest otherwise
    cases found.symm.trans isOther
    obtain ⟨rest, requested⟩ := Link.request_eq_some.mp isRequest
    rcases consistent.asks found isRequest with ⟨isFirst, -⟩ |
      ⟨-, -, reg, phase, asks⟩ | ⟨message, phase⟩
    · exact absurd isFirst (Nat.pos_iff_ne_zero.mp positive)
    · obtain ⟨⟨network, session, entry⟩, succeeds⟩ :=
        exists_register_of_answersOtherwise otherwise randomId sender now stats
      obtain ⟨table, ip, old, allocation, -, rfl, -⟩ := NetworkState.register_cases succeeds
      have isMoved : moved.address = some ip := by
        dsimp only [stepLink] at moves
        cases free : link.response with
        | some made =>
          rw [requested, free] at moves
          cases moves
        | none =>
          rw [requested, free] at moves
          dsimp only [Link.handleReg] at moves
          rw [succeeds] at moves
          cases moves
          rfl
      refine (allocation_ne_wish_iff served asks allocation).mpr otherwise
        (shares reg (by rw [phase]; rfl) ip ?_)
      obtain ⟨inside, -⟩ := List.getElem?_eq_some_iff.mp found
      exact List.mem_map.mpr ⟨moved, List.mem_set inside moved, isMoved⟩
    · exact succeeding message phase
  | _ => trivial

/-- Only addresses that were together before an event are together after it. -/
theorem SharesAddress.of_set {link moved : Link} (consistent : state.Consistent)
    (found : state.links[event.index]? = some link) (moves : stepLink link event = some moved)
    (own : link.TakesAnswer event)
    (shares : SharesAddress { state with links := state.links.set event.index moved }) :
    state.SharesAddress := by
  intro reg agreed ip member
  obtain ⟨other, isOther, isAddress⟩ := List.mem_map.mp member
  obtain ⟨index, atIndex⟩ := List.mem_iff_getElem?.mp isOther
  obtain ⟨inside, -⟩ := List.getElem?_eq_some_iff.mp found
  by_cases same : event.index = index
  · subst same
    cases found.symm.trans atIndex
    rcases (Link.moves_of_stepLink moves own).address with sameAddress | ⟨index, randomId, sender,
      now, stats, req, table, given, old, rfl, isRequest, allocation, given⟩
    · exact shares reg agreed ip (List.mem_map.mpr
        ⟨moved, List.mem_set inside moved, sameAddress.trans isAddress⟩)
    · rcases consistent.asks found isRequest with ⟨-, phase⟩ | ⟨-, fresh, -⟩ | ⟨message, phase⟩
      · rw [show state.phase.agreed = none by rw [phase]; rfl] at agreed
        cases agreed
      · unfold Link.address at isAddress
        rw [fresh] at isAddress
        cases isAddress
      · rw [show state.phase.agreed = none by rw [phase]; rfl] at agreed
        cases agreed
  · refine shares reg agreed ip (List.mem_map.mpr ⟨other, List.mem_iff_getElem?.mpr
      ⟨index, ?_⟩, isAddress⟩)
    show (state.links.set event.index moved)[index]? = some other
    rw [List.getElem?_set_ne same]
    exact atIndex

theorem Advances.addresses (advances : Advances state next) :
    next.addresses = state.addresses :=
  advances.map_links (fun _ _ => rfl) fun _ => rfl

/-- The client fails, or knows the address from the first server, or keeps to the one it knows. -/
theorem Advances.agreed (advances : Advances state next) :
    (∃ message, next.phase = .finished (.error message)) ∨ state.phase = .first ∨
      next.phase.agreed = state.phase.agreed := by
  cases advances with
  | waits => exact .inr (.inr rfl)
  | fails _ message => exact .inl ⟨message, rfl⟩
  | alone collected => exact .inr (.inl rfl)
  | asks collected => exact .inr (.inl rfl)
  | registered collected => exact .inr (.inr rfl)
  | confirmed collected => exact .inr (.inr rfl)

/-- The first server is the only one with a session when it answered. -/
theorem address_of_first {head : Link} {rest : List Link} {reg : RegResponseMsg} {ip : Ipv4Addr}
    (consistent : Consistent ⟨.first, head :: rest⟩)
    (collected : head.exchange = .collected (.ok (.reg reg)))
    (member : some ip ∈ (⟨.first, head :: rest⟩ : Coordination).addresses) : ip = reg.ip := by
  have registering : head.Registering := consistent 0 head rfl
  obtain ⟨session, holds, rfl⟩ := registering.answered reg (.inr (.inr collected))
  rcases List.mem_cons.mp member with isHead | inRest
  · unfold Link.address at isHead
    rw [holds] at isHead
    cases isHead
    rfl
  · obtain ⟨other, isOther, isAddress⟩ := List.mem_map.mp inRest
    obtain ⟨index, atIndex⟩ := List.mem_iff_getElem?.mp isOther
    unfold Link.address at isAddress
    rw [(consistent (index + 1) other atIndex).session] at isAddress
    cases isAddress

theorem SharesAddress.advances (shares : state.SharesAddress) (consistent : state.Consistent)
    (advances : Advances state next) : next.SharesAddress := by
  intro reg agreed ip member
  rw [advances.addresses] at member
  cases advances with
  | waits => exact shares reg agreed ip member
  | fails message => cases agreed
  | alone collected =>
    cases agreed
    exact address_of_first consistent collected member
  | asks collected =>
    cases agreed
    exact address_of_first consistent collected member
  | registered collected => exact shares reg agreed ip member
  | confirmed collected => exact shares reg agreed ip member

theorem SharesAddress.of_advances (advances : Advances state next)
    (succeeding : next.Succeeding)
    (shares : next.SharesAddress) : state.SharesAddress := by
  intro reg agreed ip member
  rcases advances.agreed with ⟨message, fails⟩ | first | same
  · exact absurd fails (succeeding message)
  · rw [first] at agreed
    cases agreed
  · exact shares reg (same.trans agreed) ip (advances.addresses.symm ▸ member)

/-- A client that failed goes on no more. -/
theorem Succeeding.of_advances (advances : Advances state next)
    (succeeding : next.Succeeding) : state.Succeeding := by
  cases advances with
  | waits => exact succeeding
  | fails _ failure => exact absurd rfl (succeeding failure)
  | _ => exact nofun

/-! ### When the servers agree -/

/-- The servers' networks have one prefix length and one gateway. -/
def SameNetwork (networks : List NetworkState) : Prop :=
  ∀ first ∈ networks, ∀ second ∈ networks,
    first.net.prefixLen = second.net.prefixLen ∧ first.gateway = second.gateway

instance (networks : List NetworkState) : Decidable (SameNetwork networks) :=
  inferInstanceAs (Decidable (∀ first ∈ networks, ∀ second ∈ networks, _ ∧ _))

/-- A property of what the servers announce holds of the networks at the start exactly when it
holds of those of the links. -/
theorem forall_links_iff {networks : List NetworkState} (property : Ipv4Net × Ipv4Addr → Prop)
    (announces : state.subnets = networks.map fun network => (network.net, network.gateway)) :
    (∀ link ∈ state.links, property link.subnet) ↔
      ∀ network ∈ networks, property (network.net, network.gateway) := by
  calc (∀ link ∈ state.links, property link.subnet)
      ↔ ∀ subnet ∈ state.subnets, property subnet := List.forall_mem_map.symm
    _ ↔ ∀ subnet ∈ networks.map fun network => (network.net, network.gateway),
          property subnet := by rw [announces]
    _ ↔ ∀ network ∈ networks, property (network.net, network.gateway) := List.forall_mem_map

section Runs

variable {config : Config} {networks : List NetworkState} {events : List CoordinationEvent}
  {final : Coordination} {reg : RegResponseMsg}

/-- What every step keeps when the networks have the gateway that their server gave them. -/
structure Sound (networks : List NetworkState) (state : Coordination) : Prop where
  consistent : state.Consistent
  subnets : state.subnets = networks.map fun network => (network.net, network.gateway)

theorem Sound.step (sound : Sound networks state) (own : state.TakesAnswers event)
    (enabled : machine.step state event = some next) : Sound networks next :=
  ⟨sound.consistent.step own enabled, (subnets_step own enabled).trans sound.subnets⟩

theorem sound_start (config : Config) (networks : List NetworkState) :
    Sound networks (start config networks) :=
  ⟨consistent_start config networks, subnets_start config networks⟩

theorem Sound.served (sound : Sound networks state)
    (served : ∀ network ∈ networks, NetworkState.gatewayOf network.net = some network.gateway) :
    ∀ link ∈ state.links, NetworkState.gatewayOf link.network.net = some link.network.gateway :=
  (forall_links_iff (fun subnet => NetworkState.gatewayOf subnet.1 = some subnet.2)
    sound.subnets).mpr served

theorem Sound.sameNetwork_iff (sound : Sound networks state) :
    SameNetwork networks ↔ ∀ first ∈ state.links, ∀ second ∈ state.links,
      first.network.net.prefixLen = second.network.net.prefixLen ∧
        first.network.gateway = second.network.gateway := by
  let alike (first second : Ipv4Net × Ipv4Addr) : Prop :=
    first.1.prefixLen = second.1.prefixLen ∧ first.2 = second.2
  have inner : ∀ first, (∀ second ∈ state.links, alike first second.subnet) ↔
      ∀ second ∈ networks, alike first (second.net, second.gateway) :=
    fun first => forall_links_iff (alike first) sound.subnets
  refine (Iff.trans ?_ (forall_links_iff
    (fun first => ∀ second ∈ networks, alike first (second.net, second.gateway))
    sound.subnets).symm).trans ?_
  · exact Iff.rfl
  · exact forall₂_congr fun first _ => (inner first.subnet).symm

/-- In a run whose other servers answer the wish, the addresses stay together. -/
theorem sharesAddress_of_guarded
    (served : ∀ network ∈ networks, NetworkState.gatewayOf network.net = some network.gateway)
    (own : machine.Guarded TakesAnswers (start config networks) events)
    (guarded : machine.Guarded AnswersWish (start config networks) events) :
    machine.Throughout (fun state => Sound networks state ∧ state.SharesAddress)
      (start config networks) events := by
  refine (own.and guarded).throughout ?_ ⟨sound_start config networks, ?_⟩
  · rintro state event next ⟨sound, shares⟩ ⟨answers, wish⟩ enabled
    refine ⟨sound.step answers enabled, ?_⟩
    obtain ⟨link, moved, found, moves, advances⟩ := step_eq_some enabled
    have isServed := sound.served served link (List.mem_of_getElem? found)
    have isOwn := answers link found
    exact (shares.set sound.consistent isServed found moves isOwn wish).advances
      (sound.consistent.set found moves isOwn) advances
  · cases networks <;> nofun

/-- A run that succeeds with one address on all servers is one whose other servers answer the
wish. -/
theorem guarded_of_sharesAddress
    (served : ∀ network ∈ networks, NetworkState.gatewayOf network.net = some network.gateway)
    (own : machine.Guarded TakesAnswers (start config networks) events)
    (reaches : machine.run (start config networks) events = some final)
    (succeeding : final.Succeeding)
    (shares : final.SharesAddress) :
    machine.Guarded AnswersWish (start config networks) events := by
  refine (Machine.guarded_of_final (Sound networks)
    (fun state => state.Succeeding ∧ state.SharesAddress) (fun _ _ _ => Sound.step) ?_ own
    (sound_start config networks) reaches ⟨succeeding, shares⟩).2
  rintro state event next sound answers enabled ⟨succeeding, shares⟩
  obtain ⟨link, moved, found, moves, advances⟩ := step_eq_some enabled
  have isServed := sound.served served link (List.mem_of_getElem? found)
  have before := SharesAddress.of_advances advances succeeding shares
  have succeeds := Succeeding.of_advances advances succeeding
  exact ⟨⟨succeeds, before.of_set sound.consistent found moves (answers link found)⟩,
    answersWish_of_sharesAddress sound.consistent isServed found moves succeeds before⟩

theorem prefixLen_inj {first second : Fin 33}
    (same : UInt8.ofNat first.val = UInt8.ofNat second.val) : first = second := by
  have values := congrArg UInt8.toNat same
  rw [UInt8.toNat_ofNat', UInt8.toNat_ofNat'] at values
  omega

/-- A registration that succeeded, and in which the client took nothing for an answer that was none,
leaves the client on every server with a confirmed session that has the address, prefix length and
gateway of the response if and only if the networks have one prefix length and one gateway and none
of the other servers answered otherwise. -/
theorem holdsLease_iff_guarded
    (served : ∀ network ∈ networks, NetworkState.gatewayOf network.net = some network.gateway)
    (own : machine.Guarded TakesAnswers (start config networks) events)
    (reaches : machine.run (start config networks) events = some final)
    (returns : final.phase = .finished (.ok reg)) :
    (∀ link ∈ final.links, link.HoldsLease reg) ↔
      SameNetwork networks ∧ machine.Guarded AnswersWish (start config networks) events := by
  have sound : Sound networks final :=
    (own.throughout (fun _ _ _ sound answers => sound.step answers)
      (sound_start config networks)).final reaches
  have agreed : final.phase.agreed = some reg := by rw [returns]; rfl
  constructor
  · intro holds
    refine ⟨sound.sameNetwork_iff.mpr ?_, guarded_of_sharesAddress served own reaches ?_ ?_⟩
    · intro first isFirst second isSecond
      obtain ⟨-, -, -, -, firstPrefix, firstGateway⟩ := holds first isFirst
      obtain ⟨-, -, -, -, secondPrefix, secondGateway⟩ := holds second isSecond
      exact ⟨prefixLen_inj (firstPrefix.trans secondPrefix.symm),
        firstGateway.trans secondGateway.symm⟩
    · intro message fails
      cases returns.symm.trans fails
    · intro other isOther ip member
      cases agreed.symm.trans isOther
      obtain ⟨link, isLink, isAddress⟩ := List.mem_map.mp member
      obtain ⟨session, isSession, -, sameIp, -⟩ := holds link isLink
      unfold Link.address at isAddress
      rw [isSession] at isAddress
      exact (Option.some.inj isAddress).symm.trans sameIp
  · rintro ⟨sameNetwork, guarded⟩ link isLink
    have shares := ((sharesAddress_of_guarded served own guarded).final reaches).2
    have alike := sound.sameNetwork_iff.mp sameNetwork
    have expected : ∀ index link, final.links[index]? = some link →
        (index = 0 → link.Registered reg) ∧ link.Settled ∧ link.Confirmed := by
      intro index link found
      have := sound.consistent index link found
      rw [returns] at this
      exact this
    obtain ⟨index, found⟩ := List.mem_iff_getElem?.mp isLink
    obtain ⟨session, holds, confirmed⟩ := (expected index link found).2.2
    obtain ⟨head, isHead⟩ : ∃ head, final.links[0]? = some head := by
      cases links : final.links with
      | nil =>
        rw [links] at isLink
        cases isLink
      | cons head rest => exact ⟨head, rfl⟩
    obtain ⟨first, -, isReg⟩ := (expected 0 head isHead).1 rfl
    obtain ⟨samePrefix, sameGateway⟩ := alike link isLink head (List.mem_of_getElem? isHead)
    refine ⟨session, holds, confirmed, ?_, ?_, ?_⟩
    · refine shares reg agreed session.ip (List.mem_map.mpr ⟨link, isLink, ?_⟩)
      unfold Link.address
      rw [holds]
      rfl
    · rw [samePrefix, ← isReg]
      rfl
    · rw [sameGateway, ← isReg]
      rfl

end Runs

/-- A client of the example network without an address of its own. -/
def exampleConfig : Config := ⟨"net", "a", "name", none, none⟩

/-- Two servers register the client and confirm it. Then another client sends it something. -/
def exampleRegistration : List CoordinationEvent :=
  [.register 0 1 0 0 0, .respond 0, .receive 0, .register 1 2 0 0 0, .respond 1, .receive 1,
    .confirm 1 (.ok ()), .confirm 0 (.ok ()), .respond 0, .receive 0, .respond 1, .receive 1,
    .push 1 (.error "unsupported")]

theorem holdsLease_exampleRegistration :
    ∃ final reg, machine.run (start exampleConfig [NetworkState.exampleState,
        NetworkState.exampleState]) exampleRegistration = some final ∧
      final.phase = .finished (.ok reg) ∧ ∀ link ∈ final.links, link.HoldsLease reg := by
  have reaches : ∃ final reg, machine.run (start exampleConfig [NetworkState.exampleState,
        NetworkState.exampleState]) exampleRegistration = some final ∧
      final.phase = .finished (.ok reg) := ⟨_, _, rfl, rfl⟩
  obtain ⟨final, reg, isFinal, returns⟩ := reaches
  refine ⟨final, reg, isFinal, returns, (holdsLease_iff_guarded ?_ ?_ isFinal returns).mpr ⟨?_, ?_⟩⟩
  · decide
  · decide
  · decide
  · decide

/-- The example network on a server where another device has its first address. -/
def takenState : NetworkState :=
  { NetworkState.exampleState with
    leaseState := NetworkStateInner.empty.searchLease (NetworkState.exampleRequest "b" none false)
      0x0A1A0002 7 0 0 }

/-- The second server has given the address away, registers and confirms the client with another
one, and the client takes the registration for a success. -/
theorem not_holdsLease_taken :
    ∃ final reg, machine.run (start exampleConfig [NetworkState.exampleState, takenState])
        exampleRegistration = some final ∧
      final.phase = .finished (.ok reg) ∧ ¬∀ link ∈ final.links, link.HoldsLease reg := by
  refine ⟨_, _, rfl, rfl, fun holds => ?_⟩
  obtain ⟨session, isSession, -, sameIp, -⟩ := holds _ (List.mem_cons_of_mem _ List.mem_cons_self)
  cases isSession
  cases sameIp

end Coordination

end Vnt.Registration
