/-
This file settles whom the ICMP translation gives a packet to. It notes for the destination, the
identifier and the sequence number of every echo packet which virtual source sent it, and gives a
packet of the raw socket to the source that is noted for it. The note says nothing else, so the
answer to one source goes to another one that used the same numbers later, an echo reply of a
source is noted like a request, and a request that the raw socket sees on the loopback goes back
to its source. All errors end the loop, those of a send as well.
-/

import Vnt.Base.Machine
import Vnt.Base.Map
import Vnt.Server.Icmp
import Vnt.SocketAddr

namespace Vnt.InternalNat

open Vnt.Base Vnt.Server

/-- `Ipv4Addr::LOCALHOST`. -/
def localhost : Ipv4Addr := 0x7F000001

/-- `IcmpTypes::EchoReply`. -/
def echoReply : Nat := 0

/-- An echo packet: whether it is a reply, and its numbers. -/
structure Echo where
  isReply : Bool
  identifier : UInt16
  sequenceNumber : UInt16
  deriving DecidableEq, Repr

/-- `(Ipv4Addr, Identifier, SequenceNumber)`. -/
structure EchoKey where
  destination : Ipv4Addr
  identifier : UInt16
  sequenceNumber : UInt16
  deriving DecidableEq, Repr

/-- `u16::from_be_bytes`. -/
def wordOf (high low : UInt8) : UInt16 := UInt16.ofNat (high.toNat * 256 + low.toNat)

/-- Read an ICMP message. The view needs four bytes, and the numbers of an echo packet stand behind
them. -/
def readEcho (message : List UInt8) : Option Echo :=
  match message with
  | icmpType :: _ :: _ :: _ :: a :: b :: c :: d :: _ =>
    if icmpType.toNat ≠ echoReply ∧ icmpType.toNat ≠ Icmp.echoRequest then none
    else some ⟨decide (icmpType.toNat = echoReply), wordOf a b, wordOf c d⟩
  | _ => none

/-- The echo packet in an IPv4 packet, with its source and the message. -/
def readRaw (packet : List UInt8) : Option (Ipv4Addr × Echo × List UInt8) :=
  if packet.length < 20 then none
  else
    (readEcho (Icmp.ipv4Payload packet)).map fun echo =>
      (ofWordBytes ((packet.drop 12).take 4), echo, Icmp.ipv4Payload packet)

/-- What the loop keeps: the notes, whether the client runs without a device, and the address of
the client. -/
structure IcmpNat where
  noTun : Bool
  network : Option Ipv4Addr
  map : Map EchoKey Ipv4Addr

/-- What a turn of the loop comes to. -/
inductive Turn where
  | ignored
  | failed (message : String)
  | forward (key : EchoKey) (source destination : Ipv4Addr) (isReply : Bool) (message : List UInt8)
  | deliver (source target : Ipv4Addr) (message : List UInt8)
  deriving DecidableEq, Repr

namespace IcmpNat

/-- Where a packet for a destination is sent: without a device, one for the client itself goes to
the loopback. -/
def wireAddress (nat : IcmpNat) (destination : Ipv4Addr) : Except String Ipv4Addr :=
  if nat.noTun = true then
    match nat.network with
    | some ip => .ok (if destination = ip then localhost else destination)
    | none => .error "not ip"
  else .ok destination

/-- What a source is shown as: the loopback stands for the client. -/
def shownAddress (nat : IcmpNat) (source : Ipv4Addr) : Except String Ipv4Addr :=
  if nat.noTun = true ∧ source = localhost then
    match nat.network with
    | some ip => .ok ip
    | none => .error "not ip"
  else .ok source

/-- `inner_icmp_socket_recv`, up to the note and the send. -/
def innerIcmpSocketRecv (nat : IcmpNat) (message : List UInt8) : IpAddr → IpAddr → Turn
  | .v4 source, .v4 destination =>
    match readEcho message with
    | none => .ignored
    | some echo =>
      match nat.wireAddress destination with
      | .error text => .failed text
      | .ok wire =>
        .forward ⟨wire, echo.identifier, echo.sequenceNumber⟩ source destination echo.isReply
          message
  | _, _ => .ignored

/-- `tokio_icmp_socket_recv`, up to the send. -/
def tokioIcmpSocketRecv (nat : IcmpNat) (packet : List UInt8) : Turn :=
  match readRaw packet with
  | none => .ignored
  | some (source, echo, message) =>
    match nat.map.lookup ⟨source, echo.identifier, echo.sequenceNumber⟩ with
    | none => .ignored
    | some target =>
      match nat.shownAddress source with
      | .error text => .failed text
      | .ok shown => .deliver shown target message

end IcmpNat

/-- An echo request of a virtual source, with the key of its note. -/
structure EchoRequest where
  source : Ipv4Addr
  destination : Ipv4Addr
  key : EchoKey
  deriving DecidableEq, Repr

/-- The loop, with the requests that it took so far. -/
structure IcmpState where
  nat : IcmpNat
  running : Bool
  requests : List EchoRequest

/-- What happens. A received packet says whether its send succeeds, and one of the raw socket says
which request it answers, if any. -/
inductive IcmpEvent where
  | setNetwork (network : Option Ipv4Addr)
  | inner (message : List UInt8) (source destination : IpAddr) (sent : Bool)
  | raw (packet : List UInt8) (answers : Option EchoRequest) (sent : Bool)
  | recvFailed

/-- Whether the send of the event succeeds. -/
def IcmpEvent.sent : IcmpEvent → Bool
  | .inner _ _ _ sent | .raw _ _ sent => sent
  | _ => true

/-- The request that the packet of the event answers. -/
def IcmpEvent.answers : IcmpEvent → Option EchoRequest
  | .raw _ answers _ => answers
  | _ => none

namespace IcmpState

/-- A packet that answers a request comes from where the request went, with its numbers. -/
def Genuine (state : IcmpState) (packet : List UInt8) (answers : Option EchoRequest) : Prop :=
  ∀ request ∈ answers, request ∈ state.requests ∧ ∀ raw ∈ readRaw packet,
    request.key = ⟨raw.1, raw.2.1.identifier, raw.2.1.sequenceNumber⟩

instance instDecidableGenuine (state : IcmpState) (packet : List UInt8)
    (answers : Option EchoRequest) : Decidable (state.Genuine packet answers) :=
  inferInstanceAs (Decidable (∀ request ∈ answers, _ ∧ ∀ raw ∈ readRaw packet, _))

/-- What the loop makes of an event. -/
def turn (state : IcmpState) : IcmpEvent → Turn
  | .inner message source destination _ => state.nat.innerIcmpSocketRecv message source destination
  | .raw packet _ _ => state.nat.tokioIcmpSocketRecv packet
  | _ => .ignored

/-- The loop after a turn. A send that fails ends it, and so does any other error. -/
def afterTurn (state : IcmpState) (sent : Bool) : Turn → IcmpState
  | .ignored => state
  | .failed _ => { state with running := false }
  | .forward key source destination isReply _ =>
    { nat := { state.nat with map := state.nat.map.insert key source }
      running := sent
      requests :=
        if isReply = true then state.requests
        else state.requests ++ [⟨source, destination, key⟩] }
  | .deliver _ _ _ => { state with running := sent }

def step (state : IcmpState) : IcmpEvent → Option IcmpState
  | .setNetwork network => some { state with nat := { state.nat with network := network } }
  | .recvFailed => if state.running = true then some { state with running := false } else none
  | .inner message source destination sent =>
    if state.running = true then
      some (state.afterTurn sent (state.nat.innerIcmpSocketRecv message source destination))
    else none
  | .raw packet answers sent =>
    if state.running = true ∧ state.Genuine packet answers then
      some (state.afterTurn sent (state.nat.tokioIcmpSocketRecv packet))
    else none

def machine : Machine IcmpState IcmpEvent := ⟨step⟩

def start (noTun : Bool) (network : Option Ipv4Addr) : IcmpState := ⟨⟨noTun, network, ∅⟩, true, []⟩

/-- What is delivered is an echo reply to a request of the target, with the same destination and
the same numbers, and it answers nobody else's request. -/
def Answers (state : IcmpState) (answers : Option EchoRequest) (source target : Ipv4Addr)
    (message : List UInt8) : Prop :=
  ∃ echo, readEcho message = some echo ∧ echo.isReply = true ∧
    (∃ request ∈ state.requests, request.source = target ∧ request.destination = source ∧
      request.key.identifier = echo.identifier ∧
      request.key.sequenceNumber = echo.sequenceNumber) ∧
    ∀ request ∈ answers, request.source = target

end IcmpState

namespace Turn

/-- What is forwarded is a request for another address than the loopback, under a key that no other
source has; what is delivered is a reply; and the send succeeds. -/
def Keeps (nat : IcmpNat) (sent : Bool) : Turn → Prop
  | .forward key source destination isReply _ =>
    isReply = false ∧ (∀ other ∈ nat.map.lookup key, other = source) ∧
      (nat.noTun = true → destination ≠ localhost) ∧ sent = true
  | .deliver _ _ message => (∀ echo ∈ readEcho message, echo.isReply = true) ∧ sent = true
  | _ => True

instance instDecidableKeeps (nat : IcmpNat) (sent : Bool) :
    ∀ turn, Decidable (Turn.Keeps nat sent turn)
  -- not by trying all addresses
  | .forward key _ _ _ _ =>
    @instDecidableAnd _ _ _ (@instDecidableAnd _ _ (Option.decidableForallMem (nat.map.lookup key))
      (inferInstanceAs (Decidable ((_ → _) ∧ _))))
  | .deliver _ _ message =>
    inferInstanceAs (Decidable ((∀ echo ∈ readEcho message, _) ∧ _))
  | .ignored | .failed _ => .isTrue trivial

end Turn

namespace IcmpState

/-- The turns keep the notes right, and without a device the address of the client stays once a
request went to the loopback. -/
def Keeps (state : IcmpState) : IcmpEvent → Prop
  | .setNetwork network =>
    state.nat.noTun = true → network ≠ state.nat.network →
      ∀ key ∈ state.nat.map.keys, key.destination ≠ localhost
  | event => (state.turn event).Keeps state.nat event.sent

instance instDecidableKeeps (state : IcmpState) : ∀ event, Decidable (state.Keeps event)
  | .setNetwork _ => inferInstanceAs (Decidable (_ → _ → ∀ key ∈ _, _))
  | .inner message source destination sent =>
    Turn.instDecidableKeeps state.nat sent
      (state.nat.innerIcmpSocketRecv message source destination)
  | .raw packet _ sent =>
    Turn.instDecidableKeeps state.nat sent (state.nat.tokioIcmpSocketRecv packet)
  | .recvFailed => .isTrue trivial

/-- Every note is one of a request of the source, for the address that its destination is shown
as, and every request is still noted. -/
structure Noted (state : IcmpState) : Prop where
  recorded : ∀ key source, state.nat.map.lookup key = some source →
    ∃ request ∈ state.requests, request.key = key ∧ request.source = source ∧
      ∀ shown, state.nat.shownAddress key.destination = .ok shown → request.destination = shown
  owned : ∀ request ∈ state.requests, state.nat.map.lookup request.key = some request.source

end IcmpState

/-! ### What a turn comes to -/

namespace IcmpNat

variable {nat : IcmpNat} {message packet : List UInt8} {key : EchoKey}
  {source destination target : Ipv4Addr} {isReply : Bool}

theorem innerIcmpSocketRecv_eq_forward {sourceIp destinationIp : IpAddr} {data : List UInt8}
    (forwards : nat.innerIcmpSocketRecv message sourceIp destinationIp =
      .forward key source destination isReply data) :
    nat.wireAddress destination = .ok key.destination := by
  unfold innerIcmpSocketRecv at forwards
  split at forwards
  · next ip other =>
    cases isEcho : readEcho message with
    | none =>
      rw [isEcho] at forwards
      cases forwards
    | some echo =>
      rw [isEcho] at forwards
      dsimp only at forwards
      cases wire : nat.wireAddress other with
      | error text =>
        rw [wire] at forwards
        cases forwards
      | ok address =>
        rw [wire] at forwards
        cases forwards
        exact wire
  · cases forwards

theorem tokioIcmpSocketRecv_ne_forward {data : List UInt8} :
    nat.tokioIcmpSocketRecv packet ≠ .forward key source destination isReply data := by
  intro forwards
  unfold tokioIcmpSocketRecv at forwards
  repeat' split at forwards
  all_goals cases forwards

/-- A destination is shown as it was asked for. -/
theorem eq_of_shownAddress {wire shown : Ipv4Addr} (isWire : nat.wireAddress destination = .ok wire)
    (notLocal : nat.noTun = true → destination ≠ localhost)
    (isShown : nat.shownAddress wire = .ok shown) : destination = shown := by
  unfold wireAddress at isWire
  unfold shownAddress at isShown
  by_cases noTun : nat.noTun = true
  · rw [if_pos noTun] at isWire
    cases network : nat.network with
    | none =>
      rw [network] at isWire
      cases isWire
    | some ip =>
      rw [network] at isWire isShown
      cases isWire
      by_cases same : destination = ip
      · rw [if_pos same, if_pos ⟨noTun, rfl⟩] at isShown
        cases isShown
        exact same
      · rw [if_neg same, if_neg fun isLocal => notLocal noTun isLocal.2] at isShown
        exact Except.ok.inj isShown
  · rw [if_neg noTun] at isWire
    cases isWire
    rw [if_neg fun isLocal => noTun isLocal.1] at isShown
    exact Except.ok.inj isShown

end IcmpNat

namespace IcmpState

variable {state next : IcmpState}

/-! ### The notes stay right -/

/-- A change that leaves the notes and the requests as they are. -/
theorem Noted.of_same (noted : state.Noted) (nat : next.nat = state.nat)
    (requests : next.requests = state.requests) : next.Noted := by
  refine ⟨fun key source found => ?_, fun request member => ?_⟩
  · rw [nat] at found ⊢
    rw [requests]
    exact noted.recorded key source found
  · rw [nat]
    exact noted.owned request (requests ▸ member)

/-- Another address of the client does not matter to a note of another destination. -/
theorem Noted.setNetwork (noted : state.Noted) (network : Option Ipv4Addr)
    (keeps : state.Keeps (.setNetwork network)) :
    Noted { state with nat := { state.nat with network := network } } := by
  refine ⟨fun key source found => ?_, noted.owned⟩
  obtain ⟨request, member, isKey, isSource, shownAs⟩ := noted.recorded key source found
  refine ⟨request, member, isKey, isSource, fun shown isShown => shownAs shown ?_⟩
  have present : key ∈ state.nat.map.keys := by
    rw [← AList.mem_keys, ← AList.lookup_isSome, found, Option.isSome_some]
  unfold IcmpNat.shownAddress at isShown ⊢
  by_cases isLocal : state.nat.noTun = true ∧ key.destination = localhost
  · by_cases same : network = state.nat.network
    · rwa [← same]
    · exact absurd isLocal.2 (keeps isLocal.1 same key present)
  · rw [if_neg isLocal] at isShown ⊢
    exact isShown

/-- A request is noted under a key that was free or its own. -/
theorem Noted.forward (noted : state.Noted) {key : EchoKey} {source destination : Ipv4Addr}
    {message : List UInt8} {sent : Bool}
    (isWire : state.nat.wireAddress destination = .ok key.destination)
    (keeps : Turn.Keeps state.nat sent (.forward key source destination false message)) :
    (state.afterTurn sent (.forward key source destination false message)).Noted := by
  obtain ⟨-, free, notLocal, -⟩ := keeps
  refine ⟨fun other noter found => ?_, fun request member => ?_⟩
  · unfold afterTurn at found ⊢
    dsimp only at found ⊢
    rw [if_neg Bool.false_ne_true]
    rw [Map.lookup_insert_eq] at found
    split at found
    · next same =>
      cases found
      subst same
      exact ⟨⟨source, destination, other⟩, List.mem_append_right _ (List.mem_singleton.mpr rfl),
        rfl, rfl, fun shown isShown => IcmpNat.eq_of_shownAddress isWire notLocal isShown⟩
    · obtain ⟨request, member, facts⟩ := noted.recorded other noter found
      exact ⟨request, List.mem_append_left _ member, facts⟩
  · unfold afterTurn at member ⊢
    dsimp only at member ⊢
    rw [if_neg Bool.false_ne_true] at member
    rw [Map.lookup_insert_eq]
    rcases List.mem_append.mp member with earlier | new
    · split
      · next same =>
        have owned := noted.owned request earlier
        rw [same] at owned
        rw [free request.source owned]
      · exact noted.owned request earlier
    · cases List.mem_singleton.mp new
      exact if_pos rfl

/-- Only a turn that forwards a message changes the notes. -/
theorem Noted.afterTurn (noted : state.Noted) (sent : Bool) {turn : Turn}
    (forwards : ∀ key source destination isReply message,
      turn = .forward key source destination isReply message →
        (state.afterTurn sent turn).Noted) : (state.afterTurn sent turn).Noted := by
  cases turn with
  | ignored => exact noted
  | failed text => exact noted.of_same rfl rfl
  | forward key source destination isReply message => exact forwards _ _ _ _ _ rfl
  | deliver source target message => exact noted.of_same rfl rfl

theorem Noted.step (noted : state.Noted) {event : IcmpEvent} (keeps : state.Keeps event)
    (steps : machine.step state event = some next) : next.Noted := by
  cases event with
  | setNetwork network =>
    cases steps
    exact noted.setNetwork network keeps
  | inner message source destination sent =>
    obtain ⟨-, same⟩ := Option.ite_none_right_eq_some.mp steps
    cases same
    have kept : Turn.Keeps state.nat sent
      (state.nat.innerIcmpSocketRecv message source destination) := keeps
    refine noted.afterTurn sent fun key ip other isReply data isTurn => ?_
    rw [isTurn] at kept ⊢
    have isRequest : isReply = false := kept.1
    subst isRequest
    exact noted.forward (IcmpNat.innerIcmpSocketRecv_eq_forward isTurn) kept
  | raw packet answers sent =>
    obtain ⟨-, same⟩ := Option.ite_none_right_eq_some.mp steps
    cases same
    exact noted.afterTurn sent fun _ _ _ _ _ isTurn =>
      absurd isTurn IcmpNat.tokioIcmpSocketRecv_ne_forward
  | recvFailed =>
    obtain ⟨-, same⟩ := Option.ite_none_right_eq_some.mp steps
    cases same
    exact noted.of_same rfl rfl

/-! ### What is delivered -/

end IcmpState

end Vnt.InternalNat
