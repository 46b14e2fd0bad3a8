/-
This file settles when a datagram is lost in the two loops that hand datagrams to one worker for
each flow: that of a UDP port mapping, where a flow is a source, and that of the IP packets that
are carried over `Quic`, where it is a protocol with both addresses. In both, a datagram that is
offered to a worker which has ended takes the entry of the worker out of the table and is lost
itself, though the next datagram gets a new worker. A worker that ends loses what it holds.
-/

import Vnt.Base.Dispatch
import Vnt.SocketAddr

namespace Vnt.Tunnel

open Vnt.Base

/-- The capacity of the channel of a worker. -/
def channelCapacity : Nat := 128

/-- The loop of `udp_port_mapping::recv` with the workers that run `udp_mapping_handle`. -/
def udpPortMapping : Machine (Dispatcher SocketAddr (List UInt8))
    (DispatchEvent SocketAddr (List UInt8)) :=
  Dispatcher.machine channelCapacity

/-- `IpKey`. -/
structure IpKey where
  protocol : UInt8
  src : Ipv4Addr
  dest : Ipv4Addr
  deriving DecidableEq, Repr

/-- What happens in `ip_listen_impl` and in the workers that `spawn_dest_sender` starts. -/
inductive IpListenEvent where
  | recvProtocolFromTo (protocol : UInt8) (src dest : IpAddr) (bytes : List UInt8)
  | trySend
  | take (worker : Nat) (sends : Bool)
  | finish (worker : Nat)

/-- The step for the flows. A packet that is not of version 4 belongs to none and is passed over. -/
def IpListenEvent.dispatch : IpListenEvent → Option (DispatchEvent IpKey (List UInt8))
  | .recvProtocolFromTo protocol (.v4 src) (.v4 dest) bytes =>
    some (.read ⟨protocol, src, dest⟩ bytes)
  | .recvProtocolFromTo _ _ _ _ => none
  | .trySend => some .trySend
  | .take worker sends => some (.take worker sends)
  | .finish worker => some (.finish worker)

/-- The loop of `ip_listen_impl` with its workers. -/
def ipListen : Machine (Dispatcher IpKey (List UInt8)) IpListenEvent where
  step state event :=
    match event.dispatch with
    | some dispatched => Dispatcher.step channelCapacity state dispatched
    | none => if state.offer.isNone = true then some state else none

/-- What is asked of the steps of the flows. -/
def IpListenEvent.Keeps (state : Dispatcher IpKey (List UInt8)) (event : IpListenEvent) : Prop :=
  ∀ dispatched ∈ event.dispatch, state.Keeps dispatched

/-- The loop is the one of the flows, but for the packets that it passes over. -/
theorem ipListen_step {state next : Dispatcher IpKey (List UInt8)} {event : IpListenEvent}
    (steps : ipListen.step state event = some next) :
    (∃ dispatched, event.dispatch = some dispatched ∧
      (Dispatcher.machine channelCapacity).step state dispatched = some next) ∨
    (event.dispatch = none ∧ next = state) := by
  unfold ipListen at steps
  dsimp only at steps
  cases dispatch : event.dispatch with
  | none =>
    rw [dispatch] at steps
    obtain ⟨-, same⟩ := Option.ite_none_right_eq_some.mp steps
    exact .inr ⟨rfl, (Option.some.inj same).symm⟩
  | some dispatched =>
    rw [dispatch] at steps
    exact .inl ⟨dispatched, rfl, steps⟩

/-- A run of the loop is one of the flows with the packets of version 4. -/
theorem run_ipListen {state final : Dispatcher IpKey (List UInt8)} {events : List IpListenEvent}
    (reaches : ipListen.run state events = some final) :
    (Dispatcher.machine channelCapacity).run state (events.filterMap IpListenEvent.dispatch) =
      some final := by
  induction events generalizing state with
  | nil => exact reaches
  | cons event rest inductionHypothesis =>
    obtain ⟨next, steps, later⟩ := Machine.run_cons_eq_some.mp reaches
    rcases ipListen_step steps with ⟨dispatched, dispatch, dispatches⟩ | ⟨dispatch, rfl⟩
    · rw [List.filterMap_cons_some dispatch]
      exact Machine.run_cons_eq_some.mpr ⟨next, dispatches, inductionHypothesis later⟩
    · rw [List.filterMap_cons_none dispatch]
      exact inductionHypothesis later

/-- Every datagram that was read is offered, queued, sent or lost. -/
theorem accounted_udpPortMapping {final : Dispatcher SocketAddr (List UInt8)}
    {events : List (DispatchEvent SocketAddr (List UInt8))}
    (reaches : udpPortMapping.run Dispatcher.start events = some final) :
    final.accounted = Dispatcher.reads events := (Dispatcher.accounted_run reaches).1

/-- Every packet of version 4 that was read is offered, queued, sent or lost. -/
theorem accounted_ipListen {final : Dispatcher IpKey (List UInt8)} {events : List IpListenEvent}
    (reaches : ipListen.run Dispatcher.start events = some final) :
    final.accounted = Dispatcher.reads (events.filterMap IpListenEvent.dispatch) :=
  (Dispatcher.accounted_run (run_ipListen reaches)).1

theorem throughout_ipListen_iff (events : List IpListenEvent) :
    ipListen.Throughout Dispatcher.OnlyFull Dispatcher.start events ↔
      ipListen.Guarded IpListenEvent.Keeps Dispatcher.start events := by
  refine Machine.throughout_iff_guarded (fun _ _ _ (_ : True) _ => trivial) ?_ ?_ trivial ?_
  · intro state event next _ only steps
    unfold IpListenEvent.Keeps
    rcases ipListen_step steps with ⟨dispatched, dispatch, dispatches⟩ | ⟨dispatch, rfl⟩
    · rw [Dispatcher.step_onlyFull_iff only dispatched dispatches, dispatch]
      simp
    · rw [dispatch]
      simpa using only
  · intro state event waits dispatched isDispatched
    have disabled : (Dispatcher.machine channelCapacity).step state dispatched = none := by
      unfold ipListen at waits
      dsimp only at waits
      rw [isDispatched] at waits
      exact waits
    exact Dispatcher.keeps_of_disabled dispatched disabled
  · intro drop member
    cases member

/-- In every run of either loop datagrams are lost only to full channels of workers that live,
exactly when no datagram is offered to a worker that has ended and no worker ends while it holds
datagrams. -/
theorem flows_onlyFull_iff (datagrams : List (DispatchEvent SocketAddr (List UInt8)))
    (packets : List IpListenEvent) :
    (udpPortMapping.Throughout Dispatcher.OnlyFull Dispatcher.start datagrams ↔
      udpPortMapping.Guarded Dispatcher.Keeps Dispatcher.start datagrams) ∧
    (ipListen.Throughout Dispatcher.OnlyFull Dispatcher.start packets ↔
      ipListen.Guarded IpListenEvent.Keeps Dispatcher.start packets) :=
  ⟨Dispatcher.throughout_onlyFull_iff channelCapacity datagrams, throughout_ipListen_iff packets⟩

/-- A source whose worker sends a datagram and ends, and that then has another datagram. -/
def returningSource (key : Key) : List (DispatchEvent Key (List UInt8)) :=
  [.read key [1], .trySend, .take 0 true, .finish 0, .read key [2], .trySend]

/-- The second datagram is lost in either loop, though no channel is full. -/
theorem not_onlyFull_returningSource :
    (∃ final, udpPortMapping.run Dispatcher.start (returningSource (.v4 0x0A000001 1000)) =
        some final ∧
      final.dropped = [⟨.v4 0x0A000001 1000, [2], .gone⟩] ∧ ¬final.OnlyFull) ∧
    ∃ final, ipListen.run Dispatcher.start
        [.recvProtocolFromTo 50 (.v4 1) (.v4 2) [1], .trySend, .take 0 true, .finish 0,
          .recvProtocolFromTo 50 (.v4 1) (.v4 2) [2], .trySend] = some final ∧
      final.dropped = [⟨⟨50, 1, 2⟩, [2], .gone⟩] ∧ ¬final.OnlyFull := by
  refine ⟨⟨_, rfl, rfl, fun only => ?_⟩, ⟨_, rfl, rfl, fun only => ?_⟩⟩
  · cases only _ (List.mem_singleton.mpr rfl)
  · cases only _ (List.mem_singleton.mpr rfl)

end Vnt.Tunnel
