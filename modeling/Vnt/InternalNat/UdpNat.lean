/-
This file settles who removes an entry of the UDP translation table. A flow has one entry, with
the socket its packets leave through and the time of its last packet. Every socket has a task that
carries what comes back on it. The task outlives the entry when the collection of idle entries
takes that away, and the flow may have got a new socket since. The task refreshes and removes the
entry by the flow alone, so it then refreshes or removes the entry of the new socket.
-/

import Vnt.Base.Machine
import Vnt.Base.Map
import Vnt.SocketAddr

namespace Vnt.InternalNat

open Vnt.Base

/-- `Instant`, in nanoseconds. -/
abbrev Instant : Type := Nat

/-- The identity of a socket, which is that of its task. -/
abbrev SocketId : Type := Nat

/-- The source and the destination of a flow. -/
abbrev FlowKey : Type := SocketAddr × SocketAddr

/-- `NAT_IDLE_TIMEOUT`, in nanoseconds. -/
def natIdleTimeout : Nat := 60 * 5 * 1000000000

/-- `NatEntry`. -/
structure NatEntry where
  socket : SocketId
  lastActive : Instant
  deriving DecidableEq, Repr

/-- Where the task of a socket stands: before it receives, before it refreshes the entry of its
flow, after its loop, and at its end. -/
inductive TaskPhase where
  | receiving
  | refreshing
  | ended
  | finished
  deriving DecidableEq, Repr

/-- The task that `spawn_inbound` starts. -/
structure InboundTask where
  key : FlowKey
  phase : TaskPhase
  deriving DecidableEq, Repr

/-- The table with the clock, the tasks by their sockets, the time that the collection of idle
entries took before it waits for the table, and the next socket. -/
structure NatState where
  clock : Instant
  natTable : Map FlowKey NatEntry
  tasks : Map SocketId InboundTask
  gcNow : Option Instant
  nextSocket : SocketId

/-- What happens. An outbound packet says whether a socket could be bound and connected, should
the flow need one; a received packet says whether the virtual side took it. The table is locked
in `outbound`, `refresh`, `remove` and `gcRetain`. -/
inductive NatEvent where
  | advance (time : Nat)
  | outbound (key : FlowKey) (opens : Bool)
  | received (socket : SocketId) (sent : Bool)
  | recvFailed (socket : SocketId)
  | refresh (socket : SocketId)
  | remove (socket : SocketId)
  | gcTick
  | gcRetain

namespace NatState

/-- The lock section of `handle_outbound`, with the socket that the packet is sent on. -/
def handleOutbound (state : NatState) (key : FlowKey) (opens : Bool) :
    NatState × Option SocketId :=
  match state.natTable.lookup key with
  | some entry =>
    ({ state with natTable := state.natTable.insert key { entry with lastActive := state.clock } },
      some entry.socket)
  | none =>
    if opens = true then
      ({ state with
          natTable := state.natTable.insert key ⟨state.nextSocket, state.clock⟩
          tasks := state.tasks.insert state.nextSocket ⟨key, .receiving⟩
          nextSocket := state.nextSocket + 1 }, some state.nextSocket)
    else (state, none)

/-- A step of a task that stands at one phase: the table may change by the key of the task, and
the task goes on to another phase. -/
def taskStep (state : NatState) (socket : SocketId) (before after : TaskPhase)
    (change : FlowKey → Map FlowKey NatEntry → Map FlowKey NatEntry) : Option NatState :=
  match state.tasks.lookup socket with
  | some task =>
    if task.phase = before then
      some { state with
        natTable := change task.key state.natTable
        tasks := state.tasks.insert socket { task with phase := after } }
    else none
  | none => none

/-- Outside of its lock sections a task leaves the table as it is. -/
def leave (_ : FlowKey) (table : Map FlowKey NatEntry) : Map FlowKey NatEntry := table

/-- `if let Some(entry) = nat.get_mut(&key) { entry.last_active = now }`. -/
def touch (now : Instant) (key : FlowKey) (table : Map FlowKey NatEntry) : Map FlowKey NatEntry :=
  match table.lookup key with
  | some entry => table.insert key { entry with lastActive := now }
  | none => table

/-- The collection of idle entries; `duration_since` is zero for a time that is later. -/
def retainActive (now : Instant) (table : Map FlowKey NatEntry) : Map FlowKey NatEntry :=
  table.retain fun _ entry => if now - entry.lastActive < natIdleTimeout then some entry else none

def step (state : NatState) : NatEvent → Option NatState
  | .advance time => some { state with clock := state.clock + time }
  | .outbound key opens => some (state.handleOutbound key opens).1
  | .received socket sent =>
    state.taskStep socket .receiving (if sent = true then .refreshing else .ended) leave
  | .recvFailed socket => state.taskStep socket .receiving .ended leave
  | .refresh socket => state.taskStep socket .refreshing .receiving (touch state.clock)
  | .remove socket => state.taskStep socket .ended .finished fun key table => table.erase key
  | .gcTick => some { state with gcNow := some state.clock }
  | .gcRetain =>
    state.gcNow.map fun now =>
      { state with natTable := retainActive now state.natTable, gcNow := none }

def machine : Machine NatState NatEvent := ⟨step⟩

def start : NatState := ⟨0, ∅, ∅, none, 0⟩

end NatState

namespace NatState

/-- The entry of the task's flow, if there is one, holds the socket of the task. -/
def OwnEntry (state : NatState) (socket : SocketId) : Prop :=
  ∀ task ∈ state.tasks.lookup socket, ∀ entry ∈ state.natTable.lookup task.key,
    entry.socket = socket

instance instDecidableOwnEntry (state : NatState) (socket : SocketId) :
    Decidable (state.OwnEntry socket) :=
  inferInstanceAs (Decidable (∀ task ∈ _, ∀ entry ∈ _, _))

/-- A task changes the table only while the entry of its flow is its own. -/
def Keeps (state : NatState) : NatEvent → Prop
  | .refresh socket | .remove socket => state.OwnEntry socket
  | _ => True

instance instDecidableKeeps (state : NatState) : ∀ event, Decidable (state.Keeps event)
  | .refresh socket => inferInstanceAs (Decidable (state.OwnEntry socket))
  | .remove socket => inferInstanceAs (Decidable (state.OwnEntry socket))
  | .advance _ | .outbound _ _ | .received _ _ | .recvFailed _ | .gcTick | .gcRetain =>
    .isTrue trivial

/-- The collection of idle entries took its time in the past. -/
def GcPast (state : NatState) : Prop := ∀ now, state.gcNow = some now → now ≤ state.clock

/-! ### Facts about the table -/

variable {state next : NatState}

/-- What a step of a task does. -/
theorem taskStep_eq_some {socket : SocketId} {before after : TaskPhase}
    {change : FlowKey → Map FlowKey NatEntry → Map FlowKey NatEntry}
    (steps : state.taskStep socket before after change = some next) :
    ∃ task, state.tasks.lookup socket = some task ∧ task.phase = before ∧
      next.natTable = change task.key state.natTable ∧ next.clock = state.clock ∧
      next.gcNow = state.gcNow := by
  unfold taskStep at steps
  split at steps
  · next task found =>
    obtain ⟨phase, same⟩ := Option.ite_none_right_eq_some.mp steps
    cases same
    exact ⟨task, found, phase, rfl, rfl, rfl⟩
  · cases steps

theorem GcPast.of_same (past : state.GcPast) (clock : state.clock ≤ next.clock)
    (gcNow : next.gcNow = state.gcNow) : next.GcPast := by
  intro now pending
  rw [gcNow] at pending
  exact Nat.le_trans (past now pending) clock

theorem GcPast.taskStep (past : state.GcPast) {socket : SocketId} {before after : TaskPhase}
    {change : FlowKey → Map FlowKey NatEntry → Map FlowKey NatEntry}
    (steps : state.taskStep socket before after change = some next) : next.GcPast := by
  obtain ⟨-, -, -, -, clock, gcNow⟩ := taskStep_eq_some steps
  exact past.of_same (Nat.le_of_eq clock.symm) gcNow

theorem GcPast.step (past : state.GcPast) {event : NatEvent}
    (steps : machine.step state event = some next) : next.GcPast := by
  cases event with
  | advance time =>
    cases steps
    exact past.of_same (Nat.le_add_right _ _) rfl
  | outbound key opens =>
    cases steps
    unfold handleOutbound
    split
    · exact past.of_same (Nat.le_refl _) rfl
    · split
      · exact past.of_same (Nat.le_refl _) rfl
      · exact past
  | received socket sent => exact past.taskStep steps
  | recvFailed socket => exact past.taskStep steps
  | refresh socket => exact past.taskStep steps
  | remove socket => exact past.taskStep steps
  | gcTick =>
    cases steps
    rintro now pending
    cases pending
    exact Nat.le_refl _
  | gcRetain =>
    obtain ⟨now, -, rfl⟩ := Option.map_eq_some_iff.mp steps
    intro later pending
    cases pending

/-! ### What a step changes -/

end NatState

end Vnt.InternalNat
