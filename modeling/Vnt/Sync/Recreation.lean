/-
This file settles the client-list protocol when the network state that serves a client is
created anew. The new state counts its versions from 0 again, while the client keeps its list
and its version. A version above the new counter is answered with the full list. Every other
version is taken for one of the new state: when it is met exactly the client is told that
nothing changed, and when it is passed the client is sent what changed since. Both are right
if and only if, besides what a delta cannot bring over, the devices the new state counts up to
the client's version already stand in the list with their flags. A version that came from the
new state has that; one that came from an earlier state has it by chance only.
-/

import Vnt.Sync.Convergence

namespace Vnt.Sync

open Vnt.Base Vnt.Server Vnt.Client

/-- An event of the protocol, a new network state on the rows the database holds, or a new
connection of the client, possibly on another address. -/
inductive RecreationEvent where
  | sync (event : SyncEvent)
  | recreate (net : Ipv4Net) (records : List DeviceRecord) (now : SystemTime)
  | reconnect (selfIp : Ipv4Addr)

/-- The rows of a new network state are of different devices with different addresses. -/
def RecreationEvent.LoadsSeparate : RecreationEvent → Prop
  | .recreate _ records _ => records.Pairwise NetworkStateInner.SeparateRecords
  | _ => True

namespace ClientSync

/-- `new_from_db` for the network of the client: what was under way on the old connection is
gone, the client keeps its list and its version. -/
def recreate (state : ClientSync) (net : Ipv4Net) (gateway : Ipv4Addr)
    (records : List DeviceRecord) (now : SystemTime) : ClientSync :=
  { state with
    net := net
    gateway := gateway
    table := NetworkState.buildInitialInnerState net gateway now 0 records
    incarnation := state.incarnation + 1
    pings := []
    answers := []
    applied := none }

/-- A new connection of the client. A list for another address is no longer that of its
version. -/
def reconnect (state : ClientSync) (selfIp : Ipv4Addr) : ClientSync :=
  { state with
    selfIp := selfIp
    origin := if selfIp = state.selfIp then state.origin else none
    pings := []
    answers := []
    applied := none }

def recreationStep (state : ClientSync) : RecreationEvent → Option ClientSync
  | .sync event => state.step event
  | .recreate net records now =>
    match NetworkState.gatewayOf net with
    | some gateway => some (state.recreate net gateway records now)
    | none => none
  | .reconnect selfIp => some (state.reconnect selfIp)

def recreationMachine : Machine ClientSync RecreationEvent where
  step := recreationStep

/-- Right after an answer that is not full, the client's list is the table the answer was made
from. -/
def DeltaInSync (state : ClientSync) : Prop :=
  ∀ answer, state.applied = some answer → answer.isFull = false →
    state.ShowsDevices answer.table

/-- The version of an answer means what it says: it is 0, it came from the serving network
state, or every device counted up to it has its flag in the list anyway. -/
def VersionHolds (state : ClientSync) (answer : Answer) : Prop :=
  answer.start = 0 ∨ answer.ping.origin = some state.incarnation ∨
    ∀ deviceId entry ip, answer.table.deviceMap.lookup deviceId = some entry →
      entry.ip = some ip → ip ≠ state.selfIp → 1 ≤ entry.dataVersion →
        entry.dataVersion ≤ answer.start → state.view ip = some entry.isConnected

/-- The guard: an answer that is not full is applied to a list for which its version holds and
its delta suffices. -/
def DeltaApplies (state : ClientSync) : RecreationEvent → Prop
  | .sync (.receive _) => ∀ answer rest, state.answers = answer :: rest →
    answer.isFull = false → state.VersionHolds answer ∧ state.DeltaSuffices answer.table
  | _ => True

variable {state next : ClientSync} {answer : Answer} {rest : List Answer}

/-- A network state that replaces another one has no version in use. -/
theorem Synchronised.recreate (sync : state.Synchronised) {net : Ipv4Net} {gateway : Ipv4Addr}
    {records : List DeviceRecord} (gatewayIs : NetworkState.gatewayOf net = some gateway)
    (separate : records.Pairwise NetworkStateInner.SeparateRecords) (now : SystemTime) :
    (state.recreate net gateway records now).Synchronised := by
  have wellFormed : (state.recreate net gateway records now).table.WellFormed net gateway :=
    NetworkStateInner.wellFormed_buildInitialInnerState separate
  have before : state.origin = none ∨
      ∃ incarnation, state.origin = some incarnation ∧ incarnation ≤ state.incarnation := by
    cases known : state.origin with
    | none => exact .inl rfl
    | some incarnation =>
      exact .inr ⟨incarnation, rfl, sync.past _ (mem_tickets_view state) incarnation known⟩
  refine ⟨gatewayIs, wellFormed, ?_, List.pairwise_singleton _ _, ?_, ?_⟩
  · intro table member
    rw [List.mem_singleton.mp member]
    exact ⟨wellFormed.shared_distinct _, NetworkStateInner.bounded_buildInitialInnerState _ _ _ _ _⟩
  · intro ticket member fromServing
    rw [List.mem_singleton.mp member] at fromServing
    replace fromServing : state.origin = some (state.incarnation + 1) := fromServing
    rcases before with unknown | ⟨incarnation, known, past⟩
    · rw [unknown] at fromServing
      cases fromServing
    · rw [known] at fromServing
      cases fromServing
      omega
  · intro ticket member incarnation from_
    rw [List.mem_singleton.mp member] at from_
    exact Nat.le_succ_of_le (sync.past _ (mem_tickets_view state) incarnation from_)

/-- A new connection on the same address keeps the version, on another one it voids it. -/
theorem Synchronised.reconnect (sync : state.Synchronised) (selfIp : Ipv4Addr) :
    (state.reconnect selfIp).Synchronised := by
  obtain ⟨distinct, bounded⟩ := sync.tables _ (mem_tables_current state)
  refine ⟨sync.gateway, sync.wellFormed, ?_, List.pairwise_singleton _ _, ?_, ?_⟩
  · intro table member
    rw [List.mem_singleton.mp member]
    exact ⟨sync.wellFormed.shared_distinct _, bounded⟩
  · intro ticket member fromServing table mentioned
    rw [List.mem_singleton.mp member] at fromServing ⊢
    rw [List.mem_singleton.mp mentioned]
    replace fromServing : (if selfIp = state.selfIp then state.origin else none) =
      some state.incarnation := fromServing
    split at fromServing
    · next same =>
      subst same
      exact sync.known _ (mem_tickets_view state) fromServing _ (mem_tables_current state)
    · cases fromServing
  · intro ticket member incarnation fromOne
    rw [List.mem_singleton.mp member] at fromOne
    replace fromOne : (if selfIp = state.selfIp then state.origin else none) =
      some incarnation := fromOne
    split at fromOne
    · exact sync.past _ (mem_tickets_view state) incarnation fromOne
    · cases fromOne

theorem Synchronised.recreationStep {event : RecreationEvent} (sync : state.Synchronised)
    (separate : event.LoadsSeparate) (enabled : state.recreationStep event = some next) :
    next.Synchronised := by
  cases event with
  | sync event => exact sync.step enabled
  | recreate net records now =>
    simp only [ClientSync.recreationStep] at enabled
    split at enabled
    · next gateway gatewayIs =>
      cases enabled
      exact sync.recreate gatewayIs separate now
    · cases enabled
  | reconnect selfIp =>
    cases enabled
    exact sync.reconnect selfIp

/-- Only an answer that is received is applied. -/
theorem recreationStep_cases {event : RecreationEvent}
    (enabled : state.recreationStep event = some next) :
    (next.applied = none ∧ state.DeltaApplies event) ∨
      ∃ now answer rest, event = .sync (.receive now) ∧ state.answers = answer :: rest ∧
        next = state.receive answer rest now := by
  cases event with
  | sync event =>
    rcases step_cases enabled with ⟨notApplied, notReceive⟩ | ⟨now, answer, rest, rfl, head, same⟩
    · refine .inl ⟨notApplied, ?_⟩
      cases event with
      | receive now => exact absurd rfl (notReceive now)
      | _ => trivial
    · exact .inr ⟨now, answer, rest, rfl, head, same⟩
  | recreate net records now =>
    simp only [ClientSync.recreationStep] at enabled
    split at enabled <;> cases enabled
    exact .inl ⟨rfl, trivial⟩
  | reconnect selfIp =>
    cases enabled
    exact .inl ⟨rfl, trivial⟩

/-- Devices with their flags, as items of the table. -/
theorem versionHolds_iff (sync : state.Synchronised) (member : answer ∈ state.answers) :
    state.VersionHolds answer ↔ (state.shown answer).Knows state.view answer.start := by
  constructor
  · rintro (zero | fromServing | byChance)
    · exact sync.knows_start member (.inl zero)
    · exact sync.knows_start member (.inr fromServing)
    · intro item isItem changed upTo
      obtain ⟨deviceId, entry, known, isShown⟩ := NetworkStateInner.mem_shared.mp isItem
      obtain ⟨holds, other, value, version⟩ := DeviceEntry.item_eq_some.mp isShown
      rw [value]
      rw [version] at changed upTo
      exact byChance deviceId entry item.key known holds other changed upTo
  · intro knows
    refine .inr (.inr fun deviceId entry ip known holds other changed upTo => ?_)
    exact knows ⟨ip, entry.isConnected, entry.dataVersion⟩
      (NetworkStateInner.mem_shared.mpr ⟨deviceId, entry, known,
        DeviceEntry.item_eq_some.mpr ⟨holds, other, rfl, rfl⟩⟩) changed upTo

/-- A delta leaves the client in step if and only if its version holds and it suffices. -/
theorem Synchronised.receive_showsDevices_iff (sync : state.Synchronised)
    (member : answer ∈ state.answers) (notFull : answer.isFull = false) (now : Int) :
    (state.receive answer rest now).ShowsDevices answer.table ↔
      state.VersionHolds answer ∧ state.DeltaSuffices answer.table := by
  obtain ⟨distinct, bounded⟩ := sync.shown member
  rw [versionHolds_iff sync member]
  constructor
  · intro shows
    have merged : VersionedTable.Merged state.view ((state.shown answer).since answer.start)
        (state.receive answer rest now).view := receive_merged now notFull distinct bounded
    have knows : (state.shown answer).Knows state.view answer.start :=
      merged.knows_of_shows distinct ((showsDevices_iff answer).mp shows)
    exact ⟨knows, (ClientSync.receive_showsDevices_iff now notFull distinct bounded knows).mp shows⟩
  · rintro ⟨knows, suffices_⟩
    exact (ClientSync.receive_showsDevices_iff now notFull distinct bounded knows).mpr suffices_

/-- Starting from a loaded network state, and with every further one loaded from rows of
different addresses, the client is in step after every answer of a run that is not full if and
only if every such answer is applied to a list for which its version holds and its delta
suffices. -/
theorem deltaInSync_throughout_iff {net : Ipv4Net} {gateway : Ipv4Addr}
    {records : List DeviceRecord} (gatewayIs : NetworkState.gatewayOf net = some gateway)
    (separate : records.Pairwise NetworkStateInner.SeparateRecords) (now : SystemTime)
    (selfIp : Ipv4Addr) (serverId : UInt32) (events : List RecreationEvent)
    (loads : ∀ event ∈ events, event.LoadsSeparate) :
    recreationMachine.Throughout DeltaInSync (start net gateway records now selfIp serverId)
        events ↔
      recreationMachine.Guarded DeltaApplies (start net gateway records now selfIp serverId)
        events := by
  refine Machine.throughout_iff_guarded_of_admissible ?_ ?_ ?_ loads
    (synchronised_start gatewayIs separate now selfIp serverId) ?_
  · intro state event next sync separate enabled
    exact sync.recreationStep separate enabled
  · intro state event next sync _ enabled
    rcases recreationStep_cases enabled with ⟨notApplied, applies⟩ |
      ⟨later, answer, rest, rfl, head, rfl⟩
    · refine iff_of_true (fun answer isApplied => ?_) applies
      rw [notApplied] at isApplied
      cases isApplied
    · have member : answer ∈ state.answers := by
        rw [head]
        exact List.mem_cons_self
      constructor
      · intro inSync other others sameHead notFull
        cases head.symm.trans sameHead
        exact (sync.receive_showsDevices_iff member notFull later).mp (inSync answer rfl notFull)
      · intro applies other isApplied notFull
        cases isApplied
        exact (sync.receive_showsDevices_iff member notFull later).mpr
          (applies answer rest head notFull)
  · intro state event disabled
    cases event with
    | sync event =>
      cases event with
      | receive later =>
        intro answer rest head
        replace disabled : state.step (.receive later) = none := disabled
        simp only [step, head] at disabled
        cases disabled
      | _ => trivial
    | _ => trivial
  · intro answer isApplied
    cases isApplied

/-- The client and a device register, the client pings, the server restarts, and the client
pings the new network state. -/
def restartRun (later : List SyncEvent) : List RecreationEvent :=
  (registeredRun.map .sync ++
    [.recreate NetworkState.exampleNet
      [⟨"a", "net", some 0x0A1A0002, "name", "1.0", 0, 0, 0⟩,
        ⟨"b", "net", some 0x0A1A0003, "name", "1.0", 0, 0, 0⟩] 0]) ++ later.map .sync

theorem loadsSeparate_restartRun (later : List SyncEvent) :
    ∀ event ∈ restartRun later, event.LoadsSeparate := by
  intro event member
  rcases List.mem_append.mp member with first | last
  · rcases List.mem_append.mp first with before | isRecreate
    · obtain ⟨event, -, rfl⟩ := List.mem_map.mp before
      trivial
    · rw [List.mem_singleton.mp isRecreate]
      refine List.pairwise_pair.mpr ⟨by decide, fun ip same => ?_⟩
      cases same
      decide
  · obtain ⟨event, -, rfl⟩ := List.mem_map.mp last
    trivial

/-- The client comes back once: its version is above the new counter. -/
theorem deltaInSync_restartRun :
    recreationMachine.Throughout DeltaInSync exampleSync
      (restartRun [.lease (.allocateIp (NetworkState.exampleRequest "a" none false) 3 0 3),
        .ping 4, .answer, .receive 5]) := by
  refine (deltaInSync_throughout_iff (by decide) List.Pairwise.nil 0 0x0A1A0002 7 _
    (loadsSeparate_restartRun _)).mpr
    ⟨trivial, fun _ first => ⟨trivial, fun _ second => ⟨trivial, fun _ third =>
      ⟨trivial, fun _ fourth => ⟨?_, fun _ fifth => ⟨trivial, fun _ sixth =>
        ⟨trivial, fun _ seventh => ⟨trivial, fun _ eighth => ⟨trivial, fun _ ninth =>
          ⟨?_, fun _ _ => trivial⟩⟩⟩⟩⟩⟩⟩⟩⟩⟩
  · cases first
    cases second
    cases third
    cases fourth
    intro answer rest head _
    cases head
    exact ⟨.inl rfl, deltaSuffices_registered fun _ => rfl⟩
  · cases first
    cases second
    cases third
    cases fourth
    cases fifth
    cases sixth
    cases seventh
    cases eighth
    cases ninth
    intro answer rest head notFull
    cases head
    exact absurd notFull (by decide)

/-- The client comes back twice: its version meets the new counter. -/
theorem not_deltaInSync_restartRun :
    ¬recreationMachine.Throughout DeltaInSync exampleSync
      (restartRun [.lease (.allocateIp (NetworkState.exampleRequest "a" none false) 3 0 3),
        .lease (.allocateIp (NetworkState.exampleRequest "a" none false) 4 0 4),
        .ping 5, .answer, .receive 6]) := by
  intro throughout
  have reached : ∃ final answer, recreationMachine.run exampleSync
        (restartRun [.lease (.allocateIp (NetworkState.exampleRequest "a" none false) 3 0 3),
          .lease (.allocateIp (NetworkState.exampleRequest "a" none false) 4 0 4),
          .ping 5, .answer, .receive 6]) = some final ∧
      final.applied = some answer ∧ answer.isFull = false ∧
        final.view 0x0A1A0003 = some true ∧
          ∀ entry ∈ answer.table.deviceMap.values, entry.ip = some 0x0A1A0003 →
            entry.isConnected = false :=
    ⟨_, _, rfl, rfl, by decide, by decide, by decide⟩
  obtain ⟨final, answer, reaches, isApplied, notFull, listed, offline⟩ := reached
  obtain ⟨deviceId, entry, known, holds, -, online⟩ :=
    (throughout.final reaches answer isApplied notFull 0x0A1A0003 true).mp listed
  rw [offline entry ((Map.mem_values_iff _ entry).mpr ⟨deviceId, known⟩) holds] at online
  cases online

end ClientSync

end Vnt.Sync
