/-
This file settles when a client's list is the server's device table after every answer, within
the lifetime of one network state. The protocol brings over every device that was changed,
with its newest flag. Two things it cannot bring over: a device that was loaded and not
touched since carries the version 0 that the client starts with, and a device that was removed
or left its address leaves no entry to send. An answer leaves the client in step if and only
if the client's list already has the former and no longer has the latter.
-/

import Vnt.Base.Machine
import Vnt.Sync.ClientList

namespace Vnt.Sync

open Vnt.Base Vnt.Server Vnt.Client

namespace ClientSync

/-- The client's list is `{ip -> online}` over the device entries with an address other than
the client's own. -/
def ShowsDevices (state : ClientSync) (table : NetworkStateInner) : Prop :=
  ∀ ip online, state.view ip = some online ↔
    ∃ deviceId entry, table.deviceMap.lookup deviceId = some entry ∧ entry.ip = some ip ∧
      ip ≠ state.selfIp ∧ entry.isConnected = online

/-- Right after an answer is applied, the client's list is the table the answer was made
from. -/
def InSync (state : ClientSync) : Prop :=
  ∀ answer, state.applied = some answer → state.ShowsDevices answer.table

/-- The devices of the table that were never touched are in the client's list, and every
address in the list is the address of a device of the table. -/
def DeltaSuffices (state : ClientSync) (table : NetworkStateInner) : Prop :=
  (∀ deviceId entry ip, table.deviceMap.lookup deviceId = some entry → entry.ip = some ip →
    ip ≠ state.selfIp → entry.dataVersion = 0 → state.view ip = some entry.isConnected) ∧
  ∀ ip online, state.view ip = some online →
    ∃ deviceId entry, table.deviceMap.lookup deviceId = some entry ∧ entry.ip = some ip ∧
      ip ≠ state.selfIp

/-- The guard of the protocol: an answer is applied to a list for which its delta suffices. -/
def AppliesInStep (state : ClientSync) : SyncEvent → Prop
  | .receive _ => ∀ answer rest, state.answers = answer :: rest → state.DeltaSuffices answer.table
  | _ => True

/-- The client-list protocol as a machine. -/
def machine : Machine ClientSync SyncEvent where
  step := step

/-- A network state that was just loaded, and a client that knows nothing. -/
def start (net : Ipv4Net) (gateway : Ipv4Addr) (records : List DeviceRecord) (now : SystemTime)
    (selfIp : Ipv4Addr) (serverId : UInt32) : ClientSync where
  net := net
  gateway := gateway
  table := NetworkState.buildInitialInnerState net gateway now 0 records
  selfIp := selfIp
  serverId := serverId
  incarnation := 0
  collection := ⟨[], ∅⟩
  origin := some 0
  pings := []
  answers := []
  applied := none

/-- Every version in use came from the serving network state. -/
def Ours (state : ClientSync) : Prop :=
  ∀ ticket ∈ state.tickets, ticket.1 = some state.incarnation

variable {state next : ClientSync} {answer : Answer} {rest : List Answer} {event : SyncEvent}

theorem showsDevices_iff (answer : Answer) :
    state.ShowsDevices answer.table ↔ (state.shown answer).Shows state.view := by
  refine forall_congr' fun ip => forall_congr' fun online => iff_congr Iff.rfl ?_
  constructor
  · rintro ⟨deviceId, entry, known, holds, other, rfl⟩
    refine ⟨⟨ip, entry.isConnected, entry.dataVersion⟩, ?_, rfl, rfl⟩
    exact NetworkStateInner.mem_shared.mpr ⟨deviceId, entry, known,
      DeviceEntry.item_eq_some.mpr ⟨holds, other, rfl, rfl⟩⟩
  · rintro ⟨item, member, rfl, rfl⟩
    obtain ⟨deviceId, entry, known, isItem⟩ := NetworkStateInner.mem_shared.mp member
    obtain ⟨holds, other, value, -⟩ := DeviceEntry.item_eq_some.mp isItem
    exact ⟨deviceId, entry, known, holds, other, value.symm⟩

/-- A delta from a version that is known up to leaves the client in step if and only if it
suffices. -/
theorem receive_showsDevices_iff (now : Int) (notFull : answer.isFull = false)
    (distinct : (state.shown answer).Distinct) (bounded : (state.shown answer).Bounded)
    (knows : (state.shown answer).Knows state.view answer.start) :
    (state.receive answer rest now).ShowsDevices answer.table ↔
      state.DeltaSuffices answer.table := by
  have merged : VersionedTable.Merged state.view ((state.shown answer).since answer.start)
      (state.receive answer rest now).view := receive_merged now notFull distinct bounded
  constructor
  · intro shows
    refine ⟨fun deviceId entry ip known holds other never => ?_, fun ip online listed => ?_⟩
    · have member : (⟨ip, entry.isConnected, entry.dataVersion⟩ : Item Ipv4Addr Bool) ∈
          (state.shown answer).items :=
        NetworkStateInner.mem_shared.mpr ⟨deviceId, entry, known,
          DeviceEntry.item_eq_some.mpr ⟨holds, other, rfl, rfl⟩⟩
      have isOld : entry.dataVersion ≤ answer.start := by omega
      have kept := merged.eq_of_old distinct member isOld
      exact kept.symm.trans ((shows ip _).mpr ⟨deviceId, entry, known, holds, other, rfl⟩)
    · by_cases changed : ∃ item ∈ (state.shown answer).since answer.start, item.key = ip
      · obtain ⟨item, member, rfl⟩ := changed
        obtain ⟨deviceId, entry, known, isItem⟩ :=
          NetworkStateInner.mem_shared.mp (VersionedTable.mem_since.mp member).1
        obtain ⟨holds, other, -⟩ := DeviceEntry.item_eq_some.mp isItem
        exact ⟨deviceId, entry, known, holds, other⟩
      · have kept := merged.2 ip fun item member same => changed ⟨item, member, same⟩
        obtain ⟨deviceId, entry, known, holds, other, -⟩ := (shows ip online).mp (kept.trans listed)
        exact ⟨deviceId, entry, known, holds, other⟩
  · rintro ⟨untouched, current⟩
    refine (showsDevices_iff answer).mpr (knows.shows distinct merged ?_ ?_)
    · intro item member never
      obtain ⟨deviceId, entry, known, isItem⟩ := NetworkStateInner.mem_shared.mp member
      obtain ⟨holds, other, value, version⟩ := DeviceEntry.item_eq_some.mp isItem
      rw [value]
      exact untouched deviceId entry item.key known holds other (version.symm.trans never)
    · intro ip online listed
      obtain ⟨deviceId, entry, known, holds, other⟩ := current ip online listed
      exact ⟨⟨ip, entry.isConnected, entry.dataVersion⟩,
        NetworkStateInner.mem_shared.mpr ⟨deviceId, entry, known,
          DeviceEntry.item_eq_some.mpr ⟨holds, other, rfl, rfl⟩⟩, rfl⟩

theorem synchronised_start {net : Ipv4Net} {gateway : Ipv4Addr} {records : List DeviceRecord}
    (gatewayIs : NetworkState.gatewayOf net = some gateway)
    (separate : records.Pairwise NetworkStateInner.SeparateRecords) (now : SystemTime)
    (selfIp : Ipv4Addr) (serverId : UInt32) :
    (start net gateway records now selfIp serverId).Synchronised := by
  have wellFormed : (start net gateway records now selfIp serverId).table.WellFormed net gateway :=
    NetworkStateInner.wellFormed_buildInitialInnerState separate
  refine ⟨gatewayIs, wellFormed, ?_, List.pairwise_singleton _ _, ?_, ?_⟩
  · intro table member
    rw [List.mem_singleton.mp member]
    exact ⟨wellFormed.shared_distinct _, NetworkStateInner.bounded_buildInitialInnerState _ _ _ _ _⟩
  · intro ticket member _ table _
    rw [List.mem_singleton.mp member]
    refine ⟨Nat.zero_le _, fun item _ changed upTo => ?_⟩
    replace upTo : item.version ≤ 0 := upTo
    omega
  · intro ticket member incarnation from_
    rw [List.mem_singleton.mp member] at from_
    cases from_
    exact Nat.le_refl _

theorem step_incarnation (enabled : state.step event = some next) :
    next.incarnation = state.incarnation := by
  cases event with
  | answer | receive now =>
    simp only [ClientSync.step] at enabled
    split at enabled <;> cases enabled
    rfl
  | _ =>
    cases enabled
    rfl

/-- Every event keeps all versions in use those of the serving network state. -/
theorem Ours.step (ours : state.Ours) (enabled : state.step event = some next) : next.Ours := by
  have incarnation : next.incarnation = state.incarnation := step_incarnation enabled
  intro ticket member
  rw [incarnation]
  rcases tickets_step enabled member with before | ⟨now, answer, rest, rfl, head, rfl, rfl⟩
  · exact ours ticket before
  · have inUse : answer ∈ state.answers := by
      rw [head]
      exact List.mem_cons_self
    show state.originAfter answer = some state.incarnation
    unfold originAfter
    split
    · exact ours _ (mem_tickets_view state)
    · split
      · rfl
      · exact ours _ (mem_tickets_answer inUse)

theorem appliesInStep_of_ne_receive (notReceive : ∀ now, event ≠ .receive now) :
    state.AppliesInStep event := by
  cases event with
  | receive now => exact absurd rfl (notReceive now)
  | _ => trivial

/-- Within one lifetime no answer is full, and its start is known up to. -/
theorem Synchronised.notFull (sync : state.Synchronised) (ours : state.Ours)
    (member : answer ∈ state.answers) : answer.isFull = false := by
  have within := (sync.known _ (mem_tickets_answer member) (ours _ (mem_tickets_answer member)) _
    (mem_tables_answer member)).1
  exact decide_eq_false (Nat.not_lt_of_le within)

/-- Starting from a loaded network state whose devices have different addresses, the client is
in step after every answer of a run if and only if every answer is applied to a list for which
its delta suffices. -/
theorem inSync_throughout_iff {net : Ipv4Net} {gateway : Ipv4Addr} {records : List DeviceRecord}
    (gatewayIs : NetworkState.gatewayOf net = some gateway)
    (separate : records.Pairwise NetworkStateInner.SeparateRecords) (now : SystemTime)
    (selfIp : Ipv4Addr) (serverId : UInt32) (events : List SyncEvent) :
    machine.Throughout InSync (start net gateway records now selfIp serverId) events ↔
      machine.Guarded AppliesInStep (start net gateway records now selfIp serverId) events := by
  have initially : (start net gateway records now selfIp serverId).Synchronised ∧
      (start net gateway records now selfIp serverId).Ours := by
    refine ⟨synchronised_start gatewayIs separate now selfIp serverId, fun ticket member => ?_⟩
    rw [List.mem_singleton.mp member]
    rfl
  have preserved : ∀ (state : ClientSync) (event : SyncEvent) (next : ClientSync),
      state.Synchronised ∧ state.Ours → machine.step state event = some next →
        next.Synchronised ∧ next.Ours := by
    rintro state event next ⟨sync, ours⟩ enabled
    exact ⟨sync.step enabled, Ours.step ours enabled⟩
  refine Machine.throughout_iff_guarded preserved ?_ ?_ initially ?_
  · rintro state event next ⟨sync, ours⟩ - enabled
    rcases step_cases enabled with ⟨notApplied, notReceive⟩ | ⟨later, answer, rest, rfl, head, rfl⟩
    · refine iff_of_true (fun answer isApplied => ?_) (appliesInStep_of_ne_receive notReceive)
      rw [notApplied] at isApplied
      cases isApplied
    · have member : answer ∈ state.answers := by
        rw [head]
        exact List.mem_cons_self
      obtain ⟨distinct, bounded⟩ := sync.shown member
      have knows := sync.knows_start member (.inr (ours _ (mem_tickets_answer member)))
      have exactly : (state.receive answer rest later).ShowsDevices answer.table ↔
          state.DeltaSuffices answer.table :=
        receive_showsDevices_iff later (sync.notFull ours member) distinct bounded knows
      constructor
      · intro inSync other others sameHead
        cases head.symm.trans sameHead
        exact exactly.mp (inSync answer rfl)
      · intro applies other isApplied
        cases isApplied
        exact exactly.mpr (applies answer rest head)
  · intro state event disabled
    cases event with
    | receive later =>
      intro answer rest head
      replace disabled : state.step (.receive later) = none := disabled
      simp only [step, head] at disabled
      cases disabled
    | _ => trivial
  · intro answer isApplied
    cases isApplied

/-- The client protocol on the example network, without rows, for the first address. -/
def exampleSync : ClientSync :=
  start NetworkState.exampleNet 0x0A1A0001 [] 0 0x0A1A0002 7

/-- The client `a` and a device `b` register, and the client pings once. -/
def registeredRun : List SyncEvent :=
  [.lease (.allocateIp (NetworkState.exampleRequest "a" none false) 1 0 0),
    .lease (.allocateIp (NetworkState.exampleRequest "b" none false) 2 0 1),
    .ping 0, .answer, .receive 1]

/-- The lease table of the two devices. -/
def registeredTable : NetworkStateInner :=
  ((exampleSync.table.apply NetworkState.exampleNet 0x0A1A0001
    (.allocateIp (NetworkState.exampleRequest "a" none false) 1 0 0)).apply
      NetworkState.exampleNet 0x0A1A0001
        (.allocateIp (NetworkState.exampleRequest "b" none false) 2 0 1))

theorem registeredTable_dataVersion :
    ∀ entry ∈ registeredTable.deviceMap.values, entry.dataVersion ≠ 0 := by
  decide

/-- A client that has no list yet is sent both devices. -/
theorem deltaSuffices_registered (empty : ∀ ip, state.view ip = none) :
    state.DeltaSuffices registeredTable := by
  refine ⟨fun deviceId entry ip known holds other never => ?_, fun ip online listed => ?_⟩
  · exact absurd never (registeredTable_dataVersion entry
      ((Map.mem_values_iff _ entry).mpr ⟨deviceId, known⟩))
  · rw [empty ip] at listed
    cases listed

theorem inSync_registeredRun : machine.Throughout InSync exampleSync registeredRun := by
  refine (inSync_throughout_iff (by decide) List.Pairwise.nil 0 0x0A1A0002 7 _).mpr
    ⟨trivial, fun _ first => ⟨trivial, fun _ second => ⟨trivial, fun _ third =>
      ⟨trivial, fun _ fourth => ⟨?_, fun _ _ => trivial⟩⟩⟩⟩⟩
  cases first
  cases second
  cases third
  cases fourth
  intro answer rest head
  cases head
  exact deltaSuffices_registered fun _ => rfl

/-- The device `b` goes offline and is removed, and the client pings once more. -/
def removedRun : List SyncEvent :=
  registeredRun ++
    [.lease (.offlineIp [] "net" "b" 0x0A1A0003 2 2), .lease (.removeDevices ["b"]),
      .ping 2, .answer, .receive 3]

/-- The client still lists the address of the removed device. -/
theorem not_inSync_removedRun : ¬machine.Throughout InSync exampleSync removedRun := by
  intro throughout
  have reached : ∃ final answer, machine.run exampleSync removedRun = some final ∧
      final.applied = some answer ∧ final.view 0x0A1A0003 = some true ∧
        ∀ entry ∈ answer.table.deviceMap.values, entry.ip ≠ some 0x0A1A0003 :=
    ⟨_, _, rfl, rfl, by decide, by decide⟩
  obtain ⟨final, answer, reaches, isApplied, listed, gone⟩ := reached
  obtain ⟨deviceId, entry, known, holds, -⟩ :=
    (throughout.final reaches answer isApplied 0x0A1A0003 true).mp listed
  exact gone entry ((Map.mem_values_iff _ entry).mpr ⟨deviceId, known⟩) holds

end ClientSync

end Vnt.Sync
