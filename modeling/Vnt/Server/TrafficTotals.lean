/-
This file follows the traffic totals from the counters into the database. The statements that save
a device wait in the order they were requested, each with the counters its totals are read from,
and beside them stands which counters the row of a device was last written or loaded from. The
totals of a row do not go down while they come from the same counters, which the allocation
replaces by fresh ones when a device moves to another address or was forgotten.
-/

import Vnt.Base.ReadOrder
import Vnt.Server.Counters
import Vnt.Server.SaveOrder

namespace Vnt.Server

open Vnt.Base

/-! ### Statements and the counters they read -/

/-- The device whose row a save stores. -/
def Save.deviceId : Save → String
  | .ofEntry entry => entry.deviceId
  | .ofRecord record => record.deviceId

/-- The transmitted and the received bytes. -/
def TrafficStats.totals (stats : TrafficStats) : Nat × Nat := (stats.tx, stats.rx)

def DeviceRecord.totals (record : DeviceRecord) : Nat × Nat := (record.txBytes, record.rxBytes)

/-- A total as its column shows it: the cast of an unsigned number to a signed one. -/
def columnOf (total : Nat) : Int := Int.bmod total (2 ^ 64)

/-- A statement that was requested, with the counters its totals are read from. -/
structure SaveRequest where
  save : Save
  stats : StatsRef
  own : ∀ entry, save = .ofEntry entry → entry.trafficStats = stats

/-- The read of a statement: the save of a registration reads the counters when it runs, every
other one did when it was requested. -/
def SaveRequest.read (request : SaveRequest) : Read String StatsRef (Nat × Nat) where
  key := request.save.deviceId
  cell := request.stats
  taken :=
    match request.save with
    | .ofEntry _ => none
    | .ofRecord record => some record.totals

/-- The events of the service, with the traffic in place of counters that change by themselves. -/
inductive LedgerEvent where
  | service (event : ServiceEvent)
  | recordTx (ip : Ipv4Addr) (bytes : Nat)
  | recordRx (ip : Ipv4Addr) (bytes : Nat)

/-- The service with the statements that wait, oldest first, and the counters the row of each
device was last written or loaded from. -/
structure Ledger where
  service : ControlService
  queue : List SaveRequest
  source : String → Option StatsRef

namespace ControlService

/-- The counters of the devices in memory. -/
def countersInMemory (state : ControlService) (deviceId : String) : Option StatsRef :=
  (state.network.getDeviceEntry deviceId).map DeviceEntry.trafficStats

/-- The statement an event requests. -/
def requested (state : ControlService) (event : ServiceEvent) : List SaveRequest :=
  match state.snapshot event with
  | some (_, .ofEntry entry) =>
    [⟨.ofEntry entry, entry.trafficStats, fun _ same => by rw [Save.ofEntry.inj same]⟩]
  | some (deviceId, .ofRecord record) =>
    match state.countersInMemory deviceId with
    | some stats => [⟨.ofRecord record, stats, nofun⟩]
    | none => []
  | none => []

/-- The totals of the rows of the network. -/
def storedTotals (state : ControlService) (deviceId : String) : Option (Nat × Nat) :=
  (state.database.rows.lookup (deviceId, state.network.networkCode)).map DeviceRecord.totals

/-- The counters as they stand. -/
def counted (state : ControlService) (stats : StatsRef) : Nat × Nat := (state.heap.get stats).totals

end ControlService

namespace Ledger

/-- The oldest statement of a device that waits. -/
def oldest (ledger : Ledger) (deviceId : String) : Option SaveRequest :=
  ledger.queue.find? fun request => decide (request.save.deviceId = deviceId)

/-- A statement is carried out when it is the oldest of its device. -/
def inOrder (ledger : Ledger) (event : ServiceEvent) : Bool :=
  match ledger.service.finishing event with
  | some (record, true, _) =>
    decide ((ledger.oldest record.deviceId).map
      (fun request => ledger.service.recordOf request.save) = some record)
  | _ => true

/-- The statements that wait when an event has ended one. -/
def remaining (ledger : Ledger) (event : ServiceEvent) : List SaveRequest :=
  match ledger.service.finishing event with
  | some (record, _, _) =>
    ledger.queue.eraseP fun request => decide (ledger.service.recordOf request.save = record)
  | none => ledger.queue

/-- Where the rows come from when an event has carried out a statement. -/
def written (ledger : Ledger) (event : ServiceEvent) : String → Option StatsRef :=
  match ledger.service.finishing event with
  | some (record, true, _) =>
    Function.update ledger.source record.deviceId
      ((ledger.oldest record.deviceId).map SaveRequest.stats)
  | _ => ledger.source

/-- The service with its traffic and the statements in order, as a machine. What a restart finds
under way is gone, and the counters it loads are those of the rows. -/
def machine : Machine Ledger LedgerEvent where
  step ledger
    | .service (.recordTraffic _) => none
    | .service (.restart now answered) =>
      (ledger.service.step (.restart now answered)).map fun next =>
        ⟨next, [], next.countersInMemory⟩
    | .service event =>
      if ledger.inOrder event then
        (ledger.service.step event).map fun next =>
          ⟨next, ledger.remaining event ++ ledger.service.requested event, ledger.written event⟩
      else none
    | .recordTx ip bytes =>
      some { ledger with
        service := { ledger.service with
          heap := ledger.service.network.recordTxTraffic ledger.service.heap ip bytes } }
    | .recordRx ip bytes =>
      some { ledger with
        service := { ledger.service with
          heap := ledger.service.network.recordRxTraffic ledger.service.heap ip bytes } }

/-- An event lowers no total in the row of a device. -/
def TotalsKept (ledger : Ledger) (event : LedgerEvent) : Prop :=
  ∀ next, machine.step ledger event = some next → ∀ deviceId before after,
    ledger.service.database.rows.lookup (deviceId, ledger.service.network.networkCode) =
        some before →
      next.service.database.rows.lookup (deviceId, ledger.service.network.networkCode) =
          some after →
        columnOf before.txBytes ≤ columnOf after.txBytes ∧
          columnOf before.rxBytes ≤ columnOf after.rxBytes

/-- The condition on a step. A statement that is carried out reads the counters the row came from,
or the row has no traffic yet, and a registration's save does not run when the counters have grown
since a record was made of them that waits behind it. Traffic leaves the counters below `2 ^ 63`. -/
def Continues (ledger : Ledger) : LedgerEvent → Prop
  | .service event => ∀ record left request,
    ledger.service.finishing event = some (record, true, left) →
      ledger.oldest record.deviceId = some request →
        (ledger.source record.deviceId = some request.stats ∨
            ∀ totals, ledger.service.storedTotals record.deviceId = some totals →
              totals = (0, 0)) ∧
          (request.read.taken = none → ∀ later ∈ ledger.queue,
            later.save.deviceId = record.deviceId → later.stats = request.stats →
              ∀ taken, later.read.taken = some taken →
                ledger.service.counted request.stats ≤ taken)
  | .recordTx ip bytes => ∀ stats,
    ledger.service.network.trafficStatsMap.lookup ip = some stats →
      (ledger.service.heap.get stats).tx + bytes < 2 ^ 63
  | .recordRx ip bytes => ∀ stats,
    ledger.service.network.trafficStatsMap.lookup ip = some stats →
      (ledger.service.heap.get stats).rx + bytes < 2 ^ 63

/-! ### One step -/

variable {ledger next : Ledger}

/-- Totals that their columns show as they are. -/
def Small (totals : Nat × Nat) : Prop := totals.1 < 2 ^ 63 ∧ totals.2 < 2 ^ 63

theorem Small.of_le {totals more : Nat × Nat} (small : Small more) (below : totals ≤ more) :
    Small totals :=
  ⟨Nat.lt_of_le_of_lt below.1 small.1, Nat.lt_of_le_of_lt below.2 small.2⟩

theorem columnOf_of_small {total : Nat} (small : total < 2 ^ 63) : columnOf total = total := by
  unfold columnOf
  exact Int.bmod_eq_of_le (by omega) (by omega)

/-- The statements that wait read their counters in order, and no total is too large for its
column. -/
structure Kept (ledger : Ledger) : Prop where
  tracked : ledger.service.Tracked
  code : ∀ request ∈ ledger.queue, (ledger.service.recordOf request.save).networkCode =
    ledger.service.network.networkCode
  order : ReadOrder ledger.service.counted (ledger.queue.map SaveRequest.read) ledger.source
    ledger.service.storedTotals
  counters : ∀ stats, Small (ledger.service.counted stats)
  rows : ∀ deviceId totals, ledger.service.storedTotals deviceId = some totals → Small totals

/-- The record of a statement has the totals its read is applied with. -/
theorem totals_recordOf (service : ControlService) (request : SaveRequest) :
    (service.recordOf request.save).totals = request.read.value service.counted := by
  obtain ⟨save, stats, own⟩ := request
  cases save with
  | ofEntry entry =>
    cases own entry rfl
    rfl
  | ofRecord record => rfl

theorem deviceId_recordOf (service : ControlService) (save : Save) :
    (service.recordOf save).deviceId = save.deviceId := by
  cases save <;> rfl

/-- The oldest statement of a device stands behind statements of other devices only. -/
theorem oldest_eq_some {deviceId : String} {request : SaveRequest}
    (isOldest : ledger.oldest deviceId = some request) :
    request.save.deviceId = deviceId ∧ ∃ before after,
      ledger.queue = before ++ request :: after ∧
        ∀ other ∈ before, other.save.deviceId ≠ deviceId := by
  obtain ⟨own, before, after, split, others⟩ := List.find?_eq_some_iff_append.mp isOldest
  refine ⟨of_decide_eq_true own, before, after, split, fun other member same => ?_⟩
  have differs := others other member
  rw [same] at differs
  simp at differs

/-- Releasing the address of a device leaves its totals. -/
theorem totals_release {database : Database} {networkCode deviceId : String}
    {key : String × String} {after : DeviceRecord}
    (stored : (database.execute (.releaseDeviceIp networkCode deviceId)).rows.lookup key =
      some after) :
    ∃ before, database.rows.lookup key = some before ∧ before.totals = after.totals := by
  unfold Database.execute at stored
  dsimp only at stored
  split at stored
  · next record known =>
    have sameKey := database.keyed _ _ known
    simp only [Database.put, Map.lookup_insert_eq] at stored
    split at stored
    · next same =>
      cases stored
      rw [same, sameKey]
      exact ⟨record, known, rfl⟩
    · exact ⟨after, stored, rfl⟩
  · exact ⟨after, stored, rfl⟩

/-- What an event does to the rows: it carries out the oldest statement of a device, or it changes
no totals. -/
theorem rows_cases {event : ServiceEvent} {service : ControlService}
    (enabled : ledger.service.step event = some service)
    (ordered : ledger.inOrder event = true)
    (running : ∀ now answered, event ≠ .restart now answered) :
    (∃ request left,
        ledger.service.finishing event =
          some (ledger.service.recordOf request.save, true, left) ∧
        ledger.oldest request.save.deviceId = some request ∧
        service.database =
          ledger.service.database.execute
            (.saveOrUpdateDevice (ledger.service.recordOf request.save))) ∨
      (∀ record left, ledger.service.finishing event ≠ some (record, true, left)) ∧
        ∀ deviceId after, service.database.rows.lookup
            (deviceId, ledger.service.network.networkCode) = some after →
          ∃ before, ledger.service.database.rows.lookup
            (deviceId, ledger.service.network.networkCode) = some before ∧
              before.totals = after.totals := by
  have same (none : ∀ record left, ledger.service.finishing event ≠ some (record, true, left))
      (database : service.database = ledger.service.database) :
      (∀ record left, ledger.service.finishing event ≠ some (record, true, left)) ∧
        ∀ deviceId after, service.database.rows.lookup
            (deviceId, ledger.service.network.networkCode) = some after →
          ∃ before, ledger.service.database.rows.lookup
            (deviceId, ledger.service.network.networkCode) = some before ∧
              before.totals = after.totals := by
    refine ⟨none, fun deviceId after stored => ⟨after, ?_, rfl⟩⟩
    rw [← database]
    exact stored
  by_cases life : event.lifecycle = true
  · rcases ControlService.rows_step life enabled with ⟨record, left, ends, database⟩ | ⟨none, rows⟩
    · refine .inl ?_
      unfold inOrder at ordered
      rw [ends] at ordered
      obtain ⟨request, isOldest, isRecord⟩ := Option.map_eq_some_iff.mp (of_decide_eq_true ordered)
      subst isRecord
      rw [deviceId_recordOf] at isOldest
      exact ⟨request, left, ends, isOldest, database⟩
    · exact .inr ⟨none, fun deviceId after stored =>
        ⟨after, (rows deviceId).symm.trans stored, rfl⟩⟩
  · refine .inr ?_
    cases ControlService.step_effect enabled with
    | collected | expired | sweepEnded | deletionChecked | deletedFromMemory | trafficRecorded =>
      exact same nofun rfl
    | released succeeds deviceId rest =>
      cases succeeds with
      | false => exact same nofun rfl
      | true =>
        exact ⟨nofun, fun other after stored => totals_release stored⟩
    | deletedRow deviceId succeeds deletions =>
      cases succeeds with
      | false => exact same nofun rfl
      | true =>
        refine ⟨nofun, fun other after stored => ⟨after, ?_, rfl⟩⟩
        exact (Map.lookup_erase_eq_some.mp stored).2
    | restarted now answered => exact absurd rfl (running now answered)
    | _ => exact absurd rfl life

/-- A statement that is carried out as the condition wants lowers no total. -/
theorem Kept.le (kept : ledger.Kept) {event : ServiceEvent} {request : SaveRequest}
    {left : ControlService} (continues : ledger.Continues (.service event))
    (ends : ledger.service.finishing event =
      some (ledger.service.recordOf request.save, true, left))
    (isOldest : ledger.oldest request.save.deviceId = some request) {totals : Nat × Nat}
    (stored : ledger.service.storedTotals request.save.deviceId = some totals) :
    totals ≤ (ledger.service.recordOf request.save).totals := by
  rw [totals_recordOf]
  have sameDevice := deviceId_recordOf ledger.service request.save
  obtain ⟨source, -⟩ := continues _ left request ends (by rw [sameDevice]; exact isOldest)
  rw [sameDevice] at source
  have member : request ∈ ledger.queue := List.mem_of_find?_eq_some isOldest
  rcases source with same | unused
  · exact kept.order.le_value (List.mem_map_of_mem member) same stored
  · rw [unused totals stored]
    exact ⟨Nat.zero_le _, Nat.zero_le _⟩

/-- The totals of the rows after a statement is carried out. -/
theorem storedTotals_save {service next : ControlService} {record : DeviceRecord}
    (code : record.networkCode = service.network.networkCode)
    (sameNetwork : next.network.networkCode = service.network.networkCode)
    (database : next.database = service.database.execute (.saveOrUpdateDevice record)) :
    next.storedTotals = Function.update service.storedTotals record.deviceId
      (some record.totals) := by
  funext deviceId
  unfold ControlService.storedTotals
  rw [sameNetwork, database]
  by_cases own : deviceId = record.deviceId
  · subst own
    rw [Function.update_self, ← code]
    exact congrArg _ (AList.lookup_insert _)
  · rw [Function.update_of_ne own, service.database.lookup_execute_of_ne]
    exact fun same => own (congrArg Prod.fst same)

/-- A record that is made of an entry has the totals its counters have. -/
theorem snapshot_record {service : ControlService} {event : ServiceEvent} {deviceId : String}
    {record : DeviceRecord} (tracked : service.Tracked)
    (taken : service.snapshot event = some (deviceId, .ofRecord record)) :
    ∃ entry, service.network.getDeviceEntry deviceId = some entry ∧
      record.totals = service.counted entry.trafficStats ∧
        record.networkCode = service.network.networkCode := by
  cases event with
  | register req randomId sender now =>
    simp only [ControlService.snapshot] at taken
    split at taken <;> cases taken
  | dropSession randomId now sent =>
    obtain ⟨connection, known, taken⟩ := Option.bind_eq_some_iff.mp taken
    dsimp only at taken
    split at taken
    · rcases service.network.offlineIp_cases service.heap connection.session now with
        ⟨unchanged, -⟩ | ⟨entry, current, changed⟩
      · rw [unchanged] at taken
        cases taken
      · rw [changed] at taken
        cases taken
        exact ⟨entry, current.1, rfl, rfl⟩
    · cases taken
  | confirmRead randomId =>
    obtain ⟨connection, known, taken⟩ := Option.bind_eq_some_iff.mp taken
    obtain ⟨entry, found, same⟩ := Option.map_eq_some_iff.mp taken
    cases same
    exact ⟨entry, found, rfl, (tracked.session _ _ known).2.2⟩
  | _ => cases taken

/-- An event requests no statement, or one that reads its counters now or when it runs. -/
theorem requested_cases {service : ControlService} (event : ServiceEvent)
    (tracked : service.Tracked) :
    service.requested event = [] ∨ ∃ request, service.requested event = [request] ∧
      (service.recordOf request.save).networkCode = service.network.networkCode ∧
        (request.read.taken = none ∨
          request.read.taken = some (service.counted request.read.cell)) := by
  unfold ControlService.requested
  cases taken : service.snapshot event with
  | none => exact .inl rfl
  | some snapshot =>
    obtain ⟨deviceId, save⟩ := snapshot
    cases save with
    | ofEntry entry => exact .inr ⟨_, rfl, rfl, .inl rfl⟩
    | ofRecord record =>
      obtain ⟨entry, found, totals, code⟩ := snapshot_record tracked taken
      have counters : service.countersInMemory deviceId = some entry.trafficStats := by
        unfold ControlService.countersInMemory
        rw [found]
        rfl
      dsimp only
      rw [counters]
      exact .inr ⟨_, rfl, code, .inr (congrArg some totals)⟩

/-- The statement that ends stands behind statements of other devices only, which wait on. -/
theorem remaining_ended {event : ServiceEvent} {request : SaveRequest} {left : ControlService}
    (ends : ledger.service.finishing event =
      some (ledger.service.recordOf request.save, true, left))
    (isOldest : ledger.oldest request.save.deviceId = some request) :
    ∃ before after, ledger.queue = before ++ request :: after ∧
      ledger.remaining event = before ++ after ∧
        ∀ other ∈ before, other.save.deviceId ≠ request.save.deviceId := by
  obtain ⟨-, before, after, split, others⟩ := oldest_eq_some isOldest
  refine ⟨before, after, split, ?_, others⟩
  unfold Ledger.remaining
  rw [ends, split]
  dsimp only
  rw [List.eraseP_append_right _ fun other member same => ?_, List.eraseP_cons,
    decide_eq_true rfl, cond_true]
  refine others other member ?_
  rw [← deviceId_recordOf ledger.service, of_decide_eq_true same,
    deviceId_recordOf ledger.service request.save]

/-- Then the row of its device is as the statement read the counters. -/
theorem written_ended {event : ServiceEvent} {request : SaveRequest} {left : ControlService}
    (ends : ledger.service.finishing event =
      some (ledger.service.recordOf request.save, true, left))
    (isOldest : ledger.oldest request.save.deviceId = some request) :
    ledger.written event =
      Function.update ledger.source request.save.deviceId (some request.stats) := by
  unfold written
  rw [ends]
  dsimp only
  rw [deviceId_recordOf ledger.service request.save, isOldest]
  rfl

/-- When no statement is carried out, the rows stay as they were written. -/
theorem written_waiting {event : ServiceEvent}
    (none : ∀ record left, ledger.service.finishing event ≠ some (record, true, left)) :
    ledger.written event = ledger.source := by
  unfold written
  split
  · next record left ends => exact absurd ends (none record left)
  · rfl

theorem remaining_sublist (event : ServiceEvent) :
    (ledger.remaining event).Sublist ledger.queue := by
  unfold Ledger.remaining
  split
  · exact List.eraseP_sublist
  · exact List.Sublist.refl _

/-- The totals of rows that an event leaves or removes. -/
theorem storedTotals_of_rows {service next : ControlService}
    (sameNetwork : next.network.networkCode = service.network.networkCode)
    (rows : ∀ deviceId after,
      next.database.rows.lookup (deviceId, service.network.networkCode) = some after →
        ∃ before, service.database.rows.lookup (deviceId, service.network.networkCode) =
          some before ∧ before.totals = after.totals)
    {deviceId : String} {totals : Nat × Nat}
    (isStored : next.storedTotals deviceId = some totals) :
    service.storedTotals deviceId = some totals := by
  unfold ControlService.storedTotals at isStored
  rw [sameNetwork] at isStored
  obtain ⟨after, found, rfl⟩ := Option.map_eq_some_iff.mp isStored
  obtain ⟨before, known, same⟩ := rows deviceId after found
  unfold ControlService.storedTotals
  rw [known, Option.map_some, same]

/-- The statement that ends leaves the others in order, and a row with small totals. -/
theorem Kept.ended (kept : ledger.Kept) {event : ServiceEvent} {service left : ControlService}
    {request : SaveRequest}
    (sameNetwork : service.network.networkCode = ledger.service.network.networkCode)
    (continues : ledger.Continues (.service event))
    (ends : ledger.service.finishing event =
      some (ledger.service.recordOf request.save, true, left))
    (isOldest : ledger.oldest request.save.deviceId = some request)
    (database : service.database =
      ledger.service.database.execute
        (.saveOrUpdateDevice (ledger.service.recordOf request.save))) :
    ReadOrder ledger.service.counted ((ledger.remaining event).map SaveRequest.read)
        (ledger.written event) service.storedTotals ∧
      ∀ deviceId totals, service.storedTotals deviceId = some totals → Small totals := by
  obtain ⟨before, after, split, waiting, others⟩ := remaining_ended ends isOldest
  have sameDevice := deviceId_recordOf ledger.service request.save
  have member : request ∈ ledger.queue := List.mem_of_find?_eq_some isOldest
  have stored := storedTotals_save (kept.code request member) sameNetwork database
  rw [sameDevice, totals_recordOf] at stored
  have order := kept.order
  rw [split, List.map_append, List.map_cons] at order
  rw [waiting, written_ended ends isOldest, stored, List.map_append]
  refine ⟨order.apply (fun other member => ?_) (fun open_ later member => ?_),
    fun deviceId totals isStored => ?_⟩
  · obtain ⟨earlier, isEarlier, rfl⟩ := List.mem_map.mp member
    exact others earlier isEarlier
  · obtain ⟨request', isLater, rfl⟩ := List.mem_map.mp member
    intro sameKey sameCell
    refine (continues _ left request ends (by rw [sameDevice]; exact isOldest)).2 open_ request'
      ?_ (sameKey.trans sameDevice.symm) sameCell
    rw [split]
    exact List.mem_append_right _ (List.mem_cons_of_mem _ isLater)
  · rw [Function.update_apply] at isStored
    split at isStored
    · cases isStored
      exact (kept.counters _).of_le (kept.order.value_le (List.mem_map_of_mem member))
    · exact kept.rows deviceId totals isStored

/-- The statements that wait after an event, without the one it requests. -/
theorem Kept.remaining (kept : ledger.Kept) {event : ServiceEvent} {service : ControlService}
    (enabled : ledger.service.step event = some service)
    (ordered : ledger.inOrder event = true)
    (running : ∀ now answered, event ≠ .restart now answered)
    (sameNetwork : service.network.networkCode = ledger.service.network.networkCode)
    (continues : ledger.Continues (.service event)) :
    ReadOrder ledger.service.counted ((ledger.remaining event).map SaveRequest.read)
        (ledger.written event) service.storedTotals ∧
      ∀ deviceId totals, service.storedTotals deviceId = some totals → Small totals := by
  rcases rows_cases enabled ordered running with
    ⟨request, left, ends, isOldest, database⟩ | ⟨none, rows⟩
  · exact kept.ended sameNetwork continues ends isOldest database
  · have stored : ∀ deviceId totals, service.storedTotals deviceId = some totals →
        ledger.service.storedTotals deviceId = some totals :=
      fun deviceId totals => storedTotals_of_rows sameNetwork rows
    rw [written_waiting none]
    exact ⟨kept.order.fewer ((remaining_sublist event).map _) stored,
      fun deviceId totals isStored => kept.rows deviceId totals (stored deviceId totals isStored)⟩

/-- An event of the service keeps the statements in order. -/
theorem Kept.serviceStep (kept : ledger.Kept) {event : ServiceEvent} {service : ControlService}
    (enabled : ledger.service.step event = some service)
    (ordered : ledger.inOrder event = true)
    (uncounted : ∀ heap, event ≠ .recordTraffic heap)
    (running : ∀ now answered, event ≠ .restart now answered)
    (continues : ledger.Continues (.service event)) :
    Kept ⟨service, ledger.remaining event ++ ledger.service.requested event,
      ledger.written event⟩ := by
  have effect := ControlService.step_effect enabled
  obtain ⟨sameNetwork, heap, records⟩ := ControlService.recordOf_step effect uncounted running
  obtain ⟨order, rows⟩ := kept.remaining enabled ordered running sameNetwork continues
  have counted : service.counted = ledger.service.counted := by
    funext stats
    unfold ControlService.counted
    rw [heap]
  have codes : ∀ request ∈ ledger.remaining event,
      (service.recordOf request.save).networkCode = service.network.networkCode := by
    intro request member
    rw [records, sameNetwork]
    exact kept.code request ((remaining_sublist event).subset member)
  have counters : ∀ stats, Small (service.counted stats) := by
    rw [counted]
    exact kept.counters
  have ordering := counted ▸ order
  rcases requested_cases event kept.tracked with nothing | ⟨request, requests, code, now⟩
  · rw [nothing, List.append_nil]
    exact ⟨kept.tracked.step effect, codes, ordering, counters, rows⟩
  · rw [requests]
    refine ⟨kept.tracked.step effect, fun other member => ?_, ?_, counters, rows⟩
    · rcases List.mem_append.mp member with waiting | new
      · exact codes other waiting
      · cases List.mem_singleton.mp new
        dsimp only
        rw [records, sameNetwork]
        exact code
    · rw [List.map_append, List.map_singleton]
      exact ordering.request (counted ▸ now)

/-- A restart starts with the counters of the rows it loads. -/
theorem kept_load {service : ControlService} {database : Database} {networkCode : String}
    {net : Ipv4Net} {leaseDuration : Nat} {usedIds : List RandomId} {now : SystemTime}
    {answered : Bool}
    (loaded : ControlService.load database networkCode net leaseDuration usedIds now answered =
      some service)
    (rows : ∀ deviceId record, database.rows.lookup (deviceId, networkCode) = some record →
      Small record.totals) :
    Kept ⟨service, [], service.countersInMemory⟩ := by
  have tracked := ControlService.tracked_load loaded
  have heap : service.heap = (if answered then database.loadAllDevices networkCode else []).map
      fun record => ⟨record.txBytes, record.rxBytes⟩ := by
    obtain ⟨network, -, rfl⟩ := Option.map_eq_some_iff.mp loaded
    rfl
  obtain ⟨gateway, -, network, sameDatabase, -⟩ := ControlService.load_eq_some loaded
  have code : service.network.networkCode = networkCode := by rw [network]
  have isRow : ∀ record ∈ (if answered then database.loadAllDevices networkCode else []),
      database.rows.lookup (record.deviceId, networkCode) = some record := by
    intro record member
    split at member
    · exact database.mem_loadAllDevices.mp member
    · cases member
  have counters : ∀ index record,
      (if answered then database.loadAllDevices networkCode else [])[index]? = some record →
        service.counted index = record.totals := by
    intro index record found
    unfold ControlService.counted StatsHeap.get
    rw [heap, List.getD_eq_getElem?_getD, List.getElem?_map, found]
    rfl
  have small : ∀ deviceId totals, service.storedTotals deviceId = some totals → Small totals := by
    intro deviceId totals stored
    unfold ControlService.storedTotals at stored
    rw [code, sameDatabase] at stored
    obtain ⟨record, known, rfl⟩ := Option.map_eq_some_iff.mp stored
    exact rows deviceId record known
  refine ⟨tracked, nofun, ⟨nofun, List.Pairwise.nil, ?_⟩, fun stats => ?_, small⟩
  · intro deviceId stats totals isSource stored
    refine ⟨?_, nofun⟩
    obtain ⟨entry, found, rfl⟩ := Option.map_eq_some_iff.mp isSource
    rw [network] at found
    rcases NetworkStateInner.lookup_loadRecords_index found with
      before | ⟨index, record, isRecord, same, rfl⟩
    · simp [NetworkStateInner.empty] at before
    · rw [DeviceEntry.fromRecord, Nat.zero_add, counters index record isRecord]
      unfold ControlService.storedTotals at stored
      dsimp only at stored
      rw [code, sameDatabase, ← same, isRow record (List.mem_of_getElem? isRecord)] at stored
      cases stored
      exact le_refl _
  · cases found : (if answered then database.loadAllDevices networkCode else [])[stats]? with
    | some record =>
      dsimp only
      rw [counters stats record found]
      exact rows _ record (isRow record (List.mem_of_getElem? found))
    | none =>
      dsimp only
      unfold ControlService.counted StatsHeap.get
      rw [heap, List.getD_eq_getElem?_getD, List.getElem?_map, found]
      exact ⟨by decide, by decide⟩

/-- Traffic that leaves the counters small keeps the statements in order. -/
theorem Kept.traffic (kept : ledger.Kept) {heap : StatsHeap}
    (grows : ∀ stats, ledger.service.counted stats ≤ (heap.get stats).totals ∧
      Small (heap.get stats).totals) :
    Kept { ledger with service := { ledger.service with heap := heap } } where
  tracked := ⟨kept.tracked.gateway, kept.tracked.session⟩
  code := by
    intro request member
    have code := kept.code request member
    obtain ⟨save, stats, own⟩ := request
    cases save with
    | ofEntry entry => rfl
    | ofRecord record => exact code
  order := kept.order.grow fun stats => (grows stats).1
  counters := fun stats => (grows stats).2
  rows := kept.rows

/-- Changing counters that were handed out or not, what is read grows when the change grows. -/
theorem le_update {heap : StatsHeap} {target : StatsRef} {change : TrafficStats → TrafficStats}
    (small : ∀ stats, Small (heap.get stats).totals)
    (grows : (heap.get target).totals ≤ (change (heap.get target)).totals ∧
      Small (change (heap.get target)).totals) (stats : StatsRef) :
    (heap.get stats).totals ≤ ((heap.update target change).get stats).totals ∧
      Small ((heap.update target change).get stats).totals := by
  by_cases same : stats = target
  · subst same
    by_cases inside : stats < heap.length
    · rw [heap.get_update_self stats change inside]
      exact grows
    · rw [StatsHeap.update, List.modify_eq_self (Nat.le_of_not_lt inside)]
      exact ⟨le_refl _, small stats⟩
  · rw [heap.get_update_of_ne target stats change same]
    exact ⟨le_refl _, small stats⟩

theorem grows_addTx {stats : TrafficStats} {bytes : Nat} (small : Small stats.totals)
    (below : stats.tx + bytes < 2 ^ 63) :
    stats.totals ≤ (stats.addTx bytes).totals ∧ Small (stats.addTx bytes).totals := by
  have sum : (stats.addTx bytes).totals = (stats.tx + bytes, stats.rx) :=
    congrArg (·, stats.rx) (Nat.mod_eq_of_lt (by omega))
  rw [sum]
  exact ⟨⟨Nat.le_add_right _ _, le_refl _⟩, below, small.2⟩

theorem grows_addRx {stats : TrafficStats} {bytes : Nat} (small : Small stats.totals)
    (below : stats.rx + bytes < 2 ^ 63) :
    stats.totals ≤ (stats.addRx bytes).totals ∧ Small (stats.addRx bytes).totals := by
  have sum : (stats.addRx bytes).totals = (stats.tx, stats.rx + bytes) :=
    congrArg (stats.tx, ·) (Nat.mod_eq_of_lt (by omega))
  rw [sum]
  exact ⟨⟨le_refl _, Nat.le_add_right _ _⟩, small.1, below⟩

/-- An event of the service restarts it, or it is carried out in order. -/
theorem step_service {event : ServiceEvent}
    (enabled : machine.step ledger (.service event) = some next) :
    (∃ now answered, event = .restart now answered ∧
        ledger.service.step event = some next.service ∧
          next = ⟨next.service, [], next.service.countersInMemory⟩) ∨
      (∀ heap, event ≠ .recordTraffic heap) ∧ (∀ now answered, event ≠ .restart now answered) ∧
        ledger.inOrder event = true ∧ ledger.service.step event = some next.service ∧
          next = ⟨next.service, ledger.remaining event ++ ledger.service.requested event,
            ledger.written event⟩ := by
  have ordered (uncounted : ∀ heap, event ≠ .recordTraffic heap)
      (running : ∀ now answered, event ≠ .restart now answered)
      (steps : (if ledger.inOrder event then
        (ledger.service.step event).map fun next =>
          (⟨next, ledger.remaining event ++ ledger.service.requested event,
            ledger.written event⟩ : Ledger)
        else none) = some next) :
      (∀ heap, event ≠ .recordTraffic heap) ∧ (∀ now answered, event ≠ .restart now answered) ∧
        ledger.inOrder event = true ∧ ledger.service.step event = some next.service ∧
          next = ⟨next.service, ledger.remaining event ++ ledger.service.requested event,
            ledger.written event⟩ := by
    split at steps
    · next inOrder =>
      obtain ⟨service, reaches, rfl⟩ := Option.map_eq_some_iff.mp steps
      exact ⟨uncounted, running, inOrder, reaches, rfl⟩
    · cases steps
  cases event with
  | recordTraffic heap => cases enabled
  | restart now answered =>
    obtain ⟨service, reaches, rfl⟩ := Option.map_eq_some_iff.mp enabled
    exact .inl ⟨now, answered, rfl, reaches, rfl⟩
  | _ => exact .inr (ordered nofun nofun enabled)

/-- An event that meets the condition keeps the statements in order. -/
theorem Kept.step (kept : ledger.Kept) {event : LedgerEvent} (continues : ledger.Continues event)
    (enabled : machine.step ledger event = some next) : next.Kept := by
  cases event with
  | recordTx ip bytes =>
    cases enabled
    refine kept.traffic fun stats => ?_
    unfold NetworkState.recordTxTraffic
    split
    · next target found =>
      exact le_update kept.counters
        (grows_addTx (kept.counters target) (continues target found)) stats
    · exact ⟨le_refl _, kept.counters stats⟩
  | recordRx ip bytes =>
    cases enabled
    refine kept.traffic fun stats => ?_
    unfold NetworkState.recordRxTraffic
    split
    · next target found =>
      exact le_update kept.counters
        (grows_addRx (kept.counters target) (continues target found)) stats
    · exact ⟨le_refl _, kept.counters stats⟩
  | service event =>
    rcases step_service enabled with
      ⟨now, answered, rfl, steps, same⟩ | ⟨uncounted, running, ordered, steps, same⟩
    · rw [same]
      exact kept_load steps fun deviceId record known =>
        kept.rows deviceId record.totals (congrArg (Option.map DeviceRecord.totals) known)
    · rw [same]
      exact kept.serviceStep steps ordered uncounted running continues

/-- The totals of a row after an event that meets the condition are not below those before. -/
theorem Kept.totals_le (kept : ledger.Kept) {event : LedgerEvent}
    (continues : ledger.Continues event) (enabled : machine.step ledger event = some next)
    {deviceId : String} {before after : DeviceRecord}
    (known : ledger.service.database.rows.lookup
      (deviceId, ledger.service.network.networkCode) = some before)
    (stored : next.service.database.rows.lookup
      (deviceId, ledger.service.network.networkCode) = some after) :
    before.totals ≤ after.totals ∧ Small after.totals := by
  have isBefore : ledger.service.storedTotals deviceId = some before.totals :=
    congrArg (Option.map DeviceRecord.totals) known
  have unchanged (same : next.service.database = ledger.service.database) :
      before.totals ≤ after.totals ∧ Small after.totals := by
    rw [same, known] at stored
    cases stored
    exact ⟨le_refl _, kept.rows deviceId _ isBefore⟩
  cases event with
  | recordTx ip bytes =>
    cases enabled
    exact unchanged rfl
  | recordRx ip bytes =>
    cases enabled
    exact unchanged rfl
  | service event =>
    rcases step_service enabled with
      ⟨now, answered, rfl, steps, same⟩ | ⟨uncounted, running, ordered, steps, same⟩
    · obtain ⟨-, -, -, database, -⟩ := ControlService.load_eq_some steps
      exact unchanged database
    · rcases rows_cases steps ordered running with
        ⟨request, left, ends, isOldest, database⟩ | ⟨-, rows⟩
      · by_cases own : deviceId = request.save.deviceId
        · subst own
          have member : request ∈ ledger.queue := List.mem_of_find?_eq_some isOldest
          have isAfter : after = ledger.service.recordOf request.save := by
            rw [database, ← kept.code request member, ← deviceId_recordOf ledger.service] at stored
            exact (Option.some.inj (stored.symm.trans (AList.lookup_insert _)))
          rw [isAfter]
          refine ⟨kept.le continues ends isOldest isBefore, ?_⟩
          rw [totals_recordOf]
          exact (kept.counters _).of_le (kept.order.value_le (List.mem_map_of_mem member))
        · rw [database, ledger.service.database.lookup_execute_of_ne _ ?_, known] at stored
          · cases stored
            exact ⟨le_refl _, kept.rows deviceId _ isBefore⟩
          · intro same
            exact own ((congrArg Prod.fst same).trans (deviceId_recordOf ledger.service _))
      · obtain ⟨found, isFound, same⟩ := rows deviceId after stored
        cases known.symm.trans isFound
        rw [← same]
        exact ⟨le_refl _, kept.rows deviceId _ isBefore⟩

/-- An event that meets the condition lowers no total. -/
theorem Kept.totalsKept (kept : ledger.Kept) {event : LedgerEvent}
    (continues : ledger.Continues event) : ledger.TotalsKept event := by
  intro next enabled deviceId before after known stored
  obtain ⟨below, small⟩ := kept.totals_le continues enabled known stored
  have column {first second : Nat} (least : first ≤ second) (isSmall : second < 2 ^ 63) :
      columnOf first ≤ columnOf second := by
    rw [columnOf_of_small isSmall, columnOf_of_small (Nat.lt_of_le_of_lt least isSmall)]
    exact Int.ofNat_le.mpr least
  exact ⟨column below.1 small.1, column below.2 small.2⟩

/-! ### Runs -/

/-- A service that was just started on rows whose totals their columns show as they are. -/
def Started (ledger : Ledger) : Prop :=
  ledger.service.Started ∧ ledger.queue = [] ∧ ledger.source = ledger.service.countersInMemory ∧
    ∀ deviceId totals, ledger.service.storedTotals deviceId = some totals → Small totals

theorem Started.kept (started : ledger.Started) : ledger.Kept := by
  obtain ⟨service, queue, source⟩ := ledger
  obtain ⟨⟨database, networkCode, net, leaseDuration, now, -, loaded⟩, rfl, isSource, rows⟩ :=
    started
  dsimp only at isSource
  subst isSource
  refine kept_load loaded fun deviceId record known => rows deviceId record.totals ?_
  obtain ⟨gateway, -, network, sameDatabase, -⟩ := ControlService.load_eq_some loaded
  unfold ControlService.storedTotals
  dsimp only
  rw [network, sameDatabase, known]
  rfl

/-- In every run whose steps all meet the condition, no event lowers a total. -/
theorem guarded_totalsKept (started : ledger.Started) (events : List LedgerEvent)
    (guarded : machine.Guarded Continues ledger events) :
    machine.Guarded TotalsKept ledger events :=
  guarded.imp (fun _ _ _ kept continues => kept.step continues)
    (fun _ _ kept continues => kept.totalsKept continues) started.kept

theorem continues_of_finishing_eq_none {event : ServiceEvent}
    (none : ledger.service.finishing event = none) : ledger.Continues (.service event) := by
  intro record left request ends
  cases none.symm.trans ends

/-- A service that was just started on the example network. -/
def exampleLedger : Ledger :=
  ⟨ControlService.exampleService, [], ControlService.exampleService.countersInMemory⟩

theorem started_exampleLedger : exampleLedger.Started := by
  refine ⟨ControlService.started_exampleService, rfl, rfl, fun deviceId totals stored => ?_⟩
  simp [ControlService.storedTotals, exampleLedger, ControlService.exampleService,
    Database.empty] at stored

/-- A device registers, sends a hundred bytes and disconnects, and its saves run. -/
def hundredBytes : List LedgerEvent :=
  [.service (.register (NetworkState.exampleRequest "a" none false) 1 10 0),
    .recordTx 0x0A1A0002 100, .service (.runSave 0 true), .service (.dropSession 1 0 true),
    .service (.runSave 0 true)]

/-- The two saves of one session write what its counters have. -/
theorem totalsKept_hundredBytes : machine.Guarded TotalsKept exampleLedger hundredBytes := by
  refine guarded_totalsKept started_exampleLedger _ ?_
  refine ⟨continues_of_finishing_eq_none rfl, fun first enabled => ?_⟩
  cases Option.some.inj enabled
  refine ⟨fun stats found => ?_, fun second enabled => ?_⟩
  · cases Option.some.inj found
    decide
  cases Option.some.inj enabled
  refine ⟨fun record left request ends isOldest => ?_, fun third enabled => ?_⟩
  · cases Option.some.inj ends
    cases Option.some.inj isOldest
    refine ⟨.inr nofun, fun _ later member _ _ taken isTaken => ?_⟩
    cases List.mem_singleton.mp member
    cases isTaken
  cases Option.some.inj enabled
  refine ⟨continues_of_finishing_eq_none rfl, fun fourth enabled => ?_⟩
  cases Option.some.inj enabled
  refine ⟨fun record left request ends isOldest => ?_, fun _ _ => trivial⟩
  cases Option.some.inj ends
  cases Option.some.inj isOldest
  exact ⟨.inl rfl, nofun⟩

/-- The device comes back on another address. -/
def moved : List LedgerEvent :=
  hundredBytes ++
    [.service (.register (NetworkState.exampleRequest "a" (some 0x0A1A0009) false) 2 20 0)]

/-- The device comes back when its lease has expired. -/
def expired : List LedgerEvent :=
  hundredBytes ++
    [.service (.collectExpired 86400000000000), .service .removeExpired,
      .service (.releaseExpired true),
      .service (.register (NetworkState.exampleRequest "a" none false) 2 20 86400000000000)]

/-- A device that moves to another address starts again at zero, and so does one whose lease
expired. -/
theorem not_totalsKept_moved :
    ¬machine.Guarded TotalsKept exampleLedger (moved ++ [.service (.runSave 0 true)]) ∧
      ¬machine.Guarded TotalsKept exampleLedger (expired ++ [.service (.runSave 0 true)]) := by
  have lowers {events : List LedgerEvent} {event : LedgerEvent}
      (lower : ∃ ledger next before after, machine.run exampleLedger events = some ledger ∧
        machine.step ledger event = some next ∧
        ledger.service.database.rows.lookup ("a", ledger.service.network.networkCode) =
          some before ∧
        next.service.database.rows.lookup ("a", ledger.service.network.networkCode) =
          some after ∧
        ¬columnOf before.txBytes ≤ columnOf after.txBytes) :
      ¬machine.Guarded TotalsKept exampleLedger (events ++ [event]) := by
    intro guarded
    obtain ⟨ledger, next, before, after, reaches, enabled, known, stored, lower⟩ := lower
    exact lower ((guarded.of_run reaches).1 next enabled "a" before after known stored).1
  constructor
  · refine lowers ⟨_, _, _, _, rfl, rfl, rfl, rfl, ?_⟩
    decide
  · refine lowers ⟨_, _, _, _, rfl, rfl, rfl, rfl, ?_⟩
    decide

end Ledger

end Vnt.Server
