/-
This file follows the saves of the devices through every order in which their statements run. A
registration, a confirmation and a disconnect each take a snapshot of an entry and leave a
statement to run, and nothing orders the statements. The newest snapshot of a device is kept beside
the service. Its record is in the database in the end when no other statement is carried out after
its own, and its own is carried out.
-/

import Vnt.Server.ServiceInvariant

namespace Vnt.Server

open Vnt.Base

/-! ### Snapshots and statements -/

/-- The events in the life of a device, and the statements they leave to run. -/
def ServiceEvent.lifecycle : ServiceEvent → Bool
  | .register _ _ _ _ | .dropSession _ _ _ | .removeSender _ | .removeStats _ | .confirmRead _
  | .confirmSave _ _ | .confirmMark _ | .runSave _ _ | .otherNetwork _ => true
  | _ => false

/-- The record a confirmation waits for the database with. -/
def Connection.awaited (connection : Connection) : Option DeviceRecord :=
  match connection.confirmation with
  | some (.saving _ record) => some record
  | _ => none

namespace ControlService

/-- The snapshot an event takes of the entry of a device, to save it. -/
def snapshot (state : ControlService) : ServiceEvent → Option (String × Save)
  | .register req randomId sender now =>
    match req.registrationMode,
      state.network.register req randomId sender now state.heap.length with
    | .normal, .ok (_, _, some entry) => some (req.deviceId, .ofEntry entry)
    | _, _ => none
  | .dropSession randomId now _ =>
    (state.connections.lookup randomId).bind fun connection =>
      let session := connection.session
      match session.registrationStatus with
      | .confirmed =>
        (state.network.offlineIp state.heap session.deviceId session.ip session.randomId now).2.map
          fun record => (session.deviceId, .ofRecord record)
      | .pendingConfirmation => none
  | .confirmRead randomId =>
    (state.connections.lookup randomId).bind fun connection =>
      (state.network.getDeviceEntry connection.session.deviceId).map fun entry =>
        (connection.session.deviceId,
          .ofRecord (entry.toRecord state.heap connection.session.networkCode))
  | _ => none

/-- The record a save stores as the counters stand. -/
def recordOf (state : ControlService) (save : Save) : DeviceRecord :=
  save.record state.heap state.network.networkCode

/-- A statement that stores the record has still to run: it was spawned, or a confirmation waits
for it. -/
def Outstanding (state : ControlService) (record : DeviceRecord) : Prop :=
  (∃ save ∈ state.saves, state.recordOf save = record) ∨
    ∃ randomId connection, state.connections.lookup randomId = some connection ∧
      connection.awaited = some record

/-- The statement an event is the end of, whether it is carried out, and the service without it. A
connection that closes ends the statement of its confirmation when it was not sent. -/
def finishing (state : ControlService) :
    ServiceEvent → Option (DeviceRecord × Bool × ControlService)
  | .runSave index succeeds =>
    state.saves[index]?.map fun save =>
      (state.recordOf save, succeeds, { state with saves := state.saves.eraseIdx index })
  | .confirmSave randomId succeeds =>
    (state.connections.lookup randomId).bind fun connection =>
      connection.awaited.map fun record =>
        (record, succeeds, { state with connections := state.connections.erase randomId })
  | .dropSession randomId _ false =>
    (state.connections.lookup randomId).bind fun connection =>
      connection.awaited.map fun record =>
        (record, false, { state with connections := state.connections.erase randomId })
  | _ => none

end ControlService

/-- The service with the newest snapshot of every device. -/
structure SavingService where
  service : ControlService
  latest : Map String Save

namespace SavingService

/-- The life of the devices, with every order of their statements, as a machine. -/
def machine : Machine SavingService ServiceEvent where
  step saving event :=
    if event.lifecycle then
      (saving.service.step event).map fun next =>
        ⟨next, match saving.service.snapshot event with
          | some (deviceId, save) => saving.latest.insert deviceId save
          | none => saving.latest⟩
    else none

/-- Once no statement of a device has still to run, its row is the record of the newest snapshot
of its entry. -/
def SavesKept (saving : SavingService) : Prop :=
  ∀ deviceId newest, saving.latest.lookup deviceId = some newest →
    (∀ record, saving.service.Outstanding record → record.deviceId ≠ deviceId) →
      saving.service.database.rows.lookup (deviceId, saving.service.network.networkCode) =
        some (saving.service.recordOf newest)

/-- The condition: when the statement of a device ends, the one of its newest snapshot has still to
run, or this is that one and is carried out, or it is another one and is not. -/
def InOrder (saving : SavingService) (event : ServiceEvent) : Prop :=
  ∀ record carriedOut left newest,
    saving.service.finishing event = some (record, carriedOut, left) →
      saving.latest.lookup record.deviceId = some newest →
        left.Outstanding (saving.service.recordOf newest) ∨
          (record = saving.service.recordOf newest ↔ carriedOut = true)

end SavingService

/-! ### What an event does to the statements -/

/-- Fresh counters read as counters that were never handed out. -/
theorem StatsHeap.get_append_new (heap : StatsHeap) (ref : StatsRef) :
    StatsHeap.get (heap ++ [TrafficStats.new]) ref = heap.get ref := by
  unfold get
  rw [List.getD_eq_getElem?_getD, List.getD_eq_getElem?_getD, List.getElem?_append]
  split
  · rfl
  · next beyond =>
    rw [List.getElem?_eq_none (Nat.le_of_not_lt beyond), List.getElem?_singleton]
    split <;> rfl

namespace ControlService

variable {state next : ControlService} {event : ServiceEvent}

/-- No event changes what a save stores, traffic and a restart apart. -/
theorem recordOf_step (effect : Effect state event next)
    (uncounted : ∀ heap, event ≠ .recordTraffic heap)
    (running : ∀ now answered, event ≠ .restart now answered) :
    next.network.networkCode = state.network.networkCode ∧
      (∀ stats, next.heap.get stats = state.heap.get stats) ∧
        ∀ save, next.recordOf save = state.recordOf save := by
  have same (network : next.network.networkCode = state.network.networkCode)
      (heap : ∀ stats, next.heap.get stats = state.heap.get stats) :
      next.network.networkCode = state.network.networkCode ∧
        (∀ stats, next.heap.get stats = state.heap.get stats) ∧
          ∀ save, next.recordOf save = state.recordOf save := by
    refine ⟨network, heap, fun save => ?_⟩
    unfold recordOf
    rw [network]
    cases save with
    | ofEntry entry => simp only [Save.record, DeviceEntry.toRecord, heap]
    | ofRecord record => rfl
  cases effect with
  | registered req randomId sender now table ip old sameNetwork fresh allocation =>
    refine same ?_ fun stats => StatsHeap.get_append_new state.heap stats
    rw [enroll_network, NetworkState.installAddress_networkCode]
  | deletedFromMemory deviceId deletions =>
    exact same (state.network.removeDeviceFromMemory_networkCode deviceId) fun _ => rfl
  | trafficRecorded heap => exact absurd rfl (uncounted heap)
  | restarted now answered next loaded => exact absurd rfl (running now answered)
  | _ => exact same rfl fun _ => rfl

/-- The events in the life of a device count nothing and are no restart. -/
theorem recordOf_lifecycle (life : event.lifecycle = true) (effect : Effect state event next) :
    next.network.networkCode = state.network.networkCode ∧
      ∀ save, next.recordOf save = state.recordOf save := by
  obtain ⟨network, -, records⟩ := recordOf_step effect (fun _ same => by
    rw [same] at life
    cases life) (fun _ _ same => by
    rw [same] at life
    cases life)
  exact ⟨network, records⟩

/-- A statement that has still to run is still to run when its save or its confirmation is left. -/
theorem Outstanding.mono {record : DeviceRecord} (outstanding : state.Outstanding record)
    (records : ∀ save, next.recordOf save = state.recordOf save)
    (saves : ∀ save ∈ state.saves, save ∈ next.saves)
    (connections : ∀ randomId connection,
      state.connections.lookup randomId = some connection → connection.awaited = some record →
        next.connections.lookup randomId = some connection) : next.Outstanding record := by
  rcases outstanding with ⟨save, member, stores⟩ | ⟨randomId, connection, known, awaits⟩
  · exact .inl ⟨save, saves save member, (records save).trans stores⟩
  · exact .inr ⟨randomId, connection, connections randomId connection known awaits, awaits⟩

/-- What closing a connection leaves to run. -/
theorem dropSession_close (randomId : RandomId) (connection : Connection) (now : SystemTime)
    (sent : Bool) :
    (state.dropSession randomId connection now sent).connections =
        state.connections.erase randomId ∧
      (state.dropSession randomId connection now sent).database = state.database ∧
      ∃ added, (state.dropSession randomId connection now sent).saves =
        state.saves ++ abandoned connection sent ++ added := by
  have plain : state.saves ++ abandoned connection sent =
      state.saves ++ abandoned connection sent ++ [] := (List.append_nil _).symm
  unfold dropSession close
  dsimp only
  split
  · split
    · exact ⟨rfl, rfl, _, rfl⟩
    · exact ⟨rfl, rfl, _, plain⟩
  · split <;> exact ⟨rfl, rfl, _, plain⟩

theorem mem_abandoned {connection : Connection} {record : DeviceRecord}
    (awaits : connection.awaited = some record) :
    Save.ofRecord record ∈ abandoned connection true := by
  have saving : ∃ entry, connection.confirmation = some (.saving entry record) := by
    unfold Connection.awaited at awaits
    split at awaits
    · next entry _ saving =>
      cases awaits
      exact ⟨entry, saving⟩
    · cases awaits
  obtain ⟨entry, saving⟩ := saving
  unfold abandoned
  rw [saving]
  exact List.mem_singleton_self _

/-- A confirmation starts on a connection that waits for nothing. -/
theorem confirmRead_awaited {randomId : RandomId} {connection : Connection}
    (enabled : state.confirmRead randomId connection = some next) : connection.awaited = none := by
  unfold confirmRead at enabled
  split at enabled
  · next checks =>
    unfold Connection.awaited
    rw [checks.2]
  · cases enabled

/-- A connection whose confirmation waits with the record is another one than one that does not. -/
theorem ne_of_awaited {record : DeviceRecord} {randomId other : RandomId}
    {connection found : Connection} (known : state.connections.lookup randomId = some connection)
    (idle : connection.awaited ≠ some record) (lookup : state.connections.lookup other = some found)
    (awaits : found.awaited = some record) : other ≠ randomId := by
  intro same
  rw [same, known] at lookup
  cases lookup
  exact idle awaits

/-- A connection that is stored again awaited nothing, or the event ends what it awaited. -/
theorem Outstanding.stored {record : DeviceRecord} (outstanding : state.Outstanding record)
    (records : ∀ save, next.recordOf save = state.recordOf save) {randomId : RandomId}
    {connection new : Connection} (known : state.connections.lookup randomId = some connection)
    (saves : next.saves = state.saves)
    (connections : next.connections = state.connections.insert randomId new)
    (ends : connection.awaited = some record →
      ∃ carriedOut left, state.finishing event = some (record, carriedOut, left)) :
    next.Outstanding record ∨
      ∃ carriedOut left, state.finishing event = some (record, carriedOut, left) := by
  by_cases awaits : connection.awaited = some record
  · exact .inr (ends awaits)
  · refine .inl (outstanding.mono records (fun save member => saves ▸ member) ?_)
    intro other found lookup isAwaited
    rw [connections, AList.lookup_insert_ne (ne_of_awaited known awaits lookup isAwaited), lookup]

/-- A registration adds a connection and perhaps a save. -/
theorem Outstanding.enroll {record : DeviceRecord} (outstanding : state.Outstanding record)
    (tracked : state.Tracked) {req : RegRequestMsg} {randomId : RandomId} {network : NetworkState}
    {session : Session} {entry : Option DeviceEntry} (fresh : randomId ∉ state.usedIds)
    (records : ∀ save, (state.enroll req randomId network session entry).recordOf save =
      state.recordOf save) :
    (state.enroll req randomId network session entry).Outstanding record := by
  refine outstanding.mono records (fun save member => ?_) fun other connection known _ => ?_
  · unfold ControlService.enroll
    dsimp only
    split
    · exact List.mem_append_left _ member
    · exact member
  · refine (AList.lookup_insert_ne fun same => fresh ?_).trans known
    rw [← same]
    exact (tracked.session other connection known).2.1

/-- A connection that closes leaves its statement when it was sent, and else ends it. -/
theorem Outstanding.dropSession {record : DeviceRecord} (outstanding : state.Outstanding record)
    {randomId : RandomId} {connection : Connection} {now : SystemTime} {sent : Bool}
    (known : state.connections.lookup randomId = some connection)
    (records : ∀ save, (state.dropSession randomId connection now sent).recordOf save =
      state.recordOf save) :
    (state.dropSession randomId connection now sent).Outstanding record ∨
      ∃ carriedOut left, state.finishing (.dropSession randomId now sent) =
        some (record, carriedOut, left) := by
  obtain ⟨connections, -, added, saves⟩ := @dropSession_close state randomId connection now sent
  have later : ∀ save ∈ state.saves ++ abandoned connection sent,
      save ∈ (state.dropSession randomId connection now sent).saves := by
    intro save member
    rw [saves]
    exact List.mem_append_left _ member
  by_cases awaits : connection.awaited = some record
  · cases sent with
    | true => exact .inl (.inl ⟨_, later _ (List.mem_append_right _ (mem_abandoned awaits)), rfl⟩)
    | false =>
      refine .inr ⟨false, { state with connections := state.connections.erase randomId }, ?_⟩
      simp only [finishing, known, Option.bind_some, awaits, Option.map_some]
  · refine .inl (outstanding.mono records
      (fun save member => later save (List.mem_append_left _ member)) ?_)
    intro other found lookup isAwaited
    rw [connections, AList.lookup_erase_ne (ne_of_awaited known awaits lookup isAwaited), lookup]

/-- A save that runs ends the statement of its record only. -/
theorem Outstanding.runSave {record : DeviceRecord} (outstanding : state.Outstanding record)
    {index : Nat} {save : Save} {database : Database} (waiting : state.saves[index]? = some save)
    (other : state.recordOf save ≠ record) :
    ControlService.Outstanding
      { state with saves := state.saves.eraseIdx index, database := database } record := by
  rcases outstanding with ⟨found, member, isRecord⟩ | awaited
  · refine .inl ⟨found, ?_, isRecord⟩
    obtain ⟨place, isFound⟩ := List.getElem?_of_mem member
    refine List.mem_eraseIdx_iff_getElem?.mpr ⟨place, fun same => other ?_, isFound⟩
    rw [same, waiting] at isFound
    cases isFound
    exact isRecord
  · exact .inr awaited

/-- A statement that has still to run is still to run after an event, or the event is its end. -/
theorem Outstanding.step {record : DeviceRecord} (outstanding : state.Outstanding record)
    (tracked : state.Tracked) (life : event.lifecycle = true)
    (enabled : state.step event = some next) :
    next.Outstanding record ∨
      ∃ carriedOut left, state.finishing event = some (record, carriedOut, left) := by
  have records := (recordOf_lifecycle life (step_effect enabled)).2
  cases event with
  | register req randomId sender now =>
    cases step_effect enabled with
    | registered _ _ _ _ table ip old sameNetwork fresh allocation =>
      exact .inl (outstanding.enroll tracked fresh records)
    | refused => exact .inl outstanding
  | dropSession randomId now sent =>
    obtain ⟨connection, known, rfl⟩ := Option.map_eq_some_iff.mp enabled
    exact outstanding.dropSession known records
  | removeSender ip =>
    cases step_effect enabled
    exact .inl outstanding
  | removeStats ip =>
    cases step_effect enabled
    exact .inl outstanding
  | confirmRead randomId =>
    obtain ⟨connection, known, reads⟩ := Option.bind_eq_some_iff.mp enabled
    have nothing := confirmRead_awaited reads
    unfold confirmRead at reads
    split at reads
    · cases reads
      refine outstanding.stored records known rfl rfl fun awaits => ?_
      cases nothing.symm.trans awaits
    · cases reads
  | confirmSave randomId succeeds =>
    obtain ⟨connection, known, saves⟩ := Option.bind_eq_some_iff.mp enabled
    have ends (awaits : connection.awaited = some record) : ∃ carriedOut left,
        state.finishing (.confirmSave randomId succeeds) = some (record, carriedOut, left) := by
      refine ⟨succeeds, { state with connections := state.connections.erase randomId }, ?_⟩
      simp only [finishing, known, Option.bind_some, awaits, Option.map_some]
    unfold confirmSave at saves
    split at saves
    · cases succeeds with
      | true =>
        cases saves
        exact outstanding.stored records known rfl rfl ends
      | false =>
        cases saves
        exact outstanding.stored records known rfl rfl ends
    · cases saves
  | confirmMark randomId =>
    cases step_effect enabled with
    | marked _ connection written known returned =>
      refine outstanding.stored records known rfl rfl fun awaits => ?_
      unfold Connection.awaited at awaits
      rw [returned] at awaits
      cases awaits
  | runSave index succeeds =>
    cases step_effect enabled with
    | saved _ _ save waiting =>
      by_cases stores : state.recordOf save = record
      · refine .inr ⟨succeeds, { state with saves := state.saves.eraseIdx index }, ?_⟩
        simp only [finishing, waiting, Option.map_some, stores]
      · exact .inl (outstanding.runSave waiting stores)
  | otherNetwork statement =>
    cases step_effect enabled
    exact .inl outstanding
  | _ => cases life

/-- What is left without the statement an event is the end of is still to run after it. -/
theorem outstanding_of_left {record other : DeviceRecord} {carriedOut : Bool}
    {left : ControlService} (enabled : state.step event = some next)
    (ends : state.finishing event = some (record, carriedOut, left))
    (outstanding : left.Outstanding other) : next.Outstanding other := by
  have erased {randomId : RandomId} {new : Connection}
      (outstanding : ControlService.Outstanding
        { state with connections := state.connections.erase randomId } other) :
      ControlService.Outstanding
        { state with connections := state.connections.insert randomId new } other := by
    refine outstanding.mono (fun _ => rfl) (fun _ member => member) fun another found lookup _ => ?_
    obtain ⟨different, known⟩ := lookup_connection_erase lookup
    exact (AList.lookup_insert_ne different).trans known
  cases event with
  | runSave index succeeds =>
    obtain ⟨save, waiting, same⟩ := Option.map_eq_some_iff.mp ends
    cases same
    cases step_effect enabled
    exact outstanding
  | confirmSave randomId succeeds =>
    obtain ⟨connection, known, awaits⟩ := Option.bind_eq_some_iff.mp ends
    obtain ⟨awaited, -, same⟩ := Option.map_eq_some_iff.mp awaits
    cases same
    cases step_effect enabled with
    | confirmationSaved => exact erased outstanding
    | confirmationFailed => exact erased outstanding
  | dropSession randomId now sent =>
    obtain ⟨connection, known, rfl⟩ := Option.map_eq_some_iff.mp enabled
    have records := (recordOf_lifecycle rfl (step_effect enabled)).2
    obtain ⟨connections, -, added, saves⟩ :=
      @dropSession_close state randomId connection now sent
    cases sent with
    | true => cases ends
    | false =>
      obtain ⟨closing, -, awaits⟩ := Option.bind_eq_some_iff.mp ends
      obtain ⟨awaited, -, same⟩ := Option.map_eq_some_iff.mp awaits
      cases same
      refine outstanding.mono records (fun save member => ?_) fun another found lookup _ => ?_
      · rw [saves]
        exact List.mem_append_left _ (List.mem_append_left _ member)
      · rw [connections]
        exact lookup
  | _ => cases ends

/-- The rows of the network change by the statement an event carries out, and by no other event in
the life of a device. -/
theorem rows_step (life : event.lifecycle = true) (enabled : state.step event = some next) :
    (∃ record left, state.finishing event = some (record, true, left) ∧
        next.database = state.database.execute (.saveOrUpdateDevice record)) ∨
      (∀ record left, state.finishing event ≠ some (record, true, left)) ∧
        ∀ deviceId, next.database.rows.lookup (deviceId, state.network.networkCode) =
          state.database.rows.lookup (deviceId, state.network.networkCode) := by
  cases event with
  | confirmSave randomId succeeds =>
    obtain ⟨connection, known, saves⟩ := Option.bind_eq_some_iff.mp enabled
    unfold confirmSave at saves
    split at saves
    · next entry record saving =>
      have ends : state.finishing (.confirmSave randomId succeeds) = some (record, succeeds,
          { state with connections := state.connections.erase randomId }) := by
        simp only [finishing, known, Option.bind_some, Connection.awaited, saving, Option.map_some]
      rw [ends]
      cases succeeds with
      | true =>
        cases saves
        exact .inl ⟨record, _, rfl, rfl⟩
      | false =>
        cases saves
        refine .inr ⟨fun _ _ same => ?_, fun _ => rfl⟩
        cases same
    · cases saves
  | runSave index succeeds =>
    cases step_effect enabled with
    | saved _ _ save waiting =>
      have ends : state.finishing (.runSave index succeeds) = some (state.recordOf save, succeeds,
          { state with saves := state.saves.eraseIdx index }) := by
        simp only [finishing, waiting, Option.map_some]
      rw [ends]
      cases succeeds with
      | true => exact .inl ⟨_, _, rfl, rfl⟩
      | false =>
        refine .inr ⟨fun _ _ same => ?_, fun _ => rfl⟩
        cases same
  | dropSession randomId now sent =>
    obtain ⟨connection, known, rfl⟩ := Option.map_eq_some_iff.mp enabled
    refine .inr ⟨fun record left ends => ?_, fun deviceId => ?_⟩
    · cases sent with
      | true => cases ends
      | false =>
        obtain ⟨closing, -, awaits⟩ := Option.bind_eq_some_iff.mp ends
        obtain ⟨awaited, -, same⟩ := Option.map_eq_some_iff.mp awaits
        cases same
    · rw [(dropSession_close randomId connection now sent).2.1]
  | otherNetwork statement =>
    cases step_effect enabled with
    | otherNetwork _ foreign =>
      refine .inr ⟨fun _ _ ends => ?_, fun deviceId => ?_⟩
      · cases ends
      · refine state.database.lookup_execute_of_ne statement fun same => foreign ?_
        rw [← same]
  | register | removeSender | removeStats | confirmRead | confirmMark =>
    refine .inr ⟨fun _ _ ends => ?_, fun _ => ?_⟩
    · cases ends
    · cases step_effect enabled <;> rfl
  | _ => cases life

/-- The snapshot an event takes is of the device's own entry, and its statement has still to
run. -/
theorem snapshot_step {deviceId : String} {save : Save} (tracked : state.Tracked)
    (keyed : state.network.leaseState.Keyed) (enabled : state.step event = some next)
    (taken : state.snapshot event = some (deviceId, save)) :
    (state.recordOf save).deviceId = deviceId ∧
      (state.recordOf save).networkCode = state.network.networkCode ∧
        next.Outstanding (state.recordOf save) := by
  cases event with
  | register req randomId sender now =>
    have records := (recordOf_lifecycle rfl (step_effect enabled)).2
    simp only [snapshot] at taken
    split at taken
    · next network session entry mode outcome =>
      cases taken
      obtain ⟨table, ip, old, allocation, rfl, rfl, found⟩ :=
        NetworkState.register_cases outcome
      simp only [step, register, outcome] at enabled
      split at enabled
      · cases enabled
        refine ⟨(keyed.allocation allocation) _ entry found.symm, rfl, ?_⟩
        refine .inl ⟨.ofEntry entry, ?_, records _⟩
        simp only [enroll, mode]
        exact List.mem_append_right _ (List.mem_singleton_self _)
      · cases enabled
    · cases taken
  | dropSession randomId now sent =>
    have records := (recordOf_lifecycle rfl (step_effect enabled)).2
    obtain ⟨connection, known, taken⟩ := Option.bind_eq_some_iff.mp taken
    obtain ⟨closing, same, rfl⟩ := Option.map_eq_some_iff.mp enabled
    cases known.symm.trans same
    dsimp only at taken
    split at taken
    · next confirmed =>
      rcases state.network.offlineIp_cases state.heap connection.session now with
        ⟨unchanged, -⟩ | ⟨entry, current, changed⟩
      · rw [unchanged] at taken
        cases taken
      · rw [changed] at taken
        cases taken
        refine ⟨keyed _ entry current.1, rfl, .inl ⟨_, ?_, records _⟩⟩
        unfold dropSession
        simp only [confirmed, changed]
        exact List.mem_append_right _ (List.mem_singleton_self _)
    · cases taken
  | confirmRead randomId =>
    obtain ⟨connection, known, taken⟩ := Option.bind_eq_some_iff.mp taken
    obtain ⟨entry, found, same⟩ := Option.map_eq_some_iff.mp taken
    cases same
    refine ⟨keyed _ entry found, (tracked.session _ _ known).2.2, .inr ?_⟩
    cases step_effect enabled with
    | confirmationRead _ reading read again present =>
      cases known.symm.trans again
      cases found.symm.trans present
      exact ⟨randomId, _, AList.lookup_insert _, rfl⟩
    | confirmationSkipped _ reading again unknown =>
      cases known.symm.trans again
      cases found.symm.trans unknown
  | _ => cases taken

end ControlService

/-! ### Runs -/

namespace SavingService

open ControlService

variable {saving next : SavingService} {event : ServiceEvent}

/-- The record of every newest snapshot is in the database, or its statement has still to run. -/
structure Saved (saving : SavingService) : Prop where
  tracked : saving.service.Tracked
  keyed : saving.service.network.leaseState.Keyed
  latest : ∀ deviceId newest, saving.latest.lookup deviceId = some newest →
    (saving.service.recordOf newest).deviceId = deviceId ∧
      (saving.service.recordOf newest).networkCode = saving.service.network.networkCode ∧
        (saving.service.Outstanding (saving.service.recordOf newest) ∨
          saving.service.database.rows.lookup (deviceId, saving.service.network.networkCode) =
            some (saving.service.recordOf newest))

theorem Saved.kept (saved : saving.Saved) : saving.SavesKept := by
  intro deviceId newest isNewest settled
  obtain ⟨sameDevice, -, outstanding | stored⟩ := saved.latest deviceId newest isNewest
  · exact absurd sameDevice (settled _ outstanding)
  · exact stored

/-- A statement that ends in order leaves the newest record stored or still to be stored. -/
theorem Saved.older (saved : saving.Saved) {service : ControlService}
    (enabled : saving.service.step event = some service) (life : event.lifecycle = true)
    (ordered : saving.InOrder event) {deviceId : String} {newest : Save}
    (isNewest : saving.latest.lookup deviceId = some newest) :
    service.Outstanding (saving.service.recordOf newest) ∨
      service.database.rows.lookup (deviceId, saving.service.network.networkCode) =
        some (saving.service.recordOf newest) := by
  obtain ⟨sameDevice, sameNetwork, placed⟩ := saved.latest deviceId newest isNewest
  have ofOrder {record : DeviceRecord} {carriedOut : Bool} {left : ControlService}
      (ends : saving.service.finishing event = some (record, carriedOut, left))
      (own : record.deviceId = deviceId) :
      service.Outstanding (saving.service.recordOf newest) ∨
        (record = saving.service.recordOf newest ↔ carriedOut = true) :=
    (ordered record carriedOut left newest ends (own ▸ isNewest)).imp_left
      (outstanding_of_left enabled ends)
  rcases rows_step life enabled with ⟨record, left, ends, database⟩ | ⟨none, same⟩
  · by_cases own : record.deviceId = deviceId
    · rcases ofOrder ends own with outstanding | isRecord
      · exact .inl outstanding
      · refine .inr ?_
        rw [database, isRecord.mpr rfl, ← sameNetwork, ← sameDevice]
        exact AList.lookup_insert _
    · rcases placed with outstanding | stored
      · rcases outstanding.step saved.tracked life enabled with later | ⟨_, _, other⟩
        · exact .inl later
        · cases ends.symm.trans other
          exact absurd sameDevice own
      · refine .inr ?_
        rw [database, saving.service.database.lookup_execute_of_ne _ fun same => ?_]
        · exact stored
        · exact own (congrArg Prod.fst same).symm
  · rcases placed with outstanding | stored
    · rcases outstanding.step saved.tracked life enabled with later | ⟨carriedOut, left, ends⟩
      · exact .inl later
      · rcases ofOrder ends sameDevice with later | isRecord
        · exact .inl later
        · exact absurd (isRecord.mp rfl ▸ ends) (none _ left)
    · exact .inr ((same deviceId).trans stored)

theorem inOrder_of_finishing_eq_none (none : saving.service.finishing event = none) :
    saving.InOrder event := by
  intro record carriedOut left newest ends
  cases none.symm.trans ends

/-- Every event that ends its statement in order keeps the newest records saved. -/
theorem Saved.step (saved : saving.Saved) (ordered : saving.InOrder event)
    (enabled : machine.step saving event = some next) : next.Saved := by
  simp only [machine] at enabled
  split at enabled
  · next life =>
    obtain ⟨service, steps, rfl⟩ := Option.map_eq_some_iff.mp enabled
    have effect := step_effect steps
    obtain ⟨network, records⟩ := recordOf_lifecycle life effect
    refine ⟨saved.tracked.step effect, keyed_step saved.keyed effect, ?_⟩
    intro deviceId newest isNewest
    dsimp only at isNewest ⊢
    rw [network, records]
    have older (isNewest : saving.latest.lookup deviceId = some newest) :=
      saved.older steps life ordered isNewest
    split at isNewest
    · next taken save snapshot =>
      rw [Map.lookup_insert_eq] at isNewest
      split at isNewest
      · next same =>
        cases isNewest
        obtain ⟨sameDevice, sameNetwork, outstanding⟩ :=
          snapshot_step saved.tracked saved.keyed steps snapshot
        exact ⟨sameDevice.trans same.symm, sameNetwork, .inl outstanding⟩
      · obtain ⟨sameDevice, sameNetwork, -⟩ := saved.latest deviceId newest isNewest
        exact ⟨sameDevice, sameNetwork, older isNewest⟩
    · obtain ⟨sameDevice, sameNetwork, -⟩ := saved.latest deviceId newest isNewest
      exact ⟨sameDevice, sameNetwork, older isNewest⟩
  · cases enabled

/-- A service that was just started has taken no snapshot. -/
def Started (saving : SavingService) : Prop :=
  saving.service.Started ∧ saving.latest = ∅

theorem Started.saved (started : saving.Started) : saving.Saved := by
  refine ⟨started.1.tracked, started.1.wellFormed.keyed, fun deviceId newest isNewest => ?_⟩
  rw [started.2] at isNewest
  simp at isNewest

/-- In every run in which the statements end in order, no save is lost. -/
theorem throughout_savesKept (started : saving.Started) (events : List ServiceEvent)
    (guarded : machine.Guarded InOrder saving events) :
    machine.Throughout SavesKept saving events :=
  (guarded.throughout (fun _ _ _ saved ordered enabled => saved.step ordered enabled)
    started.saved).mono fun _ => Saved.kept

/-- A service that was just started on the example network. -/
def exampleSaving : SavingService := ⟨exampleService, ∅⟩

/-- A device disconnects at once and comes back five seconds later. -/
def reconnect : List ServiceEvent :=
  [.register (NetworkState.exampleRequest "a" none false) 1 10 0, .dropSession 1 0 false,
    .register (NetworkState.exampleRequest "a" none false) 2 20 5000000000]

/-- Nothing is lost when the saves of a registration and a disconnect run in the order they were
spawned. -/
theorem savesKept_disconnect : machine.Throughout SavesKept exampleSaving
    [.register (NetworkState.exampleRequest "a" none false) 1 10 0, .dropSession 1 0 true,
      .runSave 0 true, .runSave 0 true] := by
  refine throughout_savesKept ⟨started_exampleService, rfl⟩ _ ?_
  refine ⟨inOrder_of_finishing_eq_none rfl, fun first enabled => ?_⟩
  cases Option.some.inj enabled
  refine ⟨inOrder_of_finishing_eq_none rfl, fun second enabled => ?_⟩
  cases Option.some.inj enabled
  refine ⟨fun record carriedOut left newest ends isNewest => ?_, fun third enabled => ?_⟩
  · cases Option.some.inj ends
    cases Option.some.inj isNewest
    exact .inl (.inl ⟨_, List.mem_cons_self, rfl⟩)
  cases Option.some.inj enabled
  refine ⟨fun record carriedOut left newest ends isNewest => ?_, fun _ _ => trivial⟩
  cases Option.some.inj ends
  cases Option.some.inj isNewest
  exact .inr ⟨fun _ => rfl, fun _ => rfl⟩

/-- When the save of the second registration runs first, the row goes back to the first. -/
theorem not_savesKept_reconnect : ¬machine.Throughout SavesKept exampleSaving
    (reconnect ++ [.runSave 2 true, .runSave 0 true, .runSave 0 true]) := by
  intro throughout
  have reaches : ∃ saving newest record,
      machine.run exampleSaving
        (reconnect ++ [.runSave 2 true, .runSave 0 true, .runSave 0 true]) = some saving ∧
      saving.latest.lookup "a" = some newest ∧ saving.service.saves = [] ∧
      (∀ connection ∈ saving.service.connections.values, connection.awaited = none) ∧
      saving.service.database.rows.lookup ("a", "net") = some record ∧
      saving.service.network.networkCode = "net" ∧
      record ≠ saving.service.recordOf newest := by
    refine ⟨_, _, _, rfl, rfl, rfl, ?_, rfl, rfl, ?_⟩ <;> decide
  obtain ⟨saving, newest, record, reaches, isNewest, saves, awaited, stored, code, other⟩ := reaches
  have kept := throughout.final reaches "a" newest isNewest
  rw [code, stored] at kept
  refine other (Option.some.inj (kept ?_))
  rintro outstanding (⟨save, member, -⟩ | ⟨randomId, connection, known, awaits⟩)
  · rw [saves] at member
    cases member
  · have nothing := awaited connection ((Map.mem_values_iff _ _).mpr ⟨randomId, known⟩)
    cases nothing.symm.trans awaits

end SavingService

end Vnt.Server
