/-
This file says once what every event of the control service can do. `Effect` lists the ways an
event is carried out, each with what was checked and the state it leaves; the later files take
an event apart through it. A session is current when the entry of its device carries its
random number and its address: closing a connection changes the lease table if and only if its
session is current.
-/

import Vnt.Server.Service

namespace Vnt.Server

open Vnt.Base

/-- The entry of the device is the one this session registered. -/
def Session.Current (session : Session) (network : NetworkState) (entry : DeviceEntry) : Prop :=
  network.getDeviceEntry session.deviceId = some entry ∧ entry.randomId = session.randomId ∧
    entry.ip = some session.ip

/-- The entry of a device that goes offline. -/
def NetworkState.offlineEntry (network : NetworkState) (entry : DeviceEntry)
    (now : SystemTime) : DeviceEntry :=
  { entry with
    dataVersion := network.leaseState.dataVersion + 1
    isConnected := false
    disconnectTime := some now }

/-- The network after its device went offline. -/
def NetworkState.wentOffline (network : NetworkState) (deviceId : String) (ip : Ipv4Addr)
    (entry : DeviceEntry) (now : SystemTime) : NetworkState :=
  { network with
    leaseState := { network.leaseState with
      dataVersion := network.leaseState.dataVersion + 1
      deviceMap := network.leaseState.deviceMap.insert deviceId
        (network.offlineEntry entry now) } }.forgetAddress ip

theorem NetworkState.getDeviceEntry_wentOffline (network : NetworkState) (deviceId other : String)
    (ip : Ipv4Addr) (entry : DeviceEntry) (now : SystemTime) :
    (network.wentOffline deviceId ip entry now).getDeviceEntry other =
      if other = deviceId then some (network.offlineEntry entry now)
      else network.getDeviceEntry other :=
  Map.lookup_insert_eq ..

theorem NetworkState.offlineIp_cases (network : NetworkState) (heap : StatsHeap)
    (session : Session) (now : SystemTime) :
    (network.offlineIp heap session.deviceId session.ip session.randomId now = (network, none) ∧
        ∀ entry, ¬session.Current network entry) ∨
      ∃ entry, session.Current network entry ∧
        network.offlineIp heap session.deviceId session.ip session.randomId now =
          (network.wentOffline session.deviceId session.ip entry now,
            some ((network.offlineEntry entry now).toRecord heap network.networkCode)) := by
  unfold NetworkState.offlineIp
  rcases network.leaseState.offlineIp_cases session.ip session.randomId now heap
    network.networkCode session.deviceId with unchanged | ⟨entry, known, sameId, sameIp, changed⟩
  · by_cases current : ∃ entry, session.Current network entry
    · obtain ⟨entry, known, sameId, sameIp⟩ := current
      unfold NetworkState.getDeviceEntry at known
      simp only [NetworkStateInner.offlineIp, known, sameId, sameIp, ne_eq, not_true_eq_false,
        if_false, Prod.mk.injEq, reduceCtorEq, and_false] at unchanged
    · rw [unchanged]
      exact .inl ⟨rfl, fun entry holds => current ⟨entry, holds⟩⟩
  · rw [changed]
    exact .inr ⟨entry, ⟨known, sameId, sameIp⟩, rfl⟩

theorem NetworkState.releaseLease_cases (network : NetworkState) (session : Session) :
    (network.releaseLease session.deviceId session.ip session.randomId = (network, false) ∧
        ∀ entry, ¬session.Current network entry) ∨
      ∃ entry, session.Current network entry ∧
        network.releaseLease session.deviceId session.ip session.randomId =
          ({ network with
              leaseState := { network.leaseState.removeEntry session.deviceId with
                dataVersion := network.leaseState.dataVersion + 1 } }, true) := by
  unfold NetworkState.releaseLease
  by_cases owns : network.leaseState.ownsPreRegistration session.deviceId session.ip
      session.randomId = true
  · refine .inr ?_
    rw [NetworkStateInner.releasePreRegisteredIp_of_owns _ _ _ _ owns, owns]
    unfold NetworkStateInner.ownsPreRegistration at owns
    split at owns
    · next entry known =>
      simp only [Bool.and_eq_true, decide_eq_true_eq] at owns
      exact ⟨entry, ⟨known, owns.1, owns.2⟩, rfl⟩
    · cases owns
  · refine .inl ⟨?_, fun entry current => owns ?_⟩
    · rw [NetworkStateInner.releasePreRegisteredIp, if_neg owns, Bool.eq_false_iff.mpr owns]
    · simp only [NetworkStateInner.ownsPreRegistration, show
        network.leaseState.deviceMap.lookup session.deviceId = some entry from current.1,
        current.2.1, current.2.2, decide_true, Bool.and_true]

namespace ControlService

/-- The ways an event is carried out. -/
inductive Effect (state : ControlService) : ServiceEvent → ControlService → Prop where
  | registered (req : RegRequestMsg) (randomId : RandomId) (sender : Sender) (now : SystemTime)
      (table : NetworkStateInner) (ip : Ipv4Addr) (old : Option Ipv4Addr)
      (sameNetwork : req.networkCode = state.network.networkCode)
      (fresh : randomId ∉ state.usedIds)
      (allocation : NetworkStateInner.Allocation state.network.leaseState state.network.net
        state.network.gateway req randomId now state.heap.length (table, ip, old)) :
      Effect state (.register req randomId sender now)
        (state.enroll req randomId
          (state.network.installAddress table req.deviceId ip old sender)
          (Session.new req ip randomId sender) (table.deviceMap.lookup req.deviceId))
  | refused (req : RegRequestMsg) (randomId : RandomId) (sender : Sender) (now : SystemTime) :
      Effect state (.register req randomId sender now) state
  | wentOffline (randomId : RandomId) (connection : Connection) (now : SystemTime) (sent : Bool)
      (entry : DeviceEntry) (known : state.connections.lookup randomId = some connection)
      (current : connection.session.Current state.network entry) :
      Effect state (.dropSession randomId now sent)
        { state.close randomId connection sent with
          network := state.network.wentOffline connection.session.deviceId connection.session.ip
            entry now
          saves := state.saves ++ abandoned connection sent ++
            [.ofRecord ((state.network.offlineEntry entry now).toRecord state.heap
              state.network.networkCode)] }
  | aborted (randomId : RandomId) (connection : Connection) (now : SystemTime) (sent : Bool)
      (entry : DeviceEntry) (known : state.connections.lookup randomId = some connection)
      (current : connection.session.Current state.network entry) :
      Effect state (.dropSession randomId now sent)
        { state.close randomId connection sent with
          network := { state.network with
            leaseState := { state.network.leaseState.removeEntry connection.session.deviceId with
              dataVersion := state.network.leaseState.dataVersion + 1 } }
          senderRemovals := connection.session.ip :: state.senderRemovals }
  | superseded (randomId : RandomId) (connection : Connection) (now : SystemTime) (sent : Bool)
      (known : state.connections.lookup randomId = some connection)
      (stale : ∀ entry, ¬connection.session.Current state.network entry) :
      Effect state (.dropSession randomId now sent) (state.close randomId connection sent)
  | senderRemoved (ip : Ipv4Addr) (member : ip ∈ state.senderRemovals) :
      Effect state (.removeSender ip)
        { state with
          network := state.network.removeSender ip
          senderRemovals := state.senderRemovals.erase ip
          statsRemovals := ip :: state.statsRemovals }
  | statsRemoved (ip : Ipv4Addr) (member : ip ∈ state.statsRemovals) :
      Effect state (.removeStats ip)
        { state with
          network := state.network.removeStats ip
          statsRemovals := state.statsRemovals.erase ip }
  | confirmationRead (randomId : RandomId) (connection : Connection) (entry : DeviceEntry)
      (known : state.connections.lookup randomId = some connection)
      (found : state.network.getDeviceEntry connection.session.deviceId = some entry) :
      Effect state (.confirmRead randomId)
        { state with
          connections := state.connections.insert randomId { connection with
            confirmation := some (.saving entry
              (entry.toRecord state.heap connection.session.networkCode)) } }
  | confirmationSkipped (randomId : RandomId) (connection : Connection)
      (known : state.connections.lookup randomId = some connection)
      (unknown : state.network.getDeviceEntry connection.session.deviceId = none) :
      Effect state (.confirmRead randomId)
        { state with
          connections := state.connections.insert randomId { connection with
            confirmation := some (.returned none) } }
  | confirmationSaved (randomId : RandomId) (connection : Connection) (entry : DeviceEntry)
      (record : DeviceRecord) (known : state.connections.lookup randomId = some connection)
      (saving : connection.confirmation = some (.saving entry record)) :
      Effect state (.confirmSave randomId true)
        { state with
          database := state.database.execute (.saveOrUpdateDevice record)
          connections := state.connections.insert randomId { connection with
            confirmation := some (.returned (some (entry, record))) } }
  | confirmationFailed (randomId : RandomId) (connection : Connection)
      (known : state.connections.lookup randomId = some connection) :
      Effect state (.confirmSave randomId false)
        { state with
          connections := state.connections.insert randomId { connection with
            confirmation := none } }
  | marked (randomId : RandomId) (connection : Connection)
      (written : Option (DeviceEntry × DeviceRecord))
      (known : state.connections.lookup randomId = some connection)
      (returned : connection.confirmation = some (.returned written)) :
      Effect state (.confirmMark randomId)
        { state with
          connections := state.connections.insert randomId
            { session := { connection.session with registrationStatus := .confirmed }
              confirmation := none } }
  | saved (index : Nat) (succeeds : Bool) (save : Save)
    (waiting : state.saves[index]? = some save) :
      Effect state (.runSave index succeeds)
        { state with
          database := executeIf state.database succeeds
            (.saveOrUpdateDevice (save.record state.heap state.network.networkCode))
          saves := state.saves.eraseIdx index }
  | collected (now : SystemTime) (sweep : Sweep) :
      Effect state (.collectExpired now) { state with sweep := sweep }
  | expired (deviceIds : List String) (collected : state.sweep = .collected deviceIds) :
      Effect state .removeExpired
        { state with
          network := state.network.removeDevices deviceIds
          sweep := .releasing deviceIds }
  | released (succeeds : Bool) (deviceId : String) (rest : List String) :
      Effect state (.releaseExpired succeeds)
        { state with
          database := executeIf state.database succeeds
            (.releaseDeviceIp state.network.networkCode deviceId)
          sweep := .releasing rest }
  | sweepEnded (succeeds : Bool) :
      Effect state (.releaseExpired succeeds) { state with sweep := .idle }
  | deletionChecked (deviceId : String) (deletions : List Deletion) :
      Effect state (.deleteCheck deviceId) { state with deletions := deletions }
  | deletedFromMemory (deviceId : String) (deletions : List Deletion) :
      Effect state (.deleteFromMemory deviceId)
        { state with
          network := (state.network.removeDeviceFromMemory deviceId).1
          deletions := deletions }
  | deletedRow (deviceId : String) (succeeds : Bool) (deletions : List Deletion) :
      Effect state (.deleteRow deviceId succeeds)
        { state with
          database := executeIf state.database succeeds
            (.deleteDevice state.network.networkCode deviceId)
          deletions := deletions }
  | trafficRecorded (heap : StatsHeap) :
      Effect state (.recordTraffic heap) { state with heap := heap }
  | otherNetwork (statement : Statement)
      (foreign : statement.key.2 ≠ state.network.networkCode) :
      Effect state (.otherNetwork statement)
        { state with database := state.database.execute statement }
  | restarted (now : SystemTime) (answered : Bool) (next : ControlService)
      (loaded : load state.database state.network.networkCode state.network.net
        state.network.leaseDuration state.usedIds now answered = some next) :
      Effect state (.restart now answered) next

variable {state next : ControlService}

theorem register_effect {req : RegRequestMsg} {randomId : RandomId} {sender : Sender}
    {now : SystemTime} (enabled : state.register req randomId sender now = some next) :
    Effect state (.register req randomId sender now) next := by
  unfold register at enabled
  split at enabled
  · next checks =>
    cases outcome : state.network.register req randomId sender now state.heap.length with
    | error message =>
      rw [outcome] at enabled
      cases enabled
      exact .refused req randomId sender now
    | ok result =>
      obtain ⟨network, session, entry⟩ := result
      rw [outcome] at enabled
      cases enabled
      obtain ⟨table, ip, old, allocation, rfl, rfl, rfl⟩ := NetworkState.register_cases outcome
      exact .registered req randomId sender now table ip old checks.1 checks.2 allocation
  · cases enabled

theorem dropSession_effect {randomId : RandomId} {connection : Connection} (now : SystemTime)
    (sent : Bool) (known : state.connections.lookup randomId = some connection) :
    Effect state (.dropSession randomId now sent)
      (state.dropSession randomId connection now sent) := by
  unfold dropSession
  dsimp only
  cases connection.session.registrationStatus with
  | confirmed =>
    rcases state.network.offlineIp_cases state.heap connection.session now with
      ⟨unchanged, stale⟩ | ⟨entry, current, changed⟩
    · rw [unchanged]
      exact .superseded randomId connection now sent known stale
    · rw [changed]
      exact .wentOffline randomId connection now sent entry known current
  | pendingConfirmation =>
    rcases state.network.releaseLease_cases connection.session with
      ⟨unchanged, stale⟩ | ⟨entry, current, changed⟩
    · rw [unchanged]
      exact .superseded randomId connection now sent known stale
    · rw [changed]
      exact .aborted randomId connection now sent entry known current

theorem confirmRead_effect {randomId : RandomId} {connection : Connection}
    (known : state.connections.lookup randomId = some connection)
    (enabled : state.confirmRead randomId connection = some next) :
    Effect state (.confirmRead randomId) next := by
  unfold confirmRead at enabled
  split at enabled
  · cases enabled
    cases found : state.network.getDeviceEntry connection.session.deviceId with
    | none => exact .confirmationSkipped randomId connection known found
    | some entry => exact .confirmationRead randomId connection entry known found
  · cases enabled

theorem confirmSave_effect {randomId : RandomId} {connection : Connection} {succeeds : Bool}
    (known : state.connections.lookup randomId = some connection)
    (enabled : state.confirmSave randomId connection succeeds = some next) :
    Effect state (.confirmSave randomId succeeds) next := by
  unfold confirmSave at enabled
  split at enabled
  · next entry record saving =>
    cases enabled
    cases succeeds with
    | false => exact .confirmationFailed randomId connection known
    | true => exact .confirmationSaved randomId connection entry record known saving
  · cases enabled

theorem confirmMark_effect {randomId : RandomId} {connection : Connection}
    (known : state.connections.lookup randomId = some connection)
    (enabled : state.confirmMark randomId connection = some next) :
    Effect state (.confirmMark randomId) next := by
  unfold confirmMark at enabled
  split at enabled
  · next written returned =>
    cases enabled
    exact .marked randomId connection written known returned
  · cases enabled

theorem sweep_effect {event : ServiceEvent} (enabled : state.step event = some next)
    (sweeps : (∃ now, event = .collectExpired now) ∨ event = .removeExpired ∨
      ∃ succeeds, event = .releaseExpired succeeds) : Effect state event next := by
  rcases sweeps with ⟨now, rfl⟩ | rfl | ⟨succeeds, rfl⟩
  · simp only [step, collectExpired] at enabled
    split at enabled
    · split at enabled <;> cases enabled
      · exact .collected now state.sweep
      · exact .collected now _
    · cases enabled
  · simp only [step, removeExpired] at enabled
    split at enabled
    · next deviceIds collected =>
      cases enabled
      exact .expired deviceIds collected
    · cases enabled
  · simp only [step, releaseExpired] at enabled
    split at enabled
    · next deviceId rest releasing =>
      cases enabled
      exact .released succeeds deviceId rest
    · cases enabled
      exact .sweepEnded succeeds
    · cases enabled

/-- Every event that is enabled is carried out in one of these ways. -/
theorem step_effect {event : ServiceEvent} (enabled : state.step event = some next) :
    Effect state event next := by
  cases event with
  | register req randomId sender now => exact register_effect enabled
  | dropSession randomId now sent =>
    obtain ⟨connection, known, rfl⟩ := Option.map_eq_some_iff.mp enabled
    exact dropSession_effect now sent known
  | removeSender ip =>
    simp only [step] at enabled
    split at enabled
    · next member =>
      cases enabled
      exact .senderRemoved ip member
    · cases enabled
  | removeStats ip =>
    simp only [step] at enabled
    split at enabled
    · next member =>
      cases enabled
      exact .statsRemoved ip member
    · cases enabled
  | confirmRead randomId =>
    obtain ⟨connection, known, enabled⟩ := Option.bind_eq_some_iff.mp enabled
    exact confirmRead_effect known enabled
  | confirmSave randomId succeeds =>
    obtain ⟨connection, known, enabled⟩ := Option.bind_eq_some_iff.mp enabled
    exact confirmSave_effect known enabled
  | confirmMark randomId =>
    obtain ⟨connection, known, enabled⟩ := Option.bind_eq_some_iff.mp enabled
    exact confirmMark_effect known enabled
  | runSave index succeeds =>
    simp only [step, runSave] at enabled
    split at enabled
    · next save waiting =>
      cases enabled
      exact .saved index succeeds save waiting
    · cases enabled
  | collectExpired now => exact sweep_effect enabled (.inl ⟨now, rfl⟩)
  | removeExpired => exact sweep_effect enabled (.inr (.inl rfl))
  | releaseExpired succeeds => exact sweep_effect enabled (.inr (.inr ⟨succeeds, rfl⟩))
  | deleteCheck deviceId =>
    simp only [step, deleteCheck] at enabled
    split at enabled <;> cases enabled
    · exact .deletionChecked deviceId state.deletions
    · exact .deletionChecked deviceId _
  | deleteFromMemory deviceId =>
    simp only [step, deleteFromMemory] at enabled
    split at enabled <;> cases enabled
    exact .deletedFromMemory deviceId _
  | deleteRow deviceId succeeds =>
    simp only [step, deleteRow] at enabled
    split at enabled <;> cases enabled
    exact .deletedRow deviceId succeeds _
  | recordTraffic heap =>
    cases enabled
    exact .trafficRecorded heap
  | otherNetwork statement =>
    simp only [step] at enabled
    split at enabled
    · cases enabled
    · next foreign =>
      cases enabled
      exact .otherNetwork statement foreign
  | restart now answered => exact .restarted now answered next enabled

end ControlService

end Vnt.Server
