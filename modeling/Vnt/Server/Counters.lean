/-
This file states who the traffic counters belong to. A registration hands out fresh counters or
those of the entry it keeps, so no two devices share any, and the counters found under an address
are those of the device that has it, whose live session has the sender found there. Every event
keeps this, in whatever order they come, as long as nothing else changes the counters.
-/

import Vnt.Server.ServiceInvariant
import Vnt.Server.Traffic

namespace Vnt.Server

open Vnt.Base

/-! ### Counters in the tables -/

namespace NetworkStateInner

variable {table : NetworkStateInner} {net : Ipv4Net} {gateway : Ipv4Addr} {req : RegRequestMsg}
  {randomId : RandomId} {now : SystemTime} {stats : StatsRef}

/-- A registration keeps the counters of an entry that stays on its address or had none, or it
takes the fresh ones. -/
theorem Allocation.trafficStats {result : NetworkStateInner × Ipv4Addr × Option Ipv4Addr}
    (allocation : Allocation table net gateway req randomId now stats result) :
    ∃ entry, result.1.deviceMap.lookup req.deviceId = some entry ∧
      ((∃ before, table.deviceMap.lookup req.deviceId = some before ∧
          entry.trafficStats = before.trafficStats ∧
          (before.ip = none ∨ before.ip = some result.2.1)) ∨
        entry.trafficStats = stats) := by
  cases allocation with
  | kept entry ip known holds matching =>
    exact ⟨_, AList.lookup_insert _, .inl ⟨entry, known, rfl, .inr holds⟩⟩
  | filled entry ip known holds matching found =>
    exact ⟨_, AList.lookup_insert _, .inl ⟨entry, known, rfl, .inl holds⟩⟩
  | granted ip wish differs notGateway inside unreserved =>
    exact ⟨_, AList.lookup_insert _, .inr rfl⟩
  | searched ip reason found => exact ⟨_, AList.lookup_insert _, .inr rfl⟩

/-- The counters of a loaded entry are stored at the place of its record. -/
theorem lookup_loadRecords_index {records : List DeviceRecord} {deviceId : String}
    {entry : DeviceEntry}
    (known : (NetworkState.loadRecords net gateway now table stats records).deviceMap.lookup
      deviceId = some entry) :
    table.deviceMap.lookup deviceId = some entry ∨
      ∃ index record, records[index]? = some record ∧ record.deviceId = deviceId ∧
        entry = DeviceEntry.fromRecord record (stats + index) now := by
  induction records generalizing table stats with
  | nil => exact .inl known
  | cons record rest inductionHypothesis =>
    rcases inductionHypothesis known with before | ⟨index, later, found, same, loaded⟩
    · rw [lookup_loadRecord] at before
      split at before
      · next same =>
        exact .inr ⟨0, record, rfl, same.symm, (Option.some.inj before).symm⟩
      · exact .inl before
    · refine .inr ⟨index + 1, later, found, same, ?_⟩
      rw [loaded, Nat.add_assoc, Nat.add_comm 1 index]

end NetworkStateInner

/-- After a registration the counters of its entry are found under its address. -/
theorem NetworkState.installAddress_trafficStatsMap (state : NetworkState)
    {table : NetworkStateInner} {deviceId : String} {entry : DeviceEntry}
    (known : table.deviceMap.lookup deviceId = some entry) (ip other : Ipv4Addr)
    (old : Option Ipv4Addr) (sender : Sender) :
    (state.installAddress table deviceId ip old sender).trafficStatsMap.lookup other =
      if other = ip then some entry.trafficStats
      else if old = some other then none else state.trafficStatsMap.lookup other := by
  unfold installAddress
  rw [known]
  refine (Map.lookup_insert_eq ..).trans ?_
  split
  · rfl
  · cases old with
    | none => rw [if_neg (Option.some_ne_none other).symm]
    | some oldIp =>
      refine (Map.lookup_erase_eq ..).trans ?_
      simp only [Option.some.injEq, eq_comm]

/-! ### The invariant -/

namespace ControlService

/-- No two devices share counters, and the counters found under an address are those of the device
that has it, whose live session has the sender found there, if one is. -/
structure CountersOwned (state : ControlService) : Prop where
  inside : ∀ deviceId entry, state.network.getDeviceEntry deviceId = some entry →
    entry.trafficStats < state.heap.length
  installed : ∀ ip stats, state.network.trafficStatsMap.lookup ip = some stats →
    stats < state.heap.length
  unique : ∀ first second firstEntry secondEntry,
    state.network.getDeviceEntry first = some firstEntry →
      state.network.getDeviceEntry second = some secondEntry →
        firstEntry.trafficStats = secondEntry.trafficStats → first = second
  address : ∀ ip deviceId entry, state.network.getDeviceEntry deviceId = some entry →
    state.network.trafficStatsMap.lookup ip = some entry.trafficStats → entry.ip = some ip
  session : ∀ ip deviceId entry sender, state.network.getDeviceEntry deviceId = some entry →
    state.network.trafficStatsMap.lookup ip = some entry.trafficStats →
      state.network.senderMap.lookup ip = some sender →
        ∃ connection, state.connections.lookup entry.randomId = some connection ∧
          connection.session.deviceId = deviceId ∧ connection.session.ip = ip ∧
            connection.session.sender = sender

variable {state next : ControlService} {event : ServiceEvent}

/-! ### A registration -/

section Registered

variable {req : RegRequestMsg} {randomId : RandomId} {sender : Sender} {now : SystemTime}
  {table : NetworkStateInner} {given : Ipv4Addr} {old : Option Ipv4Addr} {enrolled : DeviceEntry}

/-- The counters of the entry that a registration stores are old ones or the fresh ones. -/
theorem CountersOwned.below (owned : state.CountersOwned)
    (allocation : NetworkStateInner.Allocation state.network.leaseState state.network.net
      state.network.gateway req randomId now state.heap.length (table, given, old))
    (known : table.deviceMap.lookup req.deviceId = some enrolled) :
    enrolled.trafficStats ≤ state.heap.length := by
  obtain ⟨same, lookup, counters⟩ := allocation.trafficStats
  cases known.symm.trans lookup
  rcases counters with ⟨before, was, sameStats, -⟩ | fresh
  · rw [sameStats]
    exact Nat.le_of_lt (owned.inside _ before was)
  · exact Nat.le_of_eq fresh

/-- No other device has them. -/
theorem CountersOwned.foreign (owned : state.CountersOwned)
    (allocation : NetworkStateInner.Allocation state.network.leaseState state.network.net
      state.network.gateway req randomId now state.heap.length (table, given, old))
    (known : table.deviceMap.lookup req.deviceId = some enrolled) {deviceId : String}
    {entry : DeviceEntry} (different : deviceId ≠ req.deviceId)
    (found : state.network.getDeviceEntry deviceId = some entry) :
    entry.trafficStats ≠ enrolled.trafficStats := by
  obtain ⟨same, lookup, counters⟩ := allocation.trafficStats
  cases known.symm.trans lookup
  intro sameStats
  rcases counters with ⟨before, was, kept, -⟩ | fresh
  · exact different (owned.unique _ _ _ _ found was (sameStats.trans kept))
  · exact absurd (owned.inside _ _ found) (by rw [sameStats, fresh]; exact Nat.lt_irrefl _)

/-- They were installed under the address of this registration or nowhere. -/
theorem CountersOwned.elsewhere (owned : state.CountersOwned)
    (allocation : NetworkStateInner.Allocation state.network.leaseState state.network.net
      state.network.gateway req randomId now state.heap.length (table, given, old))
    (known : table.deviceMap.lookup req.deviceId = some enrolled) {ip : Ipv4Addr}
    (stored : state.network.trafficStatsMap.lookup ip = some enrolled.trafficStats) :
    ip = given := by
  obtain ⟨same, lookup, counters⟩ := allocation.trafficStats
  cases known.symm.trans lookup
  rcases counters with ⟨before, was, kept, address⟩ | fresh
  · have there := owned.address ip _ before was (kept ▸ stored)
    rcases address with none | here
    · cases none.symm.trans there
    · exact Option.some.inj (there.symm.trans here)
  · exact absurd (owned.installed _ _ stored) (by rw [fresh]; exact Nat.lt_irrefl _)

/-- Counters found under an address after a registration are those of the registration, or they were
there before. -/
theorem CountersOwned.placed (owned : state.CountersOwned)
    (allocation : NetworkStateInner.Allocation state.network.leaseState state.network.net
      state.network.gateway req randomId now state.heap.length (table, given, old))
    (known : table.deviceMap.lookup req.deviceId = some enrolled) {ip : Ipv4Addr}
    {deviceId : String} {entry : DeviceEntry}
    (found : table.deviceMap.lookup deviceId = some entry)
    (stored : (state.network.installAddress table req.deviceId given old
      sender).trafficStatsMap.lookup ip = some entry.trafficStats) :
    (deviceId = req.deviceId ∧ entry = enrolled ∧ ip = given) ∨
      (deviceId ≠ req.deviceId ∧ ip ≠ given ∧ old ≠ some ip ∧
        state.network.getDeviceEntry deviceId = some entry ∧
        state.network.trafficStatsMap.lookup ip = some entry.trafficStats) := by
  rw [state.network.installAddress_trafficStatsMap known given] at stored
  by_cases own : deviceId = req.deviceId
  · subst own
    cases known.symm.trans found
    refine .inl ⟨rfl, rfl, ?_⟩
    split at stored
    · assumption
    · split at stored
      · cases stored
      · exact owned.elsewhere allocation known stored
  · have was : state.network.getDeviceEntry deviceId = some entry :=
      (allocation.lookup_other own).symm.trans found
    split at stored
    · exact absurd (Option.some.inj stored).symm (owned.foreign allocation known own was)
    · next elsewhere =>
      split at stored
      · cases stored
      · next notOld => exact .inr ⟨own, elsewhere, notOld, was, stored⟩

theorem CountersOwned.registered (owned : state.CountersOwned) (tracked : state.Tracked)
    (fresh : randomId ∉ state.usedIds)
    (allocation : NetworkStateInner.Allocation state.network.leaseState state.network.net
      state.network.gateway req randomId now state.heap.length (table, given, old)) :
    (state.enroll req randomId
      (state.network.installAddress table req.deviceId given old sender)
      (Session.new req given randomId sender)
      (table.deviceMap.lookup req.deviceId)).CountersOwned := by
  obtain ⟨registered, known, holds, sameId, connected, -⟩ := allocation.entry
  have others : ∀ {deviceId}, deviceId ≠ req.deviceId →
      table.deviceMap.lookup deviceId = state.network.getDeviceEntry deviceId :=
    fun different => allocation.lookup_other different
  have below := owned.below allocation known
  have length : (state.enroll req randomId
      (state.network.installAddress table req.deviceId given old sender)
      (Session.new req given randomId sender)
      (table.deviceMap.lookup req.deviceId)).heap.length = state.heap.length + 1 :=
    List.length_append
  refine ⟨fun deviceId entry found => ?_, fun ip stats stored => ?_,
    fun first second firstEntry secondEntry foundFirst foundSecond sameStats => ?_,
    fun ip deviceId entry found stored => ?_,
    fun ip deviceId entry sender found stored isSender => ?_⟩
  · rw [length]
    by_cases own : deviceId = req.deviceId
    · subst own
      cases known.symm.trans found
      exact Nat.lt_succ_of_le below
    · exact Nat.lt_succ_of_lt (owned.inside _ _ ((others own).symm.trans found))
  · rw [length]
    rw [enroll_network, state.network.installAddress_trafficStatsMap known given] at stored
    split at stored
    · cases stored
      exact Nat.lt_succ_of_le below
    · split at stored
      · cases stored
      · exact Nat.lt_succ_of_lt (owned.installed _ _ stored)
  · by_cases own : first = req.deviceId
    · by_cases also : second = req.deviceId
      · rw [own, also]
      · subst own
        cases known.symm.trans foundFirst
        exact absurd sameStats.symm
          (owned.foreign allocation known also ((others also).symm.trans foundSecond))
    · by_cases also : second = req.deviceId
      · subst also
        cases known.symm.trans foundSecond
        exact absurd sameStats
          (owned.foreign allocation known own ((others own).symm.trans foundFirst))
      · exact owned.unique _ _ _ _ ((others own).symm.trans foundFirst)
          ((others also).symm.trans foundSecond) sameStats
  · rcases owned.placed allocation known found stored with
      ⟨-, rfl, rfl⟩ | ⟨-, -, -, was, before⟩
    · exact holds
    · exact owned.address _ _ _ was before
  · rw [enroll_network, NetworkState.installAddress_senderMap] at isSender
    rcases owned.placed allocation known found stored with
      ⟨rfl, rfl, rfl⟩ | ⟨-, elsewhere, notOld, was, before⟩
    · rw [if_pos rfl] at isSender
      cases isSender
      refine ⟨⟨Session.new req ip randomId sender, none⟩, ?_, rfl, rfl, rfl⟩
      rw [sameId]
      exact AList.lookup_insert _
    · rw [if_neg elsewhere, if_neg notOld] at isSender
      obtain ⟨connection, active, facts⟩ := owned.session _ _ _ _ was before isSender
      refine ⟨connection, (AList.lookup_insert_ne ?_).trans active, facts⟩
      intro same
      rw [same] at active
      exact fresh (tracked.session _ _ active).2.1

end Registered

/-! ### The other events -/

/-- An event that installs no counters and no sender keeps the owners when the entries it leaves
refer to the counters they had, on the address they had, and the sessions it closes have no
counters installed. -/
theorem CountersOwned.frame (owned : state.CountersOwned)
    (length : state.heap.length ≤ next.heap.length)
    (entries : ∀ deviceId entry, next.network.getDeviceEntry deviceId = some entry →
      ∃ before, state.network.getDeviceEntry deviceId = some before ∧
        entry.trafficStats = before.trafficStats ∧ entry.ip = before.ip ∧
          entry.randomId = before.randomId)
    (counters : ∀ ip stats, next.network.trafficStatsMap.lookup ip = some stats →
      state.network.trafficStatsMap.lookup ip = some stats)
    (senders : ∀ ip sender, next.network.senderMap.lookup ip = some sender →
      state.network.senderMap.lookup ip = some sender)
    (sessions : ∀ ip deviceId entry connection,
      next.network.getDeviceEntry deviceId = some entry → entry.ip = some ip →
        next.network.trafficStatsMap.lookup ip = some entry.trafficStats →
          state.connections.lookup entry.randomId = some connection →
            connection.session.deviceId = deviceId → connection.session.ip = ip →
              ∃ kept, next.connections.lookup entry.randomId = some kept ∧
                kept.session.deviceId = connection.session.deviceId ∧
                  kept.session.ip = connection.session.ip ∧
                    kept.session.sender = connection.session.sender) : next.CountersOwned where
  inside := by
    intro deviceId entry found
    obtain ⟨before, was, sameStats, -⟩ := entries deviceId entry found
    rw [sameStats]
    exact Nat.lt_of_lt_of_le (owned.inside _ _ was) length
  installed := fun ip stats stored =>
    Nat.lt_of_lt_of_le (owned.installed ip stats (counters ip stats stored)) length
  unique := by
    intro first second firstEntry secondEntry foundFirst foundSecond sameStats
    obtain ⟨before, was, keptFirst, -⟩ := entries first firstEntry foundFirst
    obtain ⟨other, also, keptSecond, -⟩ := entries second secondEntry foundSecond
    exact owned.unique _ _ _ _ was also (keptFirst.symm.trans (sameStats.trans keptSecond))
  address := by
    intro ip deviceId entry found stored
    obtain ⟨before, was, sameStats, sameIp, -⟩ := entries deviceId entry found
    rw [sameIp]
    exact owned.address _ _ _ was (sameStats ▸ counters _ _ stored)
  session := by
    intro ip deviceId entry sender found stored isSender
    obtain ⟨before, was, sameStats, sameIp, sameId⟩ := entries deviceId entry found
    have installed := sameStats ▸ counters _ _ stored
    have holds := sameIp.trans (owned.address _ _ _ was installed)
    obtain ⟨connection, active, isDevice, isIp, isOwn⟩ :=
      owned.session _ _ _ _ was installed (senders _ _ isSender)
    rw [← sameId] at active
    obtain ⟨kept, still, keptDevice, keptIp, keptSender⟩ :=
      sessions ip deviceId entry connection found holds stored active isDevice isIp
    exact ⟨kept, still, keptDevice.trans isDevice, keptIp.trans isIp, keptSender.trans isOwn⟩

/-- A connection that is closed keeps the owners when its address has no counters of its device
any more. -/
theorem CountersOwned.closed (owned : state.CountersOwned) {randomId : RandomId}
    {connection : Connection} (known : state.connections.lookup randomId = some connection)
    (length : state.heap.length ≤ next.heap.length)
    (connections : next.connections = state.connections.erase randomId)
    (entries : ∀ deviceId entry, next.network.getDeviceEntry deviceId = some entry →
      ∃ before, state.network.getDeviceEntry deviceId = some before ∧
        entry.trafficStats = before.trafficStats ∧ entry.ip = before.ip ∧
          entry.randomId = before.randomId)
    (counters : ∀ ip stats, next.network.trafficStatsMap.lookup ip = some stats →
      state.network.trafficStatsMap.lookup ip = some stats)
    (senders : ∀ ip sender, next.network.senderMap.lookup ip = some sender →
      state.network.senderMap.lookup ip = some sender)
    (gone : ∀ entry, next.network.getDeviceEntry connection.session.deviceId = some entry →
      entry.randomId = randomId → entry.ip = some connection.session.ip →
        next.network.trafficStatsMap.lookup connection.session.ip ≠ some entry.trafficStats) :
    next.CountersOwned := by
  refine owned.frame length entries counters senders ?_
  intro ip deviceId entry live found holds stored active isDevice isIp
  refine ⟨live, ?_, rfl, rfl, rfl⟩
  rw [connections]
  refine (AList.lookup_erase_ne fun closes => ?_).trans active
  rw [closes] at active
  cases known.symm.trans active
  subst isDevice isIp
  exact gone entry found closes holds stored

/-- Storing a connection again with the same session keeps the owners. -/
theorem CountersOwned.insert (owned : state.CountersOwned) {randomId : RandomId}
    {connection new : Connection} {database : Database}
    (known : state.connections.lookup randomId = some connection)
    (sameDevice : new.session.deviceId = connection.session.deviceId)
    (sameIp : new.session.ip = connection.session.ip)
    (sameSender : new.session.sender = connection.session.sender) :
    CountersOwned { state with
      database := database, connections := state.connections.insert randomId new } := by
  refine owned.frame (Nat.le_refl _) (fun _ entry found => ⟨entry, found, rfl, rfl, rfl⟩)
    (fun _ _ stored => stored) (fun _ _ stored => stored) ?_
  intro ip deviceId entry found _ _ _ lookup _ _
  by_cases same : entry.randomId = randomId
  · rw [same] at lookup ⊢
    cases known.symm.trans lookup
    exact ⟨new, AList.lookup_insert _, sameDevice, sameIp, sameSender⟩
  · exact ⟨found, (AList.lookup_insert_ne same).trans lookup, rfl, rfl, rfl⟩

/-- The counters of a started service are those of the rows it loaded. -/
theorem countersOwned_load {database : Database} {networkCode : String} {net : Ipv4Net}
    {leaseDuration : Nat} {usedIds : List RandomId} {now : SystemTime} {answered : Bool}
    (loaded : load database networkCode net leaseDuration usedIds now answered = some next) :
    next.CountersOwned := by
  have heap : next.heap = (if answered then database.loadAllDevices networkCode else []).map
      fun record => ⟨record.txBytes, record.rxBytes⟩ := by
    obtain ⟨network, -, rfl⟩ := Option.map_eq_some_iff.mp loaded
    rfl
  obtain ⟨gateway, -, network, -⟩ := load_eq_some loaded
  have rows : ∀ deviceId entry, next.network.getDeviceEntry deviceId = some entry →
      ∃ record, (if answered then database.loadAllDevices networkCode else [])[
        entry.trafficStats]? = some record ∧ record.deviceId = deviceId := by
    intro deviceId entry found
    rw [network] at found
    rcases NetworkStateInner.lookup_loadRecords_index found with
      before | ⟨index, record, isRecord, same, rfl⟩
    · simp [NetworkStateInner.empty] at before
    · refine ⟨record, ?_, same⟩
      rw [DeviceEntry.fromRecord, Nat.zero_add]
      exact isRecord
  refine ⟨fun deviceId entry found => ?_, fun ip stats stored => ?_,
    fun first second firstEntry secondEntry foundFirst foundSecond same => ?_,
    fun ip deviceId entry found stored => ?_,
    fun ip deviceId entry sender found stored => ?_⟩
  · obtain ⟨record, isRecord, -⟩ := rows deviceId entry found
    rw [heap, List.length_map]
    exact (List.getElem?_eq_some_iff.mp isRecord).1
  · rw [network] at stored
    simp at stored
  · obtain ⟨record, isFirst, ofFirst⟩ := rows first firstEntry foundFirst
    obtain ⟨other, isSecond, ofSecond⟩ := rows second secondEntry foundSecond
    rw [same] at isFirst
    cases isFirst.symm.trans isSecond
    exact ofFirst.symm.trans ofSecond
  · rw [network] at stored
    simp at stored
  · rw [network] at stored
    simp at stored

/-- Every event keeps the owners, one that changes the counters at will apart. -/
theorem CountersOwned.step (owned : state.CountersOwned) (tracked : state.Tracked)
    (effect : Effect state event next) (uncounted : ∀ heap, event ≠ .recordTraffic heap) :
    next.CountersOwned := by
  have same : ∀ deviceId entry, state.network.getDeviceEntry deviceId = some entry →
      ∃ before, state.network.getDeviceEntry deviceId = some before ∧
        entry.trafficStats = before.trafficStats ∧ entry.ip = before.ip ∧
          entry.randomId = before.randomId := fun _ entry found => ⟨entry, found, rfl, rfl, rfl⟩
  cases effect with
  | registered req randomId sender now table given old sameNetwork fresh allocation =>
    exact owned.registered tracked fresh allocation
  | wentOffline randomId connection now sent entry known current =>
    refine owned.closed known (Nat.le_refl _) rfl ?_ ?_ ?_ ?_
    · intro deviceId found lookup
      rw [NetworkState.getDeviceEntry_wentOffline] at lookup
      split at lookup
      · next isDevice =>
        cases lookup
        exact ⟨entry, isDevice ▸ current.1, rfl, rfl, rfl⟩
      · exact same deviceId found lookup
    · exact fun ip stats stored => (Map.lookup_erase_eq_some.mp stored).2
    · exact fun ip sender stored => (Map.lookup_erase_eq_some.mp stored).2
    · exact fun _ _ _ _ stored => (Map.lookup_erase_eq_some.mp stored).1 rfl
  | aborted randomId connection now sent entry known current =>
    have left : ∀ deviceId found, (state.network.leaseState.removeEntry
        connection.session.deviceId).deviceMap.lookup deviceId = some found →
          deviceId ≠ connection.session.deviceId ∧
            state.network.getDeviceEntry deviceId = some found := by
      intro deviceId found lookup
      rw [NetworkStateInner.lookup_removeEntry] at lookup
      split at lookup
      · cases lookup
      · next different => exact ⟨different, lookup⟩
    exact owned.closed known (Nat.le_refl _) rfl
      (fun deviceId found lookup => same deviceId found (left deviceId found lookup).2)
      (fun _ _ stored => stored) (fun _ _ stored => stored)
      fun found lookup => absurd rfl (left _ found lookup).1
  | superseded randomId connection now sent known stale =>
    refine owned.closed known (Nat.le_refl _) rfl same (fun _ _ stored => stored)
      (fun _ _ stored => stored) fun found lookup closes holds _ => ?_
    exact stale found ⟨lookup, closes.trans (tracked.session _ _ known).1.symm, holds⟩
  | senderRemoved ip member =>
    exact owned.frame (Nat.le_refl _) same (fun _ _ stored => stored)
      (fun _ _ stored => (Map.lookup_erase_eq_some.mp stored).2)
      fun _ _ _ live _ _ _ active _ _ => ⟨live, active, rfl, rfl, rfl⟩
  | statsRemoved ip member =>
    exact owned.frame (Nat.le_refl _) same
      (fun _ _ stored => (Map.lookup_erase_eq_some.mp stored).2) (fun _ _ stored => stored)
      fun _ _ _ live _ _ _ active _ _ => ⟨live, active, rfl, rfl, rfl⟩
  | confirmationRead randomId connection entry known found => exact owned.insert known rfl rfl rfl
  | confirmationSkipped randomId connection known unknown => exact owned.insert known rfl rfl rfl
  | confirmationSaved randomId connection entry record known saving =>
    exact owned.insert known rfl rfl rfl
  | confirmationFailed randomId connection known => exact owned.insert known rfl rfl rfl
  | marked randomId connection written known returned => exact owned.insert known rfl rfl rfl
  | expired deviceIds collected =>
    refine owned.frame (Nat.le_refl _) (fun deviceId found lookup => ?_)
      (fun _ _ stored => stored) (fun _ _ stored => stored)
      fun _ _ _ live _ _ _ active _ _ => ⟨live, active, rfl, rfl, rfl⟩
    rw [NetworkState.getDeviceEntry_removeDevices] at lookup
    split at lookup
    · cases lookup
    · exact same deviceId found lookup
  | deletedFromMemory deviceId deletions =>
    refine owned.frame (Nat.le_refl _) (fun other found lookup => ?_)
      (fun ip stats stored => ?_) (fun ip sender stored => ?_)
      fun _ _ _ live _ _ _ active _ _ => ⟨live, active, rfl, rfl, rfl⟩
    · rw [NetworkState.getDeviceEntry_removeDeviceFromMemory] at lookup
      split at lookup
      · cases lookup
      · exact same other found lookup
    · unfold NetworkState.removeDeviceFromMemory at stored
      split at stored
      · exact (Map.lookup_erase_eq_some.mp stored).2
      · exact stored
    · rw [NetworkState.removeDeviceFromMemory_senderMap] at stored
      split at stored
      · cases stored
      · exact stored
  | trafficRecorded heap => exact absurd rfl (uncounted heap)
  | restarted now answered next loaded => exact countersOwned_load loaded
  | _ => exact ⟨owned.inside, owned.installed, owned.unique, owned.address, owned.session⟩

end ControlService

end Vnt.Server
