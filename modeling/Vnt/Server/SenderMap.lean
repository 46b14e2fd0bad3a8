/-
This file settles when the sender map agrees with the lease table: every connected device has
the sender of its live session under its address, and no other address has a sender. The map
is changed under the lock of the table with two exceptions. The abort of a pre-registration
gives the lock back before it drops the sender, and the sweep drops entries without looking
whether their devices have come back, and leaves the senders. Both go wrong only when a
connected device is in the way. When none is, the agreement survives every interleaving of
sessions, and dropping a superseded session changes nothing.
-/

import Vnt.Server.ServiceInvariant

namespace Vnt.Server

open Vnt.Base

/-- The device is connected with this entry on this address. -/
def NetworkState.Online (network : NetworkState) (deviceId : String) (ip : Ipv4Addr)
    (entry : DeviceEntry) : Prop :=
  network.getDeviceEntry deviceId = some entry ∧ entry.isConnected = true ∧ entry.ip = some ip

section Online

variable {network : NetworkState} {device other : String} {held ip : Ipv4Addr}
  {entry found : DeviceEntry}

theorem online_of_wentOffline {now : SystemTime}
    (online : (network.wentOffline device held entry now).Online other ip found) :
    other ≠ device ∧ network.Online other ip found := by
  obtain ⟨lookup, connected, holds⟩ := online
  rw [NetworkState.getDeviceEntry_wentOffline] at lookup
  split at lookup
  · cases lookup
    cases connected
  · next different => exact ⟨different, lookup, connected, holds⟩

theorem online_of_removeEntry {version : Nat}
    (online : NetworkState.Online { network with
      leaseState := { network.leaseState.removeEntry device with
        dataVersion := version } } other ip found) :
    other ≠ device ∧ network.Online other ip found := by
  obtain ⟨lookup, online⟩ := online
  have before := (NetworkStateInner.lookup_removeEntry ..).symm.trans lookup
  split at before
  · cases before
  · next different => exact ⟨different, before, online⟩

theorem online_of_removeDevices {deviceIds : List String}
    (online : (network.removeDevices deviceIds).Online other ip found) :
    network.Online other ip found := by
  obtain ⟨lookup, online⟩ := online
  rw [NetworkState.getDeviceEntry_removeDevices] at lookup
  split at lookup
  · cases lookup
  · exact ⟨lookup, online⟩

theorem online_of_removeDeviceFromMemory
    (online : (network.removeDeviceFromMemory device).1.Online other ip found) :
    other ≠ device ∧ network.Online other ip found := by
  obtain ⟨lookup, online⟩ := online
  rw [NetworkState.getDeviceEntry_removeDeviceFromMemory] at lookup
  split at lookup
  · cases lookup
  · next different => exact ⟨different, lookup, online⟩

end Online

namespace ControlService

/-- The sender map of the state and its live sessions: the owner of every sender is a connected
device, and every connected device has the sender of the live session that registered it. -/
structure SendersOwned (state : ControlService) : Prop where
  session : ∀ deviceId ip entry, state.network.Online deviceId ip entry →
    ∃ connection, state.connections.lookup entry.randomId = some connection ∧
      connection.session.deviceId = deviceId ∧ connection.session.ip = ip ∧
        state.network.senderMap.lookup ip = some connection.session.sender
  owner : ∀ ip sender, state.network.senderMap.lookup ip = some sender →
    (∃ deviceId entry, state.network.Online deviceId ip entry) ∨ ip ∈ state.senderRemovals

/-- No operation on the network state is under way. -/
def Quiet (state : ControlService) : Prop :=
  state.senderRemovals = [] ∧ state.statsRemovals = [] ∧ state.sweep = .idle ∧
    state.deletions = []

/-- While no operation is under way, the address of every connected entry has the sender of the
live session with the random number of the entry, and no other address has a sender. -/
def SendersCoherent (state : ControlService) : Prop :=
  state.Quiet →
    (∀ deviceId ip entry, state.network.Online deviceId ip entry →
      ∃ connection, state.connections.lookup entry.randomId = some connection ∧
        connection.session.randomId = entry.randomId ∧
          state.network.senderMap.lookup ip = some connection.session.sender) ∧
    ∀ ip sender, state.network.senderMap.lookup ip = some sender →
      ∃ deviceId entry, state.network.Online deviceId ip entry

/-- The guard: a sender that an abort still has to drop belongs to no connected device, the
sweep drops no connected device, and a restart loads rows with different addresses. -/
def SparesOnline (state : ControlService) : ServiceEvent → Prop
  | .removeSender ip => ∀ deviceId entry, ¬state.network.Online deviceId ip entry
  | .removeExpired => ∀ deviceIds, state.sweep = .collected deviceIds →
      ∀ deviceId ∈ deviceIds, ∀ ip entry, ¬state.network.Online deviceId ip entry
  | .restart now answered => state.LoadsDistinct (.restart now answered)
  | _ => True

variable {state next : ControlService} {event : ServiceEvent}

theorem SparesOnline.loadsDistinct (spares : state.SparesOnline event) :
    state.LoadsDistinct event := by
  cases event with
  | restart now answered => exact spares
  | _ => trivial

/-- Two devices are not online on one address. -/
theorem WellFormed.online_unique (wellFormed : state.WellFormed) {first second : String}
    {ip : Ipv4Addr} {firstEntry secondEntry : DeviceEntry}
    (onlineFirst : state.network.Online first ip firstEntry)
    (onlineSecond : state.network.Online second ip secondEntry) : first = second :=
  wellFormed.distinct first second ip
    ((NetworkStateInner.lease_of_lookup onlineFirst.1).trans onlineFirst.2.2)
    ((NetworkStateInner.lease_of_lookup onlineSecond.1).trans onlineSecond.2.2)

/-- The connection of another online device is not the one that closes. -/
theorem SendersOwned.other_connection (owned : state.SendersOwned) {randomId : RandomId}
    {connection : Connection} (known : state.connections.lookup randomId = some connection)
    {deviceId : String} {ip : Ipv4Addr} {entry : DeviceEntry}
    (online : state.network.Online deviceId ip entry)
    (different : deviceId ≠ connection.session.deviceId) : entry.randomId ≠ randomId := by
  rintro rfl
  obtain ⟨found, lookup, sameDevice, -⟩ := owned.session deviceId ip entry online
  rw [known] at lookup
  cases lookup
  exact different sameDevice.symm

/-- A registration puts its sender under its address and takes the sender of the old address
away. -/
theorem SendersOwned.registered (owned : state.SendersOwned) (tracked : state.Tracked)
    (wellFormed : state.WellFormed) {req : RegRequestMsg} {randomId : RandomId}
    {sender : Sender} {now : SystemTime} {table : NetworkStateInner} {given : Ipv4Addr}
    {old : Option Ipv4Addr} (fresh : randomId ∉ state.usedIds)
    (allocation : NetworkStateInner.Allocation state.network.leaseState state.network.net
      state.network.gateway req randomId now state.heap.length (table, given, old)) :
    (state.enroll req randomId
      (state.network.installAddress table req.deviceId given old sender)
      (Session.new req given randomId sender)
      (table.deviceMap.lookup req.deviceId)).SendersOwned := by
  obtain ⟨registered, known, holds, sameId, connected, -⟩ := allocation.entry
  have others : ∀ deviceId ip entry, deviceId ≠ req.deviceId →
      ((state.network.installAddress table req.deviceId given old sender).Online deviceId ip entry ↔
        state.network.Online deviceId ip entry) := by
    intro deviceId ip entry different
    unfold NetworkState.Online NetworkState.getDeviceEntry
    rw [NetworkState.installAddress_leaseState, allocation.lookup_other different]
  refine ⟨fun deviceId ip entry online => ?_, fun ip found lookup => ?_⟩
  · by_cases same : deviceId = req.deviceId
    · subst same
      cases known.symm.trans online.1
      cases holds.symm.trans online.2.2
      refine ⟨⟨Session.new req given randomId sender, none⟩, ?_, rfl, rfl, ?_⟩
      · rw [sameId]
        exact AList.lookup_insert _
      · rw [enroll_network, NetworkState.installAddress_senderMap, if_pos rfl]
        rfl
    · have before := (others deviceId ip entry same).mp online
      obtain ⟨connection, lookup, sameDevice, sameIp, isSender⟩ :=
        owned.session deviceId ip entry before
      have held : state.network.leaseState.lease deviceId = some ip :=
        (NetworkStateInner.lease_of_lookup before.1).trans before.2.2
      have notGiven : ip ≠ given := by
        rintro rfl
        exact wellFormed.not_held_by_other tracked.gateway allocation same held
      have notOld : old ≠ some ip := by
        intro isOld
        rcases allocation.old with oldLease | ⟨noOld, -⟩
        · exact same (wellFormed.distinct _ _ ip held (oldLease.symm.trans isOld))
        · exact Option.some_ne_none ip (isOld.symm.trans noOld)
      refine ⟨connection, ?_, sameDevice, sameIp, ?_⟩
      · refine (AList.lookup_insert_ne ?_).trans lookup
        rintro rfl
        exact fresh (tracked.session _ _ lookup).2.1
      · rw [enroll_network, NetworkState.installAddress_senderMap, if_neg notGiven, if_neg notOld,
          isSender]
  · rw [enroll_network, NetworkState.installAddress_senderMap] at lookup
    split at lookup
    · next isGiven =>
      subst isGiven
      exact .inl ⟨req.deviceId, registered, known, connected, holds⟩
    · next notGiven =>
      split at lookup
      · cases lookup
      · next notOld =>
        rcases owned.owner ip found lookup with ⟨deviceId, entry, online⟩ | removal
        · refine .inl ⟨deviceId, entry, (others deviceId ip entry ?_).mpr online⟩
          rintro rfl
          have held : state.network.leaseState.lease req.deviceId = some ip :=
            (NetworkStateInner.lease_of_lookup online.1).trans online.2.2
          rcases allocation.old with oldLease | ⟨-, own | empty⟩
          · exact notOld (oldLease.trans held)
          · exact notGiven (Option.some.inj (held.symm.trans own))
          · exact Option.some_ne_none ip (held.symm.trans empty)
        · exact .inr removal

/-- An event that brings no device online keeps the owners when it leaves the sender and the
session of every device that stays online, and lets go of a sender with its device. -/
theorem SendersOwned.frame (owned : state.SendersOwned)
    (stays : ∀ deviceId ip entry, next.network.Online deviceId ip entry →
      state.network.Online deviceId ip entry)
    (sessions : ∀ deviceId ip entry connection, next.network.Online deviceId ip entry →
      state.connections.lookup entry.randomId = some connection →
        connection.session.deviceId = deviceId → connection.session.ip = ip →
          ∃ kept, next.connections.lookup entry.randomId = some kept ∧
            kept.session.deviceId = connection.session.deviceId ∧
              kept.session.ip = connection.session.ip ∧
                kept.session.sender = connection.session.sender)
    (senders : ∀ deviceId ip entry, next.network.Online deviceId ip entry →
      next.network.senderMap.lookup ip = state.network.senderMap.lookup ip)
    (owners : ∀ ip sender, next.network.senderMap.lookup ip = some sender →
      state.network.senderMap.lookup ip = some sender ∧
        (∀ deviceId entry, state.network.Online deviceId ip entry →
          next.network.Online deviceId ip entry ∨ ip ∈ next.senderRemovals) ∧
        (ip ∈ state.senderRemovals → ip ∈ next.senderRemovals)) : next.SendersOwned where
  session := by
    intro deviceId ip entry online
    obtain ⟨connection, lookup, sameDevice, sameIp, isSender⟩ :=
      owned.session deviceId ip entry (stays deviceId ip entry online)
    obtain ⟨kept, keptLookup, keptDevice, keptIp, keptSender⟩ :=
      sessions deviceId ip entry connection online lookup sameDevice sameIp
    refine ⟨kept, keptLookup, keptDevice.trans sameDevice, keptIp.trans sameIp, ?_⟩
    rw [senders deviceId ip entry online, isSender, keptSender]
  owner := by
    intro ip sender lookup
    obtain ⟨before, devices, removals⟩ := owners ip sender lookup
    rcases owned.owner ip sender before with ⟨deviceId, entry, online⟩ | removal
    · exact (devices deviceId entry online).imp (fun still => ⟨deviceId, entry, still⟩) id
    · exact .inr (removals removal)

/-- Closing a connection keeps the sessions of the other online devices. -/
theorem SendersOwned.session_close (owned : state.SendersOwned) {randomId : RandomId}
    {connection : Connection} (known : state.connections.lookup randomId = some connection)
    {deviceId : String} {ip : Ipv4Addr} {entry : DeviceEntry} {found : Connection}
    (online : state.network.Online deviceId ip entry)
    (different : deviceId ≠ connection.session.deviceId)
    (lookup : state.connections.lookup entry.randomId = some found) :
    ∃ kept, (state.connections.erase randomId).lookup entry.randomId = some kept ∧
      kept.session.deviceId = found.session.deviceId ∧ kept.session.ip = found.session.ip ∧
        kept.session.sender = found.session.sender :=
  ⟨found, (AList.lookup_erase_ne (owned.other_connection known online different)).trans lookup,
    rfl, rfl, rfl⟩

/-- Storing a connection again with the same session keeps every session. -/
theorem SendersOwned.insert (owned : state.SendersOwned) {randomId : RandomId}
    {connection new : Connection} {database : Database}
    (known : state.connections.lookup randomId = some connection)
    (sameDevice : new.session.deviceId = connection.session.deviceId)
    (sameIp : new.session.ip = connection.session.ip)
    (sameSender : new.session.sender = connection.session.sender) :
    SendersOwned { state with
      database := database, connections := state.connections.insert randomId new } := by
  refine owned.frame (fun _ _ _ online => online) ?_ (fun _ _ _ _ => rfl)
    fun ip sender lookup => ⟨lookup, fun _ _ online => .inl online, id⟩
  intro deviceId ip entry found online lookup _ _
  by_cases same : entry.randomId = randomId
  · rw [same] at lookup ⊢
    cases known.symm.trans lookup
    exact ⟨new, AList.lookup_insert _, sameDevice, sameIp, sameSender⟩
  · exact ⟨found, (AList.lookup_insert_ne same).trans lookup, rfl, rfl, rfl⟩

/-- A device that goes offline takes its sender with it. -/
theorem SendersOwned.wentOffline (owned : state.SendersOwned) (wellFormed : state.WellFormed)
    {randomId : RandomId} {connection : Connection} {entry : DeviceEntry} {now : SystemTime}
    {saves : List Save} (known : state.connections.lookup randomId = some connection)
    (current : connection.session.Current state.network entry) :
    SendersOwned { state with
      network := state.network.wentOffline connection.session.deviceId connection.session.ip
        entry now
      connections := state.connections.erase randomId
      saves := saves } := by
  have held : state.network.leaseState.lease connection.session.deviceId =
      some connection.session.ip :=
    (NetworkStateInner.lease_of_lookup current.1).trans current.2.2
  have differs : ∀ deviceId ip found, state.network.Online deviceId ip found →
      deviceId ≠ connection.session.deviceId → ip ≠ connection.session.ip := by
    rintro deviceId ip found online different rfl
    exact different (wellFormed.distinct _ _ _
      ((NetworkStateInner.lease_of_lookup online.1).trans online.2.2) held)
  refine owned.frame (fun deviceId ip found online => (online_of_wentOffline online).2) ?_ ?_ ?_
  · intro deviceId ip found other online lookup _ _
    obtain ⟨different, before⟩ := online_of_wentOffline online
    exact owned.session_close known before different lookup
  · intro deviceId ip found online
    obtain ⟨different, before⟩ := online_of_wentOffline online
    exact AList.lookup_erase_ne (differs deviceId ip found before different)
  · intro ip sender lookup
    replace lookup : (state.network.senderMap.erase connection.session.ip).lookup ip =
        some sender := lookup
    rw [Map.lookup_erase_eq] at lookup
    split at lookup
    · cases lookup
    · next notHeld =>
      refine ⟨lookup, fun deviceId found online => .inl ⟨?_, online.2⟩, id⟩
      have different : deviceId ≠ connection.session.deviceId := by
        rintro rfl
        cases current.1.symm.trans online.1
        exact notHeld (Option.some.inj (online.2.2.symm.trans current.2.2))
      exact (NetworkState.getDeviceEntry_wentOffline ..).trans ((if_neg different).trans online.1)

/-- An abort drops the entry of its device and leaves the sender to be dropped. -/
theorem SendersOwned.aborted (owned : state.SendersOwned) {randomId : RandomId}
    {connection : Connection} {entry : DeviceEntry} {saves : List Save} {version : Nat}
    (known : state.connections.lookup randomId = some connection)
    (current : connection.session.Current state.network entry) :
    SendersOwned { state with
      network := { state.network with
        leaseState := { state.network.leaseState.removeEntry connection.session.deviceId with
          dataVersion := version } }
      connections := state.connections.erase randomId
      saves := saves
      senderRemovals := connection.session.ip :: state.senderRemovals } := by
  refine owned.frame (fun deviceId ip found online => (online_of_removeEntry online).2) ?_
    (fun _ _ _ _ => rfl) ?_
  · intro deviceId ip found other online lookup _ _
    obtain ⟨different, before⟩ := online_of_removeEntry online
    exact owned.session_close known before different lookup
  · intro ip sender lookup
    refine ⟨lookup, fun deviceId found online => ?_, List.mem_cons_of_mem _⟩
    by_cases same : deviceId = connection.session.deviceId
    · subst same
      cases current.1.symm.trans online.1
      cases current.2.2.symm.trans online.2.2
      exact .inr List.mem_cons_self
    · exact .inl ⟨(NetworkStateInner.lookup_removeEntry ..).trans
        ((if_neg same).trans online.1), online.2⟩

/-- A session that is not current is not the one an online device is connected with. -/
theorem Tracked.lookup_erase_of_stale (tracked : state.Tracked) {randomId : RandomId}
    {connection found : Connection} {deviceId : String} {ip : Ipv4Addr} {entry : DeviceEntry}
    (known : state.connections.lookup randomId = some connection)
    (stale : ∀ entry, ¬connection.session.Current state.network entry)
    (online : state.network.Online deviceId ip entry)
    (lookup : state.connections.lookup entry.randomId = some found)
    (sameDevice : found.session.deviceId = deviceId) (sameIp : found.session.ip = ip) :
    (state.connections.erase randomId).lookup entry.randomId = some found := by
  refine (AList.lookup_erase_ne ?_).trans lookup
  rintro rfl
  cases known.symm.trans lookup
  refine stale entry ⟨?_, (tracked.session _ _ known).1.symm, ?_⟩
  · rw [sameDevice]
    exact online.1
  · rw [sameIp]
    exact online.2.2

/-- Closing a superseded session leaves the network state as it is, and the session of every
online device is another one. -/
theorem SendersOwned.superseded (owned : state.SendersOwned) (tracked : state.Tracked)
    {randomId : RandomId} {connection : Connection} {sent : Bool}
    (known : state.connections.lookup randomId = some connection)
    (stale : ∀ entry, ¬connection.session.Current state.network entry) :
    (state.close randomId connection sent).SendersOwned := by
  refine owned.frame (fun _ _ _ online => online) ?_ (fun _ _ _ _ => rfl)
    fun ip sender lookup => ⟨lookup, fun _ _ online => .inl online, id⟩
  intro deviceId ip entry found online lookup sameDevice sameIp
  exact ⟨found, tracked.lookup_erase_of_stale known stale online lookup sameDevice sameIp,
    rfl, rfl, rfl⟩

/-- The sweep, when it drops no device that is online. -/
theorem SendersOwned.expired (owned : state.SendersOwned) {deviceIds : List String}
    {sweep : Sweep}
    (spares : ∀ deviceId ∈ deviceIds, ∀ ip entry, ¬state.network.Online deviceId ip entry) :
    SendersOwned { state with
      network := state.network.removeDevices deviceIds
      sweep := sweep } := by
  refine owned.frame (fun _ _ _ online => online_of_removeDevices online)
    (fun _ _ _ found _ lookup _ _ => ⟨found, lookup, rfl, rfl, rfl⟩)
    (fun _ _ _ _ => rfl) fun ip sender lookup => ⟨lookup, fun deviceId entry online => ?_, id⟩
  refine .inl ⟨?_, online.2⟩
  rw [NetworkState.getDeviceEntry_removeDevices,
    if_neg fun member => spares deviceId member ip entry online]
  exact online.1

/-- Deleting a device from memory takes its entry and its sender at once. -/
theorem SendersOwned.deletedFromMemory (owned : state.SendersOwned)
    (wellFormed : state.WellFormed) (deviceId : String) (deletions : List Deletion) :
    SendersOwned { state with
      network := (state.network.removeDeviceFromMemory deviceId).1
      deletions := deletions } := by
  refine owned.frame (fun other ip entry online => (online_of_removeDeviceFromMemory online).2)
    (fun _ _ _ found _ lookup _ _ => ⟨found, lookup, rfl, rfl, rfl⟩) ?_ ?_
  · intro other ip entry online
    obtain ⟨different, before⟩ := online_of_removeDeviceFromMemory online
    refine (NetworkState.removeDeviceFromMemory_senderMap ..).trans (if_neg fun held => ?_)
    exact different (wellFormed.distinct _ _ ip
      ((NetworkStateInner.lease_of_lookup before.1).trans before.2.2) held)
  · intro ip sender lookup
    rw [NetworkState.removeDeviceFromMemory_senderMap] at lookup
    split at lookup
    · cases lookup
    · next notHeld =>
      refine ⟨lookup, fun other entry online => .inl ⟨?_, online.2⟩, id⟩
      have different : other ≠ deviceId := by
        rintro rfl
        exact notHeld ((NetworkStateInner.lease_of_lookup online.1).trans online.2.2)
      rw [NetworkState.getDeviceEntry_removeDeviceFromMemory, if_neg different]
      exact online.1

/-- A loaded network has no device online and no sender. -/
theorem sendersOwned_load {database : Database} {networkCode : String} {net : Ipv4Net}
    {leaseDuration : Nat} {usedIds : List RandomId} {now : SystemTime} {answered : Bool}
    (loaded : load database networkCode net leaseDuration usedIds now answered = some next) :
    next.SendersOwned := by
  obtain ⟨gateway, -, network, -⟩ := load_eq_some loaded
  refine ⟨fun deviceId ip entry online => ?_, fun ip sender lookup => ?_⟩
  · rw [network] at online
    obtain ⟨record, -, counters, -, rfl⟩ :=
      NetworkStateInner.lookup_buildInitialInnerState online.1
    cases online.2.1
  · rw [network] at lookup
    simp at lookup

theorem SendersOwned.step (owned : state.SendersOwned) (tracked : state.Tracked)
    (wellFormed : state.WellFormed) (spares : state.SparesOnline event)
    (effect : Effect state event next) : next.SendersOwned := by
  cases effect with
  | registered req randomId sender now table given old sameNetwork fresh allocation =>
    exact owned.registered tracked wellFormed fresh allocation
  | wentOffline randomId connection now sent entry known current =>
    exact owned.wentOffline wellFormed known current
  | aborted randomId connection now sent entry known current => exact owned.aborted known current
  | superseded randomId connection now sent known stale =>
    exact owned.superseded tracked known stale
  | senderRemoved ip member =>
    refine owned.frame (fun _ _ _ online => online)
      (fun _ _ _ found _ lookup _ _ => ⟨found, lookup, rfl, rfl, rfl⟩) ?_ ?_
    · intro deviceId other entry online
      refine AList.lookup_erase_ne ?_
      rintro rfl
      exact spares deviceId entry online
    · intro other sender lookup
      replace lookup : (state.network.senderMap.erase ip).lookup other = some sender := lookup
      rw [Map.lookup_erase_eq] at lookup
      split at lookup
      · cases lookup
      · next different =>
        exact ⟨lookup, fun _ _ online => .inl online,
          fun removal => (List.mem_erase_of_ne different).mpr removal⟩
  | confirmationRead randomId connection entry known found => exact owned.insert known rfl rfl rfl
  | confirmationSkipped randomId connection known unknown => exact owned.insert known rfl rfl rfl
  | confirmationSaved randomId connection entry record known saving =>
    exact owned.insert known rfl rfl rfl
  | confirmationFailed randomId connection known => exact owned.insert known rfl rfl rfl
  | marked randomId connection written known returned => exact owned.insert known rfl rfl rfl
  | expired deviceIds collected => exact owned.expired (spares deviceIds collected)
  | deletedFromMemory deviceId deletions =>
    exact owned.deletedFromMemory wellFormed deviceId deletions
  | restarted now answered next loaded => exact sendersOwned_load loaded
  | _ => exact ⟨owned.session, owned.owner⟩

theorem SendersOwned.coherent (owned : state.SendersOwned) (tracked : state.Tracked) :
    state.SendersCoherent := by
  refine fun quiet => ⟨fun deviceId ip entry online => ?_, fun ip sender lookup => ?_⟩
  · obtain ⟨connection, lookup, -, -, isSender⟩ := owned.session deviceId ip entry online
    exact ⟨connection, lookup, (tracked.session _ _ lookup).1, isSender⟩
  · rcases owned.owner ip sender lookup with online | removal
    · exact online
    · rw [quiet.1] at removal
      cases removal

/-- In every run from a start in which neither an abort nor the sweep meets a device that is
online, and every restart loads different addresses, the senders are coherent in every state
in which no operation is under way. -/
theorem sendersCoherent_throughout (started : state.Started) (events : List ServiceEvent)
    (guarded : machine.Guarded SparesOnline state events) :
    machine.Throughout SendersCoherent state events := by
  have owned : state.SendersOwned := by
    obtain ⟨database, networkCode, net, leaseDuration, now, -, loaded⟩ := started
    exact sendersOwned_load loaded
  have invariant : machine.Throughout
      (fun state => state.Tracked ∧ state.WellFormed ∧ state.SendersOwned) state events := by
    refine guarded.throughout ?_ ⟨started.tracked, started.wellFormed, owned⟩
    rintro state event next ⟨tracked, wellFormed, owned⟩ spares enabled
    have effect := step_effect enabled
    exact ⟨tracked.step effect, wellFormed.step tracked effect spares.loadsDistinct,
      owned.step tracked wellFormed spares effect⟩
  exact invariant.mono fun state holds => holds.2.2.coherent holds.1

/-- A pre-registration is aborted, its sender is dropped, and then the next device gets the
address. -/
def abortThenRegister : List ServiceEvent :=
  [.register (NetworkState.examplePreRegistration "a") 1 10 0, .dropSession 1 1 false,
    .removeSender 0x0A1A0002, .removeStats 0x0A1A0002,
    .register (NetworkState.exampleRequest "b" none false) 2 20 2]

theorem sendersCoherent_abortThenRegister :
    machine.Throughout SendersCoherent exampleService abortThenRegister := by
  refine sendersCoherent_throughout started_exampleService _ ⟨trivial, fun first enabled => ?_⟩
  cases Option.some.inj enabled
  refine ⟨trivial, fun second enabled => ?_⟩
  cases Option.some.inj enabled
  refine ⟨?_, fun _ _ => ⟨trivial, fun _ _ => ⟨trivial, fun _ _ => trivial⟩⟩⟩
  rintro deviceId entry ⟨known, -⟩
  cases (Map.mem_entries_iff _ _ _).mpr known

/-- The next device gets the address of an aborted pre-registration before the abort drops the
sender. -/
def registerDuringAbort : List ServiceEvent :=
  [.register (NetworkState.examplePreRegistration "a") 1 10 0, .dropSession 1 1 false,
    .register (NetworkState.exampleRequest "b" none false) 2 20 2,
    .removeSender 0x0A1A0002, .removeStats 0x0A1A0002]

/-- The second device stays connected, and its address has no sender. -/
theorem not_sendersCoherent_registerDuringAbort :
    ¬machine.Throughout SendersCoherent exampleService registerDuringAbort := by
  intro throughout
  have reaches : ∃ final entry, machine.run exampleService registerDuringAbort = some final ∧
      final.Quiet ∧ final.network.getDeviceEntry "b" = some entry ∧ entry.isConnected = true ∧
        entry.ip = some 0x0A1A0002 ∧ final.network.senderMap.lookup 0x0A1A0002 = none :=
    ⟨_, _, rfl, ⟨rfl, rfl, rfl, rfl⟩, rfl, rfl, rfl, by decide⟩
  obtain ⟨final, entry, isFinal, quiet, online, connected, holds, noSender⟩ := reaches
  obtain ⟨connection, -, -, isSender⟩ :=
    ((throughout.final isFinal) quiet).1 "b" _ entry ⟨online, connected, holds⟩
  rw [noSender] at isSender
  cases isSender

end ControlService

end Vnt.Server
