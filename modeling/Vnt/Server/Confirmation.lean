/-
This file settles when a confirmation is sound: when the session is marked, the entry of its
device is still the one it registered, and the record the confirmation stored belongs to the
session. The code looks up the entry by the device alone, and it succeeds without an entry as
well. The two paths beside it, going offline and the abort, compare the random number of the
session. When the entry carries the random number at the time it is read, and the device is
neither registered again nor dropped until the session is marked, every mark is sound.
-/

import Vnt.Server.ServiceInvariant

namespace Vnt.Server

open Vnt.Base

/-- The entry is the one the session registered, and the record was made from it. -/
def Session.Wrote (session : Session) (entry : DeviceEntry) (record : DeviceRecord) : Prop :=
  entry.randomId = session.randomId ∧ record.deviceId = session.deviceId ∧
    record.networkCode = session.networkCode ∧ record.ip = some session.ip

/-- What a confirmation stores, or has stored. -/
def Confirmation.written : Confirmation → Option (DeviceEntry × DeviceRecord)
  | .saving entry record => some (entry, record)
  | .returned written => written

namespace ControlService

/-- Every mark that can happen next is sound: the session is current, and the confirmation has
stored a record of the entry the session registered. -/
def MarksSound (state : ControlService) : Prop :=
  ∀ randomId next, machine.step state (.confirmMark randomId) = some next →
    ∃ connection entry record, state.connections.lookup randomId = some connection ∧
      connection.confirmation = some (.returned (some (entry, record))) ∧
        connection.session.Wrote entry record ∧
          ∃ current, connection.session.Current state.network current

/-- A session of the device has a confirmation under way. -/
def Confirming (state : ControlService) (deviceId : String) : Prop :=
  ∃ randomId connection, state.connections.lookup randomId = some connection ∧
    connection.confirmation ≠ none ∧ connection.session.deviceId = deviceId

/-- The guard: a confirmation reads the entry of its own session, and a device with a
confirmation under way is not registered, swept or deleted. -/
def ConfirmsCurrent (state : ControlService) : ServiceEvent → Prop
  | .confirmRead randomId => ∀ connection, state.connections.lookup randomId = some connection →
      ∃ entry, state.network.getDeviceEntry connection.session.deviceId = some entry ∧
        entry.randomId = randomId
  | .register req _ _ _ => ¬state.Confirming req.deviceId
  | .removeExpired => ∀ deviceIds, state.sweep = .collected deviceIds →
      ∀ deviceId ∈ deviceIds, ¬state.Confirming deviceId
  | .deleteFromMemory deviceId => ¬state.Confirming deviceId
  | _ => True

/-- An entry with the random number of a live session has the address of the session, and
every confirmation under way is about the current entry of its session. -/
structure ConfirmationsOwned (state : ControlService) : Prop where
  address : ∀ randomId connection entry,
    state.connections.lookup randomId = some connection →
      state.network.getDeviceEntry connection.session.deviceId = some entry →
        entry.randomId = connection.session.randomId → entry.ip = some connection.session.ip
  current : ∀ randomId connection, state.connections.lookup randomId = some connection →
    connection.confirmation ≠ none →
      ∃ entry, connection.session.Current state.network entry
  written : ∀ randomId connection confirmation,
    state.connections.lookup randomId = some connection →
      connection.confirmation = some confirmation →
        ∃ entry record, confirmation.written = some (entry, record) ∧
          connection.session.Wrote entry record

variable {state next : ControlService} {event : ServiceEvent}

/-- An event that opens no connection and no confirmation keeps the confirmations owned when
it keeps the address of the entries it leaves and the current entries of open confirmations. -/
theorem ConfirmationsOwned.frame (owned : state.ConfirmationsOwned)
    (connections : ∀ randomId connection, next.connections.lookup randomId = some connection →
      state.connections.lookup randomId = some connection)
    (entries : ∀ deviceId entry, next.network.getDeviceEntry deviceId = some entry →
      ∃ before, state.network.getDeviceEntry deviceId = some before ∧
        before.randomId = entry.randomId ∧ before.ip = entry.ip)
    (kept : ∀ randomId connection entry, next.connections.lookup randomId = some connection →
      connection.confirmation ≠ none → connection.session.Current state.network entry →
        ∃ after, connection.session.Current next.network after) : next.ConfirmationsOwned where
  address := by
    intro randomId connection entry lookup known sameId
    obtain ⟨before, knownBefore, beforeId, beforeIp⟩ := entries _ entry known
    rw [← beforeIp]
    exact owned.address randomId connection before (connections _ _ lookup) knownBefore
      (beforeId.trans sameId)
  current := by
    intro randomId connection lookup confirming
    obtain ⟨entry, current⟩ := owned.current randomId connection (connections _ _ lookup) confirming
    exact kept randomId connection entry lookup confirming current
  written := fun randomId connection confirmation lookup =>
    owned.written randomId connection confirmation (connections _ _ lookup)

/-- Storing a connection again with the same session keeps the confirmations owned when its
own confirmation is. -/
theorem ConfirmationsOwned.insert (owned : state.ConfirmationsOwned) {database : Database}
    {randomId : RandomId} {connection new : Connection}
    (known : state.connections.lookup randomId = some connection)
    (same : { connection.session with registrationStatus := new.session.registrationStatus } =
      new.session)
    (current : new.confirmation ≠ none → ∃ entry, connection.session.Current state.network entry)
    (written : ∀ confirmation, new.confirmation = some confirmation →
      ∃ entry record, confirmation.written = some (entry, record) ∧
        connection.session.Wrote entry record) :
    ConfirmationsOwned { state with
      database := database, connections := state.connections.insert randomId new } where
  address := by
    intro other found entry lookup knownEntry sameId
    rcases lookup_connection_insert lookup with ⟨rfl, rfl⟩ | before
    · rw [← same] at knownEntry sameId ⊢
      exact owned.address other connection entry known knownEntry sameId
    · exact owned.address other found entry before knownEntry sameId
  current := by
    intro other found lookup confirming
    rcases lookup_connection_insert lookup with ⟨rfl, rfl⟩ | before
    · rw [← same]
      exact current confirming
    · exact owned.current other found before confirming
  written := by
    intro other found confirmation lookup confirming
    rcases lookup_connection_insert lookup with ⟨rfl, rfl⟩ | before
    · rw [← same]
      exact written confirmation confirming
    · exact owned.written other found confirmation before confirming

/-- A registration of a device without an open confirmation. -/
theorem ConfirmationsOwned.registered (owned : state.ConfirmationsOwned)
    (tracked : state.Tracked) {req : RegRequestMsg} {randomId : RandomId} {sender : Sender}
    {now : SystemTime} {table : NetworkStateInner} {given : Ipv4Addr} {old : Option Ipv4Addr}
    (fresh : randomId ∉ state.usedIds) (notConfirming : ¬state.Confirming req.deviceId)
    (allocation : NetworkStateInner.Allocation state.network.leaseState state.network.net
      state.network.gateway req randomId now state.heap.length (table, given, old)) :
    (state.enroll req randomId
      (state.network.installAddress table req.deviceId given old sender)
      (Session.new req given randomId sender)
      (table.deviceMap.lookup req.deviceId)).ConfirmationsOwned := by
  obtain ⟨registered, known, holds, sameId, -, -⟩ := allocation.entry
  refine ⟨fun other connection entry lookup knownEntry sameNumber => ?_,
    fun other connection lookup confirming => ?_,
    fun other connection confirmation lookup confirming => ?_⟩
  · replace knownEntry : table.deviceMap.lookup connection.session.deviceId = some entry :=
      knownEntry
    rcases lookup_connection_insert lookup with ⟨rfl, rfl⟩ | before
    · cases known.symm.trans knownEntry
      exact holds
    · by_cases sameDevice : connection.session.deviceId = req.deviceId
      · rw [sameDevice] at knownEntry
        cases known.symm.trans knownEntry
        obtain ⟨isOther, used, -⟩ := tracked.session other connection before
        rw [isOther, sameId] at sameNumber
        exact absurd used (sameNumber ▸ fresh)
      · refine owned.address other connection entry before ?_ sameNumber
        exact (allocation.lookup_other sameDevice).symm.trans knownEntry
  · rcases lookup_connection_insert lookup with ⟨rfl, rfl⟩ | before
    · exact absurd rfl confirming
    · obtain ⟨entry, current⟩ := owned.current other connection before confirming
      have different : connection.session.deviceId ≠ req.deviceId :=
        fun same => notConfirming ⟨other, connection, before, confirming, same⟩
      exact ⟨entry, (allocation.lookup_other different).trans current.1, current.2⟩
  · rcases lookup_connection_insert lookup with ⟨rfl, rfl⟩ | before
    · cases confirming
    · exact owned.written other connection confirmation before confirming

theorem ConfirmationsOwned.step (owned : state.ConfirmationsOwned) (tracked : state.Tracked)
    (keyed : state.network.leaseState.Keyed) (confirms : state.ConfirmsCurrent event)
    (effect : Effect state event next) : next.ConfirmationsOwned := by
  cases effect with
  | registered req randomId sender now table given old sameNetwork fresh allocation =>
    exact owned.registered tracked fresh confirms allocation
  | wentOffline randomId connection now sent entry known current =>
    refine owned.frame (fun _ _ lookup => (lookup_connection_erase lookup).2)
      (fun deviceId found lookup => ?_) (fun other found before lookup _ holds => ?_)
    · rw [NetworkState.getDeviceEntry_wentOffline] at lookup
      split at lookup
      · next same =>
        cases lookup
        rw [same]
        exact ⟨entry, current.1, rfl, rfl⟩
      · exact ⟨found, lookup, rfl, rfl⟩
    · unfold Session.Current
      rw [NetworkState.getDeviceEntry_wentOffline]
      split
      · next same =>
        have known := holds.1
        rw [same] at known
        cases current.1.symm.trans known
        exact ⟨_, rfl, holds.2⟩
      · exact ⟨before, holds⟩
  | aborted randomId connection now sent entry known current =>
    refine owned.frame (fun _ _ lookup => (lookup_connection_erase lookup).2)
      (fun deviceId found lookup => ?_) (fun other found before lookup _ holds => ?_)
    · have known := (NetworkStateInner.lookup_removeEntry ..).symm.trans lookup
      split at known
      · cases known
      · exact ⟨found, known, rfl, rfl⟩
    · obtain ⟨different, lookupBefore⟩ := lookup_connection_erase lookup
      refine ⟨before, (NetworkStateInner.lookup_removeEntry ..).trans ?_, holds.2⟩
      refine (if_neg fun same => ?_).trans holds.1
      have knownBefore := holds.1
      rw [same] at knownBefore
      cases current.1.symm.trans knownBefore
      refine different ?_
      rw [← (tracked.session _ _ lookupBefore).1, ← holds.2.1, current.2.1,
        (tracked.session _ _ known).1]
  | superseded randomId connection now sent known stale =>
    exact owned.frame (fun _ _ lookup => (lookup_connection_erase lookup).2)
      (fun _ entry lookup => ⟨entry, lookup, rfl, rfl⟩)
      fun _ _ entry _ _ holds => ⟨entry, holds⟩
  | confirmationRead randomId connection entry known found =>
    obtain ⟨current, lookup, sameId⟩ := confirms connection known
    cases found.symm.trans lookup
    obtain ⟨isNumber, -, sameCode⟩ := tracked.session randomId connection known
    have ofSession : entry.randomId = connection.session.randomId := sameId.trans isNumber.symm
    have ip := owned.address randomId connection entry known found ofSession
    refine owned.insert known rfl (fun _ => ⟨entry, found, ofSession, ip⟩) ?_
    intro confirmation isSaving
    cases isSaving
    exact ⟨entry, _, rfl, ofSession, keyed _ entry found, rfl, ip⟩
  | confirmationSkipped randomId connection known unknown =>
    obtain ⟨current, lookup, -⟩ := confirms connection known
    cases unknown.symm.trans lookup
  | confirmationSaved randomId connection entry record known saving =>
    refine owned.insert known rfl (fun _ => ?_) ?_
    · exact owned.current randomId connection known (by rw [saving]; exact Option.some_ne_none _)
    · intro confirmation isReturned
      cases isReturned
      exact owned.written randomId connection (.saving entry record) known saving
  | confirmationFailed randomId connection known =>
    exact owned.insert known rfl (fun impossible => absurd rfl impossible)
      fun _ impossible => nomatch impossible
  | marked randomId connection written known returned =>
    exact owned.insert known rfl (fun impossible => absurd rfl impossible)
      fun _ impossible => nomatch impossible
  | expired deviceIds collected =>
    refine owned.frame (fun _ _ lookup => lookup) (fun deviceId found lookup => ?_)
      (fun other connection before lookup confirming holds => ⟨before, ?_, holds.2⟩)
    · rw [NetworkState.getDeviceEntry_removeDevices] at lookup
      split at lookup
      · cases lookup
      · exact ⟨found, lookup, rfl, rfl⟩
    · rw [NetworkState.getDeviceEntry_removeDevices, if_neg, holds.1]
      exact fun member => confirms deviceIds collected _ member
        ⟨other, connection, lookup, confirming, rfl⟩
  | deletedFromMemory deviceId deletions =>
    refine owned.frame (fun _ _ lookup => lookup) (fun other found lookup => ?_)
      (fun other connection before lookup confirming holds => ⟨before, ?_, holds.2⟩)
    · rw [NetworkState.getDeviceEntry_removeDeviceFromMemory] at lookup
      split at lookup
      · cases lookup
      · exact ⟨found, lookup, rfl, rfl⟩
    · rw [NetworkState.getDeviceEntry_removeDeviceFromMemory, if_neg, holds.1]
      exact fun same => confirms ⟨other, connection, lookup, confirming, same⟩
  | restarted now answered next loaded =>
    obtain ⟨gateway, -, -, -, connections, -⟩ := load_eq_some loaded
    refine ⟨fun randomId connection entry lookup => ?_, fun randomId connection lookup => ?_,
      fun randomId connection confirmation lookup => ?_⟩ <;>
    · rw [connections] at lookup
      simp at lookup
  | _ => exact ⟨owned.address, owned.current, owned.written⟩

theorem ConfirmationsOwned.marksSound (owned : state.ConfirmationsOwned) : state.MarksSound := by
  intro randomId next enabled
  have effect : Effect state (.confirmMark randomId) next := step_effect enabled
  cases effect with
  | marked randomId connection written known returned =>
    obtain ⟨entry, record, isWritten, wrote⟩ :=
      owned.written randomId connection _ known returned
    have confirming : connection.confirmation ≠ none := by
      rw [returned]
      exact Option.some_ne_none _
    replace isWritten : written = some (entry, record) := isWritten
    rw [isWritten] at returned
    exact ⟨connection, entry, record, known, returned, wrote,
      owned.current randomId connection known confirming⟩

/-- In every run from a start in which each confirmation reads the entry of its own session
and nothing registers or drops the device before the session is marked, every mark is
sound. -/
theorem marksSound_throughout (started : state.Started) (events : List ServiceEvent)
    (guarded : machine.Guarded ConfirmsCurrent state events) :
    machine.Throughout MarksSound state events := by
  have invariant : machine.Throughout (fun state => state.Tracked ∧
      state.network.leaseState.Keyed ∧ state.ConfirmationsOwned) state events := by
    refine guarded.throughout ?_ ⟨started.tracked, started.wellFormed.keyed, ?_⟩
    · rintro state event next ⟨tracked, keyed, owned⟩ confirms enabled
      have effect := step_effect enabled
      exact ⟨tracked.step effect, keyed_step keyed effect,
        owned.step tracked keyed confirms effect⟩
    · obtain ⟨database, networkCode, net, leaseDuration, now, -, loaded⟩ := started
      obtain ⟨gateway, -, -, -, connections, -⟩ := load_eq_some loaded
      refine ⟨fun randomId connection entry lookup => ?_, fun randomId connection lookup => ?_,
        fun randomId connection confirmation lookup => ?_⟩ <;>
      · rw [connections] at lookup
        simp at lookup
  exact invariant.mono fun state holds => holds.2.2.marksSound

/-- A device pre-registers and confirms. -/
def confirmRun : List ServiceEvent :=
  [.register (NetworkState.examplePreRegistration "a") 1 0 0, .confirmRead 1,
    .confirmSave 1 true, .confirmMark 1]

theorem marksSound_confirmRun : machine.Throughout MarksSound exampleService confirmRun := by
  refine marksSound_throughout started_exampleService _ ⟨?_, fun first enabled => ?_⟩
  · rintro ⟨randomId, connection, lookup, -⟩
    simp [exampleService] at lookup
  · cases Option.some.inj enabled
    refine ⟨fun connection known => ?_, fun _ _ => ⟨trivial, fun _ _ => ⟨trivial, fun _ _ =>
      trivial⟩⟩⟩
    rcases lookup_connection_insert known with ⟨-, rfl⟩ | before
    · exact ⟨_, rfl, rfl⟩
    · simp [exampleService] at before

/-- A device pre-registers, a second session of it registers on another address, and then the
first session confirms. -/
def supersededConfirmRun : List ServiceEvent :=
  [.register (NetworkState.examplePreRegistration "a") 1 0 0,
    .register (NetworkState.exampleRequest "a" (some 0x0A1A0003) false) 2 1 1,
    .confirmRead 1, .confirmSave 1 true]

/-- The first session is about to be marked, while the entry belongs to the second one. -/
theorem not_marksSound_supersededConfirmRun :
    ¬machine.Throughout MarksSound exampleService supersededConfirmRun := by
  intro throughout
  have reaches : ∃ final marked connection current,
      machine.run exampleService supersededConfirmRun = some final ∧
        machine.step final (.confirmMark 1) = some marked ∧
          final.connections.lookup 1 = some connection ∧ connection.session.randomId = 1 ∧
            final.network.getDeviceEntry connection.session.deviceId = some current ∧
              current.randomId = 2 :=
    ⟨_, _, _, _, rfl, rfl, rfl, rfl, rfl, rfl⟩
  obtain ⟨final, marked, connection, current, isFinal, enabled, lookup, first, known, second⟩ :=
    reaches
  obtain ⟨found, entry, record, foundIs, -, -, holder, knownHolder, sameId, -⟩ :=
    throughout.final isFinal 1 marked enabled
  cases lookup.symm.trans foundIs
  cases known.symm.trans knownHolder
  rw [first, second] at sameId
  exact absurd sameId (by decide)

end ControlService

end Vnt.Server
