/-
This file settles when no two devices of a network share an address, in memory and in the
database, across restarts. A device claims an address when the lease table gives it to it,
when its row stores it, or when a write that is under way would store it. The allocation looks
at the reverse map only, so once memory has dropped an address that a row or an unfinished
write still holds, it hands the address to somebody else. When every address that is offered
to a request is claimed by no other device in the database, one device claims an address at
most, and this survives every interleaving, closed connections and restarts included.
-/

import Vnt.Server.ServiceInvariant

namespace Vnt.Server

open Vnt.Base

namespace NetworkStateInner

/-- The request is to be given this new address: the wished one when it is free, or the first
free one when the device has none and wishes none or its wish is blocked. -/
def Offers (table : NetworkStateInner) (net : Ipv4Net) (gateway : Ipv4Addr)
    (req : RegRequestMsg) (ip : Ipv4Addr) : Prop :=
  table.reservation ip = none ∧
    ((req.ip = some ip ∧ table.lease req.deviceId ≠ some ip ∧ Usable net gateway ip) ∨
      (table.findAvailableIp net gateway = .ok ip ∧
        ((req.ip = none ∧ table.lease req.deviceId = none) ∨
          ∃ wish, table.WishBlocked net gateway req wish ∧
            table.lease req.deviceId ≠ some wish)))

variable {table : NetworkStateInner} {net : Ipv4Net} {gateway : Ipv4Addr} {req : RegRequestMsg}
  {randomId : RandomId} {now : SystemTime} {stats : StatsRef}

/-- An allocation gives the device its own address or one that was offered. -/
theorem Allocation.own_or_offered {result : NetworkStateInner × Ipv4Addr × Option Ipv4Addr}
    (allocation : Allocation table net gateway req randomId now stats result) :
    table.lease req.deviceId = some result.2.1 ∨ table.Offers net gateway req result.2.1 := by
  cases allocation with
  | kept entry ip known holds matching => exact .inl ((lease_of_lookup known).trans holds)
  | filled entry ip known holds matching found =>
    have empty := (lease_of_lookup known).trans holds
    exact .inr ⟨(findAvailableIp_ok found).2.2, .inr ⟨found, .inl ⟨matching, empty⟩⟩⟩
  | granted ip wish differs notGateway inside unreserved =>
    exact .inr ⟨unreserved, .inl ⟨wish, differs, inside, notGateway⟩⟩
  | searched ip reason found =>
    refine .inr ⟨(findAvailableIp_ok found).2.2, .inr ⟨found, ?_⟩⟩
    exact reason.imp (fun fresh => ⟨fresh.1, lease_of_unknown fresh.2⟩) id

/-- No device holds an address that is offered. -/
theorem Offers.not_held {ip : Ipv4Addr} (offers : table.Offers net gateway req ip)
    (wellFormed : table.WellFormed net gateway)
    (gatewayIs : NetworkState.gatewayOf net = some gateway) (deviceId : String) :
    table.lease deviceId ≠ some ip := by
  intro holds
  have usable : Usable net gateway ip := by
    rcases offers.2 with ⟨-, -, usable⟩ | ⟨found, -⟩
    · exact usable
    · obtain ⟨member, notGateway, -⟩ := findAvailableIp_ok found
      exact ⟨contains_of_mem_range gatewayIs member, notGateway⟩
  have recorded := wellFormed.recorded deviceId ip holds usable
  rw [offers.1] at recorded
  cases recorded

theorem lease_of_lease_removeEntry {deviceId other : String} {ip : Ipv4Addr}
    (holds : (table.removeEntry deviceId).lease other = some ip) : table.lease other = some ip := by
  rw [lease_removeEntry, Function.update_apply] at holds
  split at holds
  · cases holds
  · exact holds

theorem lease_of_lease_removeDevices {deviceIds : List String} {other : String} {ip : Ipv4Addr}
    (holds : (table.removeDevices deviceIds).lease other = some ip) :
    table.lease other = some ip := by
  refine removeDevices_induction
    (fun later => later.lease other = some ip → table.lease other = some ip)
    deviceIds id (fun _ kept => kept) (fun _ _ _ kept holds => ?_) holds
  exact kept (lease_of_lease_removeEntry holds)

theorem lease_of_lease_removeDeviceFromMemory {deviceId other : String} {ip : Ipv4Addr}
    (holds : (table.removeDeviceFromMemory deviceId).lease other = some ip) :
    table.lease other = some ip := by
  rcases table.removeDeviceFromMemory_eq deviceId with unchanged | changed
  · rwa [unchanged] at holds
  · rw [changed] at holds
    exact lease_of_lease_removeEntry holds

end NetworkStateInner

/-- The device and the address a spawned save will store. -/
def Save.target : Save → String × Option Ipv4Addr
  | .ofEntry entry => (entry.deviceId, entry.ip)
  | .ofRecord record => (record.deviceId, record.ip)

theorem Save.target_eq (save : Save) (heap : StatsHeap) (networkCode : String) :
    save.target =
      ((save.record heap networkCode).deviceId, (save.record heap networkCode).ip) := by
  cases save <;> rfl

namespace ControlService

/-- A write that is under way would store the address for the device: a spawned save or an
open confirmation. -/
def Writing (state : ControlService) (deviceId : String) (ip : Ipv4Addr) : Prop :=
  (∃ save ∈ state.saves, save.target = (deviceId, some ip)) ∨
    ∃ randomId connection entry record,
      state.connections.lookup randomId = some connection ∧
        connection.confirmation = some (.saving entry record) ∧
          record.deviceId = deviceId ∧ record.ip = some ip

/-- The database stores the address for the device, or a write under way would. -/
def StoredOrWriting (state : ControlService) (deviceId : String) (ip : Ipv4Addr) : Prop :=
  state.database.stored state.network.networkCode deviceId = some ip ∨ state.Writing deviceId ip

/-- The device claims the address in memory, in the database or in a write under way. -/
def Claims (state : ControlService) (deviceId : String) (ip : Ipv4Addr) : Prop :=
  state.network.lease deviceId = some ip ∨ state.StoredOrWriting deviceId ip

/-- The guard: no address that is offered to a registration is stored, or about to be, for
another device. -/
def OffersUnclaimed (state : ControlService) : ServiceEvent → Prop
  | .register req _ _ _ =>
    ∀ ip, state.network.leaseState.Offers state.network.net state.network.gateway req ip →
      ∀ deviceId, deviceId ≠ req.deviceId → ¬state.StoredOrWriting deviceId ip
  | _ => True

/-- No two devices hold one address in memory, and when every spawned save has run, no two
rows of the network hold one. -/
def AddressesUnique (state : ControlService) : Prop :=
  (∀ first second ip, state.network.lease first = some ip →
    state.network.lease second = some ip → first = second) ∧
  (state.saves = [] → state.database.Distinct state.network.networkCode)

/-- One device at most claims an address. -/
def ClaimsUnique (state : ControlService) : Prop :=
  ∀ first second ip, state.Claims first ip → state.Claims second ip → first = second

variable {state next : ControlService} {event : ServiceEvent} {deviceId : String} {ip : Ipv4Addr}

/-! ### Where claims come from -/

theorem Writing.of_saves_append {added : List Save} {network : NetworkState}
    {removals : List Ipv4Addr}
    (writing : Writing { state with
      network := network, saves := state.saves ++ added, senderRemovals := removals }
      deviceId ip) :
    state.Writing deviceId ip ∨ ∃ save ∈ added, save.target = (deviceId, some ip) := by
  rcases writing with ⟨save, member, target⟩ | confirming
  · rcases List.mem_append.mp member with before | new
    · exact .inl (.inl ⟨save, before, target⟩)
    · exact .inr ⟨save, new, target⟩
  · exact .inl (.inr confirming)

/-- Closing a connection turns its open confirmation into a save at most. -/
theorem Writing.of_close {randomId : RandomId} {connection : Connection} {sent : Bool}
    (known : state.connections.lookup randomId = some connection)
    (writing : (state.close randomId connection sent).Writing deviceId ip) :
    state.Writing deviceId ip := by
  rcases writing with ⟨save, member, target⟩ | ⟨other, found, entry, record, lookup, saving, holds⟩
  · rcases List.mem_append.mp member with before | abandoned
    · exact .inl ⟨save, before, target⟩
    · unfold ControlService.abandoned at abandoned
      split at abandoned
      · next entry record saving =>
        split at abandoned
        · rw [List.mem_singleton] at abandoned
          subst abandoned
          obtain ⟨rfl, sameIp⟩ := Prod.mk.inj target
          exact .inr ⟨randomId, connection, entry, record, known, saving, rfl, sameIp⟩
        · cases abandoned
      · cases abandoned
  · exact .inr ⟨other, found, entry, record, (lookup_connection_erase lookup).2, saving, holds⟩

/-- Storing a connection again adds the write of its confirmation at most. -/
theorem Writing.of_insert {randomId : RandomId} {new : Connection} {network : NetworkState}
    {database : Database} {heap : StatsHeap} {usedIds : List RandomId}
    (writing : Writing { state with
      network := network, database := database, heap := heap, usedIds := usedIds
      connections := state.connections.insert randomId new } deviceId ip) :
    state.Writing deviceId ip ∨ ∃ entry record, new.confirmation = some (.saving entry record) ∧
      record.deviceId = deviceId ∧ record.ip = some ip := by
  rcases writing with saved | ⟨other, found, entry, record, lookup, saving, holds⟩
  · exact .inl (.inl saved)
  · rcases lookup_connection_insert lookup with ⟨rfl, rfl⟩ | before
    · exact .inr ⟨entry, record, saving, holds⟩
    · exact .inl (.inr ⟨other, found, entry, record, before, saving, holds⟩)

/-- A connection without a confirmation to save adds no write. -/
theorem Writing.of_insert_idle {randomId : RandomId} {new : Connection} {database : Database}
    (writing : Writing { state with
      database := database
      connections := state.connections.insert randomId new } deviceId ip)
    (idle : ∀ entry record, new.confirmation ≠ some (.saving entry record)) :
    state.Writing deviceId ip := by
  rcases Writing.of_insert writing with before | ⟨entry, record, saving, -⟩
  · exact before
  · exact absurd saving (idle entry record)

theorem stored_executeIf {database : Database} {succeeds : Bool} {statement : Statement}
    {networkCode : String}
    (holds : (executeIf database succeeds statement).stored networkCode deviceId = some ip) :
    database.stored networkCode deviceId = some ip ∨
      ∃ record, statement = .saveOrUpdateDevice record ∧ record.deviceId = deviceId ∧
        record.ip = some ip := by
  unfold executeIf at holds
  split at holds
  · rcases database.stored_execute holds with before | ⟨record, rfl, same, -, sameIp⟩
    · exact .inl before
    · exact .inr ⟨record, rfl, same, sameIp⟩
  · exact .inl holds

/-- The device an entry carries holds the address it carries. -/
theorem WellFormed.lease_of_entry (wellFormed : state.WellFormed) {entry : DeviceEntry}
    {holder : String} (known : state.network.getDeviceEntry holder = some entry) :
    state.network.lease entry.deviceId = entry.ip := by
  rw [wellFormed.keyed holder entry known]
  exact NetworkStateInner.lease_of_lookup known

/-- What a registration leaves claimed was claimed before or is the address it was given. -/
theorem claims_registered (wellFormed : state.WellFormed) (tracked : state.Tracked)
    {req : RegRequestMsg} {randomId : RandomId} {sender : Sender} {now : SystemTime}
    {table : NetworkStateInner} {given : Ipv4Addr} {old : Option Ipv4Addr}
    (allocation : NetworkStateInner.Allocation state.network.leaseState state.network.net
      state.network.gateway req randomId now state.heap.length (table, given, old))
    (claims : (state.enroll req randomId
      (state.network.installAddress table req.deviceId given old sender)
      (Session.new req given randomId sender)
      (table.deviceMap.lookup req.deviceId)).Claims deviceId ip) :
    state.Claims deviceId ip ∨ deviceId = req.deviceId ∧ ip = given := by
  rcases claims with holds | stored | writing
  · replace holds : table.lease deviceId = some ip := holds
    have leases : table.lease = Function.update state.network.leaseState.lease req.deviceId
        (some given) := allocation.lease
    rw [leases, Function.update_apply] at holds
    split at holds
    · next same => exact .inr ⟨same, (Option.some.inj holds).symm⟩
    · exact .inl (.inl holds)
  · rw [enroll_network, NetworkState.installAddress_networkCode] at stored
    exact .inl (.inr (.inl stored))
  · have keyed := (wellFormed.allocation tracked.gateway allocation).keyed
    obtain ⟨entry, known, holds, -⟩ := allocation.entry
    rcases writing with ⟨save, member, target⟩ | confirming
    · rcases mem_saves_enroll member with before | ⟨stored, storedIs, rfl⟩
      · exact .inl (.inr (.inr (.inl ⟨save, before, target⟩)))
      · cases known.symm.trans storedIs
        obtain ⟨sameId, sameIp⟩ := Prod.mk.inj target
        rw [keyed _ _ known] at sameId
        rw [holds] at sameIp
        exact .inr ⟨sameId.symm, (Option.some.inj sameIp).symm⟩
    · obtain ⟨other, found, entry, record, lookup, saving, holds⟩ := confirming
      rcases lookup_connection_insert lookup with ⟨rfl, rfl⟩ | before
      · cases saving
      · exact .inl (.inr (.inr (.inr ⟨other, found, entry, record, before, saving, holds⟩)))

/-- Where the network stays as it is, only the rows and the writes may bring a claim. -/
theorem Claims.frame (claims : next.Claims deviceId ip) (network : next.network = state.network)
    (stored : next.database.stored state.network.networkCode deviceId = some ip →
      state.StoredOrWriting deviceId ip)
    (writing : next.Writing deviceId ip → state.Claims deviceId ip) :
    state.Claims deviceId ip := by
  unfold Claims StoredOrWriting at claims
  rw [network] at claims
  rcases claims with holds | isStored | isWriting
  · exact .inl holds
  · exact .inr (stored isStored)
  · exact writing isWriting

/-- A statement that writes no record of a device brings no claim. -/
theorem storedOrWriting_of_executeIf {succeeds : Bool} {statement : Statement}
    (writesNone : ∀ record, statement ≠ .saveOrUpdateDevice record)
    (stored : (executeIf state.database succeeds statement).stored state.network.networkCode
      deviceId = some ip) : state.StoredOrWriting deviceId ip := by
  rcases stored_executeIf stored with before | ⟨record, same, -⟩
  · exact .inl before
  · exact absurd same (writesNone record)

/-- What is claimed after the rows were loaded is stored. -/
theorem stored_of_claims_load {database : Database} {networkCode : String} {net : Ipv4Net}
    {leaseDuration : Nat} {usedIds : List RandomId} {now : SystemTime} {answered : Bool}
    (loaded : load database networkCode net leaseDuration usedIds now answered = some next)
    (claims : next.Claims deviceId ip) : database.stored networkCode deviceId = some ip := by
  obtain ⟨gateway, gatewayIs, network, rows, connections, saves, -⟩ := load_eq_some loaded
  rcases claims with holds | stored | writing
  · rw [network] at holds
    obtain ⟨entry, known, entryIp⟩ := NetworkStateInner.lease_eq_some.mp holds
    obtain ⟨record, member, counters, rfl, rfl⟩ :=
      NetworkStateInner.lookup_buildInitialInnerState known
    cases answered with
    | false => cases member
    | true =>
      rw [if_pos rfl, Database.mem_loadAllDevices] at member
      rw [Database.stored, member]
      exact entryIp
  · rw [network, rows] at stored
    exact stored
  · rcases writing with ⟨save, member, -⟩ | ⟨randomId, connection, entry, record, lookup, -⟩
    · rw [saves] at member
      cases member
    · rw [connections] at lookup
      simp at lookup

/-- What an event leaves claimed was claimed before, or the event is a registration and the
address is one it was offered. -/
theorem claims_step (wellFormed : state.WellFormed) (tracked : state.Tracked)
    (effect : Effect state event next) (claims : next.Claims deviceId ip) :
    state.Claims deviceId ip ∨
      ∃ req randomId sender now, event = .register req randomId sender now ∧
        deviceId = req.deviceId ∧
        state.network.leaseState.Offers state.network.net state.network.gateway req ip := by
  cases effect with
  | registered req randomId sender now table given old sameNetwork fresh allocation =>
    rcases claims_registered wellFormed tracked allocation claims with before | ⟨same, isGiven⟩
    · exact .inl before
    · rcases allocation.own_or_offered with own | offered
      · rw [same, isGiven]
        exact .inl (.inl own)
      · rw [isGiven]
        exact .inr ⟨req, randomId, sender, now, rfl, same, offered⟩
  | refused req randomId sender now => exact .inl claims
  | wentOffline randomId connection now sent entry known current =>
    have claimed := wellFormed.lease_of_entry current.1
    rcases claims with holds | stored | writing
    · have sameIp : (state.network.offlineEntry entry now).ip = entry.ip := rfl
      have leases := NetworkStateInner.lease_insert_same current.1 sameIp
        (state.network.leaseState.dataVersion + 1)
      refine .inl (.inl ?_)
      rw [← holds]
      exact (congrFun leases deviceId).symm
    · exact .inl (.inr (.inl stored))
    · rcases Writing.of_saves_append writing with closed | ⟨save, member, target⟩
      · exact .inl (.inr (.inr (closed.of_close known)))
      · rw [List.mem_singleton] at member
        subst member
        obtain ⟨sameId, sameIp⟩ := Prod.mk.inj target
        refine .inl (.inl ?_)
        rw [← sameId, ← sameIp]
        exact claimed
  | aborted randomId connection now sent entry known current =>
    rcases claims with holds | stored | writing
    · exact .inl (.inl (NetworkStateInner.lease_of_lease_removeEntry holds))
    · exact .inl (.inr (.inl stored))
    · exact .inl (.inr (.inr (Writing.of_close known writing)))
  | superseded randomId connection now sent known stale =>
    exact .inl (claims.frame rfl .inl fun writing => .inr (.inr (Writing.of_close known writing)))
  | confirmationRead randomId connection entry known found =>
    have claimed := wellFormed.lease_of_entry found
    refine .inl (claims.frame rfl .inl fun writing => ?_)
    rcases Writing.of_insert writing with before | ⟨other, record, saving, sameId, sameIp⟩
    · exact .inr (.inr before)
    · cases saving
      refine .inl ?_
      rw [← sameId, ← sameIp]
      exact claimed
  | confirmationSkipped randomId connection known unknown =>
    refine .inl (claims.frame rfl .inl fun writing => .inr (.inr ?_))
    exact Writing.of_insert_idle writing fun _ _ impossible => nomatch impossible
  | confirmationSaved randomId connection entry record known saving =>
    refine .inl (claims.frame rfl (fun stored => ?_) fun writing => ?_)
    · rcases state.database.stored_execute stored with before | ⟨written, same, sameId, -, sameIp⟩
      · exact .inl before
      · cases same
        exact .inr (.inr ⟨randomId, connection, entry, record, known, saving, sameId, sameIp⟩)
    · refine .inr (.inr (Writing.of_insert_idle writing ?_))
      exact fun _ _ impossible => nomatch impossible
  | confirmationFailed randomId connection known =>
    refine .inl (claims.frame rfl .inl fun writing => .inr (.inr ?_))
    exact Writing.of_insert_idle writing fun _ _ impossible => nomatch impossible
  | marked randomId connection written known returned =>
    refine .inl (claims.frame rfl .inl fun writing => .inr (.inr ?_))
    exact Writing.of_insert_idle writing fun _ _ impossible => nomatch impossible
  | saved index succeeds save waiting =>
    have member : save ∈ state.saves := List.mem_of_getElem? waiting
    refine .inl (claims.frame rfl (fun stored => ?_) fun writing => ?_)
    · rcases stored_executeIf stored with before | ⟨record, same, sameId, sameIp⟩
      · exact .inl before
      · cases same
        refine .inr (.inl ⟨save, member, ?_⟩)
        rw [save.target_eq state.heap state.network.networkCode, sameId, sameIp]
    · rcases writing with ⟨other, later, target⟩ | confirming
      · exact .inr (.inr (.inl ⟨other, List.mem_of_mem_eraseIdx later, target⟩))
      · exact .inr (.inr (.inr confirming))
  | expired deviceIds collected =>
    rcases claims with holds | rest
    · exact .inl (.inl (NetworkStateInner.lease_of_lease_removeDevices holds))
    · exact .inl (.inr rest)
  | released succeeds other rest =>
    exact .inl (claims.frame rfl (storedOrWriting_of_executeIf nofun) fun writing =>
      .inr (.inr writing))
  | deletedFromMemory other deletions =>
    rcases claims with holds | stored | writing
    · rw [NetworkState.lease, NetworkState.removeDeviceFromMemory_leaseState] at holds
      exact .inl (.inl (NetworkStateInner.lease_of_lease_removeDeviceFromMemory holds))
    · rw [NetworkState.removeDeviceFromMemory_networkCode] at stored
      exact .inl (.inr (.inl stored))
    · exact .inl (.inr (.inr writing))
  | deletedRow other succeeds deletions =>
    exact .inl (claims.frame rfl (storedOrWriting_of_executeIf nofun) fun writing =>
      .inr (.inr writing))
  | otherNetwork statement foreign =>
    refine .inl (claims.frame rfl (fun stored => ?_) fun writing => .inr (.inr writing))
    have different : (deviceId, state.network.networkCode) ≠ statement.key := by
      intro same
      exact foreign (by rw [← same])
    rw [state.database.stored_execute_of_ne statement different] at stored
    exact .inl stored
  | restarted now answered next loaded =>
    exact .inl (.inr (.inl (stored_of_claims_load loaded claims)))
  | _ => exact .inl claims

/-! ### Whole runs -/

/-- A guarded event keeps claims unique: what is offered is held by nobody and stored for
nobody else. -/
theorem ClaimsUnique.step (unique : state.ClaimsUnique) (wellFormed : state.WellFormed)
    (tracked : state.Tracked) (unclaimed : state.OffersUnclaimed event)
    (effect : Effect state event next) : next.ClaimsUnique := by
  have offered : ∀ req randomId sender now, event = .register req randomId sender now →
      ∀ ip, state.network.leaseState.Offers state.network.net state.network.gateway req ip →
        ∀ deviceId, state.Claims deviceId ip → deviceId = req.deviceId := by
    rintro req randomId sender now rfl ip offers deviceId claims
    by_contra different
    rcases claims with holds | stored
    · exact offers.not_held wellFormed tracked.gateway deviceId holds
    · exact unclaimed ip offers deviceId different stored
  intro first second ip claimsFirst claimsSecond
  rcases claims_step wellFormed tracked effect claimsFirst with
    firstBefore | ⟨req, randomId, sender, now, isRegister, rfl, offers⟩
  · rcases claims_step wellFormed tracked effect claimsSecond with
      secondBefore | ⟨req, randomId, sender, now, isRegister, rfl, offers⟩
    · exact unique first second ip firstBefore secondBefore
    · exact offered req randomId sender now isRegister ip offers first firstBefore
  · rcases claims_step wellFormed tracked effect claimsSecond with
      secondBefore | ⟨other, otherId, otherSender, later, isOther, rfl, -⟩
    · exact (offered req randomId sender now isRegister ip offers second secondBefore).symm
    · rw [isRegister] at isOther
      cases isOther
      rfl

theorem ClaimsUnique.distinct (unique : state.ClaimsUnique) :
    state.database.Distinct state.network.networkCode :=
  fun first second ip storedFirst storedSecond =>
    unique first second ip (.inr (.inl storedFirst)) (.inr (.inl storedSecond))

theorem ClaimsUnique.addressesUnique (unique : state.ClaimsUnique) : state.AddressesUnique :=
  ⟨fun first second ip holdsFirst holdsSecond =>
    unique first second ip (.inl holdsFirst) (.inl holdsSecond), fun _ => unique.distinct⟩

theorem Started.claimsUnique (started : state.Started) : state.ClaimsUnique := by
  obtain ⟨database, networkCode, net, leaseDuration, now, distinct, loaded⟩ := started
  obtain ⟨gateway, -, network, sameDatabase, connections, saves, -⟩ := load_eq_some loaded
  have stored : ∀ deviceId ip, state.Claims deviceId ip →
      database.stored networkCode deviceId = some ip := by
    rintro deviceId ip (holds | stored | ⟨save, member, -⟩ | ⟨_, _, _, _, lookup, -⟩)
    · rw [network] at holds
      obtain ⟨entry, known, entryIp⟩ := NetworkStateInner.lease_eq_some.mp holds
      obtain ⟨record, member, counters, rfl, rfl⟩ :=
        NetworkStateInner.lookup_buildInitialInnerState known
      rw [if_pos rfl, Database.mem_loadAllDevices] at member
      rw [Database.stored, member]
      exact entryIp
    · rwa [network, sameDatabase] at stored
    · rw [saves] at member
      cases member
    · rw [connections] at lookup
      simp at lookup
  exact fun first second ip claimsFirst claimsSecond =>
    distinct first second ip (stored first ip claimsFirst) (stored second ip claimsSecond)

/-- In every run from a start in which no address is offered that the database, or a write
under way, holds for another device, the addresses are unique in every state. -/
theorem addressesUnique_throughout (started : state.Started) (events : List ServiceEvent)
    (guarded : machine.Guarded OffersUnclaimed state events) :
    machine.Throughout AddressesUnique state events := by
  have invariant : machine.Throughout
      (fun state => state.Tracked ∧ state.WellFormed ∧ state.ClaimsUnique) state events := by
    refine guarded.throughout ?_ ⟨started.tracked, started.wellFormed, started.claimsUnique⟩
    rintro state event next ⟨tracked, wellFormed, unique⟩ unclaimed enabled
    have effect := step_effect enabled
    have distinct : state.LoadsDistinct event := by
      cases event with
      | restart now answered =>
        cases answered with
        | true => exact unique.distinct
        | false => trivial
      | _ => trivial
    exact ⟨tracked.step effect, wellFormed.step tracked effect distinct,
      unique.step wellFormed tracked unclaimed effect⟩
  exact invariant.mono fun state holds => holds.2.2.addressesUnique

/-- Two devices register one after the other on a new network. -/
def twoDevicesRun : List ServiceEvent :=
  [.register (NetworkState.exampleRequest "a" none false) 1 0 0,
    .register (NetworkState.exampleRequest "b" none false) 2 1 0]

theorem addressesUnique_twoDevicesRun :
    machine.Throughout AddressesUnique exampleService twoDevicesRun := by
  refine addressesUnique_throughout started_exampleService _ ⟨?_, fun next enabled => ⟨?_, ?_⟩⟩
  · rintro ip offers deviceId different (stored | ⟨save, member, -⟩ | ⟨_, _, _, _, lookup, -⟩)
    · simp [exampleService, Database.stored, Database.empty] at stored
    · cases member
    · simp [exampleService] at lookup
  · cases Option.some.inj enabled
    rintro ip offers deviceId different
      (stored | ⟨save, member, target⟩ | ⟨other, found, entry, record, lookup, saving, -⟩)
    · change Database.empty.stored "net" deviceId = some ip at stored
      simp [Database.stored, Database.empty] at stored
    · cases List.mem_singleton.mp member
      obtain ⟨rfl, sameIp⟩ := Prod.mk.inj target
      cases Option.some.inj sameIp
      exact absurd offers.1 (by decide)
    · rcases lookup_connection_insert lookup with ⟨rfl, rfl⟩ | before
      · cases saving
      · simp [exampleService] at before
  · exact fun _ _ => trivial

/-- A device registers, leaves, and pre-registers on the address it had; the abort frees the
address in memory only, and the next device gets it. -/
def abortedRun : List ServiceEvent :=
  [.register (NetworkState.exampleRequest "a" none false) 1 0 0, .runSave 0 true,
    .dropSession 1 1 false, .runSave 0 true,
    .register (NetworkState.examplePreRegistration "a") 2 1 2, .dropSession 2 3 false,
    .removeSender 0x0A1A0002, .removeStats 0x0A1A0002,
    .register (NetworkState.exampleRequest "b" none false) 3 2 4, .runSave 0 true,
    .restart 5 true]

/-- Before the restart both rows hold the address, and after it both devices hold it in
memory. -/
theorem not_addressesUnique_abortedRun :
    ¬machine.Throughout AddressesUnique exampleService abortedRun := by
  intro throughout
  have reaches : ∃ final, machine.run exampleService abortedRun = some final ∧
      final.network.lease "a" = some 0x0A1A0002 ∧ final.network.lease "b" = some 0x0A1A0002 :=
    ⟨_, rfl, by decide, by decide⟩
  obtain ⟨final, isFinal, holdsFirst, holdsSecond⟩ := reaches
  have same := (throughout.final isFinal).1 "a" "b" _ holdsFirst holdsSecond
  exact absurd same (by decide)

end ControlService

end Vnt.Server
