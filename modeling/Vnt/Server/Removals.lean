/-
This file settles when the sweep and the deletions spare the devices that are connected. Both look
first, act on memory later and on the database later still, each time on the device alone; going
offline and the abort compare the random number of the session under the lock. A device that comes
back in between loses its entry, or its row. It keeps both when the devices that are dropped from
memory are in no session, and when what is written to the row of a device in a session is its
address or is followed by a save that stores it.
-/

import Vnt.Server.AddressUniqueness
import Vnt.Server.SenderMap

namespace Vnt.Server

open Vnt.Base

namespace ControlService

/-! ### What is to hold -/

/-- The step ends the session itself, or all of them. -/
def EndsSession (randomId : RandomId) : ServiceEvent → Prop
  | .dropSession other _ _ => other = randomId
  | .restart _ _ => True
  | _ => False

/-- A step takes the entry of no device that is connected, unless it ends its session. -/
def EntriesKept (state : ControlService) (event : ServiceEvent) : Prop :=
  ∀ next, machine.step state event = some next → ∀ deviceId entry,
    state.network.getDeviceEntry deviceId = some entry → entry.isConnected = true →
      next.network.getDeviceEntry deviceId ≠ none ∨ EndsSession entry.randomId event

/-- No save, no sweep and no deletion is under way, and no session waits for its confirmation, with
which the registration of its device is stored. -/
structure Finished (state : ControlService) : Prop where
  saves : state.saves = []
  sweep : state.sweep = .idle
  deletions : state.deletions = []
  confirmed : ∀ randomId connection, state.connections.lookup randomId = some connection →
    connection.session.registrationStatus = .confirmed

/-- When nothing is under way, every connected device has its address in the database. -/
def RowsKept (state : ControlService) : Prop :=
  state.Finished → ∀ deviceId ip entry, state.network.Online deviceId ip entry →
    state.database.stored state.network.networkCode deviceId = some ip

/-! ### The guard -/

/-- The session that registered the entry of the device is open. -/
def InSession (state : ControlService) (deviceId : String) : Prop :=
  ∃ entry, state.network.getDeviceEntry deviceId = some entry ∧
    (state.connections.lookup entry.randomId).isSome = true

/-- The registration of a connection is written, or was left to a save. -/
def Connection.Settled (connection : Connection) : Prop :=
  connection.session.registrationStatus = .confirmed ∨
    ∃ written, connection.confirmation = some (.returned written)

/-- The device is connected with the address through a settled connection. -/
def Registered (state : ControlService) (deviceId : String) (ip : Ipv4Addr) : Prop :=
  ∃ entry connection, state.network.Online deviceId ip entry ∧
    state.connections.lookup entry.randomId = some connection ∧ Connection.Settled connection

/-- A save that stores the address of the device waits to run. -/
def Awaited (saves : List Save) (deviceId : String) (ip : Ipv4Addr) : Prop :=
  ∃ save ∈ saves, save.target = (deviceId, some ip)

/-- The guard: devices are dropped from memory outside a session only, and what leaves the row of
a registered device without its address is followed by a save that stores it. -/
def SparesRegistered (state : ControlService) : ServiceEvent → Prop
  | .removeExpired => ∀ deviceIds, state.sweep = .collected deviceIds →
      ∀ deviceId ∈ deviceIds, ¬state.InSession deviceId
  | .deleteFromMemory deviceId => ¬state.InSession deviceId
  | .releaseExpired succeeds => succeeds = true → ∀ deviceId rest,
      state.sweep = .releasing (deviceId :: rest) →
        ∀ ip, state.Registered deviceId ip → Awaited state.saves deviceId ip
  | .deleteRow deviceId succeeds => succeeds = true →
      ∀ ip, state.Registered deviceId ip → Awaited state.saves deviceId ip
  | .runSave index succeeds => ∀ save, state.saves[index]? = some save →
      ∀ ip, state.Registered save.target.1 ip →
        Awaited (state.saves.eraseIdx index) save.target.1 ip ∨
          if succeeds then save.target.2 = some ip
          else state.database.stored state.network.networkCode save.target.1 = some ip
  | .confirmSave randomId succeeds => succeeds = true → ∀ connection entry record,
      state.connections.lookup randomId = some connection →
        connection.confirmation = some (.saving entry record) →
          ∀ ip, state.Registered record.deviceId ip →
            record.ip = some ip ∨ Awaited state.saves record.deviceId ip
  | _ => True

/-! ### The invariant -/

/-- The records that wait to be stored are of this network. -/
structure OwnCode (state : ControlService) : Prop where
  save : ∀ record, Save.ofRecord record ∈ state.saves →
    record.networkCode = state.network.networkCode
  confirmation : ∀ randomId connection entry record,
    state.connections.lookup randomId = some connection →
      connection.confirmation = some (.saving entry record) →
        record.networkCode = state.network.networkCode

/-- Every connected device has its session, what a confirmation of it writes is its address, and
when it is settled its address is stored or will be. -/
structure Backed (state : ControlService) : Prop where
  session : ∀ deviceId ip entry, state.network.Online deviceId ip entry →
    ∃ connection, state.connections.lookup entry.randomId = some connection ∧
      connection.session.deviceId = deviceId ∧ connection.session.ip = ip
  confirming : ∀ deviceId ip entry connection confirmation,
    state.network.Online deviceId ip entry →
      state.connections.lookup entry.randomId = some connection →
        connection.confirmation = some confirmation →
          (∃ read record, confirmation = .saving read record ∧ record.deviceId = deviceId ∧
            record.ip = some ip) ∨ ∃ written, confirmation = .returned written
  row : ∀ deviceId ip, state.Registered deviceId ip →
    state.database.stored state.network.networkCode deviceId = some ip ∨
      Awaited state.saves deviceId ip

variable {state next : ControlService} {event : ServiceEvent}

theorem Awaited.append {saves : List Save} {deviceId : String} {ip : Ipv4Addr}
    (awaited : Awaited saves deviceId ip) (added : List Save) :
    Awaited (saves ++ added) deviceId ip := by
  obtain ⟨save, member, target⟩ := awaited
  exact ⟨save, List.mem_append_left _ member, target⟩

/-- An event that opens no connection and brings no device online keeps the devices backed when it
leaves the connections of those that stay online, and their rows. -/
theorem Backed.frame (backed : state.Backed)
    (stays : ∀ deviceId ip entry, next.network.Online deviceId ip entry →
      state.network.Online deviceId ip entry)
    (sessions : ∀ deviceId ip entry connection, next.network.Online deviceId ip entry →
      state.connections.lookup entry.randomId = some connection →
        connection.session.deviceId = deviceId → connection.session.ip = ip →
          next.connections.lookup entry.randomId = some connection)
    (rows : ∀ deviceId ip, state.Registered deviceId ip →
      (state.database.stored state.network.networkCode deviceId = some ip ∨
        Awaited state.saves deviceId ip) →
          next.database.stored next.network.networkCode deviceId = some ip ∨
            Awaited next.saves deviceId ip) : next.Backed := by
  have before : ∀ deviceId ip entry, next.network.Online deviceId ip entry →
      ∃ connection, state.connections.lookup entry.randomId = some connection ∧
        connection.session.deviceId = deviceId ∧ connection.session.ip = ip ∧
          next.connections.lookup entry.randomId = some connection := by
    intro deviceId ip entry online
    obtain ⟨connection, lookup, sameDevice, sameIp⟩ :=
      backed.session deviceId ip entry (stays deviceId ip entry online)
    exact ⟨connection, lookup, sameDevice, sameIp,
      sessions deviceId ip entry connection online lookup sameDevice sameIp⟩
  refine ⟨fun deviceId ip entry online => ?_,
    fun deviceId ip entry connection confirmation online lookup confirming => ?_,
    fun deviceId ip registered => ?_⟩
  · obtain ⟨connection, -, sameDevice, sameIp, kept⟩ := before deviceId ip entry online
    exact ⟨connection, kept, sameDevice, sameIp⟩
  · obtain ⟨known, knownBefore, -, -, kept⟩ := before deviceId ip entry online
    cases lookup.symm.trans kept
    exact backed.confirming deviceId ip entry connection confirmation
      (stays deviceId ip entry online) knownBefore confirming
  · obtain ⟨entry, connection, online, lookup, settled⟩ := registered
    obtain ⟨known, knownBefore, -, -, kept⟩ := before deviceId ip entry online
    cases lookup.symm.trans kept
    have registeredBefore : state.Registered deviceId ip :=
      ⟨entry, connection, stays deviceId ip entry online, knownBefore, settled⟩
    exact rows deviceId ip registeredBefore (backed.row deviceId ip registeredBefore)

/-- Storing a connection again with the same session keeps the devices backed when, for a device
that is connected through it, its confirmation is right and its row is when it is settled. -/
theorem Backed.insert (backed : state.Backed) {randomId : RandomId} {connection new : Connection}
    {database : Database} (known : state.connections.lookup randomId = some connection)
    (sameDevice : new.session.deviceId = connection.session.deviceId)
    (sameIp : new.session.ip = connection.session.ip)
    (confirming : ∀ deviceId ip entry confirmation, state.network.Online deviceId ip entry →
      entry.randomId = randomId → new.confirmation = some confirmation →
        (∃ read record, confirmation = .saving read record ∧ record.deviceId = deviceId ∧
          record.ip = some ip) ∨ ∃ written, confirmation = .returned written)
    (own : ∀ deviceId ip entry, state.network.Online deviceId ip entry →
      entry.randomId = randomId → Connection.Settled new →
        database.stored state.network.networkCode deviceId = some ip ∨
          Awaited state.saves deviceId ip)
    (rows : ∀ deviceId ip, state.Registered deviceId ip →
      (state.database.stored state.network.networkCode deviceId = some ip ∨
        Awaited state.saves deviceId ip) →
          database.stored state.network.networkCode deviceId = some ip ∨
            Awaited state.saves deviceId ip) :
    Backed { state with
      database := database, connections := state.connections.insert randomId new } := by
  have kept : ∀ other, other ≠ randomId →
      (state.connections.insert randomId new).lookup other = state.connections.lookup other :=
    fun other different => AList.lookup_insert_ne different
  refine ⟨fun deviceId ip entry online => ?_,
    fun deviceId ip entry found confirmation online lookup isConfirming => ?_,
    fun deviceId ip registered => ?_⟩
  · obtain ⟨found, lookup, isDevice, isIp⟩ := backed.session deviceId ip entry online
    by_cases same : entry.randomId = randomId
    · rw [same] at lookup ⊢
      cases known.symm.trans lookup
      exact ⟨new, AList.lookup_insert _, sameDevice.trans isDevice, sameIp.trans isIp⟩
    · exact ⟨found, (kept _ same).trans lookup, isDevice, isIp⟩
  · by_cases same : entry.randomId = randomId
    · rw [same] at lookup
      cases (AList.lookup_insert _).symm.trans lookup
      exact confirming deviceId ip entry confirmation online same isConfirming
    · exact backed.confirming deviceId ip entry found confirmation online
        ((kept _ same).symm.trans lookup) isConfirming
  · obtain ⟨entry, found, online, lookup, settled⟩ := registered
    by_cases same : entry.randomId = randomId
    · rw [same] at lookup
      cases (AList.lookup_insert _).symm.trans lookup
      exact own deviceId ip entry online same settled
    · have registeredBefore : state.Registered deviceId ip :=
        ⟨entry, found, online, (kept _ same).symm.trans lookup, settled⟩
      exact rows deviceId ip registeredBefore (backed.row deviceId ip registeredBefore)

/-! ### Rows -/

variable {deviceId : String} {ip : Ipv4Addr}

theorem stored_executeIf_of_ne {database : Database} {succeeds : Bool} {statement : Statement}
    {networkCode : String} (different : (deviceId, networkCode) ≠ statement.key) :
    (executeIf database succeeds statement).stored networkCode deviceId =
      database.stored networkCode deviceId := by
  unfold executeIf
  split
  · exact database.stored_execute_of_ne statement different
  · rfl

/-- A statement that takes the address out of a row leaves the others, and is not run or followed
by a save. -/
theorem row_of_removal {succeeds : Bool} {statement : Statement} {target : String}
    (key : statement.key = (target, state.network.networkCode))
    (spares : succeeds = true → ∀ ip, state.Registered target ip → Awaited state.saves target ip)
    (registered : state.Registered deviceId ip)
    (row : state.database.stored state.network.networkCode deviceId = some ip ∨
      Awaited state.saves deviceId ip) :
    (executeIf state.database succeeds statement).stored state.network.networkCode deviceId =
        some ip ∨ Awaited state.saves deviceId ip := by
  by_cases same : deviceId = target
  · cases succeeds with
    | true => exact .inr (same ▸ spares rfl ip (same ▸ registered))
    | false => exact row
  · rw [stored_executeIf_of_ne]
    · exact row
    · rw [key]
      exact fun equal => same (Prod.mk.inj equal).1

/-- A save that runs leaves the other rows, and stores the address of its device when no other
save does. -/
theorem row_of_save {index : Nat} {succeeds : Bool} {save : Save}
    (waiting : state.saves[index]? = some save)
    (code : (save.record state.heap state.network.networkCode).networkCode =
      state.network.networkCode)
    (spares : state.SparesRegistered (.runSave index succeeds))
    (registered : state.Registered deviceId ip)
    (row : state.database.stored state.network.networkCode deviceId = some ip ∨
      Awaited state.saves deviceId ip) :
    (executeIf state.database succeeds
        (.saveOrUpdateDevice (save.record state.heap state.network.networkCode))).stored
          state.network.networkCode deviceId = some ip ∨
      Awaited (state.saves.eraseIdx index) deviceId ip := by
  have target := save.target_eq state.heap state.network.networkCode
  by_cases same : deviceId = save.target.1
  · subst same
    rcases spares save waiting ip registered with later | now
    · exact .inr later
    · refine .inl ?_
      cases succeeds with
      | true =>
        have stores := state.database.stored_save
          (save.record state.heap state.network.networkCode)
        rw [code] at stores
        rw [target] at now ⊢
        exact stores.trans now
      | false => exact now
  · rw [stored_executeIf_of_ne]
    · refine row.imp_right ?_
      rintro ⟨other, member, isTarget⟩
      obtain ⟨place, found⟩ := List.mem_iff_getElem?.mp member
      have elsewhere : place ≠ index := by
        rintro rfl
        cases found.symm.trans waiting
        exact same (congrArg Prod.fst isTarget).symm
      exact ⟨other, List.mem_eraseIdx_iff_getElem?.mpr ⟨place, elsewhere, found⟩, isTarget⟩
    · rw [target] at same
      exact fun equal => same (Prod.mk.inj equal).1

/-! ### Steps -/

/-- A device that is connected through a session is the one of the session. -/
theorem Backed.deviceId_eq (backed : state.Backed) {connection : Connection} {entry : DeviceEntry}
    (known : state.connections.lookup entry.randomId = some connection)
    (online : state.network.Online deviceId ip entry) :
    connection.session.deviceId = deviceId := by
  obtain ⟨found, lookup, sameDevice, -⟩ := backed.session deviceId ip entry online
  cases known.symm.trans lookup
  exact sameDevice

/-- The connection of a device that stays online is not the one that closes. -/
theorem Backed.lookup_close (backed : state.Backed) {randomId : RandomId}
    {connection found : Connection} {entry : DeviceEntry}
    (known : state.connections.lookup randomId = some connection)
    (online : state.network.Online deviceId ip entry)
    (different : deviceId ≠ connection.session.deviceId)
    (lookup : state.connections.lookup entry.randomId = some found) :
    (state.connections.erase randomId).lookup entry.randomId = some found := by
  refine (AList.lookup_erase_ne ?_).trans lookup
  rintro rfl
  exact different (backed.deviceId_eq known online).symm

/-- A confirmation reads the entry of the device, whose address it will write. -/
theorem Backed.confirmationRead (backed : state.Backed) (keyed : state.network.leaseState.Keyed)
    {randomId : RandomId} {connection : Connection} {entry : DeviceEntry}
    (known : state.connections.lookup randomId = some connection)
    (found : state.network.getDeviceEntry connection.session.deviceId = some entry) :
    Backed { state with
      connections := state.connections.insert randomId { connection with
        confirmation := some (.saving entry
          (entry.toRecord state.heap connection.session.networkCode)) } } := by
  refine backed.insert known rfl rfl ?_ ?_ fun _ _ _ row => row
  · rintro deviceId ip online confirmation isOnline rfl ⟨⟩
    have isDevice := backed.deviceId_eq known isOnline
    subst isDevice
    cases found.symm.trans isOnline.1
    exact .inl ⟨entry, _, rfl, keyed _ _ found, isOnline.2.2⟩
  · rintro deviceId ip online isOnline rfl (confirmed | ⟨written, impossible⟩)
    · exact backed.row deviceId ip ⟨online, connection, isOnline, known, .inl confirmed⟩
    · cases impossible

/-- A confirmation writes the address of the device, and no other device loses its row. -/
theorem Backed.confirmationSaved (backed : state.Backed) {randomId : RandomId}
    {connection : Connection} {entry : DeviceEntry} {record : DeviceRecord}
    (known : state.connections.lookup randomId = some connection)
    (saving : connection.confirmation = some (.saving entry record))
    (code : record.networkCode = state.network.networkCode)
    (spares : ∀ ip, state.Registered record.deviceId ip →
      record.ip = some ip ∨ Awaited state.saves record.deviceId ip) :
    Backed { state with
      database := state.database.execute (.saveOrUpdateDevice record)
      connections := state.connections.insert randomId { connection with
        confirmation := some (.returned (some (entry, record))) } } := by
  have stores := state.database.stored_save record
  rw [code] at stores
  refine backed.insert known rfl rfl ?_ ?_ ?_
  · rintro deviceId ip online confirmation isOnline - ⟨⟩
    exact .inr ⟨_, rfl⟩
  · rintro deviceId ip online isOnline rfl -
    rcases backed.confirming deviceId ip online connection _ isOnline known saving with
      ⟨read, written, same, rfl, isIp⟩ | ⟨written, impossible⟩
    · cases same
      exact .inl (stores.trans isIp)
    · cases impossible
  · intro deviceId ip registered row
    by_cases same : deviceId = record.deviceId
    · subst same
      rcases spares ip registered with isIp | awaited
      · exact .inl (stores.trans isIp)
      · exact .inr awaited
    · rw [state.database.stored_execute_of_ne]
      · exact row
      · exact fun equal => same (Prod.mk.inj equal).1

/-- A registration leaves the other devices as they are, and a normal one leaves its row to a
save. -/
theorem Backed.registered (backed : state.Backed) (tracked : state.Tracked)
    (keyed : state.network.leaseState.Keyed) {req : RegRequestMsg} {randomId : RandomId}
    {sender : Sender} {now : SystemTime} {table : NetworkStateInner} {given : Ipv4Addr}
    {old : Option Ipv4Addr} (fresh : randomId ∉ state.usedIds)
    (allocation : NetworkStateInner.Allocation state.network.leaseState state.network.net
      state.network.gateway req randomId now state.heap.length (table, given, old)) :
    (state.enroll req randomId
      (state.network.installAddress table req.deviceId given old sender)
      (Session.new req given randomId sender)
      (table.deviceMap.lookup req.deviceId)).Backed := by
  obtain ⟨stored, known, holds, sameId, connected, -⟩ := allocation.entry
  have others : ∀ deviceId ip entry, deviceId ≠ req.deviceId →
      (state.network.installAddress table req.deviceId given old sender).Online deviceId ip entry →
        state.network.Online deviceId ip entry := by
    rintro deviceId ip entry different ⟨lookup, online⟩
    exact ⟨(allocation.lookup_other different).symm.trans lookup, online⟩
  have own : ∀ ip entry,
      (state.network.installAddress table req.deviceId given old sender).Online req.deviceId ip
        entry → entry = stored ∧ ip = given := by
    rintro ip entry ⟨lookup, -, isIp⟩
    cases known.symm.trans lookup
    exact ⟨rfl, Option.some.inj (isIp.symm.trans holds)⟩
  have kept : ∀ deviceId ip entry connection, state.network.Online deviceId ip entry →
      state.connections.lookup entry.randomId = some connection →
        (state.connections.insert randomId ⟨Session.new req given randomId sender, none⟩).lookup
          entry.randomId = some connection := by
    intro deviceId ip entry connection _ lookup
    refine (AList.lookup_insert_ne ?_).trans lookup
    rintro rfl
    exact fresh (tracked.session _ _ lookup).2.1
  have isNew : (state.connections.insert randomId
      ⟨Session.new req given randomId sender, none⟩).lookup stored.randomId =
        some ⟨Session.new req given randomId sender, none⟩ := by
    rw [sameId]
    exact AList.lookup_insert _
  refine ⟨fun deviceId ip entry online => ?_,
    fun deviceId ip entry connection confirmation online lookup confirming => ?_,
    fun deviceId ip registered => ?_⟩
  · by_cases same : deviceId = req.deviceId
    · subst same
      obtain ⟨rfl, rfl⟩ := own ip entry online
      exact ⟨_, isNew, rfl, rfl⟩
    · have before := others deviceId ip entry same online
      obtain ⟨connection, lookup, sameDevice, sameIp⟩ := backed.session deviceId ip entry before
      exact ⟨connection, kept deviceId ip entry connection before lookup, sameDevice, sameIp⟩
  · by_cases same : deviceId = req.deviceId
    · subst same
      obtain ⟨rfl, rfl⟩ := own ip entry online
      cases isNew.symm.trans lookup
      cases confirming
    · have before := others deviceId ip entry same online
      obtain ⟨found, knownBefore, -⟩ := backed.session deviceId ip entry before
      cases (kept deviceId ip entry found before knownBefore).symm.trans lookup
      exact backed.confirming deviceId ip entry _ confirmation before knownBefore confirming
  · obtain ⟨entry, connection, online, lookup, settled⟩ := registered
    by_cases same : deviceId = req.deviceId
    · subst same
      obtain ⟨rfl, rfl⟩ := own ip entry online
      cases isNew.symm.trans lookup
      have normal : req.registrationMode = .normal := by
        rcases settled with confirmed | ⟨written, nothing⟩
        · cases mode : req.registrationMode with
          | normal => rfl
          | preRegister =>
            unfold Session.new at confirmed
            rw [mode] at confirmed
            cases confirmed
        · cases nothing
      refine .inr ⟨.ofEntry entry, ?_, ?_⟩
      · unfold enroll
        rw [normal, known]
        exact List.mem_append_right _ List.mem_cons_self
      · exact Prod.ext (keyed.allocation allocation _ _ known) holds
    · have before := others deviceId ip entry same online
      obtain ⟨found, knownBefore, -⟩ := backed.session deviceId ip entry before
      cases (kept deviceId ip entry found before knownBefore).symm.trans lookup
      have row := backed.row deviceId ip ⟨entry, _, before, knownBefore, settled⟩
      rw [enroll_network, NetworkState.installAddress_networkCode]
      refine row.imp id fun awaited => ?_
      unfold enroll
      dsimp only
      split
      · exact awaited.append _
      · exact awaited

/-- A loaded network has no device online. -/
theorem backed_load {database : Database} {networkCode : String} {net : Ipv4Net}
    {leaseDuration : Nat} {usedIds : List RandomId} {now : SystemTime} {answered : Bool}
    (loaded : load database networkCode net leaseDuration usedIds now answered = some next) :
    next.Backed := by
  have offline : ∀ deviceId ip entry, ¬next.network.Online deviceId ip entry := by
    intro deviceId ip entry online
    obtain ⟨gateway, -, network, -⟩ := load_eq_some loaded
    rw [network] at online
    obtain ⟨record, -, counters, -, rfl⟩ :=
      NetworkStateInner.lookup_buildInitialInnerState online.1
    cases online.2.1
  exact ⟨fun deviceId ip entry online => absurd online (offline deviceId ip entry),
    fun deviceId ip entry _ _ online => absurd online (offline deviceId ip entry),
    fun deviceId ip ⟨entry, _, online, _⟩ => absurd online (offline deviceId ip entry)⟩

theorem ownCode_load {database : Database} {networkCode : String} {net : Ipv4Net}
    {leaseDuration : Nat} {usedIds : List RandomId} {now : SystemTime} {answered : Bool}
    (loaded : load database networkCode net leaseDuration usedIds now answered = some next) :
    next.OwnCode := by
  obtain ⟨gateway, -, -, -, connections, saves, -⟩ := load_eq_some loaded
  refine ⟨fun record member => ?_, fun randomId connection entry record known => ?_⟩
  · rw [saves] at member
    cases member
  · rw [connections] at known
    simp at known

/-- What a closed connection leaves behind is a record of this network. -/
theorem OwnCode.abandoned (own : state.OwnCode) {randomId : RandomId} {connection : Connection}
    {sent : Bool} {record : DeviceRecord}
    (known : state.connections.lookup randomId = some connection)
    (member : Save.ofRecord record ∈ state.saves ++ ControlService.abandoned connection sent) :
    record.networkCode = state.network.networkCode := by
  rcases List.mem_append.mp member with before | left
  · exact own.save record before
  · unfold ControlService.abandoned at left
    split at left
    · next entry written saving =>
      split at left
      · cases List.mem_singleton.mp left
        exact own.confirmation randomId connection entry record known saving
      · cases left
    · cases left

theorem OwnCode.insert (own : state.OwnCode) {randomId : RandomId} {new : Connection}
    (written : ∀ entry record, new.confirmation = some (.saving entry record) →
      record.networkCode = state.network.networkCode) (other : RandomId) (connection : Connection)
    (entry : DeviceEntry) (record : DeviceRecord)
    (lookup : (state.connections.insert randomId new).lookup other = some connection)
    (saving : connection.confirmation = some (.saving entry record)) :
    record.networkCode = state.network.networkCode := by
  rcases lookup_connection_insert lookup with ⟨rfl, rfl⟩ | before
  · exact written entry record saving
  · exact own.confirmation other connection entry record before saving

theorem OwnCode.step (own : state.OwnCode) (tracked : state.Tracked)
    (effect : Effect state event next) : next.OwnCode := by
  have erased : ∀ {randomId : RandomId} other connection entry record,
      (state.connections.erase randomId).lookup other = some connection →
        connection.confirmation = some (.saving entry record) →
          record.networkCode = state.network.networkCode :=
    fun other connection entry record lookup =>
      own.confirmation other connection entry record (lookup_connection_erase lookup).2
  cases effect with
  | registered req randomId sender now table ip old sameNetwork fresh allocation =>
    refine ⟨fun record member => ?_, fun other connection entry record lookup saving => ?_⟩
    · rw [enroll_network, NetworkState.installAddress_networkCode]
      rcases mem_saves_enroll member with before | ⟨stored, -, impossible⟩
      · exact own.save record before
      · cases impossible
    · rw [enroll_network, NetworkState.installAddress_networkCode]
      refine own.insert ?_ other connection entry record lookup saving
      rintro _ _ ⟨⟩
  | wentOffline randomId connection now sent entry known current =>
    refine ⟨fun record member => ?_, erased⟩
    rcases List.mem_append.mp member with before | new
    · exact own.abandoned known before
    · cases List.mem_singleton.mp new
      rfl
  | aborted randomId connection now sent entry known current =>
    exact ⟨fun record member => own.abandoned known member, erased⟩
  | superseded randomId connection now sent known stale =>
    exact ⟨fun record member => own.abandoned known member, erased⟩
  | confirmationRead randomId connection entry known found =>
    refine ⟨own.save, own.insert fun read record saving => ?_⟩
    cases saving
    exact (tracked.session randomId connection known).2.2
  | confirmationSkipped randomId connection known unknown =>
    exact ⟨own.save, own.insert fun _ _ impossible => nomatch impossible⟩
  | confirmationSaved randomId connection entry record known saving =>
    exact ⟨own.save, own.insert fun _ _ impossible => nomatch impossible⟩
  | confirmationFailed randomId connection known =>
    exact ⟨own.save, own.insert fun _ _ impossible => nomatch impossible⟩
  | marked randomId connection written known returned =>
    exact ⟨own.save, own.insert fun _ _ impossible => nomatch impossible⟩
  | saved index succeeds save waiting =>
    exact ⟨fun record member => own.save record (List.mem_of_mem_eraseIdx member),
      own.confirmation⟩
  | deletedFromMemory deviceId deletions =>
    refine ⟨fun record member => ?_, fun other connection entry record lookup saving => ?_⟩
    · rw [NetworkState.removeDeviceFromMemory_networkCode]
      exact own.save record member
    · rw [NetworkState.removeDeviceFromMemory_networkCode]
      exact own.confirmation other connection entry record lookup saving
  | restarted now answered next loaded => exact ownCode_load loaded
  | _ => exact ⟨own.save, own.confirmation⟩

/-- Every event of a guarded run keeps the connected devices backed. -/
theorem Backed.step (backed : state.Backed) (own : state.OwnCode) (tracked : state.Tracked)
    (keyed : state.network.leaseState.Keyed) (spares : state.SparesRegistered event)
    (enabled : state.step event = some next) (effect : Effect state event next) : next.Backed := by
  cases effect with
  | registered req randomId sender now table ip old sameNetwork fresh allocation =>
    exact backed.registered tracked keyed fresh allocation
  | wentOffline randomId connection now sent entry known current =>
    refine backed.frame (fun deviceId ip found online => (online_of_wentOffline online).2) ?_ ?_
    · intro deviceId ip found other online lookup _ _
      obtain ⟨different, before⟩ := online_of_wentOffline online
      exact backed.lookup_close known before different lookup
    · exact fun deviceId ip _ row => row.imp_right fun awaited =>
        (awaited.append _).append _
  | aborted randomId connection now sent entry known current =>
    refine backed.frame (fun deviceId ip found online => (online_of_removeEntry online).2) ?_ ?_
    · intro deviceId ip found other online lookup _ _
      obtain ⟨different, before⟩ := online_of_removeEntry online
      exact backed.lookup_close known before different lookup
    · exact fun deviceId ip _ row => row.imp_right fun awaited => awaited.append _
  | superseded randomId connection now sent known stale =>
    refine backed.frame (fun _ _ _ online => online) ?_
      fun deviceId ip _ row => row.imp_right fun awaited => awaited.append _
    intro deviceId ip entry found online lookup sameDevice sameIp
    exact tracked.lookup_erase_of_stale known stale online lookup sameDevice sameIp
  | confirmationRead randomId connection entry known found =>
    exact backed.confirmationRead keyed known found
  | confirmationSkipped randomId connection known unknown =>
    have nobody : ∀ {deviceId ip online}, state.network.Online deviceId ip online →
        online.randomId ≠ randomId := by
      rintro deviceId ip online isOnline rfl
      have isDevice := backed.deviceId_eq known isOnline
      subst isDevice
      cases unknown.symm.trans isOnline.1
    exact backed.insert known rfl rfl
      (fun deviceId ip online _ isOnline sameId => absurd sameId (nobody isOnline))
      (fun deviceId ip online isOnline sameId => absurd sameId (nobody isOnline))
      fun _ _ _ row => row
  | confirmationSaved randomId connection entry record known saving =>
    exact backed.confirmationSaved known saving
      (own.confirmation randomId connection entry record known saving)
      (spares rfl connection entry record known saving)
  | confirmationFailed randomId connection known =>
    refine backed.insert known rfl rfl (fun _ _ _ _ _ _ impossible => nomatch impossible) ?_
      fun _ _ _ row => row
    rintro deviceId ip online isOnline rfl (confirmed | ⟨written, impossible⟩)
    · exact backed.row deviceId ip ⟨online, connection, isOnline, known, .inl confirmed⟩
    · cases impossible
  | marked randomId connection written known returned =>
    refine backed.insert known rfl rfl (fun _ _ _ _ _ _ impossible => nomatch impossible) ?_
      fun _ _ _ row => row
    rintro deviceId ip online isOnline rfl -
    exact backed.row deviceId ip ⟨online, connection, isOnline, known, .inr ⟨written, returned⟩⟩
  | saved index succeeds save waiting =>
    have code : (save.record state.heap state.network.networkCode).networkCode =
        state.network.networkCode := by
      cases save with
      | ofEntry entry => rfl
      | ofRecord record => exact own.save record (List.mem_of_getElem? waiting)
    exact backed.frame (fun _ _ _ online => online) (fun _ _ _ _ _ lookup _ _ => lookup)
      fun deviceId ip registered row => row_of_save waiting code spares registered row
  | expired deviceIds collected =>
    exact backed.frame (fun _ _ _ online => online_of_removeDevices online)
      (fun _ _ _ _ _ lookup _ _ => lookup) fun _ _ _ row => row
  | released succeeds deviceId rest =>
    simp only [step, releaseExpired] at enabled
    split at enabled
    · next first later releasing =>
      rw [← Option.some.inj enabled]
      exact backed.frame (fun _ _ _ online => online) (fun _ _ _ _ _ lookup _ _ => lookup)
        fun other ip registered row =>
          row_of_removal rfl (fun run => spares run first later releasing) registered row
    · rw [← Option.some.inj enabled]
      exact ⟨backed.session, backed.confirming, backed.row⟩
    · cases enabled
  | deletedFromMemory deviceId deletions =>
    refine backed.frame (fun _ _ _ online => (online_of_removeDeviceFromMemory online).2)
      (fun _ _ _ _ _ lookup _ _ => lookup) fun deviceId ip _ row => ?_
    rw [NetworkState.removeDeviceFromMemory_networkCode]
    exact row
  | deletedRow deviceId succeeds deletions =>
    exact backed.frame (fun _ _ _ online => online) (fun _ _ _ _ _ lookup _ _ => lookup)
      fun other ip registered row => row_of_removal rfl spares registered row
  | otherNetwork statement foreign =>
    refine backed.frame (fun _ _ _ online => online) (fun _ _ _ _ _ lookup _ _ => lookup)
      fun deviceId ip _ row => ?_
    rw [state.database.stored_execute_of_ne]
    · exact row
    · exact fun equal => foreign (congrArg Prod.snd equal).symm
  | restarted now answered next loaded => exact backed_load loaded
  | _ => exact ⟨backed.session, backed.confirming, backed.row⟩

/-- Every connected device has an address. -/
def Addressed (state : ControlService) : Prop :=
  ∀ deviceId entry, state.network.getDeviceEntry deviceId = some entry →
    entry.isConnected = true → ∃ ip, entry.ip = some ip

theorem Addressed.step (addressed : state.Addressed) (effect : Effect state event next) :
    next.Addressed := by
  cases effect with
  | registered req randomId sender now table ip old sameNetwork fresh allocation =>
    intro deviceId entry known connected
    obtain ⟨stored, isStored, holds, -⟩ := allocation.entry
    by_cases same : deviceId = req.deviceId
    · subst same
      cases isStored.symm.trans known
      exact ⟨_, holds⟩
    · exact addressed deviceId entry ((allocation.lookup_other same).symm.trans known) connected
  | wentOffline randomId connection now sent entry known current =>
    intro deviceId found lookup connected
    have before := (NetworkState.getDeviceEntry_wentOffline ..).symm.trans lookup
    split at before
    · cases before
      cases connected
    · exact addressed deviceId found before connected
  | aborted randomId connection now sent entry known current =>
    intro deviceId found lookup connected
    have before := (NetworkStateInner.lookup_removeEntry ..).symm.trans lookup
    split at before
    · cases before
    · exact addressed deviceId found before connected
  | expired deviceIds collected =>
    intro deviceId found lookup connected
    have before := (NetworkStateInner.lookup_removeDevices ..).symm.trans lookup
    split at before
    · cases before
    · exact addressed deviceId found before connected
  | deletedFromMemory deviceId deletions =>
    intro other found lookup connected
    rw [NetworkState.getDeviceEntry_removeDeviceFromMemory] at lookup
    split at lookup
    · cases lookup
    · exact addressed other found lookup connected
  | restarted now answered next loaded =>
    intro deviceId entry known connected
    obtain ⟨gateway, -, network, -⟩ := load_eq_some loaded
    rw [network] at known
    obtain ⟨record, -, counters, -, rfl⟩ :=
      NetworkStateInner.lookup_buildInitialInnerState known
    cases connected
  | _ => exact addressed

/-- A guarded step takes the entry of no connected device. -/
theorem Backed.entriesKept (backed : state.Backed) (addressed : state.Addressed)
    (tracked : state.Tracked) (spares : state.SparesRegistered event) :
    state.EntriesKept event := by
  intro next enabled deviceId entry known connected
  obtain ⟨ip, holds⟩ := addressed deviceId entry known connected
  obtain ⟨own, isOwn, -⟩ := backed.session deviceId ip entry ⟨known, connected, holds⟩
  have inSession : state.InSession deviceId :=
    ⟨entry, known, Option.isSome_iff_exists.mpr ⟨own, isOwn⟩⟩
  have stays : state.network.getDeviceEntry deviceId ≠ none := by
    rw [known]
    exact Option.some_ne_none entry
  cases step_effect enabled with
  | registered req randomId sender now table given old sameNetwork fresh allocation =>
    refine .inl fun missing => ?_
    obtain ⟨stored, isStored, -⟩ := allocation.entry
    by_cases same : deviceId = req.deviceId
    · subst same
      cases isStored.symm.trans missing
    · exact stays ((allocation.lookup_other same).symm.trans missing)
  | wentOffline randomId connection now sent found lookup current =>
    refine .inl fun missing => ?_
    have before := (NetworkState.getDeviceEntry_wentOffline ..).symm.trans missing
    split at before
    · cases before
    · exact stays before
  | aborted randomId connection now sent found lookup current =>
    by_cases same : deviceId = connection.session.deviceId
    · subst same
      cases known.symm.trans current.1
      exact .inr ((tracked.session _ _ lookup).1.symm.trans current.2.1.symm)
    · refine .inl fun missing => stays ?_
      have before := (NetworkStateInner.lookup_removeEntry ..).symm.trans missing
      rwa [if_neg same] at before
  | expired deviceIds collected =>
    refine .inl fun missing => stays ?_
    have before := (NetworkStateInner.lookup_removeDevices ..).symm.trans missing
    rwa [if_neg fun member => spares deviceIds collected deviceId member inSession] at before
  | deletedFromMemory removed deletions =>
    refine .inl fun missing => stays ?_
    have different : deviceId ≠ removed := by
      rintro rfl
      exact spares inSession
    rwa [NetworkState.getDeviceEntry_removeDeviceFromMemory, if_neg different] at missing
  | restarted now answered next loaded => exact .inr trivial
  | _ => exact .inl stays

/-! ### Runs -/

/-- What every step of a guarded run keeps. -/
structure Spared (state : ControlService) : Prop where
  backed : state.Backed
  own : state.OwnCode
  addressed : state.Addressed
  tracked : state.Tracked
  keyed : state.network.leaseState.Keyed

theorem Spared.step (spared : state.Spared) (spares : state.SparesRegistered event)
    (enabled : machine.step state event = some next) : next.Spared := by
  have effect := step_effect enabled
  exact ⟨spared.backed.step spared.own spared.tracked spared.keyed spares enabled effect,
    spared.own.step spared.tracked effect, spared.addressed.step effect,
    spared.tracked.step effect, keyed_step spared.keyed effect⟩

theorem spared_load {database : Database} {networkCode : String} {net : Ipv4Net}
    {leaseDuration : Nat} {usedIds : List RandomId} {now : SystemTime} {answered : Bool}
    (loaded : load database networkCode net leaseDuration usedIds now answered = some state) :
    state.Spared := by
  obtain ⟨gateway, -, network, -⟩ := load_eq_some loaded
  refine ⟨backed_load loaded, ownCode_load loaded, fun deviceId entry known connected => ?_,
    tracked_load loaded, ?_⟩
  · rw [network] at known
    obtain ⟨record, -, counters, -, rfl⟩ := NetworkStateInner.lookup_buildInitialInnerState known
    cases connected
  · rw [network]
    exact NetworkStateInner.keyed_buildInitialInnerState _

theorem Backed.rowsKept (backed : state.Backed) : state.RowsKept := by
  intro finished deviceId ip entry online
  obtain ⟨connection, lookup, -⟩ := backed.session deviceId ip entry online
  have settled : Connection.Settled connection := .inl (finished.confirmed _ connection lookup)
  rcases backed.row deviceId ip ⟨entry, connection, online, lookup, settled⟩ with
    stored | ⟨save, member, -⟩
  · exact stored
  · rw [finished.saves] at member
    cases member

/-- In every guarded run from a start, no step takes the entry of a connected device, and when
nothing is under way, every connected device has its address in the database. -/
theorem removalsSpare_throughout {database : Database} {networkCode : String} {net : Ipv4Net}
    {leaseDuration : Nat} {now : SystemTime} {answered : Bool} {events : List ServiceEvent}
    (loaded : load database networkCode net leaseDuration [] now answered = some state)
    (guarded : machine.Guarded SparesRegistered state events) :
    machine.Guarded EntriesKept state events ∧ machine.Throughout RowsKept state events := by
  have kept : ∀ state event next, Spared state → state.SparesRegistered event →
      machine.step state event = some next → next.Spared :=
    fun _ _ _ spared spares enabled => spared.step spares enabled
  refine ⟨guarded.imp kept (fun state event spared spares => ?_) (spared_load loaded), ?_⟩
  · exact spared.backed.entriesKept spared.addressed spared.tracked spares
  · exact (guarded.throughout kept (spared_load loaded)).mono fun state spared =>
      spared.backed.rowsKept

/-- A device registers, its save runs, the sweep finds nothing and a deletion is refused. -/
def quietRun : List ServiceEvent :=
  [.register (NetworkState.exampleRequest "a" none false) 1 0 0, .runSave 0 true,
    .collectExpired 1, .deleteCheck "a"]

theorem removalsSpare_quietRun :
    machine.Guarded EntriesKept exampleService quietRun ∧
      machine.Throughout RowsKept exampleService quietRun := by
  have loaded : load .empty "net" NetworkState.exampleNet 86400000000000 [] 0 true =
      some exampleService := rfl
  refine removalsSpare_throughout loaded ⟨trivial, fun next enabled => ⟨?_, fun _ _ =>
    ⟨trivial, fun _ _ => ⟨trivial, fun _ _ => trivial⟩⟩⟩⟩
  cases Option.some.inj enabled
  intro save waiting ip ⟨entry, connection, online, lookup, settled⟩
  cases Option.some.inj waiting
  refine .inr ?_
  cases Option.some.inj online.1
  exact online.2.2

/-- The device leaves and stays away until its lease ends, and the sweep finds it. -/
def expiredRun : List ServiceEvent :=
  [.register (NetworkState.exampleRequest "a" none false) 1 0 0, .runSave 0 true,
    .dropSession 1 1 false, .runSave 0 true, .collectExpired 86400000000002]

/-- It comes back before the sweep drops it from memory. -/
def returnsBeforeDrop : List ServiceEvent :=
  expiredRun ++ [.register (NetworkState.exampleRequest "a" none false) 2 1 86400000000003]

/-- It comes back after the sweep dropped it from memory and before its row is released. -/
def returnsBeforeRelease : List ServiceEvent :=
  expiredRun ++ [.removeExpired,
    .register (NetworkState.exampleRequest "a" none false) 2 1 86400000000003, .runSave 0 true,
    .releaseExpired true, .releaseExpired true]

/-- In the one run the sweep takes the entry of the connected device, and the other run leaves the
connected device without an address in the database. -/
theorem not_removalsSpare_returns :
    ¬machine.Guarded EntriesKept exampleService (returnsBeforeDrop ++ [.removeExpired]) ∧
      ¬machine.Throughout RowsKept exampleService returnsBeforeRelease := by
  refine ⟨fun guarded => ?_, fun throughout => ?_⟩
  · have reaches : ∃ before after entry,
        machine.run exampleService returnsBeforeDrop = some before ∧
          machine.step before .removeExpired = some after ∧
            before.network.getDeviceEntry "a" = some entry ∧ entry.isConnected = true ∧
              after.network.getDeviceEntry "a" = none :=
      ⟨_, _, _, rfl, rfl, rfl, by decide, by decide⟩
    obtain ⟨before, after, entry, isBefore, enabled, known, connected, missing⟩ := reaches
    rcases (guarded.of_run isBefore).1 after enabled "a" entry known connected with kept | ends
    · exact kept missing
    · exact ends
  · have reaches : ∃ final entry, machine.run exampleService returnsBeforeRelease = some final ∧
        final.saves = [] ∧ final.sweep = .idle ∧ final.deletions = [] ∧
          (∀ opened ∈ final.connections.entries,
            opened.2.session.registrationStatus = .confirmed) ∧
          final.network.Online "a" 0x0A1A0002 entry ∧
          final.database.stored final.network.networkCode "a" = none :=
      ⟨_, _, rfl, rfl, rfl, rfl, by decide, ⟨rfl, by decide, by decide⟩, by decide⟩
    obtain ⟨final, entry, isFinal, saves, sweep, deletions, confirmed, online, missing⟩ := reaches
    have finished : final.Finished := ⟨saves, sweep, deletions, fun randomId connection lookup =>
      confirmed ⟨randomId, connection⟩ ((Map.mem_entries_iff _ _ _).mpr lookup)⟩
    cases missing.symm.trans (throughout.final isFinal finished "a" _ entry online)

end ControlService

end Vnt.Server
