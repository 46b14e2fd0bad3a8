/-
This file embeds the control service of one network as a machine. Its state is the network
state, the device table of the database, the live connections with their sessions, and the
operations that are under way: spawned saves, confirmations that wait for the database, aborts
that still have to drop a sender or counters, the cleanup sweep and the deletions. Every
critical section of the lease table, every operation on one of the two address maps and every
statement of the database is one event, so a list of events is one interleaving. A statement
may fail, and a connection may close between any two events, in the middle of a confirmation
as well; a statement that was already sent to the database may then still run.
-/

import Vnt.Base.Machine
import Vnt.Server.Database

namespace Vnt.Server

open Vnt.Base

/-- A save that was spawned and has not run: the one of a registration holds a clone of the
entry and makes its record when it runs, the one of a closed session holds its record. -/
inductive Save where
  | ofEntry (entry : DeviceEntry)
  | ofRecord (record : DeviceRecord)
  deriving DecidableEq, Repr

/-- The record a spawned save stores. -/
def Save.record (heap : StatsHeap) (networkCode : String) : Save → DeviceRecord
  | .ofEntry entry => entry.toRecord heap networkCode
  | .ofRecord record => record

/-- How far `handle_confirm_reg` has come: it waits for the database with the record it made
from a clone of the entry, or `confirm_registration` has returned successfully, with what it
wrote or, when it found no entry, with nothing. -/
inductive Confirmation where
  | saving (entry : DeviceEntry) (record : DeviceRecord)
  | returned (written : Option (DeviceEntry × DeviceRecord))
  deriving DecidableEq, Repr

/-- A connection with a session. -/
structure Connection where
  session : Session
  confirmation : Option Confirmation
  deriving DecidableEq, Repr

/-- How far `release_expired_ips` has come. -/
inductive Sweep where
  | idle
  | collected (deviceIds : List String)
  | releasing (deviceIds : List String)
  deriving DecidableEq, Repr

/-- How far `delete_device` has come. -/
inductive Deletion where
  | checked (deviceId : String)
  | removed (deviceId : String)
  deriving DecidableEq, Repr

/-- The control service of one network. -/
structure ControlService where
  network : NetworkState
  database : Database
  heap : StatsHeap
  connections : Map RandomId Connection
  usedIds : List RandomId
  saves : List Save
  senderRemovals : List Ipv4Addr
  statsRemovals : List Ipv4Addr
  sweep : Sweep
  deletions : List Deletion

/-- One atomic step of one of the operations. The flag of a database step tells whether the
statement succeeds, the flag of `dropSession` whether a statement of an open confirmation has
reached the database, the flag of `restart` whether the database answers. -/
inductive ServiceEvent where
  | register (req : RegRequestMsg) (randomId : RandomId) (sender : Sender) (now : SystemTime)
  | dropSession (randomId : RandomId) (now : SystemTime) (sent : Bool)
  | removeSender (ip : Ipv4Addr)
  | removeStats (ip : Ipv4Addr)
  | confirmRead (randomId : RandomId)
  | confirmSave (randomId : RandomId) (succeeds : Bool)
  | confirmMark (randomId : RandomId)
  | runSave (index : Nat) (succeeds : Bool)
  | collectExpired (now : SystemTime)
  | removeExpired
  | releaseExpired (succeeds : Bool)
  | deleteCheck (deviceId : String)
  | deleteFromMemory (deviceId : String)
  | deleteRow (deviceId : String) (succeeds : Bool)
  | recordTraffic (heap : StatsHeap)
  | otherNetwork (statement : Statement)
  | restart (now : SystemTime) (answered : Bool)

namespace ControlService

/-- The service after a start: `new_from_db` on the rows of the network, and nothing under
way. -/
def load (database : Database) (networkCode : String) (net : Ipv4Net) (leaseDuration : Nat)
    (usedIds : List RandomId) (now : SystemTime) (answered : Bool) : Option ControlService :=
  let records := if answered then database.loadAllDevices networkCode else []
  (NetworkState.newFromDb networkCode net leaseDuration now 0 records).map fun network =>
    { network := network
      database := database
      heap := records.map fun record => ⟨record.txBytes, record.rxBytes⟩
      connections := ∅
      usedIds := usedIds
      saves := []
      senderRemovals := []
      statsRemovals := []
      sweep := .idle
      deletions := [] }

/-- The state after a registration that was given an address. -/
def enroll (state : ControlService) (req : RegRequestMsg) (randomId : RandomId)
    (network : NetworkState)
    (session : Session) (entry : Option DeviceEntry) : ControlService :=
  { state with
    network := network
    heap := state.heap ++ [TrafficStats.new]
    connections := state.connections.insert randomId ⟨session, none⟩
    usedIds := randomId :: state.usedIds
    saves :=
      match req.registrationMode, entry with
      | .normal, some entry => state.saves ++ [.ofEntry entry]
      | _, _ => state.saves }

@[simp] theorem enroll_network (state : ControlService) (req : RegRequestMsg)
    (randomId : RandomId) (network : NetworkState) (session : Session)
    (entry : Option DeviceEntry) :
    (state.enroll req randomId network session entry).network = network := rfl

/-- A registration spawns at most the save of the entry it stored. -/
theorem mem_saves_enroll {state : ControlService} {req : RegRequestMsg} {randomId : RandomId}
    {network : NetworkState} {session : Session} {entry : Option DeviceEntry} {save : Save}
    (member : save ∈ (state.enroll req randomId network session entry).saves) :
    save ∈ state.saves ∨ ∃ stored, entry = some stored ∧ save = .ofEntry stored := by
  unfold enroll at member
  dsimp only at member
  split at member
  · next stored mode =>
    rcases List.mem_append.mp member with before | new
    · exact .inl before
    · exact .inr ⟨stored, rfl, List.mem_singleton.mp new⟩
  · exact .inl member

/-- `ControlService::register`; the random number is one that was never drawn before. -/
def register (state : ControlService) (req : RegRequestMsg) (randomId : RandomId) (sender : Sender)
    (now : SystemTime) : Option ControlService :=
  if req.networkCode = state.network.networkCode ∧ randomId ∉ state.usedIds then
    match state.network.register req randomId sender now state.heap.length with
    | .ok (network, session, entry) => some (state.enroll req randomId network session entry)
    | .error _ => some state
  else none

/-- The save a confirmation leaves behind when its connection closes. -/
def abandoned (connection : Connection) (sent : Bool) : List Save :=
  match connection.confirmation with
  | some (.saving _ record) => if sent then [.ofRecord record] else []
  | _ => []

/-- The state after a connection is gone, before its session is dropped. -/
def close (state : ControlService) (randomId : RandomId) (connection : Connection)
    (sent : Bool) : ControlService :=
  { state with
    connections := state.connections.erase randomId
    saves := state.saves ++ abandoned connection sent }

/-- `Session::drop`, up to the point where the lock is given back. -/
def dropSession (state : ControlService) (randomId : RandomId) (connection : Connection)
    (now : SystemTime) (sent : Bool) : ControlService :=
  let closed := state.close randomId connection sent
  let session := connection.session
  match session.registrationStatus with
  | .confirmed =>
    match state.network.offlineIp state.heap session.deviceId session.ip session.randomId now with
    | (network, some record) =>
      { closed with network := network, saves := closed.saves ++ [.ofRecord record] }
    | (network, none) => { closed with network := network }
  | .pendingConfirmation =>
    match state.network.releaseLease session.deviceId session.ip session.randomId with
    | (network, true) =>
      { closed with network := network, senderRemovals := session.ip :: closed.senderRemovals }
    | (network, false) => { closed with network := network }

/-- The first part of `handle_confirm_reg`: check the session, read the entry and make its
record. -/
def confirmRead (state : ControlService) (randomId : RandomId) (connection : Connection) :
    Option ControlService :=
  if connection.session.registrationStatus = .pendingConfirmation ∧
      connection.confirmation = none then
    let confirmation : Confirmation :=
      match state.network.getDeviceEntry connection.session.deviceId with
      | some entry => .saving entry (entry.toRecord state.heap connection.session.networkCode)
      | none => .returned none
    some { state with
      connections := state.connections.insert randomId
        { connection with confirmation := some confirmation } }
  else none

/-- The statement of a confirmation; when it fails, the client is told and the session stays
as it was. -/
def confirmSave (state : ControlService) (randomId : RandomId) (connection : Connection)
    (succeeds : Bool) : Option ControlService :=
  match connection.confirmation with
  | some (.saving entry record) =>
    some (
      if succeeds then
        { state with
          database := state.database.execute (.saveOrUpdateDevice record)
          connections := state.connections.insert randomId
            { connection with confirmation := some (.returned (some (entry, record))) } }
      else
        { state with
          connections := state.connections.insert randomId
            { connection with confirmation := none } })
  | _ => none

/-- The last part of `handle_confirm_reg`: mark the session and reply success. -/
def confirmMark (state : ControlService) (randomId : RandomId) (connection : Connection) :
    Option ControlService :=
  match connection.confirmation with
  | some (.returned _) =>
    some { state with
      connections := state.connections.insert randomId
        { session := { connection.session with registrationStatus := .confirmed }
          confirmation := none } }
  | _ => none

/-- Run a statement that may fail. -/
def executeIf (database : Database) (succeeds : Bool) (statement : Statement) : Database :=
  if succeeds then database.execute statement else database

/-- A spawned save runs. -/
def runSave (state : ControlService) (index : Nat) (succeeds : Bool) : Option ControlService :=
  match state.saves[index]? with
  | some save =>
    some { state with
      database := executeIf state.database succeeds
        (.saveOrUpdateDevice (save.record state.heap state.network.networkCode))
      saves := state.saves.eraseIdx index }
  | none => none

/-- `release_expired_ips`, its first critical section. -/
def collectExpired (state : ControlService) (now : SystemTime) : Option ControlService :=
  match state.sweep with
  | .idle =>
    match state.network.collectExpiredDevices now with
    | [] => some state
    | deviceIds => some { state with sweep := .collected deviceIds }
  | _ => none

/-- `release_expired_ips`, its second critical section. -/
def removeExpired (state : ControlService) : Option ControlService :=
  match state.sweep with
  | .collected deviceIds =>
    some { state with
      network := state.network.removeDevices deviceIds
      sweep := .releasing deviceIds }
  | _ => none

/-- `release_expired_ips`, the statement of one device, or its end. -/
def releaseExpired (state : ControlService) (succeeds : Bool) : Option ControlService :=
  match state.sweep with
  | .releasing (deviceId :: rest) =>
    some { state with
      database := executeIf state.database succeeds
        (.releaseDeviceIp state.network.networkCode deviceId)
      sweep := .releasing rest }
  | .releasing [] => some { state with sweep := .idle }
  | _ => none

/-- `delete_device`, its first critical section: an online device is refused. -/
def deleteCheck (state : ControlService) (deviceId : String) : ControlService :=
  if state.network.isDeviceOnline deviceId then state
  else { state with deletions := .checked deviceId :: state.deletions }

/-- `delete_device`, its second critical section. -/
def deleteFromMemory (state : ControlService) (deviceId : String) : Option ControlService :=
  if .checked deviceId ∈ state.deletions then
    some { state with
      network := (state.network.removeDeviceFromMemory deviceId).1
      deletions := .removed deviceId :: state.deletions.erase (.checked deviceId) }
  else none

/-- `delete_device`, its statement. -/
def deleteRow (state : ControlService) (deviceId : String) (succeeds : Bool) :
    Option ControlService :=
  if .removed deviceId ∈ state.deletions then
    some { state with
      database := executeIf state.database succeeds
        (.deleteDevice state.network.networkCode deviceId)
      deletions := state.deletions.erase (.removed deviceId) }
  else none

/-- The state after one event, `none` when the event is not enabled. -/
def step (state : ControlService) : ServiceEvent → Option ControlService
  | .register req randomId sender now => state.register req randomId sender now
  | .dropSession randomId now sent =>
    (state.connections.lookup randomId).map fun connection =>
      state.dropSession randomId connection now sent
  | .removeSender ip =>
    if ip ∈ state.senderRemovals then
      some { state with
        network := state.network.removeSender ip
        senderRemovals := state.senderRemovals.erase ip
        statsRemovals := ip :: state.statsRemovals }
    else none
  | .removeStats ip =>
    if ip ∈ state.statsRemovals then
      some { state with
        network := state.network.removeStats ip
        statsRemovals := state.statsRemovals.erase ip }
    else none
  | .confirmRead randomId =>
    (state.connections.lookup randomId).bind (state.confirmRead randomId)
  | .confirmSave randomId succeeds =>
    (state.connections.lookup randomId).bind (state.confirmSave randomId · succeeds)
  | .confirmMark randomId =>
    (state.connections.lookup randomId).bind (state.confirmMark randomId)
  | .runSave index succeeds => state.runSave index succeeds
  | .collectExpired now => state.collectExpired now
  | .removeExpired => state.removeExpired
  | .releaseExpired succeeds => state.releaseExpired succeeds
  | .deleteCheck deviceId => some (state.deleteCheck deviceId)
  | .deleteFromMemory deviceId => state.deleteFromMemory deviceId
  | .deleteRow deviceId succeeds => state.deleteRow deviceId succeeds
  | .recordTraffic heap => some { state with heap := heap }
  | .otherNetwork statement =>
    if statement.key.2 = state.network.networkCode then none
    else some { state with database := state.database.execute statement }
  | .restart now answered =>
    load state.database state.network.networkCode state.network.net state.network.leaseDuration
      state.usedIds now answered

/-- The service as a machine. -/
def machine : Machine ControlService ServiceEvent where
  step := step

end ControlService

end Vnt.Server
