/-
This file embeds the device table of the database. A row is stored under the device and the
network it names, and the type carries that as a proof, so a row under a foreign key cannot be
built. Every statement the server runs on the table is one atomic step and touches the row of
one key. The addresses of a network are read through `stored`.
-/

import Vnt.Base.Map
import Vnt.Server.LeaseInvariant

namespace Vnt.Server

open Vnt.Base

/-- The device table with its primary key. -/
structure Database where
  rows : Map (String × String) DeviceRecord
  keyed : ∀ key record, rows.lookup key = some record →
    (record.deviceId, record.networkCode) = key

/-- A statement that changes the device table. -/
inductive Statement where
  | saveOrUpdateDevice (record : DeviceRecord)
  | releaseDeviceIp (networkCode deviceId : String)
  | deleteDevice (networkCode deviceId : String)
  deriving DecidableEq, Repr

/-- The key of the row a statement touches. -/
def Statement.key : Statement → String × String
  | .saveOrUpdateDevice record => (record.deviceId, record.networkCode)
  | .releaseDeviceIp networkCode deviceId => (deviceId, networkCode)
  | .deleteDevice networkCode deviceId => (deviceId, networkCode)

namespace Database

/-- The table without rows. -/
def empty : Database := ⟨∅, fun _ _ known => by simp at known⟩

/-- Store a row under its own key. -/
def put (database : Database) (record : DeviceRecord) : Database where
  rows := database.rows.insert (record.deviceId, record.networkCode) record
  keyed := by
    intro key found known
    rw [Map.lookup_insert_eq] at known
    split at known
    · next same =>
      cases known
      exact same.symm
    · exact database.keyed key found known

/-- Drop the row of a key. -/
def drop (database : Database) (key : String × String) : Database where
  rows := database.rows.erase key
  keyed := by
    intro other found known
    rw [Map.lookup_erase_eq] at known
    split at known
    · cases known
    · exact database.keyed other found known

/-- `save_or_update_device`, `release_device_ip` and `delete_device` on the table. -/
def execute (database : Database) : Statement → Database
  | .saveOrUpdateDevice record => database.put record
  | .releaseDeviceIp networkCode deviceId =>
    match database.rows.lookup (deviceId, networkCode) with
    | some record => database.put { record with ip := none }
    | none => database
  | .deleteDevice networkCode deviceId => database.drop (deviceId, networkCode)

/-- `load_all_devices`: the rows of one network. -/
def loadAllDevices (database : Database) (networkCode : String) : List DeviceRecord :=
  (database.rows.entries.filter fun row => decide (row.1.2 = networkCode)).map fun row => row.2

/-- The address the table stores for a device of a network. -/
def stored (database : Database) (networkCode deviceId : String) : Option Ipv4Addr :=
  (database.rows.lookup (deviceId, networkCode)).bind DeviceRecord.ip

variable (database : Database)

/-- A statement leaves the rows of the other keys. -/
theorem lookup_execute_of_ne (statement : Statement) {key : String × String}
    (different : key ≠ statement.key) :
    (database.execute statement).rows.lookup key = database.rows.lookup key := by
  cases statement with
  | saveOrUpdateDevice record => exact AList.lookup_insert_ne different
  | releaseDeviceIp networkCode deviceId =>
    unfold execute
    dsimp only
    split
    · next record known =>
      have sameKey := database.keyed _ _ known
      refine AList.lookup_insert_ne fun same => different ?_
      exact same.trans sameKey
    · rfl
  | deleteDevice networkCode deviceId => exact AList.lookup_erase_ne different

theorem stored_execute_of_ne (statement : Statement) {networkCode deviceId : String}
    (different : (deviceId, networkCode) ≠ statement.key) :
    (database.execute statement).stored networkCode deviceId =
      database.stored networkCode deviceId := by
  unfold stored
  rw [database.lookup_execute_of_ne statement different]

theorem stored_save (record : DeviceRecord) :
    (database.execute (.saveOrUpdateDevice record)).stored record.networkCode record.deviceId =
      record.ip := by
  unfold stored execute put
  rw [AList.lookup_insert, Option.bind_some]

theorem stored_release (networkCode deviceId : String) :
    (database.execute (.releaseDeviceIp networkCode deviceId)).stored networkCode deviceId =
      none := by
  unfold stored execute
  dsimp only
  split
  · next record known =>
    have sameKey := database.keyed _ _ known
    simp only [put, sameKey, AList.lookup_insert, Option.bind_some]
  · next unknown => rw [unknown, Option.bind_none]

theorem stored_delete (networkCode deviceId : String) :
    (database.execute (.deleteDevice networkCode deviceId)).stored networkCode deviceId =
      none := by
  unfold stored execute drop
  rw [AList.lookup_erase, Option.bind_none]

/-- What the table stores after a statement, it stored before or the statement wrote. -/
theorem stored_execute {statement : Statement} {networkCode deviceId : String} {ip : Ipv4Addr}
    (holds : (database.execute statement).stored networkCode deviceId = some ip) :
    database.stored networkCode deviceId = some ip ∨
      ∃ record, statement = .saveOrUpdateDevice record ∧ record.deviceId = deviceId ∧
        record.networkCode = networkCode ∧ record.ip = some ip := by
  by_cases same : (deviceId, networkCode) = statement.key
  · cases statement with
    | saveOrUpdateDevice record =>
      obtain ⟨rfl, rfl⟩ := Prod.mk.inj same
      rw [stored_save] at holds
      exact .inr ⟨record, rfl, rfl, rfl, holds⟩
    | releaseDeviceIp otherCode otherId =>
      obtain ⟨rfl, rfl⟩ := Prod.mk.inj same
      rw [stored_release] at holds
      cases holds
    | deleteDevice otherCode otherId =>
      obtain ⟨rfl, rfl⟩ := Prod.mk.inj same
      rw [stored_delete] at holds
      cases holds
  · rw [database.stored_execute_of_ne statement same] at holds
    exact .inl holds

/-- The loaded records are the rows of the network. -/
theorem mem_loadAllDevices {networkCode : String} {record : DeviceRecord} :
    record ∈ database.loadAllDevices networkCode ↔
      database.rows.lookup (record.deviceId, networkCode) = some record := by
  unfold loadAllDevices
  simp only [List.mem_map, List.mem_filter, decide_eq_true_eq]
  constructor
  · rintro ⟨⟨key, found⟩, ⟨member, sameCode⟩, rfl⟩
    have known := (Map.mem_entries_iff _ key found).mp member
    have keyIs := database.keyed key found known
    have code : found.networkCode = networkCode := by rw [← sameCode, ← keyIs]
    rw [← code, keyIs]
    exact known
  · intro known
    exact ⟨⟨_, record⟩, ⟨(Map.mem_entries_iff _ _ record).mpr known, rfl⟩, rfl⟩

/-- No two devices of the network are stored with one address. -/
def Distinct (networkCode : String) : Prop :=
  ∀ first second ip, database.stored networkCode first = some ip →
    database.stored networkCode second = some ip → first = second

/-- The records of a network are of different devices. -/
theorem pairwise_deviceId_loadAllDevices (networkCode : String) :
    (database.loadAllDevices networkCode).Pairwise fun first second =>
      first.deviceId ≠ second.deviceId := by
  unfold loadAllDevices
  rw [List.pairwise_map]
  have keys : database.rows.entries.Pairwise fun first second => first.1 ≠ second.1 :=
    List.nodupKeys_iff_pairwise.mp database.rows.nodupKeys
  refine (keys.filter _).imp_of_mem ?_
  rintro ⟨firstKey, first⟩ ⟨secondKey, second⟩ firstMember secondMember different
  simp only [List.mem_filter, decide_eq_true_eq] at firstMember secondMember different
  have firstKnown := (Map.mem_entries_iff _ firstKey first).mp firstMember.1
  have secondKnown := (Map.mem_entries_iff _ secondKey second).mp secondMember.1
  have firstIs := database.keyed _ _ firstKnown
  have secondIs := database.keyed _ _ secondKnown
  have firstCode : first.networkCode = networkCode := by rw [← firstMember.2, ← firstIs]
  have secondCode : second.networkCode = networkCode := by rw [← secondMember.2, ← secondIs]
  intro same
  exact different (by rw [← firstIs, ← secondIs, same, firstCode, secondCode])

/-- The records of a network with distinct addresses are separate. -/
theorem Distinct.separate {networkCode : String} (distinct : database.Distinct networkCode) :
    (database.loadAllDevices networkCode).Pairwise NetworkStateInner.SeparateRecords := by
  refine (database.pairwise_deviceId_loadAllDevices networkCode).imp_of_mem ?_
  intro first second firstMember secondMember differentId
  refine ⟨differentId, fun ip holdsFirst holdsSecond => differentId ?_⟩
  refine distinct first.deviceId second.deviceId ip ?_ ?_
  · rw [stored, database.mem_loadAllDevices.mp firstMember, Option.bind_some, holdsFirst]
  · rw [stored, database.mem_loadAllDevices.mp secondMember, Option.bind_some, holdsSecond]

end Database

end Vnt.Server
