/-
This file embeds the data of one device on the server: the entry the lease table keeps in
memory, the record the database keeps, and the registration request. The traffic counters of
an entry are shared between the entry, its clones and the per-address map, so an entry holds
a reference into a heap of counters and a record is made from the counters as they stand.
-/

import Vnt.Ipv4

namespace Vnt.Server

/-- Nanoseconds since the epoch. -/
abbrev SystemTime : Type := Nat

/-- A shared pointer to the traffic counters of a device. -/
abbrev StatsRef : Type := Nat

/-- The random number that tells two sessions of one device apart. -/
abbrev RandomId : Type := UInt64

/-- The sending half of the channel of one connection. -/
abbrev Sender : Type := Nat

structure TrafficStats where
  tx : Nat
  rx : Nat
  deriving DecidableEq, Repr

/-- `TrafficStats::new`. -/
def TrafficStats.new : TrafficStats := ⟨0, 0⟩

/-- The counters every reference points to; a reference that was never handed out reads as
new counters. -/
abbrev StatsHeap : Type := List TrafficStats

def StatsHeap.get (heap : StatsHeap) (ref : StatsRef) : TrafficStats :=
  heap.getD ref TrafficStats.new

/-- A row of the device table. The address column is the text of the address; a text that
does not parse reads as no address. -/
structure DeviceRecord where
  deviceId : String
  networkCode : String
  ip : Option Ipv4Addr
  deviceName : String
  deviceVersion : String
  lastConnectTime : Nat
  txBytes : Nat
  rxBytes : Nat
  deriving DecidableEq, Repr

structure DeviceEntry where
  deviceId : String
  ip : Option Ipv4Addr
  randomId : RandomId
  deviceName : String
  deviceVersion : String
  isConnected : Bool
  lastConnectTime : SystemTime
  disconnectTime : Option SystemTime
  dataVersion : Nat
  keySign : Option String
  latencyMs : Option UInt32
  trafficStats : StatsRef
  deriving DecidableEq, Repr

/-- `system_time_to_i64`. -/
def systemTimeToSecs (time : SystemTime) : Nat := time / 1000000000

/-- `i64_to_system_time`. -/
def secsToSystemTime (secs : Nat) : SystemTime := secs * 1000000000

/-- `DeviceEntry::from_record`; the counters of the record are stored under `stats`. -/
def DeviceEntry.fromRecord (record : DeviceRecord) (stats : StatsRef) (now : SystemTime) :
    DeviceEntry where
  deviceId := record.deviceId
  ip := record.ip
  randomId := 0
  deviceName := record.deviceName
  deviceVersion := record.deviceVersion
  isConnected := false
  lastConnectTime := secsToSystemTime record.lastConnectTime
  disconnectTime := some now
  dataVersion := 0
  keySign := none
  latencyMs := none
  trafficStats := stats

/-- `DeviceEntry::to_record`, reading the shared counters from the heap. -/
def DeviceEntry.toRecord (entry : DeviceEntry) (heap : StatsHeap) (networkCode : String) :
    DeviceRecord where
  deviceId := entry.deviceId
  networkCode := networkCode
  ip := entry.ip
  deviceName := entry.deviceName
  deviceVersion := entry.deviceVersion
  lastConnectTime := systemTimeToSecs entry.lastConnectTime
  txBytes := (heap.get entry.trafficStats).tx
  rxBytes := (heap.get entry.trafficStats).rx

@[simp] theorem DeviceEntry.toRecord_deviceId (entry : DeviceEntry) (heap : StatsHeap)
    (networkCode : String) : (entry.toRecord heap networkCode).deviceId = entry.deviceId := rfl

@[simp] theorem DeviceEntry.toRecord_networkCode (entry : DeviceEntry) (heap : StatsHeap)
    (networkCode : String) : (entry.toRecord heap networkCode).networkCode = networkCode := rfl

@[simp] theorem DeviceEntry.toRecord_ip (entry : DeviceEntry) (heap : StatsHeap)
    (networkCode : String) : (entry.toRecord heap networkCode).ip = entry.ip := rfl

inductive RegistrationMode where
  | normal
  | preRegister
  deriving DecidableEq, Repr

inductive RegistrationStatus where
  | confirmed
  | pendingConfirmation
  deriving DecidableEq, Repr

/-- `RegRequestMsg`. -/
structure RegRequestMsg where
  networkCode : String
  deviceId : String
  ip : Option Ipv4Addr
  name : String
  version : String
  keySign : Option String
  ipVariable : Bool
  registrationMode : RegistrationMode
  deriving DecidableEq, Repr

end Vnt.Server
