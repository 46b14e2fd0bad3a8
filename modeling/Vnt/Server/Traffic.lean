/-
This file embeds how the server counts traffic. The counters of a device are shared between its
entry and the map of the addresses, so what is counted for an address reaches every entry that
refers to the counters found there.
-/

import Vnt.Server.NetworkState

namespace Vnt.Server

open Vnt.Base

namespace TrafficStats

/-- `add_tx`; the sum wraps. -/
def addTx (stats : TrafficStats) (bytes : Nat) : TrafficStats :=
  { stats with tx := (stats.tx + bytes) % 2 ^ 64 }

/-- `add_rx`; the sum wraps. -/
def addRx (stats : TrafficStats) (bytes : Nat) : TrafficStats :=
  { stats with rx := (stats.rx + bytes) % 2 ^ 64 }

end TrafficStats

/-- Change the counters a reference points to. -/
def StatsHeap.update (heap : StatsHeap) (ref : StatsRef) (change : TrafficStats → TrafficStats) :
    StatsHeap :=
  heap.modify ref change

namespace NetworkState

/-- `record_tx_traffic`. -/
def recordTxTraffic (state : NetworkState) (heap : StatsHeap) (ip : Ipv4Addr) (bytes : Nat) :
    StatsHeap :=
  match state.trafficStatsMap.lookup ip with
  | some stats => heap.update stats (TrafficStats.addTx · bytes)
  | none => heap

/-- `record_rx_traffic`. -/
def recordRxTraffic (state : NetworkState) (heap : StatsHeap) (ip : Ipv4Addr) (bytes : Nat) :
    StatsHeap :=
  match state.trafficStatsMap.lookup ip with
  | some stats => heap.update stats (TrafficStats.addRx · bytes)
  | none => heap

end NetworkState

/-! ### What is counted where -/

namespace StatsHeap

variable (heap : StatsHeap) (target ref : StatsRef) (change : TrafficStats → TrafficStats)

@[simp] theorem length_update : (heap.update target change).length = heap.length :=
  List.length_modify ..

theorem get_update_of_ne (different : ref ≠ target) :
    (heap.update target change).get ref = heap.get ref := by
  unfold get update
  rw [List.getD_eq_getElem?_getD, List.getD_eq_getElem?_getD,
    List.getElem?_modify_ne _ _ (Ne.symm different)]

theorem get_update_self (inside : target < heap.length) :
    (heap.update target change).get target = change (heap.get target) := by
  unfold get update
  rw [List.getD_eq_getElem?_getD, List.getD_eq_getElem?_getD, List.getElem?_modify_eq,
    List.getElem?_eq_getElem inside]
  rfl

/-- A part of the counters that no change touches is as it was. -/
theorem get_update_congr {Part : Type} {part : TrafficStats → Part}
    (kept : ∀ stats, part (change stats) = part stats) :
    part ((heap.update target change).get ref) = part (heap.get ref) := by
  by_cases same : ref = target
  · subst same
    by_cases inside : ref < heap.length
    · rw [get_update_self heap ref change inside, kept]
    · have beyond := Nat.le_of_not_lt inside
      unfold get update
      rw [List.getD_eq_getElem?_getD, List.getD_eq_getElem?_getD, List.getElem?_modify_eq,
        List.getElem?_eq_none beyond]
      rfl
  · rw [get_update_of_ne heap target ref change same]

end StatsHeap

namespace NetworkState

variable (state : NetworkState) (heap : StatsHeap) (ip : Ipv4Addr) (bytes : Nat)

@[simp] theorem length_recordTxTraffic :
    (state.recordTxTraffic heap ip bytes).length = heap.length := by
  unfold recordTxTraffic
  split
  · exact heap.length_update ..
  · rfl

@[simp] theorem length_recordRxTraffic :
    (state.recordRxTraffic heap ip bytes).length = heap.length := by
  unfold recordRxTraffic
  split
  · exact heap.length_update ..
  · rfl

/-- What is received is not counted as transmitted. -/
@[simp] theorem tx_recordRxTraffic (ref : StatsRef) :
    ((state.recordRxTraffic heap ip bytes).get ref).tx = (heap.get ref).tx := by
  unfold recordRxTraffic
  split
  · exact heap.get_update_congr _ _ _ fun _ => rfl
  · rfl

@[simp] theorem rx_recordTxTraffic (ref : StatsRef) :
    ((state.recordTxTraffic heap ip bytes).get ref).rx = (heap.get ref).rx := by
  unfold recordTxTraffic
  split
  · exact heap.get_update_congr _ _ _ fun _ => rfl
  · rfl

/-- Only the counters found under the address count a transmission. -/
theorem recordTxTraffic_of_ne {ref : StatsRef}
    (other : state.trafficStatsMap.lookup ip ≠ some ref) :
    (state.recordTxTraffic heap ip bytes).get ref = heap.get ref := by
  unfold recordTxTraffic
  split
  · next stats found =>
    refine heap.get_update_of_ne _ _ _ fun same => other ?_
    rw [found, same]
  · rfl

/-- The counters found under the address count it. -/
theorem recordTxTraffic_self {ref : StatsRef} (found : state.trafficStatsMap.lookup ip = some ref)
    (inside : ref < heap.length) :
    (state.recordTxTraffic heap ip bytes).get ref = (heap.get ref).addTx bytes := by
  unfold recordTxTraffic
  rw [found]
  exact heap.get_update_self ref _ inside

theorem recordRxTraffic_of_ne {ref : StatsRef}
    (other : state.trafficStatsMap.lookup ip ≠ some ref) :
    (state.recordRxTraffic heap ip bytes).get ref = heap.get ref := by
  unfold recordRxTraffic
  split
  · next stats found =>
    refine heap.get_update_of_ne _ _ _ fun same => other ?_
    rw [found, same]
  · rfl

end NetworkState

end Vnt.Server
