/-
This file settles when a server answers a registration with another address than the wished one.
A device that has the wished address keeps it, and one that does not gets it unless it is taken,
the gateway's or outside of the network. Otherwise a device that lets its address vary gets the
first one that is left.
-/

import Vnt.Server.UsableAddress

namespace Vnt.Registration

open Vnt.Base Vnt.Server

/-! ### The address a server answers with -/

/-- The server answers with another address than the wished one: it does not offer the wish, the
client lets it vary, and another one is left. -/
def AnswersOtherwise (network : NetworkState) (req : RegRequestMsg) : Prop :=
  req.ip ≠ none ∧ network.offered req ≠ req.ip ∧ req.ipVariable = true ∧
    (network.leaseState.findAvailableIp network.net network.gateway).isOk = true

instance (network : NetworkState) (req : RegRequestMsg) :
    Decidable (AnswersOtherwise network req) :=
  inferInstanceAs (Decidable (_ ∧ _))

section Answers

variable {network : NetworkState} {req : RegRequestMsg} {randomId : RandomId} {now : SystemTime}
  {stats : StatsRef} {wish ip : Ipv4Addr} {table : NetworkStateInner} {old : Option Ipv4Addr}

/-- A registration that wishes an address gets another one exactly when the server answers
otherwise. -/
theorem allocation_ne_wish_iff (served : NetworkState.gatewayOf network.net = some network.gateway)
    (wishes : req.ip = some wish)
    (allocation : NetworkStateInner.Allocation network.leaseState network.net network.gateway req
      randomId now stats (table, ip, old)) :
    ip ≠ wish ↔ AnswersOtherwise network req := by
  have kept : network.offered req = some wish → ¬AnswersOtherwise network req := by
    rintro offers ⟨-, differs, -⟩
    exact differs (offers.trans wishes.symm)
  have fromLease : network.leaseState.lease req.deviceId = some wish →
      network.offered req = some wish := by
    intro lease
    unfold NetworkState.offered NetworkState.lease
    rw [lease, wishes]
    exact if_pos (.inr rfl)
  have fromWish : network.leaseState.lease req.deviceId ≠ some wish →
      network.offered req = network.grantedWish req := by
    intro differs
    unfold NetworkState.offered NetworkState.lease
    cases lease : network.leaseState.lease req.deviceId with
    | none => rfl
    | some held =>
      refine if_neg ?_
      rintro (noWish | same)
      · cases wishes.symm.trans noWish
      · cases wishes.symm.trans same
        exact differs lease
  cases allocation with
  | kept entry ip known holds matching =>
    have isWish : ip = wish := by
      rcases matching with noWish | same
      · cases wishes.symm.trans noWish
      · exact Option.some.inj (same.symm.trans wishes)
    have lease := (NetworkStateInner.lease_of_lookup known).trans holds
    rw [isWish] at lease
    exact ⟨fun differs => absurd isWish differs,
      fun other => absurd other (kept (fromLease lease))⟩
  | filled entry ip known holds matching found => cases wishes.symm.trans matching
  | granted ip isWish differs notGateway inside unreserved =>
    cases wishes.symm.trans isWish
    have offers : network.offered req = some wish :=
      (fromWish differs).trans (NetworkState.grantedWish_eq_some.mpr
        ⟨wishes, notGateway, inside, unreserved⟩)
    exact ⟨fun other => absurd rfl other, fun other => absurd other (kept offers)⟩
  | searched ip reason found =>
    rcases reason with ⟨noWish, -⟩ | ⟨blocked, ⟨isWish, varies, why⟩, differs⟩
    · cases wishes.symm.trans noWish
    · cases wishes.symm.trans isWish
      have refused : network.grantedWish req = none := by
        refine NetworkState.grantedWish_eq_none fun other isOther allowed => ?_
        cases wishes.symm.trans isOther
        rcases why with gateway | outside | reserved
        · exact allowed.1 gateway
        · exact Bool.false_ne_true (outside.symm.trans allowed.2.1)
        · exact reserved allowed.2.2
      obtain ⟨member, notGateway, unreserved⟩ := NetworkStateInner.findAvailableIp_ok found
      have different : ip ≠ wish := by
        rintro rfl
        rcases why with gateway | outside | reserved
        · exact notGateway gateway
        · exact Bool.false_ne_true
            (outside.symm.trans (NetworkStateInner.contains_of_mem_range served member))
        · exact reserved unreserved
      refine ⟨fun _ => ⟨?_, ?_, varies, ?_⟩, fun _ => different⟩
      · rw [wishes]
        exact Option.some_ne_none wish
      · rw [fromWish differs, refused, wishes]
        exact (Option.some_ne_none wish).symm
      · rw [found]
        rfl

/-- A server that answers otherwise gives an address. -/
theorem exists_register_of_answersOtherwise (other : AnswersOtherwise network req)
    (randomId : RandomId) (sender : Sender) (now : SystemTime) (stats : StatsRef) :
    ∃ result, network.register req randomId sender now stats = .ok result := by
  obtain ⟨wishes, -, varies, search⟩ := other
  obtain ⟨wish, wishes⟩ := Option.ne_none_iff_exists'.mp wishes
  obtain ⟨found, isFound⟩ : ∃ found,
      network.leaseState.findAvailableIp network.net network.gateway = .ok found := by
    cases outcome : network.leaseState.findAvailableIp network.net network.gateway with
    | error message =>
      rw [outcome] at search
      cases search
    | ok found => exact ⟨found, rfl⟩
  have available : ∀ old, network.leaseState.allocateAvailable network.net network.gateway req old
      randomId now stats =
        .ok (network.leaseState.searchLease req found randomId now stats, found, old) := by
    intro old
    unfold NetworkStateInner.allocateAvailable
    rw [isFound]
    rfl
  have expected : ∀ old, ∃ result, network.leaseState.allocateExpected network.net network.gateway
      req wish old randomId now stats = .ok result := by
    intro old
    unfold NetworkStateInner.allocateExpected
    simp only [available, varies, if_true]
    split
    · exact ⟨_, rfl⟩
    · split
      · exact ⟨_, rfl⟩
      · split <;> exact ⟨_, rfl⟩
  have allocates : ∃ result, network.leaseState.allocateIp network.net network.gateway req randomId
      now stats = .ok result := by
    unfold NetworkStateInner.allocateIp
    simp only [wishes]
    cases network.leaseState.deviceMap.lookup req.deviceId with
    | none => exact expected none
    | some entry =>
      dsimp only
      split
      · next matching =>
        rcases matching with impossible | same
        · cases impossible
        · rw [same]
          exact ⟨_, rfl⟩
      · exact expected entry.ip
  obtain ⟨result, allocated⟩ := allocates
  unfold NetworkState.register NetworkState.allocateIpAndGetEntry
  rw [allocated]
  exact ⟨_, rfl⟩

end Answers

end Vnt.Registration
