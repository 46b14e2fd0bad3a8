/-
This file settles what an aborted pre-registration leaves behind. The request overwrites the
entry of its device, and the abort drops that entry with its address. A device without an
address is back where it was. A device that held an address, kept or moved by the request, is
left without one, although the address belonged to a lease that the pre-registration did not
make.
-/

import Vnt.Server.LeaseInvariant

namespace Vnt.Server

open Vnt.Base

namespace NetworkState

variable {state next : NetworkState} {req : RegRequestMsg} {randomId : RandomId}
  {sender : Sender} {now : SystemTime} {stats : StatsRef} {session : Session}
  {entry : Option DeviceEntry}

/-- Right after a registration, its session owns the entry of the device. -/
theorem register_ownsPreRegistration
    (succeeds : state.register req randomId sender now stats = .ok (next, session, entry)) :
    next.leaseState.ownsPreRegistration req.deviceId session.ip randomId = true := by
  obtain ⟨table, ip, old, allocation, rfl, rfl, -⟩ := register_cases succeeds
  obtain ⟨found, known, holds, sameId, -, -⟩ := allocation.entry
  rw [installAddress_leaseState]
  simp only [NetworkStateInner.ownsPreRegistration, known, sameId, holds, Session.new, decide_true,
    Bool.and_true]

/-- A pre-registration that is dropped before anything else happens leaves its device without
an address and every other lease as it was. -/
theorem lease_dropSession (heap : StatsHeap) (later : SystemTime)
    (mode : req.registrationMode = .preRegister)
    (succeeds : state.register req randomId sender now stats = .ok (next, session, entry)) :
    (next.dropSession heap session later).1.lease =
      Function.update state.lease req.deviceId none := by
  have owns := register_ownsPreRegistration succeeds
  obtain ⟨table, ip, old, allocation, rfl, rfl, -⟩ := register_cases succeeds
  rw [installAddress_leaseState] at owns
  have pending : (Session.new req ip randomId sender).registrationStatus =
      .pendingConfirmation := by
    simp only [Session.new, mode]
  have dropped : ((state.installAddress table req.deviceId ip old sender).dropSession heap
      (Session.new req ip randomId sender) later).1.leaseState =
        { table.removeEntry req.deviceId with dataVersion := table.dataVersion + 1 } := by
    unfold dropSession
    rw [pending]
    exact (releasePreRegisteredIp_leaseState ..).trans
      (NetworkStateInner.releasePreRegisteredIp_of_owns _ _ _ _ owns)
  calc ((state.installAddress table req.deviceId ip old sender).dropSession heap
        (Session.new req ip randomId sender) later).1.lease
      = (table.removeEntry req.deviceId).lease := by
        unfold NetworkState.lease
        rw [dropped]
        rfl
    _ = Function.update table.lease req.deviceId none := NetworkStateInner.lease_removeEntry ..
    _ = Function.update state.lease req.deviceId none := by
        rw [allocation.lease, Function.update_idem]
        rfl

/-- The abort gives every device its old address back if and only if the device of the
request held none. -/
theorem lease_dropSession_eq_iff (heap : StatsHeap) (later : SystemTime)
    (mode : req.registrationMode = .preRegister)
    (succeeds : state.register req randomId sender now stats = .ok (next, session, entry)) :
    (∀ deviceId, (next.dropSession heap session later).1.lease deviceId = state.lease deviceId) ↔
      state.lease req.deviceId = none := by
  rw [lease_dropSession heap later mode succeeds]
  constructor
  · intro restored
    rw [← restored req.deviceId, Function.update_self]
  · intro empty deviceId
    rw [← empty, Function.update_eq_self]

/-- A new device pre-registers and leaves. -/
theorem lease_dropSession_eq_iff_newDevice :
    ∃ next session entry,
      exampleState.register (examplePreRegistration "a") 1 0 0 0 = .ok (next, session, entry) ∧
      ∀ deviceId, (next.dropSession [] session 0).1.lease deviceId =
        exampleState.lease deviceId := by
  have mode : (examplePreRegistration "a").registrationMode = .preRegister := rfl
  refine ⟨_, _, _, rfl, ?_⟩
  exact (lease_dropSession_eq_iff [] 0 mode rfl).mpr rfl

/-- A device registers on an address, pre-registers over it and leaves: the address of the
confirmed registration is gone. -/
theorem not_lease_dropSession_eq :
    ∃ registered first stored next session entry,
      exampleState.register (exampleRequest "a" none false) 1 0 0 0 =
        .ok (registered, first, stored) ∧
      registered.register (examplePreRegistration "a") 2 1 0 1 = .ok (next, session, entry) ∧
      registered.lease "a" = some 0x0A1A0002 ∧
      (next.dropSession [] session 0).1.lease "a" = none :=
  ⟨_, _, _, _, _, _, rfl, rfl, by decide, by decide⟩

end NetworkState

end Vnt.Server
