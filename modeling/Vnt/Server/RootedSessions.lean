/-
This file settles whether the state of a session is the one that is found under its network code. A
registration keeps the state it has found, so that state may be taken away before the registration
gets its address, and a network that was found empty may have got a session before its state is
taken away. The states of all sessions are found exactly when neither happens. The lock under which
a state is created does its work: a state that was just created never takes the place of another
one.
-/

import Vnt.Server.Administration
import Vnt.Server.Isolation

namespace Vnt.Server

open Vnt.Base

namespace ManagedService

/-- There is a session of a network. -/
def Used (managed : ManagedService) (networkCode : String) : Prop :=
  ∃ live ∈ managed.service.sessions, live.session.networkCode = networkCode

/-- A state is found under a network code, and the network is configured. -/
def IsRoot (managed : ManagedService) (networkCode : String) (ref : StateRef) : Prop :=
  managed.service.provider.lookup networkCode = some ref ∧
    (managed.service.dbNets.lookup networkCode).isSome = true

/-- The state of each session is found under its network code, and its network is configured. -/
def Rooted (managed : ManagedService) : Prop :=
  ∀ live ∈ managed.service.sessions, managed.IsRoot live.session.networkCode live.state

/-- The registration gets an address in a state. -/
def Admits (managed : ManagedService) (registering : Registering) (ref : StateRef)
    (randomId : RandomId) (time : SystemTime) (stats : StatsRef) : Prop :=
  ∃ state, managed.service.states[ref]? = some state ∧
    (state.register registering.req randomId registering.sender time stats).isOk = true

/-- What a step needs. A registration that gets an address gets it in the state that is found under
its network code, while the network is configured. A state and a network are taken away only when
there is no session of the network. -/
def keepsRoots (managed : ManagedService) : ManagedEvent → Prop
  | .allocate id randomId time stats => ∀ registering ref,
    managed.registering.lookup id = some registering → registering.stage = .located ref →
      managed.Admits registering ref randomId time stats →
        managed.IsRoot registering.req.networkCode ref
  | .stepAdmin id _ _ => ∀ administering, managed.administering.lookup id = some administering →
    administering.stage = .changed ∨
        administering.stage = .stored ∧ administering.call = .delete →
      ¬managed.Used administering.networkCode
  | .stepRelease id => ∀ releasing, managed.releasing.lookup id = some releasing →
    releasing.stage = .idle → ¬managed.Used releasing.networkCode
  | _ => True

/-! ### The lock -/

/-- A registration holds the lock of its network. -/
def RegisterStage.Holds : RegisterStage → Prop
  | .locked _ | .loading _ | .created _ | .entered _ => True
  | _ => False

/-- A registration has seen that there is no state. -/
def RegisterStage.Missed : RegisterStage → Prop
  | .loading _ | .created _ => True
  | _ => False

/-- One registration holds the lock of a network, and what it has not found is still not there. -/
structure Disciplined (managed : ManagedService) : Prop where
  locked : ∀ id registering, managed.registering.lookup id = some registering →
    RegisterStage.Holds registering.stage →
      registering.req.networkCode ∈ managed.service.initLocks
  unique : ∀ id other first second, managed.registering.lookup id = some first →
    managed.registering.lookup other = some second → RegisterStage.Holds first.stage →
      RegisterStage.Holds second.stage → first.req.networkCode = second.req.networkCode →
        id = other
  absent : ∀ id registering, managed.registering.lookup id = some registering →
    RegisterStage.Missed registering.stage →
      managed.service.provider.lookup registering.req.networkCode = none

variable {managed next : ManagedService} {keySign : String → String} {id : Nat}
  {registering : Registering} {stage : RegisterStage}

theorem RegisterStage.Missed.holds (missed : RegisterStage.Missed stage) :
    RegisterStage.Holds stage := by
  cases stage <;> trivial

/-- A step of one registration keeps the discipline when it takes no lock from the others, enters no
state that others have not found, and has a lock that none of them has. -/
theorem Disciplined.of_others (disciplined : managed.Disciplined) (id : Nat)
    (others : ∀ other, other ≠ id →
      next.registering.lookup other = managed.registering.lookup other)
    (locks : ∀ other found, other ≠ id → managed.registering.lookup other = some found →
      RegisterStage.Holds found.stage → found.req.networkCode ∈ next.service.initLocks)
    (provider : ∀ other found, other ≠ id → managed.registering.lookup other = some found →
      RegisterStage.Missed found.stage →
        next.service.provider.lookup found.req.networkCode = none)
    (own : ∀ found, next.registering.lookup id = some found → RegisterStage.Holds found.stage →
      found.req.networkCode ∈ next.service.initLocks ∧
      (RegisterStage.Missed found.stage →
        next.service.provider.lookup found.req.networkCode = none) ∧
      ∀ other second, other ≠ id → managed.registering.lookup other = some second →
        RegisterStage.Holds second.stage → second.req.networkCode ≠ found.req.networkCode) :
    next.Disciplined where
  locked other found isFound holds := by
    by_cases same : other = id
    · exact (own found (same ▸ isFound) holds).1
    · exact locks other found same ((others other same) ▸ isFound) holds
  unique first second one two isFirst isSecond firstHolds secondHolds sameCode := by
    by_cases firstSame : first = id
    · by_cases secondSame : second = id
      · exact firstSame.trans secondSame.symm
      · rw [others second secondSame] at isSecond
        exact absurd sameCode.symm ((own one (firstSame ▸ isFirst) firstHolds).2.2 second two
          secondSame isSecond secondHolds)
    · rw [others first firstSame] at isFirst
      by_cases secondSame : second = id
      · exact absurd sameCode ((own two (secondSame ▸ isSecond) secondHolds).2.2 first one
          firstSame isFirst firstHolds)
      · rw [others second secondSame] at isSecond
        exact disciplined.unique first second one two isFirst isSecond firstHolds secondHolds
          sameCode
  absent other found isFound missed := by
    by_cases same : other = id
    · exact (own found (same ▸ isFound) missed.holds).2.1 missed
    · exact provider other found same ((others other same) ▸ isFound) missed

theorem lookup_proceed_of_ne {other : Nat} (different : other ≠ id) :
    (managed.proceed id registering stage).registering.lookup other =
      managed.registering.lookup other :=
  AList.lookup_insert_ne different

/-- Another registration that holds a lock holds that of another network. -/
theorem Disciplined.otherCode (disciplined : managed.Disciplined)
    (found : managed.registering.lookup id = some registering)
    (holds : RegisterStage.Holds registering.stage) {other : Nat} {second : Registering}
    (different : other ≠ id) (isSecond : managed.registering.lookup other = some second)
    (secondHolds : RegisterStage.Holds second.stage) :
    second.req.networkCode ≠ registering.req.networkCode := fun same =>
  different (disciplined.unique other id second registering isSecond found secondHolds holds same)

/-- What does not touch the registrations and the locks and enters no state keeps the discipline. -/
theorem Disciplined.frame (disciplined : managed.Disciplined)
    (sameRegistering : next.registering = managed.registering)
    (sameLocks : next.service.initLocks = managed.service.initLocks)
    (fewer : ∀ networkCode, managed.service.provider.lookup networkCode = none →
      next.service.provider.lookup networkCode = none) : next.Disciplined where
  locked other found isFound holds := by
    rw [sameRegistering] at isFound
    rw [sameLocks]
    exact disciplined.locked other found isFound holds
  unique := by
    rw [sameRegistering]
    exact disciplined.unique
  absent other found isFound missed := by
    rw [sameRegistering] at isFound
    exact fewer _ (disciplined.absent other found isFound missed)

/-- A registration goes on with the lock it has, or without one. -/
theorem Disciplined.proceed (disciplined : managed.Disciplined)
    (found : managed.registering.lookup id = some registering)
    (holds : RegisterStage.Holds stage → RegisterStage.Holds registering.stage)
    (missed : RegisterStage.Missed stage →
      managed.service.provider.lookup registering.req.networkCode = none) :
    (managed.proceed id registering stage).Disciplined := by
  refine disciplined.of_others id (fun other different => lookup_proceed_of_ne different)
    (fun other second _ isSecond secondHolds => disciplined.locked other second isSecond
      secondHolds)
    (fun other second _ isSecond secondMissed => disciplined.absent other second isSecond
      secondMissed) ?_
  intro own isOwn ownHolds
  cases (AList.lookup_insert _).symm.trans isOwn
  exact ⟨disciplined.locked id registering found (holds ownHolds), missed,
    fun _ _ => disciplined.otherCode found (holds ownHolds)⟩

/-- A registration that is not there any more has no lock. -/
theorem Disciplined.conclude (disciplined : managed.Disciplined) (id : Nat) :
    (managed.conclude id).Disciplined := by
  refine disciplined.of_others id (fun other different => AList.lookup_erase_ne different)
    (fun other second _ isSecond holds => disciplined.locked other second isSecond holds)
    (fun other second _ isSecond missed => disciplined.absent other second isSecond missed) ?_
  intro own isOwn _
  cases (AList.lookup_erase id managed.registering).symm.trans isOwn

/-- A registration gives its lock back. -/
theorem Disciplined.unlock (disciplined : managed.Disciplined)
    (found : managed.registering.lookup id = some registering)
    (holds : RegisterStage.Holds registering.stage)
    (locks : next.service.initLocks =
      managed.service.initLocks.erase registering.req.networkCode)
    (provider : next.service.provider = managed.service.provider)
    (others : ∀ other, other ≠ id →
      next.registering.lookup other = managed.registering.lookup other)
    (own : ∀ left, next.registering.lookup id = some left → ¬RegisterStage.Holds left.stage) :
    next.Disciplined := by
  refine disciplined.of_others id others ?_ ?_
    fun left isLeft leftHolds => absurd leftHolds (own left isLeft)
  · intro other second different isSecond secondHolds
    have otherCode := disciplined.otherCode found holds different isSecond secondHolds
    rw [locks]
    exact (List.mem_erase_of_ne otherCode).mpr
      (disciplined.locked other second isSecond secondHolds)
  · intro other second _ isSecond missed
    rw [provider]
    exact disciplined.absent other second isSecond missed

/-- A registration takes a lock that is free. -/
theorem Disciplined.lock (disciplined : managed.Disciplined)
    (free : registering.req.networkCode ∉ managed.service.initLocks)
    (notMissed : ¬RegisterStage.Missed stage) :
    ((managed.setLocks (registering.req.networkCode :: managed.service.initLocks)).proceed id
      registering stage).Disciplined := by
  refine disciplined.of_others id (fun other different => lookup_proceed_of_ne different)
    (fun other second _ isSecond holds =>
      List.mem_cons_of_mem _ (disciplined.locked other second isSecond holds))
    (fun other second _ isSecond missed => disciplined.absent other second isSecond missed) ?_
  intro own isOwn _
  cases (AList.lookup_insert _).symm.trans isOwn
  refine ⟨List.mem_cons_self, fun missed => absurd missed notMissed, ?_⟩
  intro other second _ isSecond holds same
  exact free (same ▸ disciplined.locked other second isSecond holds)

/-- A registration that holds the lock of its network enters a state for it. -/
theorem Disciplined.enter (disciplined : managed.Disciplined)
    (found : managed.registering.lookup id = some registering)
    (holds : RegisterStage.Holds registering.stage) (notMissed : ¬RegisterStage.Missed stage)
    (ref : StateRef) :
    ({ managed with
        service :=
          { managed.service with
            provider := managed.service.provider.insert registering.req.networkCode ref } }.proceed
      id registering stage).Disciplined := by
  refine disciplined.of_others id (fun other different => lookup_proceed_of_ne different)
    (fun other second _ isSecond secondHolds =>
      disciplined.locked other second isSecond secondHolds) ?_ ?_
  · intro other second different isSecond missed
    have otherCode := disciplined.otherCode found holds different isSecond missed.holds
    exact (AList.lookup_insert_ne otherCode).trans
      (disciplined.absent other second isSecond missed)
  · intro own isOwn _
    cases (AList.lookup_insert _).symm.trans isOwn
    exact ⟨disciplined.locked id registering found holds, fun missed => absurd missed notMissed,
      fun _ _ => disciplined.otherCode found holds⟩

theorem disciplined_stepRegister (disciplined : managed.Disciplined) {now : Nat}
    (enabled : managed.stepRegister keySign id now = some next) : next.Disciplined := by
  obtain ⟨registering, found, enabled⟩ := Option.bind_eq_some_iff.mp enabled
  have timed : ∀ ref, (managed.updateTime ref now).Disciplined := fun ref =>
    disciplined.frame rfl rfl fun _ absent => absent
  dsimp only at enabled
  split at enabled
  · split at enabled <;> cases enabled
    · exact disciplined.proceed found (fun holds => holds.elim) fun missed => missed.elim
    · exact disciplined.conclude id
  · split at enabled <;> cases enabled
    · exact disciplined.proceed found (fun holds => holds.elim) fun missed => missed.elim
    · exact disciplined.conclude id
  · split at enabled <;> cases enabled
    · exact (timed _).proceed found (fun holds => holds.elim) fun missed => missed.elim
    · exact disciplined.proceed found (fun holds => holds.elim) fun missed => missed.elim
  · next config isStage =>
    split at enabled
    · cases enabled
    · next free =>
      cases enabled
      exact disciplined.lock free fun missed => missed.elim
  · next config isStage =>
    have holds : RegisterStage.Holds registering.stage := by
      rw [isStage]
      trivial
    split at enabled
    · cases enabled
      exact (timed _).proceed found (fun _ => holds) fun missed => missed.elim
    · next absent =>
      cases enabled
      exact disciplined.proceed found (fun _ => holds) fun _ => absent
  · next ref isStage =>
    cases enabled
    have holds : RegisterStage.Holds registering.stage := by
      rw [isStage]
      trivial
    refine disciplined.enter found holds ?_ ref
    exact fun missed => missed.elim
  · next ref isStage =>
    cases enabled
    refine disciplined.unlock found ?_ rfl rfl (fun other different => lookup_proceed_of_ne
      different) fun left isLeft leftHolds => ?_
    · rw [isStage]
      trivial
    · cases (AList.lookup_insert _).symm.trans isLeft
      exact leftHolds
  · cases enabled
  · cases enabled

theorem disciplined_loadState (disciplined : managed.Disciplined) {now : Nat} {time : SystemTime}
    {stats : StatsRef} {records : List DeviceRecord}
    (enabled : managed.loadState id now time stats records = some next) : next.Disciplined := by
  obtain ⟨registering, found, enabled⟩ := Option.bind_eq_some_iff.mp enabled
  dsimp only at enabled
  split at enabled
  · next config isStage =>
    have missed : RegisterStage.Missed registering.stage := by
      rw [isStage]
      trivial
    split at enabled
    · next state _ =>
      cases enabled
      have created : ({ managed with
          service :=
            { managed.service with
              states := managed.service.states ++ [state] } }.updateTime
                managed.service.states.length now).Disciplined :=
        disciplined.frame rfl rfl fun _ absent => absent
      exact created.proceed found (fun _ => missed.holds) fun _ =>
        disciplined.absent id registering found missed
    · cases enabled
      refine disciplined.unlock found missed.holds rfl rfl
        (fun other different => AList.lookup_erase_ne different) fun left isLeft _ => ?_
      cases (AList.lookup_erase id managed.registering).symm.trans isLeft
  · cases enabled

theorem disciplined_allocate (disciplined : managed.Disciplined) {randomId : RandomId}
    {time : SystemTime} {stats : StatsRef}
    (enabled : managed.allocate id randomId time stats = some next) : next.Disciplined := by
  obtain ⟨registering, found, enabled⟩ := Option.bind_eq_some_iff.mp enabled
  split at enabled
  · obtain ⟨state, -, same⟩ := Option.map_eq_some_iff.mp enabled
    split at same
    · subst same
      exact (disciplined.conclude id).frame rfl rfl fun _ absent => absent
    · subst same
      exact disciplined.conclude id
  · cases enabled

theorem lookup_erase_of_none {provider : Map String StateRef} {networkCode other : String}
    (absent : provider.lookup other = none) : (provider.erase networkCode).lookup other = none := by
  rw [Map.lookup_erase_eq, absent]
  exact ite_self _

theorem disciplined_stepAdmin (disciplined : managed.Disciplined) {inDatabase succeeds : Bool}
    (enabled : managed.stepAdmin id inDatabase succeeds = some next) : next.Disciplined := by
  obtain ⟨administering, found, same⟩ := Option.map_eq_some_iff.mp enabled
  dsimp only at same
  split at same
  · split at same <;> exact same ▸ disciplined.frame rfl rfl fun _ absent => absent
  · split at same <;> exact same ▸ disciplined.frame rfl rfl fun _ absent => absent
  · split at same <;> exact same ▸ disciplined.frame rfl rfl fun _ absent => absent
  · unfold changeNets at same
    dsimp only at same
    split at same
    · exact same ▸ disciplined.frame rfl rfl fun _ absent => absent
    · split at same <;> exact same ▸ disciplined.frame rfl rfl fun _ absent => absent
    · exact same ▸ disciplined.frame rfl rfl fun _ absent => absent
  · exact same ▸ disciplined.frame rfl rfl fun _ absent => lookup_erase_of_none absent

theorem disciplined_stepRelease (disciplined : managed.Disciplined)
    (enabled : managed.stepRelease id = some next) : next.Disciplined := by
  obtain ⟨releasing, found, same⟩ := Option.map_eq_some_iff.mp enabled
  split at same
  · split at same <;> exact same ▸ disciplined.frame rfl rfl fun _ absent => absent
  · split at same
    · split at same <;> exact same ▸ disciplined.frame rfl rfl fun _ absent => absent
    · exact same ▸ disciplined.frame rfl rfl fun _ absent => absent
  · split at same <;> exact same ▸ disciplined.frame rfl rfl fun _ absent => absent
  · exact same ▸ disciplined.frame rfl rfl fun _ absent => lookup_erase_of_none absent

theorem disciplined_startAdmin (disciplined : managed.Disciplined) {networkCode : String}
    {stage : AdminStage} {checked : Except String AdminCall}
    (enabled : managed.startAdmin id networkCode stage checked = some next) :
    next.Disciplined := by
  unfold startAdmin at enabled
  split at enabled
  · cases enabled
  · split at enabled <;> cases enabled
    · exact disciplined.frame rfl rfl fun _ absent => absent
    · exact disciplined

/-- The discipline of the lock is kept by every step. -/
theorem Disciplined.step (disciplined : managed.Disciplined) {event : ManagedEvent}
    (enabled : (machine keySign).step managed event = some next) : next.Disciplined := by
  cases event with
  | register id req sender =>
    change managed.register id req sender = some next at enabled
    unfold ManagedService.register at enabled
    split at enabled
    · cases enabled
    · next unused =>
      have used : ({ managed with
          service :=
            { managed.service with
              usedSenders := sender :: managed.service.usedSenders } } :
                ManagedService).Disciplined :=
        disciplined.frame rfl rfl fun _ absent => absent
      dsimp only at enabled
      split at enabled <;> cases enabled
      · refine used.of_others id (fun other different => lookup_proceed_of_ne different)
          (fun other second _ isSecond holds => used.locked other second isSecond holds)
          (fun other second _ isSecond missed => used.absent other second isSecond missed) ?_
        intro own isOwn holds
        cases (AList.lookup_insert _).symm.trans isOwn
        exact holds.elim
      · exact used
  | stepRegister id now => exact disciplined_stepRegister disciplined enabled
  | loadState id now time stats records => exact disciplined_loadState disciplined enabled
  | allocate id randomId time stats => exact disciplined_allocate disciplined enabled
  | add id networkCode gateway netmask leaseDuration secret =>
    exact disciplined_startAdmin disciplined enabled
  | update id networkCode gateway netmask leaseDuration secret =>
    exact disciplined_startAdmin disciplined enabled
  | delete id networkCode => exact disciplined_startAdmin disciplined enabled
  | stepAdmin id inDatabase succeeds => exact disciplined_stepAdmin disciplined enabled
  | release id networkCode now =>
    change managed.release id networkCode now = some next at enabled
    unfold ManagedService.release at enabled
    split at enabled
    · split at enabled <;> cases enabled
      exact disciplined.frame rfl rfl fun _ absent => absent
    · cases enabled
  | stepRelease id => exact disciplined_stepRelease disciplined enabled
  | operate ref operation =>
    cases enabled
    exact disciplined.frame rfl rfl fun _ absent => absent
  | confirm index =>
    obtain ⟨live, -, same⟩ := Option.map_eq_some_iff.mp enabled
    exact same ▸ disciplined.frame rfl rfl fun _ absent => absent
  | close index heap time =>
    obtain ⟨service, closed, same⟩ := Option.map_eq_some_iff.mp enabled
    obtain ⟨live, -, sameService⟩ := Option.map_eq_some_iff.mp closed
    subst sameService
    exact same ▸ disciplined.frame rfl rfl fun _ absent => absent

theorem disciplined_start (settings : ServiceSettings) : (start settings).Disciplined where
  locked _ _ found := by cases found
  unique _ _ _ _ found := by cases found
  absent _ _ found := by cases found

/-! ### What one step needs -/

/-- A state is taken away from under its code: no session may use it. -/
theorem rooted_removeState_iff (rooted : managed.Rooted) {networkCode : String} :
    (managed.removeState networkCode).Rooted ↔ ¬managed.Used networkCode := by
  constructor
  · rintro still ⟨live, member, same⟩
    have found := (still live member).1
    change (managed.service.provider.erase networkCode).lookup _ = _ at found
    rw [same, AList.lookup_erase] at found
    cases found
  · intro unused live member
    obtain ⟨found, configured⟩ := rooted live member
    refine ⟨?_, configured⟩
    exact (AList.lookup_erase_ne fun same => unused ⟨live, member, same⟩).trans found

/-- So is a network. -/
theorem rooted_eraseNet_iff (rooted : managed.Rooted) {networkCode : String} :
    (managed.setNets (managed.service.dbNets.erase networkCode)).Rooted ↔
      ¬managed.Used networkCode := by
  constructor
  · rintro still ⟨live, member, same⟩
    have configured := (still live member).2
    change ((managed.service.dbNets.erase networkCode).lookup _).isSome = true at configured
    rw [same, AList.lookup_erase] at configured
    cases configured
  · intro unused live member
    obtain ⟨found, configured⟩ := rooted live member
    refine ⟨found, ?_⟩
    change ((managed.service.dbNets.erase networkCode).lookup _).isSome = true
    rw [AList.lookup_erase_ne fun same => unused ⟨live, member, same⟩]
    exact configured

/-- A network that is entered takes nothing away. -/
theorem rooted_insertNet (rooted : managed.Rooted) {networkCode : String}
    {network : ManagedNetwork} :
    (managed.setNets (managed.service.dbNets.insert networkCode network)).Rooted := by
  intro live member
  obtain ⟨found, configured⟩ := rooted live member
  refine ⟨found, ?_⟩
  change ((managed.service.dbNets.insert networkCode network).lookup _).isSome = true
  rw [Map.lookup_insert_eq]
  split
  · rfl
  · exact configured

theorem rooted_stepRegister (disciplined : managed.Disciplined) (rooted : managed.Rooted)
    {now : Nat} (enabled : managed.stepRegister keySign id now = some next) : next.Rooted := by
  obtain ⟨registering, found, enabled⟩ := Option.bind_eq_some_iff.mp enabled
  dsimp only at enabled
  split at enabled
  · split at enabled <;> cases enabled <;> exact rooted
  · split at enabled <;> cases enabled <;> exact rooted
  · split at enabled <;> cases enabled <;> exact rooted
  · split at enabled <;> cases enabled
    exact rooted
  · split at enabled <;> cases enabled <;> exact rooted
  · next ref isStage =>
    cases enabled
    have absent := disciplined.absent id registering found (by rw [isStage]; trivial)
    intro live member
    obtain ⟨isState, configured⟩ := rooted live member
    refine ⟨?_, configured⟩
    have other : live.session.networkCode ≠ registering.req.networkCode := by
      intro same
      rw [same, absent] at isState
      cases isState
    exact (AList.lookup_insert_ne other).trans isState
  · cases enabled
    exact rooted
  · cases enabled
  · cases enabled

theorem rooted_loadState (rooted : managed.Rooted) {now : Nat} {time : SystemTime}
    {stats : StatsRef} {records : List DeviceRecord}
    (enabled : managed.loadState id now time stats records = some next) : next.Rooted := by
  obtain ⟨registering, found, enabled⟩ := Option.bind_eq_some_iff.mp enabled
  dsimp only at enabled
  split at enabled
  · split at enabled <;> cases enabled <;> exact rooted
  · cases enabled

/-- A registration that gets an address needs a state that is found. -/
theorem rooted_allocate_iff (rooted : managed.Rooted) {randomId : RandomId} {time : SystemTime}
    {stats : StatsRef} (enabled : managed.allocate id randomId time stats = some next) :
    next.Rooted ↔ managed.keepsRoots (.allocate id randomId time stats) := by
  obtain ⟨registering, found, enabled⟩ := Option.bind_eq_some_iff.mp enabled
  split at enabled
  · next ref isStage =>
    obtain ⟨state, isState, same⟩ := Option.map_eq_some_iff.mp enabled
    split at same
    · next result after session entry outcome =>
      subst same
      have sessionCode : session.networkCode = registering.req.networkCode := by
        obtain ⟨_, _, _, _, _, isSession, _⟩ := NetworkState.register_cases outcome
        rw [isSession]
        rfl
      have admits : managed.Admits registering ref randomId time stats := by
        refine ⟨state, isState, ?_⟩
        rw [outcome]
        rfl
      constructor
      · intro still other otherRef isOther otherStage _
        cases found.symm.trans isOther
        cases isStage.symm.trans otherStage
        have isNew := still ⟨session, ref⟩
          (List.mem_append_right _ (List.mem_singleton.mpr rfl))
        rw [sessionCode] at isNew
        exact isNew
      · intro kept live member
        rcases List.mem_append.mp member with before | isNew
        · exact rooted live before
        · cases List.mem_singleton.mp isNew
          rw [sessionCode]
          exact kept registering ref found isStage admits
    · next message outcome =>
      subst same
      refine iff_of_true rooted fun other otherRef isOther otherStage admits => ?_
      cases found.symm.trans isOther
      cases isStage.symm.trans otherStage
      obtain ⟨otherState, isOtherState, isOk⟩ := admits
      cases isState.symm.trans isOtherState
      rw [outcome] at isOk
      cases isOk
  · cases enabled

/-- What is taken away by a call of the administrator may not be used. -/
theorem rooted_stepAdmin_iff (rooted : managed.Rooted) {inDatabase succeeds : Bool}
    (enabled : managed.stepAdmin id inDatabase succeeds = some next) :
    next.Rooted ↔ managed.keepsRoots (.stepAdmin id inDatabase succeeds) := by
  obtain ⟨administering, found, same⟩ := Option.map_eq_some_iff.mp enabled
  have untouched : administering.stage ≠ .changed →
      ¬(administering.stage = .stored ∧ administering.call = .delete) →
        managed.keepsRoots (.stepAdmin id inDatabase succeeds) := by
    intro notChanged notDelete other isOther critical
    cases found.symm.trans isOther
    exact (critical.elim notChanged notDelete).elim
  have critical : administering.stage = .changed ∨
      administering.stage = .stored ∧ administering.call = .delete →
        (managed.keepsRoots (.stepAdmin id inDatabase succeeds) ↔
          ¬managed.Used administering.networkCode) := by
    intro isCritical
    refine ⟨fun kept => kept administering found isCritical, fun unused other isOther _ => ?_⟩
    cases found.symm.trans isOther
    exact unused
  dsimp only at same
  split at same
  · next isStage =>
    refine iff_of_true ?_ (untouched (by rw [isStage]; nofun) (by rw [isStage]; nofun))
    split at same <;> exact same ▸ rooted
  · next isStage =>
    refine iff_of_true ?_ (untouched (by rw [isStage]; nofun) (by rw [isStage]; nofun))
    split at same <;> exact same ▸ rooted
  · next isStage =>
    refine iff_of_true ?_ (untouched (by rw [isStage]; nofun) (by rw [isStage]; nofun))
    split at same <;> exact same ▸ rooted
  · next isStage =>
    unfold changeNets at same
    dsimp only at same
    split at same
    · next isCall =>
      subst same
      refine iff_of_true ?_ (untouched (by rw [isStage]; nofun) (by rw [isCall]; nofun))
      exact rooted_insertNet rooted
    · next isCall =>
      refine iff_of_true ?_ (untouched (by rw [isStage]; nofun) (by rw [isCall]; nofun))
      split at same
      · subst same
        exact rooted_insertNet rooted
      · exact same ▸ rooted
    · next isCall =>
      subst same
      exact (rooted_eraseNet_iff rooted).trans (critical (.inr ⟨isStage, isCall⟩)).symm
  · next isStage =>
    subst same
    exact (rooted_removeState_iff rooted).trans (critical (.inl isStage)).symm

/-- So may what is taken away by the cleanup. -/
theorem rooted_stepRelease_iff (rooted : managed.Rooted)
    (enabled : managed.stepRelease id = some next) :
    next.Rooted ↔ managed.keepsRoots (.stepRelease id) := by
  obtain ⟨releasing, found, same⟩ := Option.map_eq_some_iff.mp enabled
  have untouched : releasing.stage ≠ .idle → managed.keepsRoots (.stepRelease id) := by
    intro notIdle other isOther isIdle
    cases found.symm.trans isOther
    exact (notIdle isIdle).elim
  split at same
  · next isStage =>
    refine iff_of_true ?_ (untouched (by rw [isStage]; nofun))
    split at same <;> exact same ▸ rooted
  · next isStage =>
    refine iff_of_true ?_ (untouched (by rw [isStage]; nofun))
    split at same
    · split at same <;> exact same ▸ rooted
    · exact same ▸ rooted
  · next isStage =>
    refine iff_of_true ?_ (untouched (by rw [isStage]; nofun))
    split at same <;> exact same ▸ rooted
  · next isStage =>
    subst same
    refine (rooted_removeState_iff rooted).trans ?_
    refine ⟨fun unused other isOther _ => ?_, fun kept => kept releasing found isStage⟩
    cases found.symm.trans isOther
    exact unused

/-- Fewer sessions, and sessions of the same states, are rooted as well. -/
theorem Rooted.of_sessions (rooted : managed.Rooted)
    (sessions : ∀ live ∈ next.service.sessions, ∃ before ∈ managed.service.sessions,
      live.session.networkCode = before.session.networkCode ∧ live.state = before.state)
    (sameProvider : next.service.provider = managed.service.provider)
    (sameNets : next.service.dbNets = managed.service.dbNets) : next.Rooted := by
  intro live member
  obtain ⟨before, isBefore, sameCode, sameState⟩ := sessions live member
  unfold IsRoot
  rw [sameCode, sameState, sameProvider, sameNets]
  exact rooted before isBefore

theorem rooted_startAdmin (rooted : managed.Rooted) {networkCode : String}
    {stage : AdminStage} {checked : Except String AdminCall}
    (enabled : managed.startAdmin id networkCode stage checked = some next) : next.Rooted := by
  unfold startAdmin at enabled
  split at enabled
  · cases enabled
  · split at enabled <;> cases enabled <;> exact rooted

/-- A step leaves everything rooted exactly when it meets its condition. -/
theorem rooted_step_iff (disciplined : managed.Disciplined) (rooted : managed.Rooted)
    {event : ManagedEvent} (enabled : (machine keySign).step managed event = some next) :
    next.Rooted ↔ managed.keepsRoots event := by
  cases event with
  | register id req sender =>
    refine iff_of_true ?_ trivial
    change managed.register id req sender = some next at enabled
    unfold ManagedService.register at enabled
    split at enabled
    · cases enabled
    · dsimp only at enabled
      split at enabled <;> cases enabled <;> exact rooted
  | stepRegister id now =>
    exact iff_of_true (rooted_stepRegister disciplined rooted enabled) trivial
  | loadState id now time stats records =>
    exact iff_of_true (rooted_loadState rooted enabled) trivial
  | allocate id randomId time stats => exact rooted_allocate_iff rooted enabled
  | add id networkCode gateway netmask leaseDuration secret =>
    exact iff_of_true (rooted_startAdmin rooted enabled) trivial
  | update id networkCode gateway netmask leaseDuration secret =>
    exact iff_of_true (rooted_startAdmin rooted enabled) trivial
  | delete id networkCode => exact iff_of_true (rooted_startAdmin rooted enabled) trivial
  | stepAdmin id inDatabase succeeds => exact rooted_stepAdmin_iff rooted enabled
  | release id networkCode now =>
    refine iff_of_true ?_ trivial
    change managed.release id networkCode now = some next at enabled
    unfold ManagedService.release at enabled
    split at enabled
    · split at enabled <;> cases enabled
      exact rooted
    · cases enabled
  | stepRelease id => exact rooted_stepRelease_iff rooted enabled
  | operate ref operation =>
    cases enabled
    exact iff_of_true rooted trivial
  | confirm index =>
    obtain ⟨live, isLive, same⟩ := Option.map_eq_some_iff.mp enabled
    subst same
    refine iff_of_true (rooted.of_sessions (fun other member => ?_) rfl rfl) trivial
    rcases List.mem_or_eq_of_mem_set member with before | rfl
    · exact ⟨other, before, rfl, rfl⟩
    · exact ⟨live, List.mem_of_getElem? isLive, rfl, rfl⟩
  | close index heap time =>
    obtain ⟨service, closed, same⟩ := Option.map_eq_some_iff.mp enabled
    obtain ⟨live, -, sameService⟩ := Option.map_eq_some_iff.mp closed
    subst sameService
    subst same
    refine iff_of_true (rooted.of_sessions (fun other member => ?_) rfl rfl) trivial
    exact ⟨other, List.mem_of_mem_eraseIdx member, rfl, rfl⟩

theorem keepsRoots_of_disabled {event : ManagedEvent}
    (disabled : (machine keySign).step managed event = none) : managed.keepsRoots event := by
  cases event with
  | allocate id randomId time stats =>
    rintro registering ref found isStage ⟨state, isState, -⟩
    change managed.allocate id randomId time stats = none at disabled
    unfold ManagedService.allocate at disabled
    rw [found, Option.bind_some, isStage] at disabled
    dsimp only at disabled
    rw [isState] at disabled
    cases disabled
  | stepAdmin id inDatabase succeeds =>
    intro administering found
    change (managed.administering.lookup id).map _ = none at disabled
    rw [found] at disabled
    cases disabled
  | stepRelease id =>
    intro releasing found
    change (managed.releasing.lookup id).map _ = none at disabled
    rw [found] at disabled
    cases disabled
  | _ => trivial

/-- The state of every session is the one found under its network code throughout a run, and its
network is configured, if and only if every registration gets its address in the state that is found
then and nothing is taken away that is used. -/
theorem rooted_throughout_iff (keySign : String → String) (settings : ServiceSettings)
    (events : List ManagedEvent) :
    (machine keySign).Throughout Rooted (start settings) events ↔
      (machine keySign).Guarded keepsRoots (start settings) events :=
  Machine.throughout_iff_guarded
    (fun _ _ _ disciplined enabled => disciplined.step enabled)
    (fun _ _ _ disciplined rooted enabled => rooted_step_iff disciplined rooted enabled)
    (fun _ _ disabled => keepsRoots_of_disabled disabled) (disciplined_start settings)
    (fun _ member => nomatch member)

/-- A client finds the state of its network, which the administrator takes away, and then gets its
address there. -/
def registerDuringUpdate : List ManagedEvent :=
  [.register 0 (Group.signedRequest "a" 0x0A1A0002) 10, .stepRegister 0 1, .stepRegister 0 1,
    .stepRegister 0 1, .stepRegister 0 1, .stepRegister 0 1, .loadState 0 2 0 0 [],
    .stepRegister 0 2, .stepRegister 0 2,
    .update 0 "net" 0x0A1A0001 24 86400000000000 "Secret-Of-The-Network-0002",
    .stepAdmin 0 false true, .stepAdmin 0 false true, .stepAdmin 0 false true,
    .stepAdmin 0 false true, .stepAdmin 0 false true, .allocate 0 1 0 0]

theorem not_rooted_registerDuringUpdate : ∃ final,
    (machine Group.exampleCodec.keySign).run (start Group.exampleSettings) registerDuringUpdate =
      some final ∧ ¬final.Rooted := by
  have reaches : ∃ final, (machine Group.exampleCodec.keySign).run (start Group.exampleSettings)
      registerDuringUpdate = some final ∧
        final.service.sessions.map (fun live => live.session.networkCode) = ["net"] ∧
          final.service.provider.lookup "net" = none := ⟨_, rfl, rfl, rfl⟩
  obtain ⟨final, isFinal, isSession, absent⟩ := reaches
  refine ⟨final, isFinal, fun rooted => ?_⟩
  obtain ⟨live, member, isCode⟩ := List.mem_map.mp
    (show "net" ∈ final.service.sessions.map fun live => live.session.networkCode by
      rw [isSession]
      exact List.mem_singleton.mpr rfl)
  have found := (rooted live member).1
  rw [isCode, absent] at found
  cases found

end ManagedService

end Vnt.Server
