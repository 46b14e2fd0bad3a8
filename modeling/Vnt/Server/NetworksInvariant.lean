/-
This file proves what a server keeps while it manages its networks. A state that is found under a
network code, that a registration has located or that a session holds is one of that network, and
only the registrations for a network put senders into its states. A sender waits in at most one
registration, and no longer once it was admitted.
-/

import Vnt.Server.Group

namespace Vnt.Server

open Vnt.Base

/-! ### Operations on the state of a network -/

namespace NetworkState

/-- The state is of the same network and has no sender that was not there before. -/
structure Follows (state next : NetworkState) : Prop where
  networkCode : next.networkCode = state.networkCode
  senders : ∀ ip sender, next.senderMap.lookup ip = some sender →
    state.senderMap.lookup ip = some sender

variable {state next : NetworkState}

theorem Follows.refl (state : NetworkState) : state.Follows state := ⟨rfl, fun _ _ => id⟩

theorem senders_erase (ip other : Ipv4Addr) (sender : Sender)
    (found : (state.senderMap.erase ip).lookup other = some sender) :
    state.senderMap.lookup other = some sender := by
  rw [Map.lookup_erase_eq] at found
  split at found
  · cases found
  · exact found

theorem follows_operate (state : NetworkState) (operation : StateOperation) :
    state.Follows (state.operate operation) := by
  cases operation with
  | updateClientLatency ip latencyMs =>
    show state.Follows (state.updateClientLatency ip latencyMs)
    unfold updateClientLatency
    split
    · exact .refl state
    · split
      · exact .refl state
      · exact ⟨rfl, fun _ _ => id⟩
  | offlineIp heap deviceId ip randomId now =>
    show state.Follows (state.offlineIp heap deviceId ip randomId now).1
    unfold offlineIp
    split
    · exact ⟨rfl, senders_erase ip⟩
    · exact .refl state
  | releaseLease deviceId ip randomId => exact ⟨rfl, fun _ _ => id⟩
  | removeSender ip => exact ⟨rfl, senders_erase ip⟩
  | removeStats ip => exact ⟨rfl, fun _ _ => id⟩
  | removeDeviceFromMemory deviceId =>
    refine ⟨removeDeviceFromMemory_networkCode .., fun other sender found => ?_⟩
    have remains := removeDeviceFromMemory_senderMap state deviceId other
    rw [show (state.operate (.removeDeviceFromMemory deviceId)).senderMap =
      (state.removeDeviceFromMemory deviceId).1.senderMap from rfl, remains] at found
    split at found
    · cases found
    · exact found
  | removeDevices deviceIds => exact ⟨rfl, fun _ _ => id⟩

/-- A registration installs its own sender and no other. -/
theorem senders_register {req : RegRequestMsg} {randomId : RandomId} {sender : Sender}
    {now : SystemTime} {stats : StatsRef} {session : Session} {entry : Option DeviceEntry}
    (succeeds : state.register req randomId sender now stats = .ok (next, session, entry)) :
    next.networkCode = state.networkCode ∧ session.networkCode = req.networkCode ∧
      session.sender = sender ∧ ∀ ip other, next.senderMap.lookup ip = some other →
        other = sender ∨ state.senderMap.lookup ip = some other := by
  obtain ⟨table, ip, old, -, rfl, rfl, -⟩ := register_cases succeeds
  refine ⟨installAddress_networkCode .., rfl, rfl, fun place other found => ?_⟩
  rw [installAddress_senderMap] at found
  split at found
  · exact .inl (Option.some.inj found).symm
  · split at found
    · cases found
    · exact .inr found

end NetworkState

/-! ### The states of a server -/

namespace NetworkService

/-- The network codes of the states. -/
def codes (service : NetworkService) : List String := service.states.map NetworkState.networkCode

/-- A service whose states are those of their networks. Its registrations are valid, and its
sessions and the senders in its states are admitted for the network. -/
structure Sound (admitted : Sender → String → Prop) (valid : RegRequestMsg → Sender → Prop)
    (service : NetworkService) : Prop where
  provider : ∀ code ref, service.provider.lookup code = some ref → service.codes[ref]? = some code
  registrations : ∀ registration ∈ service.registrations,
    valid registration.req registration.sender ∧ ∀ ref, registration.stage = .located ref →
      service.codes[ref]? = some registration.req.networkCode
  sessions : ∀ live ∈ service.sessions,
    service.codes[live.state]? = some live.session.networkCode ∧
      admitted live.session.sender live.session.networkCode
  installed : ∀ state ∈ service.states, ∀ ip sender, state.senderMap.lookup ip = some sender →
    admitted sender state.networkCode

variable {admitted : Sender → String → Prop} {valid : RegRequestMsg → Sender → Prop}
  {service next : NetworkService} {index : Nat}

theorem sound_new (settings : ServiceSettings) : (new settings).Sound admitted valid where
  provider _ _ found := by cases found
  registrations _ member := by cases member
  sessions _ member := by cases member
  installed _ member := by cases member

theorem Sound.mono {wider : Sender → String → Prop} {weaker : RegRequestMsg → Sender → Prop}
    (sound : service.Sound admitted valid)
    (admits : ∀ sender code, admitted sender code → wider sender code)
    (validates : ∀ req sender, valid req sender → weaker req sender) :
    service.Sound wider weaker where
  provider := sound.provider
  registrations registration member :=
    (sound.registrations registration member).imp_left (validates _ _)
  sessions live member := (sound.sessions live member).imp_right (admits _ _)
  installed state member ip sender found :=
    admits _ _ (sound.installed state member ip sender found)

/-- A state found under a network code is of that network, and its senders are admitted. -/
theorem Sound.networkStates (sound : service.Sound admitted valid) {code : String}
    {state : NetworkState} (found : service.networkStates.lookup code = some state) :
    state.networkCode = code ∧ ∀ ip sender, state.senderMap.lookup ip = some sender →
      admitted sender code := by
  unfold NetworkService.networkStates at found
  rw [Map.lookup_filterMap] at found
  obtain ⟨ref, isRef, isState⟩ := Option.bind_eq_some_iff.mp found
  have isCode := sound.provider code ref isRef
  unfold codes at isCode
  rw [List.getElem?_map, isState] at isCode
  cases isCode
  exact ⟨rfl, sound.installed state (List.mem_of_getElem? isState)⟩

theorem exists_follows_of_modify {states : List NetworkState} {ref place : StateRef}
    {change : NetworkState → NetworkState}
    (follows : ∀ state : NetworkState, state.Follows (change state)) {after : NetworkState}
    (found : (states.modify ref change)[place]? = some after) :
    ∃ before, states[place]? = some before ∧ before.Follows after := by
  rw [List.getElem?_modify] at found
  obtain ⟨before, isBefore, rfl⟩ := Option.map_eq_some_iff.mp found
  refine ⟨before, isBefore, ?_⟩
  split
  · exact follows before
  · exact .refl before

theorem codes_modifyState (service : NetworkService) (ref : StateRef)
    {change : NetworkState → NetworkState}
    (follows : ∀ state : NetworkState, state.Follows (change state)) :
    (service.modifyState ref change).codes = service.codes := by
  unfold codes NetworkService.modifyState
  refine List.ext_getElem? fun place => ?_
  rw [List.getElem?_map, List.getElem?_map]
  cases outcome : (service.states.modify ref change)[place]? with
  | none =>
    rw [List.getElem?_eq_none_iff, List.length_modify, ← List.getElem?_eq_none_iff] at outcome
    rw [outcome]
  | some after =>
    obtain ⟨before, isBefore, follows⟩ := exists_follows_of_modify follows outcome
    rw [isBefore]
    exact congrArg some follows.networkCode

/-- Changing a state in a way that installs nothing keeps a service sound. -/
theorem Sound.modifyState (sound : service.Sound admitted valid) (ref : StateRef)
    {change : NetworkState → NetworkState}
    (follows : ∀ state : NetworkState, state.Follows (change state)) :
    (service.modifyState ref change).Sound admitted valid := by
  have same := codes_modifyState service ref follows
  constructor
  · rw [same]
    exact sound.provider
  · rw [same]
    exact sound.registrations
  · rw [same]
    exact sound.sessions
  · intro after member ip sender found
    obtain ⟨place, isAfter⟩ := List.mem_iff_getElem?.mp member
    obtain ⟨before, isBefore, follows⟩ := exists_follows_of_modify follows isAfter
    rw [follows.networkCode]
    exact sound.installed before (List.mem_of_getElem? isBefore) ip sender
      (follows.senders ip sender found)

theorem codes_updateClientLatency (networkCode : String) (ip : Ipv4Addr) (latencyMs : UInt32) :
    (service.updateClientLatency networkCode ip latencyMs).codes = service.codes := by
  unfold NetworkService.updateClientLatency
  split
  · exact codes_modifyState _ _ fun state =>
      state.follows_operate (.updateClientLatency ip latencyMs)
  · rfl

theorem Sound.updateClientLatency (sound : service.Sound admitted valid) (networkCode : String)
    (ip : Ipv4Addr) (latencyMs : UInt32) :
    (service.updateClientLatency networkCode ip latencyMs).Sound admitted valid := by
  unfold NetworkService.updateClientLatency
  split
  · exact sound.modifyState _ fun state =>
      state.follows_operate (.updateClientLatency ip latencyMs)
  · exact sound

theorem Sound.closeSession (sound : service.Sound admitted valid) {heap : StatsHeap}
    {now : SystemTime} (closes : service.closeSession index heap now = some next) :
    next.Sound admitted valid := by
  obtain ⟨live, -, rfl⟩ := Option.map_eq_some_iff.mp closes
  have remaining : Sound admitted valid
      { service with sessions := service.sessions.eraseIdx index } :=
    ⟨sound.provider, sound.registrations,
      fun other member => sound.sessions other (List.mem_of_mem_eraseIdx member), sound.installed⟩
  exact remaining.modifyState live.state fun state => state.follows_operate _

/-! ### Registration and changes -/

theorem Sound.proceed (sound : service.Sound admitted valid) {registration : Registration}
    (found : service.registrations[index]? = some registration) {stage : RegistrationStage}
    (located : ∀ ref, stage = .located ref →
      service.codes[ref]? = some registration.req.networkCode) :
    (service.proceed index registration stage).Sound admitted valid where
  provider := sound.provider
  registrations := by
    intro other member
    rcases List.mem_or_eq_of_mem_set member with before | rfl
    · exact sound.registrations other before
    · exact ⟨(sound.registrations registration (List.mem_of_getElem? found)).1, located⟩
  sessions := sound.sessions
  installed := sound.installed

theorem Sound.conclude (sound : service.Sound admitted valid) (index : Nat) :
    (service.conclude index).Sound admitted valid where
  provider := sound.provider
  registrations other member := sound.registrations other (List.mem_of_mem_eraseIdx member)
  sessions := sound.sessions
  installed := sound.installed

theorem Sound.beginRegister (sound : service.Sound admitted valid) {keySign : String → String}
    {req : RegRequestMsg} {sender : Sender}
    (begins : service.beginRegister keySign req sender = some next)
    (validates : service.validateRegistration keySign req = .ok () → valid req sender) :
    next.Sound admitted valid := by
  unfold NetworkService.beginRegister at begins
  split at begins
  · cases begins
  · dsimp only at begins
    split at begins
    · next checked validated =>
      cases begins
      refine ⟨sound.provider, ?_, sound.sessions, sound.installed⟩
      refine List.forall_mem_cons.mpr ⟨⟨validates validated, nofun⟩, sound.registrations⟩
    · cases begins
      exact ⟨sound.provider, sound.registrations, sound.sessions, sound.installed⟩

theorem Sound.continueRegister (sound : service.Sound admitted valid)
    (continues : service.continueRegister index = some next) : next.Sound admitted valid := by
  obtain ⟨registration, found, continues⟩ := Option.bind_eq_some_iff.mp continues
  dsimp only at continues
  have locate : ∀ ref, service.provider.lookup registration.req.networkCode = some ref →
      (service.proceed index registration (.located ref)).Sound admitted valid := by
    intro ref isRef
    refine sound.proceed found fun other same => ?_
    cases same
    exact sound.provider _ ref isRef
  split at continues
  · split at continues
    · cases continues
      exact sound.proceed found nofun
    · cases continues
      exact sound.conclude index
  · split at continues
    · next ref isRef =>
      cases continues
      exact locate ref isRef
    · cases continues
      exact sound.proceed found nofun
  · next config stage =>
    split at continues
    · cases continues
    · split at continues
      · next ref isRef =>
        cases continues
        exact locate ref isRef
      · cases continues
        have waits : (service.proceed index registration (.loading config)).Sound admitted valid :=
          sound.proceed found nofun
        exact ⟨waits.provider, waits.registrations, waits.sessions, waits.installed⟩
  · cases continues
  · cases continues

/-- The codes of the states are found at the same places when a state is added. -/
theorem Sound.createState (sound : service.Sound admitted valid) {now : SystemTime}
    {stats : StatsRef} {records : List DeviceRecord}
    (creates : service.createState index now stats records = some next) :
    next.Sound admitted valid := by
  obtain ⟨registration, found, creates⟩ := Option.bind_eq_some_iff.mp creates
  dsimp only at creates
  split at creates
  · next config stage =>
    split at creates
    · next state isState =>
      obtain ⟨stateCode, noSenders⟩ : state.networkCode = registration.req.networkCode ∧
          state.senderMap = ∅ := by
        obtain ⟨gateway, -, rfl⟩ := Option.map_eq_some_iff.mp isState
        exact ⟨rfl, rfl⟩
      obtain ⟨isStates, isProvider, isRegistrations, isSessions⟩ :
          next.states = service.states ++ [state] ∧
            next.provider = service.provider.insert registration.req.networkCode
              service.states.length ∧
            next.registrations = service.registrations.set index
              { registration with stage := .located service.states.length } ∧
            next.sessions = service.sessions := by
        cases creates
        exact ⟨rfl, rfl, rfl, rfl⟩
      have isCodes : next.codes = service.codes ++ [registration.req.networkCode] := by
        unfold codes
        rw [isStates, List.map_append, List.map_singleton, stateCode]
      have extended : ∀ {ref : StateRef} {code : String}, service.codes[ref]? = some code →
          next.codes[ref]? = some code := by
        intro ref code known
        rw [isCodes, List.getElem?_append_left (List.getElem?_eq_some_iff.mp known).1]
        exact known
      have added : next.codes[service.states.length]? = some registration.req.networkCode := by
        have length : service.codes.length = service.states.length := List.length_map _
        rw [isCodes, ← length]
        exact List.getElem?_concat_length
      constructor
      · intro code ref known
        rw [isProvider, Map.lookup_insert_eq] at known
        split at known
        · next same =>
          cases known
          rw [same]
          exact added
        · exact extended (sound.provider code ref known)
      · intro other member
        rw [isRegistrations] at member
        rcases List.mem_or_eq_of_mem_set member with before | rfl
        · obtain ⟨isValid, located⟩ := sound.registrations other before
          exact ⟨isValid, fun ref isRef => extended (located ref isRef)⟩
        · refine ⟨(sound.registrations registration (List.mem_of_getElem? found)).1, ?_⟩
          intro ref isRef
          cases isRef
          exact added
      · intro live member
        rw [isSessions] at member
        exact (sound.sessions live member).imp_left extended
      · intro state member ip sender present
        rw [isStates] at member
        rcases List.mem_append.mp member with before | new
        · exact sound.installed state before ip sender present
        · rw [List.mem_singleton.mp new, noSenders] at present
          cases present
    · cases creates
      have left := sound.conclude index
      exact ⟨left.provider, left.registrations, left.sessions, left.installed⟩
  · cases creates

theorem Sound.applyChange (sound : service.Sound admitted valid) (change : NetworkChange) :
    (service.applyChange change).Sound admitted valid := by
  have erased :
      ∀ networkCode code ref, (service.provider.erase networkCode).lookup code = some ref →
      service.codes[ref]? = some code := by
    intro networkCode code ref found
    rw [Map.lookup_erase_eq] at found
    split at found
    · cases found
    · exact sound.provider code ref found
  cases change with
  | add networkCode net leaseDuration secret =>
    exact ⟨sound.provider, sound.registrations, sound.sessions, sound.installed⟩
  | update networkCode gateway netmask leaseDuration secret =>
    unfold NetworkService.applyChange
    dsimp only
    split
    · exact ⟨erased networkCode, sound.registrations, sound.sessions, sound.installed⟩
    · exact sound
  | delete networkCode =>
    exact ⟨erased networkCode, sound.registrations, sound.sessions, sound.installed⟩
  | release networkCode =>
    exact ⟨erased networkCode, sound.registrations, sound.sessions, sound.installed⟩

/-- A registration that gets no address leaves nothing, and one that gets an address has its sender
installed in a state of its network. -/
theorem Sound.allocate (sound : service.Sound admitted valid) {randomId : RandomId}
    {now : SystemTime} {stats : StatsRef}
    {result : Option (Registration × Session × NetworkState)}
    (allocates : service.allocate index randomId now stats = some (next, result)) :
    (result = none ∧ next.Sound admitted valid) ∨
      ∃ registration session state, result = some (registration, session, state) ∧
        registration ∈ service.registrations ∧
        session.networkCode = registration.req.networkCode ∧
        next.Sound (fun sender code => admitted sender code ∨
          sender = registration.sender ∧ code = registration.req.networkCode) valid := by
  obtain ⟨registration, found, allocates⟩ := Option.bind_eq_some_iff.mp allocates
  split at allocates
  · next ref stage =>
    obtain ⟨state, isState, allocates⟩ := Option.map_eq_some_iff.mp allocates
    have member := List.mem_of_getElem? found
    split at allocates
    · next after session entry succeeds =>
      obtain ⟨sameCode, sessionCode, sessionSender, senders⟩ :=
        NetworkState.senders_register succeeds
      obtain ⟨rfl, isStates, isSessions, isProvider, isRegistrations⟩ :
          result = some (registration, session, after) ∧
            next.states = service.states.set ref after ∧
            next.sessions = service.sessions ++ [⟨session, ref⟩] ∧
            next.provider = service.provider ∧
            next.registrations = service.registrations.eraseIdx index := by
        cases allocates
        exact ⟨rfl, rfl, rfl, rfl, rfl⟩
      have isCodes : next.codes = service.codes := by
        unfold codes
        rw [isStates]
        exact map_set_of_getElem? isState sameCode
      have isCode := (sound.registrations registration member).2 ref stage
      have stateCode : state.networkCode = registration.req.networkCode := by
        unfold codes at isCode
        rw [List.getElem?_map, isState] at isCode
        exact Option.some.inj isCode
      refine .inr ⟨registration, session, after, rfl, member, sessionCode, ?_⟩
      constructor
      · rw [isProvider, isCodes]
        exact sound.provider
      · rw [isRegistrations, isCodes]
        exact (sound.conclude index).registrations
      · intro live isLive
        rw [isSessions] at isLive
        rw [isCodes]
        rcases List.mem_append.mp isLive with before | new
        · exact (sound.sessions live before).imp_right .inl
        · cases List.mem_singleton.mp new
          exact ⟨isCode.trans (congrArg some sessionCode.symm),
            .inr ⟨sessionSender, sessionCode⟩⟩
      · intro other isOther ip sender present
        rw [isStates] at isOther
        rcases List.mem_or_eq_of_mem_set isOther with before | rfl
        · exact .inl (sound.installed other before ip sender present)
        · rw [sameCode]
          rcases senders ip sender present with own | before
          · exact .inr ⟨own, stateCode⟩
          · exact .inl (sound.installed state (List.mem_of_getElem? isState) ip sender before)
    · cases allocates
      exact .inl ⟨rfl, sound.conclude index⟩
  · cases allocates

end NetworkService

/-! ### A sender belongs to one registration -/

namespace NetworkService

/-- The senders of the registrations under way. -/
def waiting (service : NetworkService) : List Sender :=
  service.registrations.map Registration.sender

/-- The senders of the registrations under way are pairwise different, and different from those
that are taken; all of them were used. -/
structure Distinct (taken : Sender → Prop) (service : NetworkService) : Prop where
  nodup : service.waiting.Nodup
  used : ∀ sender ∈ service.waiting, sender ∈ service.usedSenders
  taken : ∀ sender, taken sender → sender ∈ service.usedSenders ∧ sender ∉ service.waiting

/-- No registration begins, and some may end. -/
structure Dwindles (service next : NetworkService) : Prop where
  waiting : next.waiting.Sublist service.waiting
  used : next.usedSenders = service.usedSenders

variable {taken : Sender → Prop} {service next : NetworkService} {index : Nat}

theorem Dwindles.refl (service : NetworkService) : service.Dwindles service := ⟨.refl _, rfl⟩

theorem Distinct.dwindles (distinct : service.Distinct taken) (dwindles : service.Dwindles next) :
    next.Distinct taken where
  nodup := dwindles.waiting.nodup distinct.nodup
  used sender member := by
    rw [dwindles.used]
    exact distinct.used sender (dwindles.waiting.subset member)
  taken sender isTaken := by
    obtain ⟨isUsed, absent⟩ := distinct.taken sender isTaken
    rw [dwindles.used]
    exact ⟨isUsed, fun member => absent (dwindles.waiting.subset member)⟩

theorem dwindles_proceed {registration : Registration}
    (found : service.registrations[index]? = some registration) (stage : RegistrationStage) :
    service.Dwindles (service.proceed index registration stage) := by
  refine ⟨?_, rfl⟩
  have same : (service.proceed index registration stage).waiting = service.waiting :=
    map_set_of_getElem? found rfl
  rw [same]

theorem dwindles_conclude (service : NetworkService) (index : Nat) :
    service.Dwindles (service.conclude index) :=
  ⟨(List.eraseIdx_sublist ..).map _, rfl⟩

theorem dwindles_continueRegister (continues : service.continueRegister index = some next) :
    service.Dwindles next := by
  obtain ⟨registration, found, continues⟩ := Option.bind_eq_some_iff.mp continues
  dsimp only at continues
  split at continues
  · split at continues
    · cases continues
      exact dwindles_proceed found _
    · cases continues
      exact dwindles_conclude service index
  · split at continues
    · cases continues
      exact dwindles_proceed found _
    · cases continues
      exact dwindles_proceed found _
  · next config stage =>
    split at continues
    · cases continues
    · split at continues
      · cases continues
        exact dwindles_proceed found _
      · cases continues
        have waits := dwindles_proceed found (.loading config)
        exact ⟨waits.waiting, waits.used⟩
  · cases continues
  · cases continues

theorem dwindles_createState {now : SystemTime} {stats : StatsRef} {records : List DeviceRecord}
    (creates : service.createState index now stats records = some next) :
    service.Dwindles next := by
  obtain ⟨registration, found, creates⟩ := Option.bind_eq_some_iff.mp creates
  dsimp only at creates
  split at creates
  · split at creates
    · cases creates
      have located := dwindles_proceed found (.located service.states.length)
      exact ⟨located.waiting, located.used⟩
    · cases creates
      have left := dwindles_conclude service index
      exact ⟨left.waiting, left.used⟩
  · cases creates

theorem dwindles_applyChange (service : NetworkService) (change : NetworkChange) :
    service.Dwindles (service.applyChange change) := by
  cases change with
  | update networkCode gateway netmask leaseDuration secret =>
    unfold applyChange
    dsimp only
    split <;> exact ⟨.refl _, rfl⟩
  | _ => exact ⟨.refl _, rfl⟩

theorem Distinct.beginRegister (distinct : service.Distinct taken) {keySign : String → String}
    {req : RegRequestMsg} {sender : Sender}
    (begins : service.beginRegister keySign req sender = some next) : next.Distinct taken := by
  unfold NetworkService.beginRegister at begins
  split at begins
  · cases begins
  · next fresh =>
    dsimp only at begins
    split at begins
    · cases begins
      refine ⟨List.nodup_cons.mpr ⟨fun member => fresh (distinct.used sender member),
        distinct.nodup⟩, ?_, fun other isTaken => ?_⟩
      · exact List.forall_mem_cons.mpr ⟨List.mem_cons_self,
          fun other member => List.mem_cons_of_mem _ (distinct.used other member)⟩
      · obtain ⟨isUsed, absent⟩ := distinct.taken other isTaken
        refine ⟨List.mem_cons_of_mem _ isUsed, fun member => ?_⟩
        rcases List.mem_cons.mp member with rfl | before
        · exact fresh isUsed
        · exact absent before
    · cases begins
      exact ⟨distinct.nodup, fun other member =>
        List.mem_cons_of_mem _ (distinct.used other member),
        fun other isTaken => (distinct.taken other isTaken).imp_left (List.mem_cons_of_mem _)⟩

/-- A sender that was admitted is no longer waiting. -/
theorem Distinct.allocate (distinct : service.Distinct taken) {randomId : RandomId}
    {now : SystemTime} {stats : StatsRef}
    {result : Option (Registration × Session × NetworkState)}
    (allocates : service.allocate index randomId now stats = some (next, result)) :
    next.Distinct taken ∧ ∀ admitted ∈ result, ¬taken admitted.1.sender ∧
      next.Distinct fun sender => taken sender ∨ sender = admitted.1.sender := by
  obtain ⟨registration, found, allocates⟩ := Option.bind_eq_some_iff.mp allocates
  split at allocates
  · next ref stage =>
    obtain ⟨state, -, allocates⟩ := Option.map_eq_some_iff.mp allocates
    have left := distinct.dwindles (dwindles_conclude service index)
    split at allocates
    · next after session entry succeeds =>
      cases allocates
      have kept : Distinct taken { service.conclude index with
          states := service.states.set ref after
          sessions := service.sessions ++ [⟨session, ref⟩] } :=
        ⟨left.nodup, left.used, left.taken⟩
      refine ⟨kept, ?_⟩
      rintro admitted isAdmitted
      cases Option.some.inj isAdmitted
      have member : registration.sender ∈ service.waiting :=
        List.mem_map_of_mem (List.mem_of_getElem? found)
      refine ⟨fun isTaken => (distinct.taken _ isTaken).2 member, kept.nodup, kept.used, ?_⟩
      rintro sender (before | rfl)
      · exact kept.taken sender before
      · refine ⟨distinct.used _ member, fun remains => ?_⟩
        obtain ⟨other, isOther, sameSender⟩ := List.mem_map.mp remains
        obtain ⟨place, elsewhere, isPlace⟩ := List.mem_eraseIdx_iff_getElem?.mp isOther
        have same : service.waiting[index]? = service.waiting[place]? := by
          unfold waiting
          rw [List.getElem?_map, List.getElem?_map, found, isPlace]
          exact congrArg some sameSender.symm
        have inside : index < service.waiting.length := by
          unfold waiting
          rw [List.length_map]
          exact (List.getElem?_eq_some_iff.mp found).1
        exact elsewhere ((List.getElem?_inj inside distinct.nodup).mp same).symm
    · cases allocates
      refine ⟨left, ?_⟩
      rintro admitted impossible
      cases impossible
  · cases allocates

end NetworkService

end Vnt.Server
