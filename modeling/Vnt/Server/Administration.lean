/-
This file embeds the registrations of a server next to the work on its networks, as finely as they
can be interleaved. Each access to the networks, to the states under their network codes or to a
lock of theirs is one step, and so is each statement of the database. A registration finds or
creates the state of its network and gets its address there later. The administrator and the
cleanup look whether a network is empty, and take its state away later.
-/

import Vnt.Server.Group

namespace Vnt.Server

open Vnt.Base

/-- How far `ControlService::register` has come: the request was checked, its secret was, the
configuration was read, the state was not found, the lock is held, the state was not found again,
the state was created, the state was found or entered while the lock is held, the state is known. -/
inductive RegisterStage where
  | checked
  | validated
  | configured (config : NetworkConfig)
  | missed (config : NetworkConfig)
  | locked (config : NetworkConfig)
  | loading (config : NetworkConfig)
  | created (ref : StateRef)
  | entered (ref : StateRef)
  | located (ref : StateRef)
  deriving DecidableEq, Repr

/-- A registration under way. -/
structure Registering where
  req : RegRequestMsg
  sender : Sender
  stage : RegisterStage
  deriving DecidableEq, Repr

/-- What the administrator does to a network. -/
inductive AdminCall where
  | add (net : Ipv4Net) (leaseDuration : Nat) (secret : String)
  | update (gateway : Ipv4Addr) (netmask : Nat) (leaseDuration : Nat) (secret : String)
  | delete
  deriving DecidableEq, Repr

/-- How far it has come: the network is there, the database knows no devices of it, its state has
none, the statement was executed, the networks were changed. -/
inductive AdminStage where
  | named
  | asked
  | free
  | stored
  | changed
  deriving DecidableEq, Repr

structure Administering where
  networkCode : String
  call : AdminCall
  stage : AdminStage
  deriving DecidableEq, Repr

/-- How far `release_network` has come with one network: it is on the list, its state was read, the
state is empty, the state was idle for long enough. -/
inductive ReleaseStage where
  | listed
  | read (ref : StateRef)
  | empty (ref : StateRef)
  | idle
  deriving DecidableEq, Repr

structure Releasing where
  networkCode : String
  now : Nat
  stage : ReleaseStage
  deriving DecidableEq, Repr

/-- `ControlService` with what is under way, instead of the registrations and changes of the
coarser service, and the times at which its states were last active. -/
structure ManagedService where
  service : NetworkService
  activeTimes : Map StateRef Nat
  registering : Map Nat Registering
  administering : Map Nat Administering
  releasing : Map Nat Releasing

/-- An operation starts under a number, or takes its next step. -/
inductive ManagedEvent where
  | register (id : Nat) (req : RegRequestMsg) (sender : Sender)
  | stepRegister (id : Nat) (now : Nat)
  | loadState (id : Nat) (now : Nat) (time : SystemTime) (stats : StatsRef)
      (records : List DeviceRecord)
  | allocate (id : Nat) (randomId : RandomId) (time : SystemTime) (stats : StatsRef)
  | add (id : Nat) (networkCode : String) (gateway : Ipv4Addr) (netmask : Nat)
      (leaseDuration : Option Nat) (secret : String)
  | update (id : Nat) (networkCode : String) (gateway : Ipv4Addr) (netmask : Nat)
      (leaseDuration : Nat) (secret : String)
  | delete (id : Nat) (networkCode : String)
  | stepAdmin (id : Nat) (inDatabase succeeds : Bool)
  | release (id : Nat) (networkCode : String) (now : Nat)
  | stepRelease (id : Nat)
  | operate (ref : StateRef) (operation : StateOperation)
  | confirm (index : Nat)
  | close (index : Nat) (heap : StatsHeap) (time : SystemTime)

namespace ManagedService

/-- A service that has loaded its networks. -/
def start (settings : ServiceSettings) : ManagedService := ⟨.new settings, ∅, ∅, ∅, ∅⟩

/-! ### Registrations -/

/-- A registration goes on at another stage. -/
def proceed (managed : ManagedService) (id : Nat) (registering : Registering)
    (stage : RegisterStage) : ManagedService :=
  { managed with
    registering := managed.registering.insert id { registering with stage := stage } }

/-- A registration ends. -/
def conclude (managed : ManagedService) (id : Nat) : ManagedService :=
  { managed with registering := managed.registering.erase id }

/-- `update_time`. -/
def updateTime (managed : ManagedService) (ref : StateRef) (now : Nat) : ManagedService :=
  { managed with activeTimes := managed.activeTimes.insert ref now }

def setLocks (managed : ManagedService) (initLocks : List String) : ManagedService :=
  { managed with service := { managed.service with initLocks := initLocks } }

/-- `register` up to the first access. -/
def register (managed : ManagedService) (id : Nat) (req : RegRequestMsg) (sender : Sender) :
    Option ManagedService :=
  if sender ∈ managed.service.usedSenders ∨ (managed.registering.lookup id).isSome = true then none
  else
    let used :=
      { managed with
        service := { managed.service with usedSenders := sender :: managed.service.usedSenders } }
    match req.check with
    | .ok () => some (used.proceed id ⟨req, sender, .checked⟩ .checked)
    | .error _ => some used

/-- The next access of `register` before the address. -/
def stepRegister (keySign : String → String) (managed : ManagedService) (id now : Nat) :
    Option ManagedService :=
  (managed.registering.lookup id).bind fun registering =>
    let networkCode := registering.req.networkCode
    match registering.stage with
    | .checked =>
      match managed.service.validateRegistration keySign registering.req with
      | .ok () => some (managed.proceed id registering .validated)
      | .error _ => some (managed.conclude id)
    | .validated =>
      match managed.service.allowedConfig networkCode with
      | .ok config => some (managed.proceed id registering (.configured config))
      | .error _ => some (managed.conclude id)
    | .configured config =>
      match managed.service.provider.lookup networkCode with
      | some ref => some ((managed.updateTime ref now).proceed id registering (.located ref))
      | none => some (managed.proceed id registering (.missed config))
    | .missed config =>
      if networkCode ∈ managed.service.initLocks then none
      else
        some ((managed.setLocks (networkCode :: managed.service.initLocks)).proceed id registering
          (.locked config))
    | .locked config =>
      match managed.service.provider.lookup networkCode with
      | some ref => some ((managed.updateTime ref now).proceed id registering (.entered ref))
      | none => some (managed.proceed id registering (.loading config))
    | .created ref =>
      some
        ({ managed with
            service :=
              { managed.service with
                provider := managed.service.provider.insert networkCode ref } }.proceed id
          registering (.entered ref))
    | .entered ref =>
      some ((managed.setLocks (managed.service.initLocks.erase networkCode)).proceed id registering
        (.located ref))
    | .loading _ | .located _ => none

/-- `NetworkState::new_from_db`; it may panic, and the lock is given back then. -/
def loadState (managed : ManagedService) (id now : Nat) (time : SystemTime) (stats : StatsRef)
    (records : List DeviceRecord) : Option ManagedService :=
  (managed.registering.lookup id).bind fun registering =>
    let networkCode := registering.req.networkCode
    match registering.stage with
    | .loading config =>
      let ref := managed.service.states.length
      match NetworkState.newFromDb networkCode config.net config.leaseDuration time stats
          records with
      | some state =>
        some (({ managed with
          service :=
            { managed.service with
              states := managed.service.states ++ [state] } }.updateTime ref now).proceed id
          registering (.created ref))
      | none =>
        some ((managed.setLocks (managed.service.initLocks.erase networkCode)).conclude id)
    | _ => none

/-- The address and the session. -/
def allocate (managed : ManagedService) (id : Nat) (randomId : RandomId) (time : SystemTime)
    (stats : StatsRef) : Option ManagedService :=
  (managed.registering.lookup id).bind fun registering =>
    match registering.stage with
    | .located ref =>
      managed.service.states[ref]?.map fun state =>
        match state.register registering.req randomId registering.sender time stats with
        | .ok (next, session, _) =>
          { managed.conclude id with
            service :=
              { managed.service with
                states := managed.service.states.set ref next
                sessions := managed.service.sessions ++ [⟨session, ref⟩] } }
        | .error _ => managed.conclude id
    | _ => none

/-! ### The administrator -/

def proceedAdmin (managed : ManagedService) (id : Nat) (administering : Administering)
    (stage : AdminStage) : ManagedService :=
  { managed with
    administering := managed.administering.insert id { administering with stage := stage } }

def concludeAdmin (managed : ManagedService) (id : Nat) : ManagedService :=
  { managed with administering := managed.administering.erase id }

/-- A call starts, unless its first checks fail. -/
def startAdmin (managed : ManagedService) (id : Nat) (networkCode : String) (stage : AdminStage)
    (checked : Except String AdminCall) : Option ManagedService :=
  if (managed.administering.lookup id).isSome = true then none
  else
    match checked with
    | .ok call => some (managed.proceedAdmin id ⟨networkCode, call, stage⟩ stage)
    | .error _ => some managed

/-- `add_network` up to its statement. -/
def checkAdd (managed : ManagedService) (networkCode : String) (gateway : Ipv4Addr)
    (netmask : Nat) (leaseDuration : Option Nat) (secret : String) : Except String AdminCall := do
  validateNetworkCodeValue networkCode "network_code"
  validateNetworkSecretValue networkCode secret
  if (managed.service.dbNets.lookup networkCode).isSome then
    throw s!"network_code '{networkCode}' already exists"
  let net ← NetworkService.buildNetworkFromGateway gateway netmask
  return .add net (leaseDuration.getD managed.service.defaultLeaseDuration) secret

/-- `update_network` up to its first statement. -/
def checkUpdate (managed : ManagedService) (networkCode : String) (gateway : Ipv4Addr)
    (netmask : Nat) (leaseDuration : Nat) (secret : String) : Except String AdminCall := do
  validateNetworkSecretValue networkCode secret
  if (managed.service.dbNets.lookup networkCode).isNone then
    throw s!"网络编号 '{networkCode}' 不存在"
  return .update gateway netmask leaseDuration secret

/-- `delete_network` up to its first statement. -/
def checkDelete (managed : ManagedService) (networkCode : String) : Except String AdminCall := do
  if networkCode = defaultNetworkCode then throw "the default network cannot be deleted"
  if (managed.service.dbNets.lookup networkCode).isNone then
    throw s!"网络编号 '{networkCode}' 不存在"
  return .delete

/-- Change the networks. -/
def setNets (managed : ManagedService) (dbNets : Map String ManagedNetwork) : ManagedService :=
  { managed with service := { managed.service with dbNets := dbNets } }

/-- `network_state_provider.remove`. -/
def removeState (managed : ManagedService) (networkCode : String) : ManagedService :=
  { managed with
    service :=
      { managed.service with provider := managed.service.provider.erase networkCode } }

/-- The change of the networks after the statement. -/
def changeNets (managed : ManagedService) (id : Nat) (administering : Administering) :
    ManagedService :=
  let dbNets := managed.service.dbNets
  let networkCode := administering.networkCode
  match administering.call with
  | .add net leaseDuration secret =>
    (managed.setNets (dbNets.insert networkCode ⟨⟨net, leaseDuration⟩, secret⟩)).concludeAdmin id
  | .update gateway netmask leaseDuration secret =>
    match NetworkService.buildNetworkFromGateway gateway netmask with
    | .ok net =>
      (managed.setNets (dbNets.insert networkCode ⟨⟨net, leaseDuration⟩, secret⟩)).proceedAdmin id
        administering .changed
    | .error _ => managed.concludeAdmin id
  | .delete =>
    (managed.setNets (dbNets.erase networkCode)).proceedAdmin id administering .changed

/-- The next access of a call or its next statement. -/
def stepAdmin (managed : ManagedService) (id : Nat) (inDatabase succeeds : Bool) :
    Option ManagedService :=
  (managed.administering.lookup id).map fun administering =>
    let networkCode := administering.networkCode
    match administering.stage with
    | .named =>
      if succeeds = false ∨ inDatabase = true then managed.concludeAdmin id
      else managed.proceedAdmin id administering .asked
    | .asked =>
      if managed.service.hasDevices networkCode false = true then managed.concludeAdmin id
      else managed.proceedAdmin id administering .free
    | .free =>
      if succeeds = true then managed.proceedAdmin id administering .stored
      else managed.concludeAdmin id
    | .stored => managed.changeNets id administering
    | .changed => (managed.removeState networkCode).concludeAdmin id

/-! ### The cleanup -/

/-- The time a network stays that nobody uses, in nanoseconds. -/
def releaseTimeout : Nat := 60 * 60 * 1000000000

def proceedRelease (managed : ManagedService) (id : Nat) (releasing : Releasing)
    (stage : ReleaseStage) : ManagedService :=
  { managed with releasing := managed.releasing.insert id { releasing with stage := stage } }

def concludeRelease (managed : ManagedService) (id : Nat) : ManagedService :=
  { managed with releasing := managed.releasing.erase id }

/-- `last_active_time`. -/
def lastActiveTime (managed : ManagedService) (ref : StateRef) : Nat :=
  (managed.activeTimes.lookup ref).getD 0

/-- `release_network` lists a network. -/
def release (managed : ManagedService) (id : Nat) (networkCode : String) (now : Nat) :
    Option ManagedService :=
  match managed.releasing.lookup id, managed.service.provider.lookup networkCode with
  | none, some ref =>
    if managed.lastActiveTime ref + releaseTimeout < now then
      some (managed.proceedRelease id ⟨networkCode, now, .listed⟩ .listed)
    else none
  | _, _ => none

/-- The next access of `release_network`. -/
def stepRelease (managed : ManagedService) (id : Nat) : Option ManagedService :=
  (managed.releasing.lookup id).map fun releasing =>
    match releasing.stage with
    | .listed =>
      match managed.service.provider.lookup releasing.networkCode with
      | some ref => managed.proceedRelease id releasing (.read ref)
      | none => managed.concludeRelease id
    | .read ref =>
      match managed.service.states[ref]? with
      | some state =>
        if state.isEmpty = true then managed.proceedRelease id releasing (.empty ref)
        else managed.concludeRelease id
      | none => managed.concludeRelease id
    | .empty ref =>
      if releasing.now < managed.lastActiveTime ref + releaseTimeout then
        managed.concludeRelease id
      else managed.proceedRelease id releasing .idle
    | .idle => (managed.removeState releasing.networkCode).concludeRelease id

/-! ### Sessions -/

/-- The end of `handle_confirm_reg`. -/
def confirm (managed : ManagedService) (index : Nat) : Option ManagedService :=
  managed.service.sessions[index]?.map fun live =>
    { managed with
      service :=
        { managed.service with
          sessions := managed.service.sessions.set index
            { live with session := { live.session with registrationStatus := .confirmed } } } }

/-- The service as a machine. -/
def machine (keySign : String → String) : Machine ManagedService ManagedEvent where
  step managed event :=
    match event with
    | .register id req sender => managed.register id req sender
    | .stepRegister id now => managed.stepRegister keySign id now
    | .loadState id now time stats records => managed.loadState id now time stats records
    | .allocate id randomId time stats => managed.allocate id randomId time stats
    | .add id networkCode gateway netmask leaseDuration secret =>
      managed.startAdmin id networkCode .free
        (managed.checkAdd networkCode gateway netmask leaseDuration secret)
    | .update id networkCode gateway netmask leaseDuration secret =>
      managed.startAdmin id networkCode .named
        (managed.checkUpdate networkCode gateway netmask leaseDuration secret)
    | .delete id networkCode =>
      managed.startAdmin id networkCode .named (managed.checkDelete networkCode)
    | .stepAdmin id inDatabase succeeds => managed.stepAdmin id inDatabase succeeds
    | .release id networkCode now => managed.release id networkCode now
    | .stepRelease id => managed.stepRelease id
    | .operate ref operation =>
      some { managed with
        service := managed.service.modifyState ref fun state => state.operate operation }
    | .confirm index => managed.confirm index
    | .close index heap time =>
      (managed.service.closeSession index heap time).map fun service =>
        { managed with service := service }

end ManagedService

end Vnt.Server
