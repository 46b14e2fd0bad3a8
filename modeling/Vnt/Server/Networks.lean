/-
This file embeds how a server manages its networks. A registration is checked against the secret
of its network, then it finds or creates the state of the network, and then it gets an address
there. The administrator changes and deletes networks, and the cleanup releases empty ones, between
any two of these steps. The sessions share the state they registered with, so a state that is no
longer found under its network code lives on in them.
-/

import Vnt.Base.Machine
import Vnt.Server.NetworkState

namespace Vnt.Server

open Vnt.Base

/-! ### Checks -/

/-- `char::is_whitespace`. -/
def isWhitespace (char : Char) : Bool :=
  let code := char.toNat
  decide (9 ≤ code ∧ code ≤ 13) || decide (0x2000 ≤ code ∧ code ≤ 0x200A) ||
    decide (code ∈ [0x20, 0x85, 0xA0, 0x1680, 0x2028, 0x2029, 0x202F, 0x205F, 0x3000])

def isAsciiLowercase (char : Char) : Bool := decide ('a' ≤ char ∧ char ≤ 'z')

def isAsciiUppercase (char : Char) : Bool := decide ('A' ≤ char ∧ char ≤ 'Z')

def isAsciiDigit (char : Char) : Bool := decide ('0' ≤ char ∧ char ≤ '9')

def isAsciiAlphanumeric (char : Char) : Bool :=
  isAsciiLowercase char || isAsciiUppercase char || isAsciiDigit char

def isAsciiHexdigit (char : Char) : Bool :=
  isAsciiDigit char || decide ('a' ≤ char ∧ char ≤ 'f') || decide ('A' ≤ char ∧ char ≤ 'F')

/-- `validate_network_code_value`. -/
def validateNetworkCodeValue (code fieldName : String) : Except String Unit :=
  if code.toList.all isWhitespace then .error s!"{fieldName} contains an empty network_code"
  else if 32 < code.utf8ByteSize then
    .error s!"{fieldName} contains network_code '{code}' longer than 32 characters"
  else .ok ()

/-- `validate_network_secret_value`. -/
def validateNetworkSecretValue (networkCode secret : String) : Except String Unit :=
  let chars := secret.toList
  let categories := [chars.any isAsciiLowercase, chars.any isAsciiUppercase,
    chars.any isAsciiDigit, chars.any fun char => !isAsciiAlphanumeric char]
  if secret.utf8ByteSize < 24 then
    .error s!"Secret for network_code '{networkCode}' is too short. Use at least 24 characters"
  else if chars.any isWhitespace then
    .error s!"Secret for network_code '{networkCode}' must not contain whitespace"
  else if categories.count true < 3 ∧
      ¬(chars.all isAsciiHexdigit = true ∧ 32 ≤ secret.utf8ByteSize) then
    .error (s!"Secret for network_code '{networkCode}' is too weak. " ++
      "Use a 24+ char mixed secret, or a 32+ char random hex secret")
  else .ok ()

/-- `RegRequestMsg::check`. -/
def RegRequestMsg.check (req : RegRequestMsg) : Except String Unit :=
  let exceeds (field : String) (most size : Nat) : String :=
    s!"{field} length exceeds {most} characters (current: {size})"
  if req.networkCode.utf8ByteSize = 0 then .error "network_code cannot be empty"
  else if 32 < req.networkCode.utf8ByteSize then
    .error (exceeds "network_code" 32 req.networkCode.utf8ByteSize)
  else if req.deviceId.utf8ByteSize = 0 then .error "device_id cannot be empty"
  else if 64 < req.deviceId.utf8ByteSize then
    .error (exceeds "device_id" 64 req.deviceId.utf8ByteSize)
  else if 128 < req.name.utf8ByteSize then .error (exceeds "name" 128 req.name.utf8ByteSize)
  else if 32 < req.version.utf8ByteSize then
    .error (exceeds "version" 32 req.version.utf8ByteSize)
  else .ok ()

/-! ### The state of a server -/

/-- `NetworkConfig`. -/
structure NetworkConfig where
  net : Ipv4Net
  leaseDuration : Nat
  deriving DecidableEq, Repr

/-- `ManagedNetwork`. -/
structure ManagedNetwork where
  config : NetworkConfig
  secret : String
  deriving DecidableEq, Repr

/-- `DEFAULT_NETWORK_CODE`. -/
def defaultNetworkCode : String := "default"

/-- A shared pointer to the state of a network. -/
abbrev StateRef : Type := Nat

/-- How far `ControlService::register` has come: the secret was checked, the configuration was
read, the lock under which a state is created is awaited or held, or the state was found. -/
inductive RegistrationStage where
  | validated
  | configured (config : NetworkConfig)
  | waiting (config : NetworkConfig)
  | loading (config : NetworkConfig)
  | located (state : StateRef)
  deriving DecidableEq, Repr

/-- A registration under way. -/
structure Registration where
  req : RegRequestMsg
  sender : Sender
  stage : RegistrationStage
  deriving DecidableEq, Repr

/-- An operation on the networks that has passed its checks. -/
inductive NetworkChange where
  | add (networkCode : String) (net : Ipv4Net) (leaseDuration : Nat) (secret : String)
  | update (networkCode : String) (gateway : Ipv4Addr) (netmask : Nat) (leaseDuration : Nat)
      (secret : String)
  | delete (networkCode : String)
  | release (networkCode : String)
  deriving DecidableEq, Repr

/-- A call of one of these operations. -/
inductive NetworkRequest where
  | add (networkCode : String) (gateway : Ipv4Addr) (netmask : Nat) (leaseDuration : Option Nat)
      (secret : String)
  | update (networkCode : String) (gateway : Ipv4Addr) (netmask : Nat) (leaseDuration : Nat)
      (secret : String) (inDatabase : Bool)
  | delete (networkCode : String) (inDatabase : Bool)
  | release (networkCode : String)
  deriving DecidableEq, Repr

/-- A connection with a session and the network state that the session holds. -/
structure LiveSession where
  session : Session
  state : StateRef
  deriving DecidableEq, Repr

/-- What a service starts with: the networks it loaded, their default lease and the white list. -/
structure ServiceSettings where
  defaultLeaseDuration : Nat
  dbNets : Map String ManagedNetwork
  whiteList : List String

/-- `ControlService` with all its networks: `dbNets`, the states that were ever created, the ones
found under a network code, the locks of `network_init_locks` that are held, and what is under way.
A sender that was used once is not used again. -/
structure NetworkService where
  defaultLeaseDuration : Nat
  dbNets : Map String ManagedNetwork
  whiteList : List String
  states : List NetworkState
  provider : Map String StateRef
  initLocks : List String
  registrations : List Registration
  sessions : List LiveSession
  changes : List NetworkChange
  usedSenders : List Sender

/-- The other operations on the state of a network. -/
inductive StateOperation where
  | updateClientLatency (ip : Ipv4Addr) (latencyMs : UInt32)
  | offlineIp (heap : StatsHeap) (deviceId : String) (ip : Ipv4Addr) (randomId : RandomId)
      (now : SystemTime)
  | releaseLease (deviceId : String) (ip : Ipv4Addr) (randomId : RandomId)
  | removeSender (ip : Ipv4Addr)
  | removeStats (ip : Ipv4Addr)
  | removeDeviceFromMemory (deviceId : String)
  | removeDevices (deviceIds : List String)

namespace NetworkState

/-- The state after another operation. -/
def operate (state : NetworkState) : StateOperation → NetworkState
  | .updateClientLatency ip latencyMs => state.updateClientLatency ip latencyMs
  | .offlineIp heap deviceId ip randomId now =>
    (state.offlineIp heap deviceId ip randomId now).1
  | .releaseLease deviceId ip randomId => (state.releaseLease deviceId ip randomId).1
  | .removeSender ip => state.removeSender ip
  | .removeStats ip => state.removeStats ip
  | .removeDeviceFromMemory deviceId => (state.removeDeviceFromMemory deviceId).1
  | .removeDevices deviceIds => state.removeDevices deviceIds

/-- `NetworkState::count`: all devices, and those that are online. -/
def count (state : NetworkState) : UInt32 × UInt32 :=
  let allCount := UInt32.ofNat state.leaseState.deviceMap.entries.length
  let onlineCount := UInt32.ofNat state.senderMap.entries.length
  (max allCount onlineCount, onlineCount)

/-- `NetworkState::is_empty`. -/
def isEmpty (state : NetworkState) : Bool :=
  state.leaseState.deviceMap.entries.isEmpty && state.leaseState.deviceIpMap.entries.isEmpty

end NetworkState

namespace NetworkService

/-- `ControlService::new`. -/
def new (settings : ServiceSettings) : NetworkService where
  defaultLeaseDuration := settings.defaultLeaseDuration
  dbNets := settings.dbNets
  whiteList := settings.whiteList
  states := []
  provider := ∅
  initLocks := []
  registrations := []
  sessions := []
  changes := []
  usedSenders := []

/-- `get_network_state`. -/
def getNetworkState (service : NetworkService) (networkCode : String) : Option NetworkState :=
  (service.provider.lookup networkCode).bind fun ref => service.states[ref]?

/-- The states that are found under a network code. -/
def networkStates (service : NetworkService) : Map String NetworkState :=
  service.provider.filterMap fun ref => service.states[ref]?

/-! ### Registration -/

/-- `validate_registration`, which compares the sign of the request with the one of the secret. -/
def validateRegistration (keySign : String → String) (service : NetworkService)
    (req : RegRequestMsg) : Except String Unit :=
  match service.dbNets.lookup req.networkCode with
  | none =>
    .error s!"network_code '{req.networkCode}' is not allowed by server configuration or database"
  | some network =>
    match validateNetworkSecretValue req.networkCode network.secret with
    | .error message => .error message
    | .ok () =>
      match req.keySign with
      | none => .error s!"network_code '{req.networkCode}' requires a network secret"
      | some providedSecret =>
        if providedSecret ≠ keySign network.secret then
          .error s!"invalid network secret for network_code '{req.networkCode}'"
        else .ok ()

/-- `network_config` and the white list. -/
def allowedConfig (service : NetworkService) (networkCode : String) :
    Except String NetworkConfig :=
  match service.dbNets.lookup networkCode with
  | none => .error s!"network_code '{networkCode}' is not allowed"
  | some network =>
    if service.whiteList ≠ [] ∧ networkCode ∉ service.whiteList then
      .error s!"network_code '{networkCode}' is not in white_list"
    else .ok network.config

/-- A registration goes on at another stage. -/
def proceed (service : NetworkService) (index : Nat) (registration : Registration)
    (stage : RegistrationStage) : NetworkService :=
  { service with
    registrations := service.registrations.set index { registration with stage := stage } }

/-- A registration ends. -/
def conclude (service : NetworkService) (index : Nat) : NetworkService :=
  { service with registrations := service.registrations.eraseIdx index }

/-- `register` up to the first lock that follows the check of the secret. -/
def beginRegister (keySign : String → String) (service : NetworkService) (req : RegRequestMsg)
    (sender : Sender) : Option NetworkService :=
  if sender ∈ service.usedSenders then none
  else
    let used := { service with usedSenders := sender :: service.usedSenders }
    match req.check, service.validateRegistration keySign req with
    | .ok (), .ok () =>
      some { used with registrations := ⟨req, sender, .validated⟩ :: used.registrations }
    | _, _ => some used

/-- The next step of `register` before the address: the configuration, the state of the network, the
lock, and the state again. -/
def continueRegister (service : NetworkService) (index : Nat) : Option NetworkService :=
  service.registrations[index]?.bind fun registration =>
    let networkCode := registration.req.networkCode
    match registration.stage with
    | .validated =>
      match service.allowedConfig networkCode with
      | .ok config => some (service.proceed index registration (.configured config))
      | .error _ => some (service.conclude index)
    | .configured config =>
      match service.provider.lookup networkCode with
      | some ref => some (service.proceed index registration (.located ref))
      | none => some (service.proceed index registration (.waiting config))
    | .waiting config =>
      if networkCode ∈ service.initLocks then none
      else
        match service.provider.lookup networkCode with
        | some ref => some (service.proceed index registration (.located ref))
        | none =>
          some { service.proceed index registration (.loading config) with
            initLocks := networkCode :: service.initLocks }
    | .loading _ | .located _ => none

/-- The end of `get_or_create_network_state`: the records of the network have been loaded. -/
def createState (service : NetworkService) (index : Nat) (now : SystemTime) (stats : StatsRef)
    (records : List DeviceRecord) : Option NetworkService :=
  service.registrations[index]?.bind fun registration =>
    let networkCode := registration.req.networkCode
    let unlocked := { service with initLocks := service.initLocks.erase networkCode }
    match registration.stage with
    | .loading config =>
      match NetworkState.newFromDb networkCode config.net config.leaseDuration now stats
          records with
      | some state =>
        some { unlocked.proceed index registration (.located service.states.length) with
          states := service.states ++ [state]
          provider := service.provider.insert networkCode service.states.length }
      | none => some (unlocked.conclude index)
    | _ => none

/-- The end of `register`: the address. What is returned for a session that got one is its
registration and the state of its network. -/
def allocate (service : NetworkService) (index : Nat) (randomId : RandomId) (now : SystemTime)
    (stats : StatsRef) :
    Option (NetworkService × Option (Registration × Session × NetworkState)) :=
  service.registrations[index]?.bind fun registration =>
    match registration.stage with
    | .located ref =>
      service.states[ref]?.map fun state =>
        match state.register registration.req randomId registration.sender now stats with
        | .ok (next, session, _) =>
          ({ service.conclude index with
              states := service.states.set ref next
              sessions := service.sessions ++ [⟨session, ref⟩] },
            some (registration, session, next))
        | .error _ => (service.conclude index, none)
    | _ => none

/-! ### Changes of the networks -/

/-- `build_network_from_gateway`. -/
def buildNetworkFromGateway (gateway : Ipv4Addr) (netmask : Nat) : Except String Ipv4Net :=
  if gateway.toNat = 0 then .error "gateway must be the first usable IP in the subnet"
  else
    match Ipv4Net.new (gateway - 1) netmask with
    | some net => .ok net
    | none => .error "Invalid network"

/-- `add_network` up to its statement; it looks for the network code twice. -/
def addNetwork (service : NetworkService) (networkCode : String) (gateway : Ipv4Addr)
    (netmask : Nat) (leaseDuration : Option Nat) (secret : String) :
    Except String NetworkChange := do
  validateNetworkCodeValue networkCode "network_code"
  validateNetworkSecretValue networkCode secret
  if (service.dbNets.lookup networkCode).isSome then
    throw s!"network_code '{networkCode}' already exists"
  let net ← buildNetworkFromGateway gateway netmask
  return .add networkCode net (leaseDuration.getD service.defaultLeaseDuration) secret

/-- There are devices in the database or in the state of the network. -/
def hasDevices (service : NetworkService) (networkCode : String) (inDatabase : Bool) : Bool :=
  inDatabase || match service.getNetworkState networkCode with
    | some state => decide (0 < state.count.1)
    | none => false

/-- `update_network` up to its statement. -/
def updateNetwork (service : NetworkService) (networkCode : String) (gateway : Ipv4Addr)
    (netmask : Nat) (leaseDuration : Nat) (secret : String) (inDatabase : Bool) :
    Except String NetworkChange := do
  validateNetworkSecretValue networkCode secret
  if (service.dbNets.lookup networkCode).isNone then throw s!"网络编号 '{networkCode}' 不存在"
  if service.hasDevices networkCode inDatabase then throw "网络下存在设备，无法编辑"
  return .update networkCode gateway netmask leaseDuration secret

/-- `delete_network` up to its statement. -/
def deleteNetwork (service : NetworkService) (networkCode : String) (inDatabase : Bool) :
    Except String NetworkChange := do
  if networkCode = defaultNetworkCode then throw "the default network cannot be deleted"
  if (service.dbNets.lookup networkCode).isNone then throw s!"网络编号 '{networkCode}' 不存在"
  if service.hasDevices networkCode inDatabase then throw "网络下存在设备，无法删除"
  return .delete networkCode

/-- `release_network` for one network, up to the removal; when the network was last active is not
recorded, so it may be released whenever it is empty. -/
def releaseNetwork (service : NetworkService) (networkCode : String) :
    Except String NetworkChange :=
  match service.getNetworkState networkCode with
  | some state => if state.isEmpty then .ok (.release networkCode) else .error "not empty"
  | none => .error "not found"

/-- A call up to its statement. -/
def request (service : NetworkService) : NetworkRequest → Except String NetworkChange
  | .add networkCode gateway netmask leaseDuration secret =>
    service.addNetwork networkCode gateway netmask leaseDuration secret
  | .update networkCode gateway netmask leaseDuration secret inDatabase =>
    service.updateNetwork networkCode gateway netmask leaseDuration secret inDatabase
  | .delete networkCode inDatabase => service.deleteNetwork networkCode inDatabase
  | .release networkCode => service.releaseNetwork networkCode

/-- A change whose statement succeeded takes effect. -/
def applyChange (service : NetworkService) : NetworkChange → NetworkService
  | .add networkCode net leaseDuration secret =>
    { service with dbNets := service.dbNets.insert networkCode ⟨⟨net, leaseDuration⟩, secret⟩ }
  | .update networkCode gateway netmask leaseDuration secret =>
    match buildNetworkFromGateway gateway netmask with
    | .ok net =>
      { service with
        dbNets := service.dbNets.insert networkCode ⟨⟨net, leaseDuration⟩, secret⟩
        provider := service.provider.erase networkCode }
    | .error _ => service
  | .delete networkCode =>
    { service with
      dbNets := service.dbNets.erase networkCode
      provider := service.provider.erase networkCode }
  | .release networkCode => { service with provider := service.provider.erase networkCode }

end NetworkService

end Vnt.Server
