/-
This file embeds what a client does with the packets that come over a server. The server's own
packets carry the flag of a gateway: answers to pings, the lists of clients and the answers to
requests. All others come from clients, and are opened as those that come directly. They hand on
data, or start a punch, whose frequency is limited by how often the other client answered one.
-/

import Vnt.Client.ServerInfo
import Vnt.Tunnel.P2pProcess

namespace Vnt.Tunnel

open Vnt.Base Vnt.Client Vnt.Fec Vnt.Server

/-! ### What a client tells about itself for a punch -/

inductive NatType where
  | cone
  | symmetric
  deriving DecidableEq, Repr

/-- `NatInfo`, without the mapped addresses, which are not sent. -/
structure NatInfo where
  natType : NatType
  publicIps : List Ipv4Addr
  publicUdpPorts : List UInt16
  publicPortRange : UInt16
  localIpv4 : Ipv4Addr
  localIpv4s : List Ipv4Addr
  ipv6 : Option (List UInt8)
  localUdpPorts : List UInt16
  localTcpPort : UInt16
  publicTcpPort : UInt16
  deriving DecidableEq, Repr

/-- `proto::NatInfo`. -/
structure ProtoNatInfo where
  natType : Int
  publicIps : List Ipv4Addr
  publicUdpPorts : List UInt32
  publicPortRange : UInt32
  localIpv4s : List Ipv4Addr
  ipv6 : Option (List UInt8)
  localUdpPorts : List UInt32
  localTcpPort : UInt32
  publicTcpPort : UInt32
  deriving DecidableEq, Repr

/-- `encode_nat_info`. -/
def encodeNatInfo (natInfo : NatInfo) : ProtoNatInfo where
  natType :=
    match natInfo.natType with
    | .cone => 0
    | .symmetric => 1
  publicIps := natInfo.publicIps
  publicUdpPorts := natInfo.publicUdpPorts.map UInt16.toUInt32
  publicPortRange := natInfo.publicPortRange.toUInt32
  localIpv4s := natInfo.localIpv4s
  ipv6 := natInfo.ipv6
  localUdpPorts := natInfo.localUdpPorts.map UInt16.toUInt32
  localTcpPort := natInfo.localTcpPort.toUInt32
  publicTcpPort := natInfo.publicTcpPort.toUInt32

def validatePort (port : UInt32) : Except String UInt16 :=
  if port.toNat < 2 ^ 16 then .ok port.toUInt16 else .error s!"invalid port number: {port}"

/-- `decode_nat_info`. -/
def decodeNatInfo (msg : ProtoNatInfo) : Except String NatInfo := do
  let publicUdpPorts ← msg.publicUdpPorts.mapM validatePort
  let publicPortRange ← validatePort msg.publicPortRange
  let localUdpPorts ← msg.localUdpPorts.mapM validatePort
  let localTcpPort ← validatePort msg.localTcpPort
  let publicTcpPort ← validatePort msg.publicTcpPort
  return {
    natType := if msg.natType = 1 then .symmetric else .cone
    publicIps := msg.publicIps
    publicUdpPorts := publicUdpPorts
    publicPortRange := publicPortRange
    localIpv4 := msg.localIpv4s.head?.getD 0
    localIpv4s := msg.localIpv4s
    ipv6 := msg.ipv6.filter fun bytes => bytes.length = 16
    localUdpPorts := localUdpPorts
    localTcpPort := localTcpPort
    publicTcpPort := publicTcpPort }

/-- The messages that a client reads from a server and from other clients, as `prost` reads and
writes them. Of the answer to a request only its number matters. -/
structure InboundMessages where
  clientSimpleInfoList : List UInt8 → Except String ClientSimpleInfoList
  rpcMessageResponse : List UInt8 → Except String Nat
  punchInfo : List UInt8 → Except String (Option ProtoNatInfo)
  encodePunchInfo : Option ProtoNatInfo → List UInt8

/-- `PunchInfo::from_slice`. -/
def InboundMessages.punchInfoFromSlice (messages : InboundMessages) (buf : List UInt8) :
    Except String NatInfo :=
  match messages.punchInfo buf with
  | .error message => .error message
  | .ok none => .error "Punched info decode failed."
  | .ok (some natInfo) => decodeNatInfo natInfo

/-- `PunchState`. -/
structure PunchState where
  count : Int
  lastTs : Int
  deriving DecidableEq, Repr

abbrev PunchBackoff : Type := Map Ipv4Addr PunchState

/-- A number of 64 bits with a sign; an overflow is a panic. -/
def int64 (value : Int) : Except Fault Int :=
  if -2 ^ 63 ≤ value ∧ value < 2 ^ 63 then .ok value else .error .panics

namespace PunchBackoff

/-- `MAX_BACKOFF_MS`. -/
def maxBackoffMs : Int := 3600000

/-- `BASE_MS`. -/
def baseMs : Int := 3000

/-- `PunchBackoff::record`. -/
def record (backoff : PunchBackoff) (ip : Ipv4Addr) (now : Int) : Except Fault PunchBackoff := do
  let count ← int64 (((backoff.lookup ip).getD ⟨0, 0⟩).count + 1)
  return backoff.insert ip ⟨count, now⟩

/-- `PunchBackoff::should_punch`. -/
def shouldPunch (backoff : PunchBackoff) (ip : Ipv4Addr) (now : Int) : Except Fault Bool :=
  match backoff.lookup ip with
  | none => .ok true
  | some state => do
    let elapsed ← int64 (now - state.lastTs)
    let delay ← int64 (baseMs * state.count)
    return decide (elapsed ≥ min delay maxBackoffMs)

end PunchBackoff

/-! ### A client -/

/-- A client with all that its inbound packets concern: next to what those of other clients do, what
it knows about its servers, what it tells for a punch and was told, whether it punches, how often
others answered, and the requests that wait for their answers. -/
structure InboundClient where
  p2p : P2pClient
  serverInfo : ServerInfoCollection
  natInfo : Option NatInfo
  peerMap : Map Ipv4Addr NatInfo
  punches : Bool
  punchBackoff : PunchBackoff
  pendingRequests : List Nat

/-- What comes of a packet: the client, what it sends back over the server, what it hands on, whom
it punches, and how it ended. -/
structure ServerProcessed where
  client : InboundClient
  replies : List (List UInt8)
  sent : List Sent
  punched : List (Ipv4Addr × NatInfo)
  outcome : Except Fault Unit

namespace InboundClient

def ended (client : InboundClient) (outcome : Except Fault Unit) : ServerProcessed :=
  ⟨client, [], [], [], outcome⟩

/-- The client with a packet handed on. -/
def handOn (client : InboundClient) (net : NetworkAddr) (delivery : Delivery) : ServerProcessed :=
  let processed := client.p2p.handOn net delivery
  ⟨{ client with p2p := processed.client }, [], processed.sent, [], processed.outcome⟩

/-- `filter_ip`. -/
def filterIp (client : InboundClient) (natInfo : NatInfo) : NatInfo :=
  { natInfo with
    localIpv4 :=
      if client.p2p.networkContains natInfo.localIpv4 = true then 0 else natInfo.localIpv4
    localIpv4s := natInfo.localIpv4s.filter fun ip => !client.p2p.networkContains ip }

/-- `get_punch_info`. -/
def getPunchInfo (client : InboundClient) : Option NatInfo := client.natInfo.map client.filterIp

/-- `update_peer_nat_info`. -/
def updatePeerNatInfo (client : InboundClient) (ip : Ipv4Addr) (natInfo : NatInfo) :
    InboundClient :=
  { client with peerMap := client.peerMap.insert ip natInfo }

/-- `punch_uncheck`. -/
def punchUncheck (client : InboundClient) (destIp : Ipv4Addr) (natInfo : NatInfo) :
    Except Fault (List (Ipv4Addr × NatInfo)) :=
  if client.punches = false then .ok []
  else
    match client.p2p.network with
    | none => .error (.error "not ip")
    | some _ => .ok [(destIp, natInfo)]

/-- `NatPuncher::punch`. -/
def punch (client : InboundClient) (destIp : Ipv4Addr) (natInfo : NatInfo) (now : Int) :
    Except Fault (Bool × List (Ipv4Addr × NatInfo)) :=
  if client.punches = false then .ok (false, [])
  else do
    let should ← client.punchBackoff.shouldPunch destIp now
    if should = true then return (true, ← client.punchUncheck destIp natInfo)
    else return (false, [])

/-- The answer to the start of a punch. -/
def punchStart2 (messages : InboundMessages) (client : InboundClient) (src dest : Ipv4Addr)
    (natInfo : NatInfo) : Except String (List UInt8) := do
  let bytes := messages.encodePunchInfo (some (encodeNatInfo natInfo))
  let packetCrypto := client.p2p.handler.packetCrypto
  let packet ← directPacket .punchStart2 2 src dest bytes.length packetCrypto.encryptReserve
  let packet ← packet.setPayload bytes
  let packet ← packetCrypto.encryptInPlace packet
  return packet.intoBytes

/-- The other client starts a punch. -/
def handlePunchStart1 (messages : InboundMessages) (client : InboundClient) (now : Int)
    (delivery : Delivery) : ServerProcessed :=
  match messages.punchInfoFromSlice delivery.packet.payload with
  | .error message => client.ended (.error (.error message))
  | .ok peerPunchInfo =>
    match client.getPunchInfo with
    | none => client.ended (.ok ())
    | some selfPunchInfo =>
      let client := client.updatePeerNatInfo delivery.src peerPunchInfo
      match client.punch delivery.src peerPunchInfo now with
      | .error fault => client.ended (.error fault)
      | .ok (false, _) => client.ended (.ok ())
      | .ok (true, punched) =>
        match client.punchStart2 messages delivery.dest delivery.src selfPunchInfo with
        | .error message => ⟨client, [], [], punched, .error (.error message)⟩
        | .ok bytes => ⟨client, [bytes], [], punched, .ok ()⟩

/-- The other client answers the start of a punch. -/
def handlePunchStart2 (messages : InboundMessages) (client : InboundClient) (now : Int)
    (delivery : Delivery) : ServerProcessed :=
  match client.punchBackoff.record delivery.src now with
  | .error fault => client.ended (.error fault)
  | .ok backoff =>
    let client := { client with punchBackoff := backoff }
    match messages.punchInfoFromSlice delivery.packet.payload with
    | .error message => client.ended (.error (.error message))
    | .ok peerPunchInfo =>
      let client := client.updatePeerNatInfo delivery.src peerPunchInfo
      match client.punchUncheck delivery.src peerPunchInfo with
      | .error fault => client.ended (.error fault)
      | .ok punched => ⟨client, [], [], punched, .ok ()⟩

/-- `process_decompressed_packet`, and the last step of a packet of `Quic`, which is not opened. -/
def process (messages : InboundMessages) (client : InboundClient) (net : NetworkAddr) (now : Int)
    (delivery : Delivery) : ServerProcessed :=
  match delivery.msgType with
  | .turn => client.handOn net delivery
  | .broadcast => client.handOn net delivery
  | .quic => client.handOn net delivery
  | .punchStart1 => client.handlePunchStart1 messages now delivery
  | .punchStart2 => client.handlePunchStart2 messages now delivery
  | _ => client.ended (.ok ())

/-! ### The packets of a server -/

/-- `IcmpTypes::EchoReply`. -/
def echoReplyType : Nat := 0

open Icmp in
/-- The only data that a server itself may send. -/
def isEchoReply (payload : List UInt8) : Bool :=
  decide (20 ≤ payload.length ∧ byteAt payload 0 / 16 = 4 ∧
    nextLevelProtocol payload = icmpProtocol ∧ 4 ≤ (ipv4Payload payload).length ∧
      byteAt (ipv4Payload payload) 0 = echoReplyType)

/-- The answer to a ping of a server. -/
def pongOf (net : NetworkAddr) (packet : NetPacket) : List UInt8 :=
  ((((packet.setTtl 2).setMsgType .pong).setSrcId net.ip).setDestId
    packet.header.srcId).intoBytes

/-- The answer of a server to a ping. -/
def handlePongTurn (client : InboundClient) (serverId : UInt32) (now : Int) (payload : List UInt8) :
    ServerProcessed :=
  if payload.length = 16 ∧ now ≥ timeOf payload then
    match elapsed now (timeOf payload) with
    | .error fault => client.ended (.error fault)
    | .ok rtt =>
      ({ client with serverInfo := client.serverInfo.setServerRtt serverId rtt } :
        InboundClient).ended (.ok ())
  else client.ended (.ok ())

/-- A list of clients. -/
def handlePushClientIps (messages : InboundMessages) (client : InboundClient) (serverId : UInt32)
    (net : NetworkAddr) (now : Int) (payload : List UInt8) : ServerProcessed :=
  match messages.clientSimpleInfoList payload with
  | .error message => client.ended (.error (.error message))
  | .ok list =>
    let updated : InboundClient := { client with
      serverInfo := client.serverInfo.updateClientSimpleList serverId net.ip list now }
    if now > list.time then
      match elapsed now list.time with
      | .error fault => client.ended (.error fault)
      | .ok _ => updated.ended (.ok ())
    else updated.ended (.ok ())

/-- The answer to a request. -/
def handleRpcRes (messages : InboundMessages) (client : InboundClient) (payload : List UInt8) :
    ServerProcessed :=
  match messages.rpcMessageResponse payload with
  | .error message => client.ended (.error (.error message))
  | .ok id =>
    ({ client with
      pendingRequests := client.pendingRequests.filter fun other => other ≠ id } :
        InboundClient).ended (.ok ())

/-- `handle_server_data` for a packet that is decompressed. -/
def processServerData (messages : InboundMessages) (client : InboundClient) (serverId : UInt32)
    (net : NetworkAddr) (now : Int) (msgType : MsgType) (packet : NetPacket) : ServerProcessed :=
  match msgType with
  | .turn =>
    if isEchoReply packet.payload = true then
      client.handOn net ⟨.turn, packet.header.srcId, packet.header.destId, packet⟩
    else client.ended (.ok ())
  | .ping => ⟨client, [pongOf net packet], [], [], .ok ()⟩
  | .pongTurn => client.handlePongTurn serverId now packet.payload
  | .pushClientIps => client.handlePushClientIps messages serverId net now packet.payload
  | .rpcRes => client.handleRpcRes messages packet.payload
  | _ => client.ended (.ok ())

/-- `handle_server_data`. -/
def handleServerData (messages : InboundMessages) (client : InboundClient) (serverId : UInt32)
    (net : NetworkAddr) (now : Int) (data : List UInt8) : ServerProcessed :=
  match NetPacket.new (.ofBytes data) with
  | .error message => client.ended (.error (.error message))
  | .ok packet =>
    match packet.msgType with
    | .error message => client.ended (.error (.error message))
    | .ok msgType =>
      match client.p2p.handler.packetCompression.decompress packet with
      | .error message => client.ended (.error (.error message))
      | .ok packet => client.processServerData messages serverId net now msgType packet

end InboundClient

end Vnt.Tunnel
