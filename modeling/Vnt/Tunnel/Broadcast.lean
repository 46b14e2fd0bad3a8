/-
This file embeds the way out of a broadcast. Copies of the packet go to up to 16 clients over
their direct routes. The servers take care of the others: the one with the best score gets the
packet for all its clients, or for all but those that have a copy, and the remaining servers get
it for the clients that are not on the first. A message for a selection of the clients carries
the packet inside.
-/

import Mathlib.Data.List.MinMax
import Vnt.Base.Rounding
import Vnt.Client.RouteTable
import Vnt.Client.ServerInfo
import Vnt.Protocol.SelectiveBroadcast
import Vnt.Tunnel.Outbound

namespace Vnt.Tunnel

open Vnt.Base Vnt.Client

/-! ### The messages -/

/-- The form in which a broadcast goes to a server: as it is, for all clients but the given ones,
or for the given ones only. -/
inductive BroadcastForm where
  | direct
  | exclude (ips : List Ipv4Addr)
  | target (ips : List Ipv4Addr)
  deriving DecidableEq, Repr

/-- The message around a packet: `send_exclude_broadcast` and `send_target_broadcast` build a
packet of their own, of which they set the type and the time to live. -/
def selectiveMessage (msgType : MsgType) (ips : List Ipv4Addr) (buf : List UInt8) :
    Except String NetPacket := do
  let bytes := (SelectiveBroadcast.mk ips buf).encode
  let packet ← NetPacket.new (.zeroed (headLength + bytes.length))
  return { (packet.setMsgType msgType).setTtl 5 with payload := bytes }

/-- The bytes that are put into the channel of a server. -/
def BroadcastForm.wire (buf : List UInt8) : BroadcastForm → Except String (List UInt8)
  | direct => .ok buf
  | exclude ips => (selectiveMessage .excludeBroadcast ips buf).map NetPacket.intoBytes
  | target ips => (selectiveMessage .targetBroadcast ips buf).map NetPacket.intoBytes

/-- A broadcast for a server. -/
structure ServerMessage where
  serverId : UInt32
  form : BroadcastForm
  deriving DecidableEq, Repr

/-! ### The servers -/

/-- `ServerOutbound`: the servers that have a channel, and whether a channel takes a message in
time. -/
structure ServerOutbound where
  sender : List UInt32
  sendTimeout : UInt32 → Bool
  serverInfoCollection : ServerInfoCollection

/-- The score of a server: the number of its clients over its latency. -/
def score (server : ServerClients) : ℚ :=
  doubleQuotient server.ips.length (server.rtt.toNat + 1)

/-- The server with the best score, of several the last one. -/
def bestServer (map : List ServerClients) : Option ServerClients := map.reverse.argmax score

/-- The form for a server that serves all its clients. -/
def mainForm : Option (List Ipv4Addr) → BroadcastForm
  | some excludeIps => .exclude excludeIps
  | none => .direct

/-- The clients of a server that are neither on the main server nor excluded. -/
def targetIps (main : ServerClients) (excludeIps : Option (List Ipv4Addr))
    (server : ServerClients) : List Ipv4Addr :=
  server.ips.filter fun ip => !decide (ip ∈ main.ips) && !decide (ip ∈ excludeIps.getD [])

namespace ServerOutbound

/-- The message to a server beside the main one. -/
def targetMessage (outbound : ServerOutbound) (main : ServerClients)
    (excludeIps : Option (List Ipv4Addr)) (server : ServerClients) : Option ServerMessage :=
  if server.serverId = main.serverId then none
  else
    let ips := targetIps main excludeIps server
    if ips = [] then none
    else if server.serverId ∈ outbound.sender then some ⟨server.serverId, .target ips⟩
    else none

/-- `send_raw_broadcast`: the messages that were sent, and how it ended. -/
def sendRawBroadcast (outbound : ServerOutbound) (excludeIps : Option (List Ipv4Addr)) :
    List ServerMessage × Except String Unit :=
  match outbound.serverInfoCollection.serverClientIpMap with
  | [] => ([], .error "no connected servers with clients")
  | [server] =>
    if server.ips = [] then ([], .ok ())
    else if server.serverId ∉ outbound.sender then ([], .error "server sender not found")
    else
      ([⟨server.serverId, mainForm excludeIps⟩],
        if outbound.sendTimeout server.serverId = true then .ok ()
        else
          .error (if excludeIps.isSome then "failed to send exclude broadcast"
            else "failed to send direct broadcast"))
  | map =>
    match bestServer map with
    | none => ([], .error "failed to find server with most IPs")
    | some main =>
      if main.ips = [] then ([], .ok ())
      else if main.serverId ∉ outbound.sender then ([], .error "max server sender not found")
      else
        let messages := ⟨main.serverId, mainForm excludeIps⟩ ::
          map.filterMap (outbound.targetMessage main excludeIps)
        let errors := messages.countP fun message => !outbound.sendTimeout message.serverId
        -- the list of the single errors, which follows the number, is left out
        (messages,
          if errors = 0 then .ok () else .error s!"broadcast failed with {errors} errors")

end ServerOutbound

/-! ### The direct routes -/

/-- `P2pOutbound`: the routes, and whether the socket of a path takes a packet. -/
structure P2pOutbound where
  trySendTo : RouteKey → Bool
  routeTable : RouteTable

/-- `p2p_broadcast`: the copies that were sent, after those of `list`. -/
def P2pOutbound.p2pBroadcast (p2p : P2pOutbound) (max : Nat) :
    List (Ipv4Addr × RouteKey) → List Ipv4Addr → List (Ipv4Addr × RouteKey)
  | list, [] => list
  | list, id :: ips =>
    match p2p.routeTable.getP2pRouteById id with
    | none => p2p.p2pBroadcast max list ips
    | some route =>
      if p2p.trySendTo route.routeKey = true then
        if (list ++ [(id, route.routeKey)]).length ≥ max then list ++ [(id, route.routeKey)]
        else p2p.p2pBroadcast max (list ++ [(id, route.routeKey)]) ips
      else p2p.p2pBroadcast max list ips

/-! ### The broadcast -/

/-- `UseChannel`. -/
inductive UseChannel where
  | auto
  | p2p
  | relay
  deriving DecidableEq, Repr

/-- `BasicOutbound`. -/
structure BasicOutbound where
  serverOutbound : ServerOutbound
  p2pOutbound : Option P2pOutbound
  useChannel : UseChannel

namespace BasicOutbound

/-- `p2p_broadcast_transmission`: the copies; the source gives `None` for none. -/
def p2pBroadcastTransmission (basic : BasicOutbound) (list : List Ipv4Addr) (maxCount : Nat) :
    List (Ipv4Addr × RouteKey) :=
  match basic.p2pOutbound with
  | some p2p => p2p.p2pBroadcast maxCount [] list
  | none => []

/-- `send_raw_broadcast`. -/
def sendRawBroadcast (basic : BasicOutbound) (excludeIps : Option (List Ipv4Addr)) :
    List ServerMessage × Except String Unit :=
  if basic.useChannel ≠ .p2p then basic.serverOutbound.sendRawBroadcast excludeIps
  else ([], .ok ())

end BasicOutbound

/-- What was sent of a broadcast: the packet, the copies of it over direct routes, the messages
to the servers, and how the sending ended. -/
structure SentBroadcast where
  packet : List UInt8
  copies : List (Ipv4Addr × RouteKey)
  messages : List ServerMessage
  outcome : Except String Unit

/-- The sending of a broadcast that is encrypted. -/
def BasicOutbound.broadcast (basic : BasicOutbound) (packet : List UInt8) : SentBroadcast :=
  let list := basic.serverOutbound.serverInfoCollection.clientOnlineIps
  let copies := basic.p2pBroadcastTransmission list 16
  if copies ≠ [] ∧ copies.length = list.length then ⟨packet, copies, [], .ok ()⟩
  else
    let excludeIps := if copies = [] then none else some (copies.map Prod.fst)
    let sent := basic.sendRawBroadcast excludeIps
    ⟨packet, copies, sent.1, sent.2⟩

/-- `ipv4_broadcast_outbound`. -/
def HybridOutbound.ipv4BroadcastOutbound (outbound : HybridOutbound) (basic : BasicOutbound)
    (net : NetworkAddr) (data : TransmissionBytes) : Except String SentBroadcast := do
  let packet ← outbound.broadcastPrepared net data
  let packet ← outbound.packetCrypto.encryptInPlace packet
  return basic.broadcast packet.intoBytes

/-- A client without a password, compression, routes and error correction. -/
def plainOutbound : HybridOutbound := ⟨⟨none⟩, ⟨none⟩, [], none⟩

/-- What a client at 10.26.0.2 keeps after connected servers sent it the clients they have
online. -/
def listedCollection (lists : List (UInt32 × List Ipv4Addr)) : ServerInfoCollection :=
  lists.foldl (fun collection list =>
      (collection.setServerConnected list.1 true).updateClientSimpleList list.1 0x0A1A0002
        ⟨1, list.2.map fun ip => ⟨ip, true⟩, true, 0⟩ 9)
    (.updateServer (lists.map Prod.fst))

/-- The senders of that client, without direct routes. -/
def listedOutbound (lists : List (UInt32 × List Ipv4Addr)) : BasicOutbound where
  serverOutbound := ⟨lists.map Prod.fst, fun _ => true, listedCollection lists⟩
  p2pOutbound := none
  useChannel := .auto

end Vnt.Tunnel
