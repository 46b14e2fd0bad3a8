/-
This file embeds what a client keeps about its servers: for every server the version of the
client list it was sent last and the list itself, and one list merged from those of all
servers. A full list replaces the list of its server, a partial one is written over it, and
the client itself is never part of it.
-/

import Vnt.Base.DeltaSync
import Vnt.Base.Map
import Vnt.Protocol.ClientList

namespace Vnt.Client

open Vnt.Base

/-- `ServerNodeInfo`: the fields the client-list protocol and the broadcasts read and write. -/
structure ServerNodeInfo where
  connected : Bool
  rtt : Option UInt32
  dataVersion : Nat
  clientMap : Map Ipv4Addr ClientSimpleInfo

/-- `ServerNodeInfo::default`. -/
def ServerNodeInfo.default : ServerNodeInfo := ⟨false, none, 0, ∅⟩

/-- The addresses that a server has online. -/
def ServerNodeInfo.onlineIps (node : ServerNodeInfo) : List Ipv4Addr :=
  (node.clientMap.entries.filter fun entry => entry.2.online).map fun entry => entry.1

/-- One entry of the map of `server_client_ip_map`. -/
structure ServerClients where
  serverId : UInt32
  ips : List Ipv4Addr
  rtt : UInt32
  deriving DecidableEq, Repr

/-- `ServerInfoCollection`. -/
structure ServerInfoCollection where
  clientSimpleList : List ClientSimpleInfo
  serverNodeMap : Map UInt32 ServerNodeInfo

/-- Collect infos into a map by their addresses. -/
def collectInfos (infos : List ClientSimpleInfo) : Map Ipv4Addr ClientSimpleInfo :=
  Map.insertAll ∅ (infos.map fun info => (info.ip, info))

/-- The node of a server after a client list: the round-trip time, the version and the map. -/
def ServerNodeInfo.update (node : ServerNodeInfo) (selfIp : Ipv4Addr)
    (list : ClientSimpleInfoList) (now : Int) : ServerNodeInfo :=
  let map := collectInfos (list.list.filter fun info => decide (info.ip ≠ selfIp))
  { connected := node.connected
    rtt := if now > list.time then some (UInt32.ofNat (now - list.time).toNat) else node.rtt
    dataVersion := list.dataVersion
    clientMap := if list.isAll then map else map ∪ node.clientMap }

/-- Write one client over the merged list: it is online when any server has it online. -/
def mergeInfo (merged : Map Ipv4Addr ClientSimpleInfo) (info : ClientSimpleInfo) :
    Map Ipv4Addr ClientSimpleInfo :=
  match merged.lookup info.ip with
  | some known =>
    if info.online then merged.insert info.ip { known with online := true } else merged
  | none => merged.insert info.ip info

/-- The list merged from the maps of all servers. -/
def mergeServers (nodes : Map UInt32 ServerNodeInfo) : List ClientSimpleInfo :=
  Map.values ((nodes.values.flatMap fun node => node.clientMap.values).foldl mergeInfo ∅)

namespace ServerInfoCollection

/-- `ServerInfoCollection::data_version`. -/
def dataVersion (collection : ServerInfoCollection) (serverId : UInt32) : Nat :=
  match collection.serverNodeMap.lookup serverId with
  | some node => node.dataVersion
  | none => 0

/-- The list the client keeps for a server: who is online. -/
def view (collection : ServerInfoCollection) (serverId : UInt32) (ip : Ipv4Addr) : Option Bool :=
  match collection.serverNodeMap.lookup serverId with
  | some node => (node.clientMap.lookup ip).map ClientSimpleInfo.online
  | none => none

/-- `ServerInfoCollection::update_client_simple_list`. -/
def updateClientSimpleList (collection : ServerInfoCollection) (serverId : UInt32)
    (selfIp : Ipv4Addr) (list : ClientSimpleInfoList) (now : Int) : ServerInfoCollection :=
  let node := (collection.serverNodeMap.lookup serverId).getD ServerNodeInfo.default
  let nodes := collection.serverNodeMap.insert serverId (node.update selfIp list now)
  { clientSimpleList := mergeServers nodes
    serverNodeMap := nodes }

/-- `ServerInfoCollection::update_server`. -/
def updateServer (serverIds : List UInt32) : ServerInfoCollection where
  clientSimpleList := []
  serverNodeMap := Map.insertAll ∅ (serverIds.map fun serverId => (serverId, .default))

/-- `ServerInfoCollection::set_server_connected`. -/
def setServerConnected (collection : ServerInfoCollection) (serverId : UInt32) (connected : Bool) :
    ServerInfoCollection :=
  let node := (collection.serverNodeMap.lookup serverId).getD ServerNodeInfo.default
  { collection with
    serverNodeMap :=
      collection.serverNodeMap.insert serverId { node with connected := connected } }

/-- `ServerInfoCollection::set_server_rtt`. -/
def setServerRtt (collection : ServerInfoCollection) (serverId : UInt32) (rtt : UInt32) :
    ServerInfoCollection :=
  match collection.serverNodeMap.lookup serverId with
  | some node =>
    { collection with
      serverNodeMap := collection.serverNodeMap.insert serverId { node with rtt := some rtt } }
  | none => collection

/-- The part of `handle_server_data` that takes the reply to a ping. -/
def handleReply (collection : ServerInfoCollection) (serverId : UInt32) (selfIp : Ipv4Addr)
    (now : Int) : PingReply → ServerInfoCollection
  | .pushClientIps list => collection.updateClientSimpleList serverId selfIp list now
  | .pongTurn ping =>
    if now ≥ ping.time then
      collection.setServerRtt serverId (UInt32.ofNat (now - ping.time).toNat)
    else collection

/-- The payload of `handle_ping`. -/
def handlePing (collection : ServerInfoCollection) (serverId : UInt32) (now : Int) : PingTurn where
  time := now
  dataVersion := collection.dataVersion serverId

/-- `ServerInfoCollection::client_online_ips`. -/
def clientOnlineIps (collection : ServerInfoCollection) : List Ipv4Addr :=
  (collection.clientSimpleList.filter ClientSimpleInfo.online).map ClientSimpleInfo.ip

/-- `ServerInfoCollection::server_client_ip_map`, in its iteration order. -/
def serverClientIpMap (collection : ServerInfoCollection) : List ServerClients :=
  collection.serverNodeMap.entries.map fun entry =>
    ⟨entry.1, entry.2.onlineIps, entry.2.rtt.getD 500⟩

variable (collection : ServerInfoCollection) (serverId : UInt32) (selfIp : Ipv4Addr) (now : Int)

/-! ### What a reply does to the list -/

theorem dataVersion_updateClientSimpleList (list : ClientSimpleInfoList) :
    (collection.updateClientSimpleList serverId selfIp list now).dataVersion serverId =
      list.dataVersion := by
  unfold dataVersion updateClientSimpleList
  dsimp only
  rw [AList.lookup_insert]
  rfl

theorem dataVersion_pongTurn (ping : PingTurn) :
    (collection.handleReply serverId selfIp now (.pongTurn ping)).dataVersion serverId =
      collection.dataVersion serverId := by
  unfold handleReply
  dsimp only
  split
  · unfold setServerRtt dataVersion
    cases known : collection.serverNodeMap.lookup serverId with
    | none => simp only [known]
    | some node => simp only [AList.lookup_insert]
  · rfl

theorem view_pongTurn (ping : PingTurn) :
    (collection.handleReply serverId selfIp now (.pongTurn ping)).view serverId =
      collection.view serverId := by
  funext ip
  unfold handleReply
  dsimp only
  split
  · unfold setServerRtt view
    cases known : collection.serverNodeMap.lookup serverId with
    | none => simp only [known]
    | some node => simp only [AList.lookup_insert]
  · rfl

end ServerInfoCollection

/-- The info that stands for an item of a versioned table of clients. -/
def infoOf (item : Item Ipv4Addr Bool) : ClientSimpleInfo := ⟨item.key, item.value⟩

variable {items : List (Item Ipv4Addr Bool)}

theorem lookup_collectInfos_of_mem
    (distinct : ∀ first ∈ items, ∀ second ∈ items, first.key = second.key → first = second)
    {item : Item Ipv4Addr Bool} (member : item ∈ items) :
    (collectInfos (items.map infoOf)).lookup item.key = some (infoOf item) := by
  refine Map.lookup_insertAll_of_mem _ _ _ _ ?_ ?_
  · rw [List.map_map]
    exact List.mem_map.mpr ⟨item, member, rfl⟩
  · rw [List.map_map]
    rintro binding bound same
    obtain ⟨other, otherMember, rfl⟩ := List.mem_map.mp bound
    rw [← distinct other otherMember item member same]
    rfl

theorem lookup_collectInfos_of_notMem {ip : Ipv4Addr} (absent : ∀ item ∈ items, item.key ≠ ip) :
    (collectInfos (items.map infoOf)).lookup ip = none := by
  refine (Map.lookup_insertAll_of_notMem _ _ _ ?_).trans (AList.lookup_empty _)
  rw [List.map_map]
  rintro binding bound
  obtain ⟨item, member, rfl⟩ := List.mem_map.mp bound
  exact absent item member

/-- A list without the client itself passes the filter as it is. -/
theorem filter_notSelf {selfIp : Ipv4Addr} (others : ∀ item ∈ items, item.key ≠ selfIp) :
    (items.map infoOf).filter (fun info => decide (info.ip ≠ selfIp)) = items.map infoOf := by
  refine List.filter_eq_self.mpr fun info member => ?_
  obtain ⟨item, itemMember, rfl⟩ := List.mem_map.mp member
  exact decide_eq_true (others item itemMember)

namespace ServerInfoCollection

variable (collection : ServerInfoCollection) (serverId : UInt32) (selfIp : Ipv4Addr) (now : Int)

theorem view_updateClientSimpleList (list : ClientSimpleInfoList) (ip : Ipv4Addr) :
    (collection.updateClientSimpleList serverId selfIp list now).view serverId ip =
      ((((collection.serverNodeMap.lookup serverId).getD ServerNodeInfo.default).update selfIp
        list now).clientMap.lookup ip).map ClientSimpleInfo.online := by
  unfold view updateClientSimpleList
  rw [AList.lookup_insert]

/-- A partial list is written over the list of the server. -/
theorem merged_updateClientSimpleList {list : ClientSimpleInfoList} (isPartial : list.isAll = false)
    (infos : list.list = items.map infoOf) (others : ∀ item ∈ items, item.key ≠ selfIp)
    (distinct : ∀ first ∈ items, ∀ second ∈ items, first.key = second.key → first = second) :
    VersionedTable.Merged (collection.view serverId) items
      ((collection.updateClientSimpleList serverId selfIp list now).view serverId) := by
  have shown : ∀ ip, (collection.updateClientSimpleList serverId selfIp list now).view serverId ip =
      ((collectInfos (items.map infoOf) ∪
        ((collection.serverNodeMap.lookup serverId).getD ServerNodeInfo.default).clientMap).lookup
          ip).map ClientSimpleInfo.online := by
    intro ip
    rw [view_updateClientSimpleList, ServerNodeInfo.update, infos, filter_notSelf others,
      isPartial]
    rfl
  constructor
  · intro item member
    rw [shown, Map.lookup_union, lookup_collectInfos_of_mem distinct member]
    rfl
  · intro ip absent
    rw [shown, Map.lookup_union, lookup_collectInfos_of_notMem absent]
    unfold view
    cases collection.serverNodeMap.lookup serverId with
    | none => simp [ServerNodeInfo.default]
    | some node => rfl

/-- A full list replaces the list of the server. -/
theorem shows_updateClientSimpleList {list : ClientSimpleInfoList} (isFull : list.isAll = true)
    {table : VersionedTable Ipv4Addr Bool} (infos : list.list = table.items.map infoOf)
    (others : ∀ item ∈ table.items, item.key ≠ selfIp) (distinct : table.Distinct) :
    table.Shows ((collection.updateClientSimpleList serverId selfIp list now).view serverId) := by
  intro ip online
  have shown : (collection.updateClientSimpleList serverId selfIp list now).view serverId ip =
      ((collectInfos (table.items.map infoOf)).lookup ip).map ClientSimpleInfo.online := by
    rw [view_updateClientSimpleList, ServerNodeInfo.update, infos, filter_notSelf others, isFull]
    rfl
  rw [shown]
  constructor
  · intro holds
    by_cases present : ∃ item ∈ table.items, item.key = ip
    · obtain ⟨item, member, rfl⟩ := present
      rw [lookup_collectInfos_of_mem distinct member] at holds
      exact ⟨item, member, rfl, Option.some.inj holds⟩
    · rw [lookup_collectInfos_of_notMem fun item member same => present ⟨item, member, same⟩]
        at holds
      cases holds
  · rintro ⟨item, member, rfl, rfl⟩
    rw [lookup_collectInfos_of_mem distinct member]
    rfl

end ServerInfoCollection

end Vnt.Client
