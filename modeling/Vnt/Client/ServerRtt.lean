/-
This file compares the round-trip time a client shows for an address with the server it sends to.
A packet goes through the server with the least round-trip time among the connected ones that have
the address online, an unknown time counting as the greatest one. The round-trip time that is shown
is that of the first such server in the order of the map, whatever its time is.
-/

import Vnt.Base.FirstMatch
import Vnt.Client.ServerInfo

namespace Vnt.Client

open Vnt.Base

namespace ServerNodeInfo

/-- The server is connected and has the address online. -/
def serves (node : ServerNodeInfo) (ip : Ipv4Addr) : Bool :=
  node.connected && (node.clientMap.lookup ip).any ClientSimpleInfo.online

/-- `rtt.unwrap_or(u32::MAX)`. -/
def cost (node : ServerNodeInfo) : UInt32 := node.rtt.getD 0xFFFFFFFF

theorem cost_le (node : ServerNodeInfo) : node.cost.toNat ≤ 0xFFFFFFFF :=
  Nat.le_of_lt_succ node.cost.toNat_lt

/-- A cost below the greatest one is that of a known round-trip time. -/
theorem rtt_eq_of_cost {first second : ServerNodeInfo} (same : first.cost = second.cost)
    (below : first.cost ≠ 0xFFFFFFFF) : first.rtt = second.rtt := by
  have known : ∀ node : ServerNodeInfo, node.cost ≠ 0xFFFFFFFF → node.rtt = some node.cost := by
    intro node isBelow
    unfold cost at isBelow ⊢
    cases rtt : node.rtt with
    | none => exact absurd (by rw [rtt, Option.getD_none]) isBelow
    | some time => rfl
  rw [known first below, known second (same ▸ below), same]

end ServerNodeInfo

namespace ServerInfoCollection

/-- The node of the server, if it serves the address. -/
def serving (collection : ServerInfoCollection) (ip : Ipv4Addr) (serverId : UInt32) :
    Option ServerNodeInfo :=
  (collection.serverNodeMap.lookup serverId).filter fun node => node.serves ip

/-- `ServerInfoCollection::find_ip_to_server`; of several servers with the least cost the first one
is taken. -/
def findIpToServer (collection : ServerInfoCollection) (serverIds : List UInt32) (ip : Ipv4Addr) :
    Option UInt32 :=
  let servers := serverIds.filterMap fun serverId =>
    (collection.serving ip serverId).map fun node => (serverId, node.cost)
  (servers.argmin fun server => server.2.toNat).map Prod.fst

/-- The loop of `get_server_rtt`, in the iteration order of the map. -/
def scanRtt (ip : Ipv4Addr) : List ServerNodeInfo → Option UInt32
  | [] => none
  | node :: rest => if node.serves ip = true then node.rtt else scanRtt ip rest

/-- `ServerInfoCollection::get_server_rtt`. -/
def getServerRtt (collection : ServerInfoCollection) (ip : Ipv4Addr) : Option UInt32 :=
  scanRtt ip collection.serverNodeMap.values

/-- The round-trip time that is shown is that of the server that is used. -/
def RttRight (collection : ServerInfoCollection) (serverIds : List UInt32) (ip : Ipv4Addr) : Prop :=
  collection.getServerRtt ip =
    (collection.findIpToServer serverIds ip).bind fun serverId =>
      (collection.serverNodeMap.lookup serverId).bind ServerNodeInfo.rtt

instance instDecidableRttRight (collection : ServerInfoCollection) (serverIds : List UInt32)
    (ip : Ipv4Addr) : Decidable (collection.RttRight serverIds ip) :=
  inferInstanceAs (Decidable (_ = _))

/-- The first server of the map that serves the address has the least cost of those that do. When
that is the greatest cost there is, the first one of the list knows its round-trip time exactly if
the first one of the map does. -/
def FirstFastest (collection : ServerInfoCollection) (serverIds : List UInt32) (ip : Ipv4Addr) :
    Prop :=
  ∀ first, collection.serverNodeMap.values.find? (fun node => node.serves ip) = some first →
    (∀ node ∈ collection.serverNodeMap.values, node.serves ip = true →
      first.cost.toNat ≤ node.cost.toNat) ∧
    (first.cost = 0xFFFFFFFF → ∀ node, serverIds.findSome? (collection.serving ip) = some node →
      first.rtt = node.rtt)

variable {collection : ServerInfoCollection} {serverIds : List UInt32} {ip : Ipv4Addr}

theorem scanRtt_eq (nodes : List ServerNodeInfo) :
    scanRtt ip nodes = (nodes.find? fun node => node.serves ip).bind ServerNodeInfo.rtt := by
  induction nodes with
  | nil => rfl
  | cons node rest inductionHypothesis =>
    unfold scanRtt
    rw [List.find?_cons]
    cases node.serves ip with
    | true => rfl
    | false => exact inductionHypothesis

theorem serving_eq_some_iff {serverId : UInt32} {node : ServerNodeInfo} :
    collection.serving ip serverId = some node ↔
      collection.serverNodeMap.lookup serverId = some node ∧ node.serves ip = true :=
  Option.filter_eq_some_iff

/-- What the search for a server finds: a server that serves the address, none cheaper. Among
servers of one cost it is the first of the list. -/
theorem findIpToServer_eq_some {serverId : UInt32}
    (found : collection.findIpToServer serverIds ip = some serverId) :
    ∃ node, collection.serving ip serverId = some node ∧
      (∀ otherId ∈ serverIds, ∀ other, collection.serving ip otherId = some other →
        node.cost.toNat ≤ other.cost.toNat) ∧
      ((∀ otherId ∈ serverIds, ∀ other, collection.serving ip otherId = some other →
        other.cost.toNat ≤ node.cost.toNat) →
        serverIds.findSome? (collection.serving ip) = some node) := by
  obtain ⟨server, best, rfl⟩ := Option.map_eq_some_iff.mp found
  obtain ⟨serverId, -, isServer⟩ := List.mem_filterMap.mp (List.argmin_mem best)
  obtain ⟨node, serves, rfl⟩ := Option.map_eq_some_iff.mp isServer
  have inServers : ∀ {otherId other}, otherId ∈ serverIds →
      collection.serving ip otherId = some other →
      (otherId, other.cost) ∈ serverIds.filterMap fun serverId =>
        (collection.serving ip serverId).map fun node => (serverId, node.cost) :=
    fun member otherServes => List.mem_filterMap.mpr
      ⟨_, member, Option.map_eq_some_iff.mpr ⟨_, otherServes, rfl⟩⟩
  refine ⟨node, serves, fun otherId member other otherServes => ?_, fun greatest => ?_⟩
  · exact List.le_of_mem_argmin (f := fun server : UInt32 × UInt32 => server.2.toNat)
      (inServers member otherServes) best
  · have isFirst := head?_of_argmin best fun other member => by
      obtain ⟨otherId, inIds, isOther⟩ := List.mem_filterMap.mp member
      obtain ⟨otherNode, otherServes, rfl⟩ := Option.map_eq_some_iff.mp isOther
      exact greatest otherId inIds otherNode otherServes
    rw [List.head?_filterMap] at isFirst
    obtain ⟨front, firstId, back, split, isFound, skipped⟩ := List.findSome?_eq_some_iff.mp isFirst
    obtain ⟨firstNode, firstServes, same⟩ := Option.map_eq_some_iff.mp isFound
    obtain rfl : firstId = serverId := congrArg Prod.fst same
    exact List.findSome?_eq_some_iff.mpr ⟨front, firstId, back, split, serves,
      fun otherId inFront => Option.map_eq_none_iff.mp (skipped otherId inFront)⟩

/-- The search finds no server when none of the list serves the address. -/
theorem findIpToServer_eq_none_iff :
    collection.findIpToServer serverIds ip = none ↔
      ∀ serverId ∈ serverIds, collection.serving ip serverId = none := by
  unfold findIpToServer
  rw [Option.map_eq_none_iff, List.argmin_eq_none, List.filterMap_eq_nil_iff]
  exact forall₂_congr fun serverId _ => Option.map_eq_none_iff

/-- A server that serves the address is in the map. -/
theorem mem_of_serving {serverId : UInt32} {node : ServerNodeInfo}
    (serving : collection.serving ip serverId = some node) :
    serverId ∈ collection.serverNodeMap ∧ node ∈ collection.serverNodeMap.values ∧
      node.serves ip = true := by
  obtain ⟨found, serves⟩ := serving_eq_some_iff.mp serving
  refine ⟨?_, (Map.mem_values_iff _ _).mpr ⟨serverId, found⟩, serves⟩
  rw [← AList.lookup_isSome, found, Option.isSome_some]

theorem exists_serving_of_mem {node : ServerNodeInfo}
    (member : node ∈ collection.serverNodeMap.values) (serves : node.serves ip = true) :
    ∃ serverId ∈ collection.serverNodeMap, collection.serving ip serverId = some node := by
  obtain ⟨serverId, found⟩ := (Map.mem_values_iff _ _).mp member
  have serving := serving_eq_some_iff.mpr ⟨found, serves⟩
  exact ⟨serverId, (mem_of_serving serving).1, serving⟩

/-- The condition speaks of the first server of the map alone. -/
theorem firstFastest_iff {first : ServerNodeInfo}
    (search : collection.serverNodeMap.values.find? (fun node => node.serves ip) = some first) :
    collection.FirstFastest serverIds ip ↔
      (∀ node ∈ collection.serverNodeMap.values, node.serves ip = true →
        first.cost.toNat ≤ node.cost.toNat) ∧
      (first.cost = 0xFFFFFFFF → ∀ node, serverIds.findSome? (collection.serving ip) = some node →
        first.rtt = node.rtt) := by
  constructor
  · exact fun fastest => fastest first search
  · intro holds other isFirst
    cases search.symm.trans isFirst
    exact holds

section AllServers

variable (all : ∀ serverId, serverId ∈ serverIds ↔ serverId ∈ collection.serverNodeMap)
include all

/-- The search over all servers finds one exactly when some server of the map serves the address. -/
theorem findIpToServer_eq_none_iff_find? : collection.findIpToServer serverIds ip = none ↔
    collection.serverNodeMap.values.find? (fun node => node.serves ip) = none := by
  rw [findIpToServer_eq_none_iff, List.find?_eq_none]
  constructor
  · intro noneServes node member serves
    obtain ⟨serverId, present, serving⟩ := exists_serving_of_mem member serves
    cases (noneServes serverId ((all serverId).mpr present)).symm.trans serving
  · intro noneServes serverId _
    refine Option.eq_none_iff_forall_ne_some.mpr fun node serving => ?_
    obtain ⟨-, member, serves⟩ := mem_of_serving serving
    exact noneServes node member serves

/-- The first server of the map and the one that is found have one round-trip time if and only if
the first one is the fastest. -/
theorem rtt_eq_iff {first : ServerNodeInfo} {serverId : UInt32}
    (search : collection.serverNodeMap.values.find? (fun node => node.serves ip) = some first)
    (selected : collection.findIpToServer serverIds ip = some serverId) :
    first.rtt = (collection.serverNodeMap.lookup serverId).bind ServerNodeInfo.rtt ↔
      collection.FirstFastest serverIds ip := by
  obtain ⟨node, serving, least, isFirstOfList⟩ := findIpToServer_eq_some selected
  obtain ⟨-, member, serves⟩ := mem_of_serving serving
  have leastOfMap : ∀ other ∈ collection.serverNodeMap.values, other.serves ip = true →
      node.cost.toNat ≤ other.cost.toNat := by
    intro other otherMember otherServes
    obtain ⟨otherId, present, otherServing⟩ := exists_serving_of_mem otherMember otherServes
    exact least otherId ((all otherId).mpr present) other otherServing
  -- among servers of the greatest cost the order of the list decides
  have tie : node.cost = 0xFFFFFFFF → serverIds.findSome? (collection.serving ip) = some node :=
    fun greatest => isFirstOfList fun _ _ other _ => greatest ▸ other.cost_le
  rw [(serving_eq_some_iff.mp serving).1, Option.bind_some, firstFastest_iff search]
  constructor
  · intro same
    have sameCost : first.cost = node.cost := congrArg (Option.getD · 0xFFFFFFFF) same
    refine ⟨fun other otherMember otherServes => ?_, fun greatest other isFirstOther => ?_⟩
    · rw [sameCost]
      exact leastOfMap other otherMember otherServes
    · cases (tie (sameCost.symm.trans greatest)).symm.trans isFirstOther
      exact same
  · rintro ⟨leastFirst, known⟩
    have firstServes : first.serves ip = true := (List.find?_eq_some_iff_append.mp search).1
    have atMost := leastOfMap first (List.mem_of_find?_eq_some search) firstServes
    have sameCost : first.cost = node.cost :=
      UInt32.toNat_inj.mp (Nat.le_antisymm (leastFirst node member serves) atMost)
    by_cases greatest : first.cost = 0xFFFFFFFF
    · exact known greatest node (tie (sameCost.symm.trans greatest))
    · exact ServerNodeInfo.rtt_eq_of_cost sameCost greatest

end AllServers

/-- With every server in the list, the round-trip time that is shown is that of the server that is
used if and only if the first server of the map is the fastest. -/
theorem rttRight_iff
    (all : ∀ serverId, serverId ∈ serverIds ↔ serverId ∈ collection.serverNodeMap) :
    collection.RttRight serverIds ip ↔ collection.FirstFastest serverIds ip := by
  unfold RttRight getServerRtt
  rw [scanRtt_eq]
  cases search : collection.serverNodeMap.values.find? fun node => node.serves ip with
  | none =>
    rw [(findIpToServer_eq_none_iff_find? all).mpr search]
    refine iff_of_true rfl fun first isFirst => ?_
    cases search.symm.trans isFirst
  | some first =>
    cases selected : collection.findIpToServer serverIds ip with
    | none => cases ((findIpToServer_eq_none_iff_find? all).mp selected).symm.trans search
    | some serverId => exact rtt_eq_iff all search selected

/-- Two connected servers that have the address `3` online, the slower one first in the map. -/
def slowFirst : ServerInfoCollection where
  clientSimpleList := [⟨3, true⟩]
  serverNodeMap :=
    Map.insertAll ∅ [(1, ⟨true, some 5, 0, collectInfos [⟨3, true⟩]⟩),
      (2, ⟨true, some 900, 0, collectInfos [⟨3, true⟩]⟩)]

theorem mem_slowFirst (serverId : UInt32) :
    serverId ∈ [1, 2] ↔ serverId ∈ slowFirst.serverNodeMap := by
  have keys : slowFirst.serverNodeMap.keys = [2, 1] := by decide
  rw [AList.mem_keys, keys]
  simp [or_comm]

theorem rttRight_iff_slowFirst :
    slowFirst.RttRight [1, 2] 3 ↔ slowFirst.FirstFastest [1, 2] 3 := rttRight_iff mem_slowFirst

/-- Packets go through the server that takes 5 ms, and 900 ms are shown. -/
theorem not_rttRight_slowFirst :
    (∀ serverId, serverId ∈ [1, 2] ↔ serverId ∈ slowFirst.serverNodeMap) ∧
    slowFirst.findIpToServer [1, 2] 3 = some 1 ∧ slowFirst.getServerRtt 3 = some 900 ∧
    ¬slowFirst.RttRight [1, 2] 3 :=
  ⟨mem_slowFirst, by decide, by decide, by decide⟩

end ServerInfoCollection

end Vnt.Client
