/-
This file counts how often a broadcast is addressed to each client. A client with a copy is left
out by every message to a server. Of the others, those on the main server are addressed through
it alone, and any other client is addressed through every further server that has it online: once
if there is one, and as often as there are servers if there are several. The condition under
which every client that is online gets the packet once is exact, whichever of the servers are
taken to pass it on.
-/

import Vnt.Tunnel.Broadcast

namespace Vnt.Client

open Vnt.Base

namespace ServerInfoCollection

/-- The clients that a server has online. -/
def onlineAt (collection : ServerInfoCollection) (serverId : UInt32) : List Ipv4Addr :=
  match collection.serverNodeMap.lookup serverId with
  | some node => node.onlineIps
  | none => []

/-- A connected server has the client online. -/
def ReportedOnline (collection : ServerInfoCollection) (ip : Ipv4Addr) : Prop :=
  ∃ serverId node, collection.serverNodeMap.lookup serverId = some node ∧
    node.connected = true ∧ ip ∈ node.onlineIps

variable {collection : ServerInfoCollection} {server other : ServerClients} {ip : Ipv4Addr}

theorem nodup_onlineIps (node : ServerNodeInfo) : node.onlineIps.Nodup := by
  have keys := node.clientMap.nodupKeys
  exact (List.filter_sublist.map _).nodup keys

theorem exists_node_of_mem (member : server ∈ collection.serverClientIpMap) :
    ∃ node, collection.serverNodeMap.lookup server.serverId = some node ∧
      server = ⟨server.serverId, node.onlineIps, node.rtt.getD 500⟩ := by
  obtain ⟨⟨serverId, node⟩, bound, rfl⟩ := List.mem_map.mp member
  exact ⟨node, (Map.mem_entries_iff _ _ _).mp bound, rfl⟩

theorem onlineAt_of_mem (member : server ∈ collection.serverClientIpMap) :
    collection.onlineAt server.serverId = server.ips := by
  obtain ⟨node, found, same⟩ := exists_node_of_mem member
  unfold onlineAt
  rw [found, same]

theorem nodup_onlineAt (collection : ServerInfoCollection) (serverId : UInt32) :
    (collection.onlineAt serverId).Nodup := by
  unfold onlineAt
  split
  · exact nodup_onlineIps _
  · exact List.nodup_nil

/-- The servers have different numbers. -/
theorem eq_of_serverId (member : server ∈ collection.serverClientIpMap)
    (otherMember : other ∈ collection.serverClientIpMap) (same : server.serverId = other.serverId) :
    server = other := by
  obtain ⟨node, found, isServer⟩ := exists_node_of_mem member
  obtain ⟨otherNode, otherFound, isOther⟩ := exists_node_of_mem otherMember
  rw [same, otherFound] at found
  cases found
  rw [isServer, isOther, same]

/-- A client that is reported online is on one of the servers of the map. -/
theorem ReportedOnline.exists_mem (reported : collection.ReportedOnline ip) :
    ∃ server ∈ collection.serverClientIpMap, ip ∈ server.ips := by
  obtain ⟨serverId, node, found, -, online⟩ := reported
  refine ⟨⟨serverId, node.onlineIps, node.rtt.getD 500⟩, ?_, online⟩
  exact List.mem_map.mpr ⟨⟨serverId, node⟩, (Map.mem_entries_iff _ _ _).mpr found, rfl⟩

end ServerInfoCollection

end Vnt.Client

namespace Vnt.Tunnel

open Vnt.Base Vnt.Client

/-! ### Who is addressed -/

/-- The clients that a message to a server addresses. -/
def ServerMessage.targets (collection : ServerInfoCollection) (message : ServerMessage) :
    List Ipv4Addr :=
  match message.form with
  | .direct => collection.onlineAt message.serverId
  | .exclude ips => (collection.onlineAt message.serverId).filter fun ip => !decide (ip ∈ ips)
  | .target ips => (collection.onlineAt message.serverId).filter fun ip => decide (ip ∈ ips)

/-- How often the messages address a client, of the servers that pass a message on. -/
def timesByServers (collection : ServerInfoCollection) (reaches : UInt32 → Bool) (ip : Ipv4Addr)
    (messages : List ServerMessage) : Nat :=
  ((messages.filter fun message => reaches message.serverId).flatMap
    (ServerMessage.targets collection)).count ip

/-- How often a broadcast is addressed to a client. -/
def SentBroadcast.timesTargeted (sent : SentBroadcast) (collection : ServerInfoCollection)
    (reaches : UInt32 → Bool) (ip : Ipv4Addr) : Nat :=
  (sent.copies.map Prod.fst).count ip + timesByServers collection reaches ip sent.messages

/-- Every other client that a connected server has online is targeted once. -/
def SentBroadcast.TargetsOnce (sent : SentBroadcast) (collection : ServerInfoCollection)
    (selfIp : Ipv4Addr) (reaches : UInt32 → Bool) : Prop :=
  ∀ ip, ip ≠ selfIp → collection.ReportedOnline ip → sent.timesTargeted collection reaches ip = 1

variable {collection : ServerInfoCollection} {reaches : UInt32 → Bool} {ip : Ipv4Addr}
  {main server : ServerClients} {excludeIps : Option (List Ipv4Addr)}

/-- A message addresses a client at most once. -/
theorem nodup_targets (message : ServerMessage) : (message.targets collection).Nodup := by
  have online := collection.nodup_onlineAt message.serverId
  unfold ServerMessage.targets
  split
  · exact online
  · exact online.filter _
  · exact online.filter _

theorem timesByServers_eq_countP (messages : List ServerMessage) :
    timesByServers collection reaches ip messages = messages.countP fun message =>
      reaches message.serverId && decide (ip ∈ message.targets collection) := by
  unfold timesByServers
  induction messages with
  | nil => rfl
  | cons message rest inductionHypothesis =>
    have once : (message.targets collection).count ip =
        if ip ∈ message.targets collection then 1 else 0 := (nodup_targets message).count
    rw [List.filter_cons, List.countP_cons, ← inductionHypothesis]
    cases passes : reaches message.serverId with
    | false => simp
    | true =>
      rw [if_pos rfl, List.flatMap_cons, List.count_append, once, Nat.add_comm]
      simp

/-! ### The main server -/

/-- The best server is in the map, and it has clients when any server has. -/
theorem bestServer_spec {map : List ServerClients} (best : bestServer map = some main) :
    main ∈ map ∧ ∀ server ∈ map, server.ips ≠ [] → main.ips ≠ [] := by
  refine ⟨List.mem_reverse.mp (List.argmax_mem best), fun server member nonempty empty => ?_⟩
  have least : score server ≤ score main :=
    List.le_of_mem_argmax (List.mem_reverse.mpr member) best
  have positive : 0 < score server :=
    doubleQuotient_pos (mt List.length_eq_zero_iff.mp nonempty) (Nat.succ_ne_zero _)
  have zero : score main = 0 := by
    unfold score
    rw [empty]
    exact doubleQuotient_zero _
  rw [zero] at least
  exact absurd (lt_of_lt_of_le positive least) (lt_irrefl 0)

theorem exists_bestServer {map : List ServerClients} (member : server ∈ map) :
    ∃ main, bestServer map = some main := by
  refine Option.ne_none_iff_exists'.mp fun none => ?_
  have empty := List.argmax_eq_none.mp none
  exact List.not_mem_nil (List.reverse_eq_nil_iff.mp empty ▸ member)

/-- The main server addresses its clients that have no copy. -/
theorem mem_targets_main (ip : Ipv4Addr) (excludeIps : Option (List Ipv4Addr))
    (member : main ∈ collection.serverClientIpMap) :
    ip ∈ (ServerMessage.mk main.serverId (mainForm excludeIps)).targets collection ↔
      ip ∈ main.ips ∧ ip ∉ excludeIps.getD [] := by
  unfold ServerMessage.targets
  cases excludeIps with
  | none => simp [mainForm, ServerInfoCollection.onlineAt_of_mem member]
  | some ips => simp [mainForm, ServerInfoCollection.onlineAt_of_mem member]

/-! ### The other servers -/

/-- Another server addresses its clients that have no copy and are not on the main server. -/
theorem targetMessage_addresses {outbound : ServerOutbound}
    (member : server ∈ collection.serverClientIpMap)
    (hasSender : server.serverId ∈ outbound.sender) :
    ((outbound.targetMessage main excludeIps server).map fun message =>
        reaches message.serverId && decide (ip ∈ message.targets collection)).getD false = true ↔
      server.serverId ≠ main.serverId ∧ reaches server.serverId = true ∧
        ip ∈ targetIps main excludeIps server := by
  unfold ServerOutbound.targetMessage
  dsimp only
  rw [if_pos hasSender]
  split
  · next isMain => simp [isMain]
  · next notMain =>
    split
    · next nobody => simp [nobody]
    · have targets : ip ∈ (ServerMessage.mk server.serverId
          (.target (targetIps main excludeIps server))).targets collection ↔
            ip ∈ targetIps main excludeIps server := by
        unfold ServerMessage.targets targetIps
        simp only [ServerInfoCollection.onlineAt_of_mem member, List.mem_filter]
        simp
      simp [targets, notMain]

/-- The servers that pass a message on and have the client online. -/
def reporters (map : List ServerClients) (reaches : UInt32 → Bool) (ip : Ipv4Addr) :
    List ServerClients :=
  map.filter fun server => reaches server.serverId && decide (ip ∈ server.ips)

/-- The other servers address a client that has no copy and is not on the main server through
each of them that has it online. -/
theorem timesByServers_others {outbound : ServerOutbound} (reaches : UInt32 → Bool)
    (ip : Ipv4Addr) (excludeIps : Option (List Ipv4Addr))
    (isMain : main ∈ collection.serverClientIpMap)
    (senders : ∀ server ∈ collection.serverClientIpMap, server.serverId ∈ outbound.sender) :
    timesByServers collection reaches ip
        (collection.serverClientIpMap.filterMap (outbound.targetMessage main excludeIps)) =
      if ip ∈ main.ips ∨ ip ∈ excludeIps.getD [] then 0
      else (reporters collection.serverClientIpMap reaches ip).length := by
  rw [timesByServers_eq_countP, List.countP_filterMap]
  split
  · next left =>
    refine List.countP_eq_zero.mpr fun server member addresses => ?_
    obtain ⟨-, -, inTargets⟩ :=
      (targetMessage_addresses member (senders server member)).mp addresses
    unfold targetIps at inTargets
    rw [List.mem_filter] at inTargets
    rcases left with onMain | excluded
    · simp [onMain] at inTargets
    · simp [excluded] at inTargets
  · next free =>
    rw [not_or] at free
    unfold reporters
    rw [← List.countP_eq_length_filter]
    refine List.countP_congr fun server member => ?_
    rw [targetMessage_addresses member (senders server member), Bool.and_eq_true]
    constructor
    · rintro ⟨-, passes, inTargets⟩
      exact ⟨passes, decide_eq_true (List.mem_filter.mp inTargets).1⟩
    · rintro ⟨passes, online⟩
      replace online := of_decide_eq_true online
      refine ⟨fun same => ?_, passes, List.mem_filter.mpr ⟨online, ?_⟩⟩
      · rw [ServerInfoCollection.eq_of_serverId member isMain same] at online
        exact free.1 online
      · simp [free]

/-! ### The copies -/

/-- The clients that get a copy: the first 16 of those that are online and have a direct
route. -/
def BasicOutbound.directIps (basic : BasicOutbound) : List Ipv4Addr :=
  match basic.p2pOutbound with
  | some p2p =>
    (basic.serverOutbound.serverInfoCollection.clientOnlineIps.filter fun ip =>
      (p2p.routeTable.getP2pRouteById ip).isSome).take 16
  | none => []

/-- When every path takes its packet, the copies go to the first clients with a direct route. -/
theorem map_fst_p2pBroadcast {p2p : P2pOutbound} {max : Nat}
    (sends : ∀ routeKey, p2p.trySendTo routeKey = true) (ips : List Ipv4Addr)
    (list : List (Ipv4Addr × RouteKey)) (room : list.length < max) :
    (p2p.p2pBroadcast max list ips).map Prod.fst = list.map Prod.fst ++
      (ips.filter fun ip => (p2p.routeTable.getP2pRouteById ip).isSome).take
        (max - list.length) := by
  induction ips generalizing list with
  | nil => simp [P2pOutbound.p2pBroadcast]
  | cons id rest inductionHypothesis =>
    rw [P2pOutbound.p2pBroadcast, List.filter_cons]
    cases found : p2p.routeTable.getP2pRouteById id with
    | none => exact inductionHypothesis list room
    | some route =>
      obtain ⟨left, isLeft⟩ : ∃ left, max - list.length = left + 1 :=
        ⟨max - list.length - 1, by omega⟩
      dsimp only
      rw [if_pos (sends _), Option.isSome_some, if_pos rfl, isLeft, List.take_succ_cons,
        List.length_append, List.length_singleton]
      split
      · next full =>
        have last : left = 0 := by omega
        rw [last, List.take_zero, List.map_append]
        rfl
      · next notFull =>
        have remaining : max - (list ++ [(id, route.routeKey)]).length = left := by
          rw [List.length_append, List.length_singleton]
          omega
        rw [inductionHypothesis _ (by rw [List.length_append, List.length_singleton]; omega),
          remaining, List.map_append, List.append_assoc]
        rfl

/-! ### A broadcast -/

/-- The main server gets a message when it has clients, and each other server its own. -/
theorem sendRawBroadcast_eq {outbound : ServerOutbound}
    (senders : ∀ server ∈ outbound.serverInfoCollection.serverClientIpMap,
      server.serverId ∈ outbound.sender)
    (best : bestServer outbound.serverInfoCollection.serverClientIpMap = some main)
    (nonempty : main.ips ≠ []) :
    (outbound.sendRawBroadcast excludeIps).1 = ⟨main.serverId, mainForm excludeIps⟩ ::
      outbound.serverInfoCollection.serverClientIpMap.filterMap
        (outbound.targetMessage main excludeIps) := by
  have hasSender := senders main (bestServer_spec best).1
  unfold ServerOutbound.sendRawBroadcast
  generalize outbound.serverInfoCollection.serverClientIpMap = map at best
  split
  · cases best
  · next server =>
    cases best
    rw [if_neg nonempty, if_neg (not_not.mpr hasSender)]
    simp [ServerOutbound.targetMessage]
  · rw [best]
    dsimp only
    rw [if_neg nonempty, if_neg (not_not.mpr hasSender)]

/-- How often the messages address a client that is online somewhere. -/
theorem timesByServers_sendRawBroadcast {outbound : ServerOutbound}
    (senders : ∀ server ∈ outbound.serverInfoCollection.serverClientIpMap,
      server.serverId ∈ outbound.sender)
    (best : bestServer outbound.serverInfoCollection.serverClientIpMap = some main)
    (nonempty : main.ips ≠ []) :
    timesByServers outbound.serverInfoCollection reaches ip
        (outbound.sendRawBroadcast excludeIps).1 =
      if ip ∈ excludeIps.getD [] then 0
      else if ip ∈ main.ips then if reaches main.serverId = true then 1 else 0
      else (reporters outbound.serverInfoCollection.serverClientIpMap reaches ip).length := by
  have isMain := (bestServer_spec best).1
  have others := timesByServers_others reaches ip excludeIps isMain senders
  rw [timesByServers_eq_countP] at others
  rw [sendRawBroadcast_eq senders best nonempty, timesByServers_eq_countP, List.countP_cons, others]
  have toMain := mem_targets_main ip excludeIps isMain
  by_cases excluded : ip ∈ excludeIps.getD []
  · rw [if_pos (.inr excluded), if_pos excluded]
    simp [toMain, excluded]
  · rw [if_neg excluded]
    by_cases onMain : ip ∈ main.ips
    · rw [if_pos (.inl onMain), if_pos onMain]
      simp [toMain, excluded, onMain]
    · rw [if_neg (not_or.mpr ⟨onMain, excluded⟩), if_neg onMain]
      simp [toMain, onMain]

namespace BasicOutbound

/-- Every client of the merged list has a copy, so the servers are not asked. -/
def CopiesSuffice (basic : BasicOutbound) : Prop :=
  basic.directIps ≠ [] ∧
    basic.directIps.length = basic.serverOutbound.serverInfoCollection.clientOnlineIps.length

/-- A client gets the packet once: it has one copy; or it has none, the servers are asked, and
the main one passes the message on to it, or does not have it and one of the others does. -/
def ServesOnce (basic : BasicOutbound) (reaches : UInt32 → Bool) (ip : Ipv4Addr) : Prop :=
  basic.directIps.count ip = 1 ∨
    ip ∉ basic.directIps ∧ ¬basic.CopiesSuffice ∧
      ∃ main, bestServer basic.serverOutbound.serverInfoCollection.serverClientIpMap = some main ∧
        (ip ∈ main.ips → reaches main.serverId = true) ∧
        (ip ∉ main.ips → (reporters basic.serverOutbound.serverInfoCollection.serverClientIpMap
          reaches ip).length = 1)

variable {basic : BasicOutbound}

theorem map_fst_p2pBroadcastTransmission
    (sends : ∀ p2p, basic.p2pOutbound = some p2p → ∀ routeKey, p2p.trySendTo routeKey = true) :
    (basic.p2pBroadcastTransmission
      basic.serverOutbound.serverInfoCollection.clientOnlineIps 16).map Prod.fst =
        basic.directIps := by
  unfold p2pBroadcastTransmission directIps
  cases isP2p : basic.p2pOutbound with
  | none => rfl
  | some p2p => exact map_fst_p2pBroadcast (sends p2p isP2p) _ [] (by decide)

/-- The servers are asked for the clients without a copy, unless the copies suffice. -/
theorem broadcast_messages (packet : List UInt8) (channel : basic.useChannel ≠ .p2p)
    (sends : ∀ p2p, basic.p2pOutbound = some p2p → ∀ routeKey, p2p.trySendTo routeKey = true) :
    ∃ excludeIps : Option (List Ipv4Addr), excludeIps.getD [] = basic.directIps ∧
      ((basic.CopiesSuffice ∧ (basic.broadcast packet).messages = []) ∨
        (¬basic.CopiesSuffice ∧ (basic.broadcast packet).messages =
          (basic.serverOutbound.sendRawBroadcast excludeIps).1)) := by
  have copies := map_fst_p2pBroadcastTransmission sends
  unfold broadcast CopiesSuffice
  dsimp only
  rw [← copies]
  generalize basic.p2pBroadcastTransmission
    basic.serverOutbound.serverInfoCollection.clientOnlineIps 16 = sent
  refine ⟨if sent = [] then none else some (sent.map Prod.fst), ?_, ?_⟩
  · split
    · next empty => rw [empty]; rfl
    · rfl
  · rw [List.length_map]
    split
    · next enough => exact .inl ⟨⟨mt List.map_eq_nil_iff.mp enough.1, enough.2⟩, rfl⟩
    · next short =>
      refine .inr ⟨fun both => short ⟨mt List.map_eq_nil_iff.mpr both.1, both.2⟩, ?_⟩
      unfold sendRawBroadcast
      rw [if_pos channel]

/-- How often a client that a connected server has online is targeted. -/
theorem timesTargeted_eq_one_iff (packet : List UInt8) (channel : basic.useChannel ≠ .p2p)
    (sends : ∀ p2p, basic.p2pOutbound = some p2p → ∀ routeKey, p2p.trySendTo routeKey = true)
    (senders : ∀ server ∈ basic.serverOutbound.serverInfoCollection.serverClientIpMap,
      server.serverId ∈ basic.serverOutbound.sender)
    (reported : basic.serverOutbound.serverInfoCollection.ReportedOnline ip) :
    (basic.broadcast packet).timesTargeted basic.serverOutbound.serverInfoCollection reaches ip =
      1 ↔ basic.ServesOnce reaches ip := by
  obtain ⟨server, member, online⟩ := reported.exists_mem
  obtain ⟨main, best⟩ := exists_bestServer member
  have nonempty := (bestServer_spec best).2 server member (List.ne_nil_of_mem online)
  obtain ⟨excludeIps, excluded, messages⟩ := broadcast_messages packet channel sends
  have copies : ((basic.broadcast packet).copies.map Prod.fst).count ip =
      basic.directIps.count ip := by
    rw [← map_fst_p2pBroadcastTransmission sends]
    unfold broadcast
    dsimp only
    split <;> rfl
  unfold SentBroadcast.timesTargeted ServesOnce
  rw [copies]
  rcases messages with ⟨enough, none⟩ | ⟨short, sent⟩
  · have nothing : timesByServers basic.serverOutbound.serverInfoCollection reaches ip [] = 0 := rfl
    rw [none, nothing]
    simp [enough]
  · rw [sent, timesByServers_sendRawBroadcast senders best nonempty, excluded]
    simp only [best, Option.some.injEq, exists_eq_left', short, not_false_eq_true, true_and]
    by_cases hasCopy : ip ∈ basic.directIps
    · rw [if_pos hasCopy]
      simp [hasCopy]
    · rw [if_neg hasCopy, List.count_eq_zero.mpr hasCopy]
      by_cases onMain : ip ∈ main.ips
      · simp [hasCopy, onMain]
      · simp [hasCopy, onMain]

end BasicOutbound

/-- Every other client that a connected server has online is targeted once if and only if the
copies, the main server or exactly one of the other servers serves it. -/
theorem targetsOnce_iff (outbound : HybridOutbound) (basic : BasicOutbound) (net : NetworkAddr)
    (data : TransmissionBytes) (reaches : UInt32 → Bool) {sent : SentBroadcast}
    (channel : basic.useChannel ≠ .p2p)
    (sends : ∀ p2p, basic.p2pOutbound = some p2p → ∀ routeKey, p2p.trySendTo routeKey = true)
    (senders : ∀ server ∈ basic.serverOutbound.serverInfoCollection.serverClientIpMap,
      server.serverId ∈ basic.serverOutbound.sender)
    (outcome : outbound.ipv4BroadcastOutbound basic net data = .ok sent) :
    sent.TargetsOnce basic.serverOutbound.serverInfoCollection net.ip reaches ↔
      ∀ ip, ip ≠ net.ip → basic.serverOutbound.serverInfoCollection.ReportedOnline ip →
        basic.ServesOnce reaches ip := by
  obtain ⟨packet, rfl⟩ : ∃ packet, sent = basic.broadcast packet := by
    unfold HybridOutbound.ipv4BroadcastOutbound at outcome
    dsimp only [bind, Except.bind] at outcome
    split at outcome
    · cases outcome
    · split at outcome
      · cases outcome
      · cases outcome
        exact ⟨_, rfl⟩
  refine forall_congr' fun ip => imp_congr_right fun _ => imp_congr_right fun reported => ?_
  exact basic.timesTargeted_eq_one_iff packet channel sends senders reported

/-- A packet to the broadcast address of the network, in a buffer with room for the header. -/
def exampleBroadcastPacket : TransmissionBytes :=
  ⟨List.replicate headLength 0,
    [0x45, 0, 0, 20, 0, 0, 0, 0, 64, 17, 0, 0, 10, 26, 0, 2, 10, 26, 0, 255], []⟩

/-- The clients of three servers, each client on one of them or also on the main one. -/
def disjointLists : List (UInt32 × List Ipv4Addr) :=
  [(0, [0x0A1A0003, 0x0A1A0004]), (1, [0x0A1A0004, 0x0A1A0005]), (2, [])]

/-- Two servers share a client, and the main one is another. -/
def overlappingLists : List (UInt32 × List Ipv4Addr) :=
  [(0, [0x0A1A0003, 0x0A1A0004]), (1, [0x0A1A0005]), (2, [0x0A1A0005])]

/-- Everybody is targeted once. -/
theorem targetsOnce_disjoint : ∃ sent,
    plainOutbound.ipv4BroadcastOutbound (listedOutbound disjointLists)
        ⟨0x0A1A0001, 0x0A1A00FF, 0x0A1A0002, 24⟩ exampleBroadcastPacket = .ok sent ∧
      sent.TargetsOnce (listedCollection disjointLists) 0x0A1A0002 fun _ => true := by
  have noCopies : ∀ p2p, (listedOutbound disjointLists).p2pOutbound = some p2p →
      ∀ routeKey, p2p.trySendTo routeKey = true := by
    intro p2p isP2p
    cases isP2p
  have map : (listedCollection disjointLists).serverClientIpMap =
      [⟨2, [], 9⟩, ⟨1, [0x0A1A0005, 0x0A1A0004], 9⟩, ⟨0, [0x0A1A0004, 0x0A1A0003], 9⟩] := by
    decide +kernel
  have best : bestServer (listedCollection disjointLists).serverClientIpMap =
      some ⟨0, [0x0A1A0004, 0x0A1A0003], 9⟩ := by decide +kernel
  refine ⟨_, rfl, ?_⟩
  refine (targetsOnce_iff plainOutbound _ ⟨0x0A1A0001, 0x0A1A00FF, 0x0A1A0002, 24⟩
    exampleBroadcastPacket (fun _ => true) (by decide) noCopies (by decide +kernel) rfl).mpr ?_
  intro ip _ reported
  refine .inr ⟨List.not_mem_nil, fun enough => enough.1 rfl, _, best, fun _ => rfl, ?_⟩
  obtain ⟨server, member, online⟩ := reported.exists_mem
  intro notOnMain
  have only : ip = 0x0A1A0005 := by
    have member : server ∈ (listedCollection disjointLists).serverClientIpMap := member
    rw [map] at member
    simp only [List.mem_cons, List.not_mem_nil, or_false] at member
    rcases member with rfl | rfl | rfl
    · cases online
    · simp only [List.mem_cons, List.not_mem_nil, or_false] at online notOnMain
      exact online.resolve_right fun same => notOnMain (.inl same)
    · exact absurd online notOnMain
  rw [only]
  decide +kernel

/-- The client that the two servers share is targeted twice. -/
theorem not_targetsOnce_overlapping : ∃ sent,
    plainOutbound.ipv4BroadcastOutbound (listedOutbound overlappingLists)
        ⟨0x0A1A0001, 0x0A1A00FF, 0x0A1A0002, 24⟩ exampleBroadcastPacket = .ok sent ∧
      ¬sent.TargetsOnce (listedCollection overlappingLists) 0x0A1A0002 fun _ => true := by
  refine ⟨_, rfl, fun once => ?_⟩
  have reported : (listedCollection overlappingLists).ReportedOnline 0x0A1A0005 :=
    ⟨1, _, rfl, rfl, by decide +kernel⟩
  have twice := once 0x0A1A0005 (by decide) reported
  revert twice
  decide +kernel

end Vnt.Tunnel
