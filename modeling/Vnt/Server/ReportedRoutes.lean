/-
This file proves where the routes through a peer come from. Over any run of two connected servers,
whatever happens to their networks meanwhile and in whatever pieces the bytes arrive, a route
through the other server is one to a client which that server had in the network at some time, with
the latency it had stored for the client then; and the network is one that the server with the route
has served itself.
-/

import Vnt.Server.PeerOverTheWire
import Vnt.Server.PeerRoutes

namespace Vnt.Server

open Vnt.Base

namespace PeerServerManager

variable {manager : PeerServerManager} {peer : PeerId} {networkCode : String} {ip : Ipv4Addr}
  {route : IpRouteInfo}

/-- The server has the network. -/
def Serves (manager : PeerServerManager) (networkCode : String) : Prop :=
  ∃ state, manager.networkStates.lookup networkCode = some state

/-- The server has the client in the network, with this latency. -/
def Lists (manager : PeerServerManager) (networkCode : String) (client : ClientLatencyInfo) :
    Prop :=
  ∃ state, manager.networkStates.lookup networkCode = some state ∧ client ∈ clientsOf state

/-! ### The routes an answer leaves -/

theorem mem_or_eq_of_mem_renewRoute {latencyMs : UInt32} {routes : List IpRouteInfo}
    (member : route ∈ renewRoute peer latencyMs routes) :
    route ∈ routes ∨ route = ⟨peer, latencyMs⟩ := by
  induction routes with
  | nil => exact .inr (List.mem_singleton.mp member)
  | cons first rest inductionHypothesis =>
    unfold renewRoute at member
    split at member
    · next same =>
      rcases List.mem_cons.mp member with rfl | later
      · exact .inr (congrArg (IpRouteInfo.mk · latencyMs) same)
      · exact .inl (List.mem_cons_of_mem _ later)
    · rcases List.mem_cons.mp member with rfl | later
      · exact .inl List.mem_cons_self
      · exact (inductionHypothesis later).imp_left (List.mem_cons_of_mem _)

/-- A client that is entered adds at most the route to it with its latency. -/
theorem mem_routesTo_listed {client : ClientLatencyInfo} {other : String}
    (member : route ∈ (manager.routeStep peer (.list networkCode client)).routesTo other ip) :
    route ∈ manager.routesTo other ip ∨
      other = networkCode ∧ ip = client.ip ∧ route = ⟨peer, client.latencyMs⟩ := by
  unfold routeStep at member
  dsimp only at member
  rw [routesTo_setIpMap] at member
  split at member
  · next same =>
    unfold addRoute at member
    rw [Map.lookup_insert_eq] at member
    split at member
    · next sameIp =>
      rw [Option.getD_some] at member
      split at member
      · next routes found =>
        rcases mem_or_eq_of_mem_renewRoute
          (List.mem_insertionSort _ |>.mp (List.mem_of_mem_take member))
          with before | isNew
        · rw [same, sameIp, routesTo_eq, found]
          exact .inl before
        · exact .inr ⟨same, sameIp, isNew⟩
      · exact .inr ⟨same, sameIp, List.mem_singleton.mp member⟩
    · rw [same, routesTo_eq]
      exact .inl member
  · exact .inl member

theorem mem_routesTo_foldl {steps : List RouteStep}
    (member : route ∈ (steps.foldl (fun manager step => manager.routeStep peer step)
      manager).routesTo networkCode ip) :
    route ∈ manager.routesTo networkCode ip ∨ ∃ client, .list networkCode client ∈ steps ∧
      ip = client.ip ∧ route = ⟨peer, client.latencyMs⟩ := by
  induction steps generalizing manager with
  | nil => exact .inl member
  | cons step rest inductionHypothesis =>
    obtain before | ⟨client, isStep, found⟩ := inductionHypothesis member
    · cases step with
      | list code client =>
        obtain before | ⟨rfl, found⟩ := mem_routesTo_listed before
        · exact .inl before
        · exact .inr ⟨client, List.mem_cons_self, found⟩
      | retain code synced => exact .inl (mem_routesTo_retain before)
    · exact .inr ⟨client, List.mem_cons_of_mem _ isStep, found⟩

/-- After an answer a route was there before, or it is one to a client of the answer. -/
theorem mem_routesTo_response (networkCodes : List String) {networks : List NetworkInfo}
    (member : route ∈ (manager.handleClientInfoResponse peer networkCodes networks).1.routesTo
      networkCode ip) :
    route ∈ manager.routesTo networkCode ip ∨ ∃ network ∈ networks, ∃ client ∈ network.clients,
      network.networkCode = networkCode ∧ ip = client.ip ∧ route = ⟨peer, client.latencyMs⟩ := by
  unfold handleClientInfoResponse at member
  dsimp only at member
  induction networks generalizing manager with
  | nil => exact .inl member
  | cons network rest inductionHypothesis =>
    obtain before | ⟨other, isOther, found⟩ := inductionHypothesis member
    · dsimp only at before
      rw [← foldl_routeStep_steps] at before
      obtain earlier | ⟨client, isStep, found⟩ := mem_routesTo_foldl before
      · exact .inl earlier
      · unfold NetworkInfo.steps at isStep
        rcases List.mem_append.mp isStep with listed | retained
        · obtain ⟨entry, isEntry, same⟩ := List.mem_map.mp listed
          cases same
          exact .inr ⟨network, List.mem_cons_self, client, isEntry, rfl, found⟩
        · cases List.mem_singleton.mp retained
    · exact .inr ⟨other, List.mem_cons_of_mem _ isOther, found⟩

/-- What a server answers is what it has. -/
theorem mem_handleClientInfoRequest {networkCodes : List String} {network : NetworkInfo}
    (member : network ∈ manager.handleClientInfoRequest networkCodes) :
    network.networkCode ∈ networkCodes ∧
      ∀ client ∈ network.clients, manager.Lists network.networkCode client := by
  unfold handleClientInfoRequest at member
  obtain ⟨networkCode, asked, rfl⟩ := List.mem_map.mp member
  refine ⟨asked, fun client listed => ?_⟩
  dsimp only at listed
  split at listed
  · next state found => exact ⟨state, found, listed⟩
  · cases listed

end PeerServerManager

/-! ### What the messages say -/

section Sound

variable (serves : Side → String → Prop) (lists : Side → String → ClientLatencyInfo → Prop)

/-- A message of one end says nothing new: it asks for networks the end has served, and it answers
with clients the end had, for networks the other end has served. -/
def MessageSound (side : Side) : ServerMessage → Prop
  | .clientInfoReq networkCodes => ∀ networkCode ∈ networkCodes, serves side networkCode
  | .clientInfoRes networks => ∀ network ∈ networks, serves side.other network.networkCode ∧
      ∀ client ∈ network.clients, lists side network.networkCode client
  | _ => True

/-- The messages of one end and its routes through the other one. -/
structure EndSound (side : Side) (node : PeerEnd) : Prop where
  queue : ∀ message ∈ node.queue, MessageSound serves lists side message
  waiting : ∀ message ∈ node.waiting, MessageSound serves lists side message
  stream : ∀ message ∈ node.stream, MessageSound serves lists side message
  routes : ∀ networkCode ip, ∀ route ∈ node.manager.routesTo networkCode ip,
    route.peerInfo = node.peer → serves side networkCode ∧
      lists side.other networkCode ⟨ip, route.clientLatencyMs⟩

/-- What the end has now is counted. -/
structure EndKnown (side : Side) (node : PeerEnd) : Prop where
  serves : ∀ networkCode, node.manager.Serves networkCode → serves side networkCode
  lists : ∀ networkCode client, node.manager.Lists networkCode client →
    lists side networkCode client

variable {serves lists} {side : Side} {node : PeerEnd}

theorem EndSound.send (sound : EndSound serves lists side node) {message : ServerMessage}
    (truthful : MessageSound serves lists side message) :
    EndSound serves lists side (node.send message) := by
  unfold PeerEnd.send
  split
  · exact sound
  · split
    · exact ⟨List.forall_mem_append.mpr ⟨sound.queue, List.forall_mem_singleton.mpr truthful⟩,
        sound.waiting, sound.stream, sound.routes⟩
    · refine ⟨sound.queue, fun other member => ?_, sound.stream, sound.routes⟩
      cases member
      exact truthful

theorem EndSound.forward (sound : EndSound serves lists side node) (networkCode : String)
    (data : List UInt8) (fits : Bool) :
    EndSound serves lists side (node.forward networkCode data fits) := by
  unfold PeerEnd.forward
  split
  · exact ⟨sound.queue, sound.waiting, sound.stream, sound.routes⟩
  · exact sound

theorem EndSound.pullClientInfo (sound : EndSound serves lists side node)
    (known : EndKnown serves lists side node) :
    EndSound serves lists side node.pullClientInfo := by
  have asks : MessageSound serves lists side (.clientInfoReq node.manager.networkStates.keys) := by
    intro networkCode member
    refine known.serves networkCode (Option.isSome_iff_exists.mp ?_)
    exact AList.lookup_isSome.mpr member
  unfold PeerEnd.pullClientInfo
  split
  · exact sound
  · exact sound.send asks

theorem EndSound.handlePeerMessage (sound : EndSound serves lists side node)
    (known : EndKnown serves lists side node) (now : UInt64) {message : ServerMessage}
    (truthful : MessageSound serves lists side.other message) :
    EndSound serves lists side (node.handlePeerMessage now message) := by
  cases message with
  | authReq tokenHash => exact sound
  | authRes success text => exact sound
  | pingReq timestamp => exact sound.send trivial
  | pingRes requestTimestamp responseTimestamp =>
    exact ⟨sound.queue, sound.waiting, sound.stream, sound.routes⟩
  | forwardData forward => exact ⟨sound.queue, sound.waiting, sound.stream, sound.routes⟩
  | clientInfoReq networkCodes =>
    refine sound.send fun network member => ?_
    obtain ⟨asked, listed⟩ := PeerServerManager.mem_handleClientInfoRequest member
    exact ⟨truthful _ asked, fun client isClient => known.lists _ _ (listed client isClient)⟩
  | clientInfoRes networks =>
    refine ⟨sound.queue, sound.waiting, sound.stream, fun networkCode ip route member through => ?_⟩
    obtain before | ⟨network, isNetwork, client, isClient, rfl, rfl, rfl⟩ :=
      PeerServerManager.mem_routesTo_response node.networkCodes member
    · exact sound.routes networkCode ip route before through
    · obtain ⟨served, listed⟩ := truthful network isNetwork
      rw [Side.other_other] at served
      exact ⟨served, listed client isClient⟩

/-- The same of both ends. -/
def LinkSound (serves : Side → String → Prop) (lists : Side → String → ClientLatencyInfo → Prop)
    (link : PeerLink) : Prop := ∀ side, EndSound serves lists side (link.ends side)

variable {link next : PeerLink} {event : PeerLinkEvent}

theorem LinkSound.update (sound : LinkSound serves lists link) {side : Side} {node : PeerEnd}
    (changed : EndSound serves lists side node) :
    LinkSound serves lists (link.update side node) := by
  intro other
  by_cases same : other = side
  · rw [same, PeerLink.update_self]
    exact changed
  · rw [link.update_of_ne same]
    exact sound other

/-- A step keeps this, when what the ends have now is counted. -/
theorem LinkSound.step (sound : LinkSound serves lists link)
    (known : ∀ side, EndKnown serves lists side (link.ends side))
    (effect : PeerLink.Effect link event next) : LinkSound serves lists next := by
  cases effect with
  | forwarded side networkCode data fits =>
    exact sound.update ((sound side).forward networkCode data fits)
  | statesSet side networkStates =>
    exact sound.update ⟨(sound side).queue, (sound side).waiting, (sound side).stream,
      (sound side).routes⟩
  | pulled side selects => exact sound.update ((sound side).pullClientInfo (known side))
  | pinged side now selects => exact sound.update ((sound side).send trivial)
  | written side message rest selects queue =>
    have all := (sound side).queue
    rw [queue] at all
    obtain ⟨first, others⟩ := List.forall_mem_cons.mp all
    exact sound.update ⟨others, (sound side).waiting,
      List.forall_mem_append.mpr ⟨(sound side).stream, List.forall_mem_singleton.mpr first⟩,
      (sound side).routes⟩
  | taken side now message rest selects stream =>
    have all := (sound side.other).stream
    rw [stream] at all
    obtain ⟨first, others⟩ := List.forall_mem_cons.mp all
    have left : LinkSound serves lists
        (link.update side.other ((link.ends side.other).taken rest)) :=
      sound.update ⟨(sound side.other).queue, (sound side.other).waiting, others,
        (sound side.other).routes⟩
    exact left.update ((sound side).handlePeerMessage (known side) now first)
  | resumed side message waiting room =>
    have truthful := (sound side).waiting message waiting
    refine sound.update ⟨List.forall_mem_append.mpr ⟨(sound side).queue,
      List.forall_mem_singleton.mpr truthful⟩, fun other member => ?_, (sound side).stream,
      (sound side).routes⟩
    cases member

end Sound

section Mono

variable {serves moreServes : Side → String → Prop}
  {lists moreLists : Side → String → ClientLatencyInfo → Prop} {link : PeerLink}

theorem MessageSound.mono (laterServes : ∀ side networkCode, serves side networkCode →
      moreServes side networkCode)
    (laterLists : ∀ side networkCode client, lists side networkCode client →
      moreLists side networkCode client) {side : Side} {message : ServerMessage}
    (sound : MessageSound serves lists side message) :
    MessageSound moreServes moreLists side message := by
  cases message with
  | clientInfoReq networkCodes =>
    exact fun networkCode member => laterServes _ _ (sound networkCode member)
  | clientInfoRes networks =>
    intro network member
    obtain ⟨served, listed⟩ := sound network member
    exact ⟨laterServes _ _ served, fun client isClient => laterLists _ _ _ (listed client isClient)⟩
  | _ => trivial

theorem LinkSound.mono (laterServes : ∀ side networkCode, serves side networkCode →
      moreServes side networkCode)
    (laterLists : ∀ side networkCode client, lists side networkCode client →
      moreLists side networkCode client) (sound : LinkSound serves lists link) :
    LinkSound moreServes moreLists link := by
  intro side
  obtain ⟨queue, waiting, stream, routes⟩ := sound side
  refine ⟨fun message member => (queue message member).mono laterServes laterLists,
    fun message member => (waiting message member).mono laterServes laterLists,
    fun message member => (stream message member).mono laterServes laterLists,
    fun networkCode ip route member through => ?_⟩
  obtain ⟨served, listed⟩ := routes networkCode ip route member through
  exact ⟨laterServes _ _ served, laterLists _ _ _ listed⟩

end Mono

/-! ### Over a run -/

namespace PeerLink

/-- One end has the network. -/
def Serves (side : Side) (networkCode : String) (link : PeerLink) : Prop :=
  (link.ends side).manager.Serves networkCode

/-- One end has the client in the network. -/
def Lists (side : Side) (networkCode : String) (client : ClientLatencyInfo) (link : PeerLink) :
    Prop := (link.ends side).manager.Lists networkCode client

/-- Neither end has a route through the other one. -/
def Unrouted (link : PeerLink) : Prop :=
  ∀ side networkCode ip, ∀ route ∈ (link.ends side).manager.routesTo networkCode ip,
    route.peerInfo ≠ (link.ends side).peer

variable {link final : PeerLink} {events : List PeerLinkEvent}

theorem sound_of_run (started : link.Started) (unrouted : link.Unrouted)
    (reaches : machine.run link events = some final) :
    LinkSound (fun side networkCode => machine.Sometime (Serves side networkCode) link events)
      (fun side networkCode client => machine.Sometime (Lists side networkCode client) link events)
      final := by
  refine Machine.run_induction (fun past state => LinkSound
    (fun side networkCode => machine.Sometime (Serves side networkCode) link past)
    (fun side networkCode client => machine.Sometime (Lists side networkCode client) link past)
    state) (fun side => ?_) (fun past state event next before sound steps => ?_) reaches
  · obtain ⟨queue, waiting, stream, -⟩ := started side
    refine ⟨by simp [queue], by simp [waiting], by simp [stream], ?_⟩
    exact fun networkCode ip route member through =>
      absurd through (unrouted side networkCode ip route member)
  · have known : ∀ side, EndKnown
        (fun side networkCode => machine.Sometime (Serves side networkCode) link past)
        (fun side networkCode client => machine.Sometime (Lists side networkCode client) link past)
        side (state.ends side) := fun side =>
      ⟨fun networkCode serves => Machine.sometime_of_final before serves,
        fun networkCode client lists => Machine.sometime_of_final before lists⟩
    exact (sound.step known (step_effect steps)).mono
      (fun side networkCode sometime => sometime.append [event])
      fun side networkCode client sometime => sometime.append [event]

end PeerLink

/-! ### On the wire -/

namespace WireLink

variable {codec : FrameCodec} {link final : WireLink} {events : List WireLinkEvent}

theorem networkStates_shownManager (node : WireEnd) (outbound : Bool) :
    (node.shownManager outbound).networkStates = node.manager.networkStates := by
  unfold WireEnd.shownManager
  split <;> rfl

theorem routesTo_shownManager (node : WireEnd) (outbound : Bool) (networkCode : String)
    (ip : Ipv4Addr) : (node.shownManager outbound).routesTo networkCode ip =
      node.manager.routesTo networkCode ip := by
  unfold WireEnd.shownManager
  split <;> rfl

/-- Over any run of two servers on the wire, a route through the other server is one to a client
that it had in the network at some time, with the latency it had for the client then, in a network
that the server with the route has had as well. -/
theorem routes_reported (large : 32 ≤ codec.limit) (bounded : codec.limit < 2 ^ 64)
    (started : link.Started)
    (unrouted : ∀ side networkCode ip, ∀ route ∈ (link.ends side).manager.routesTo networkCode ip,
      route.peerInfo ≠ (link.ends side).peer)
    (fits : (machine codec).Guarded (Fits codec) link events)
    (reaches : (machine codec).run link events = some final) {side : Side} {networkCode : String}
    {ip : Ipv4Addr} {route : IpRouteInfo}
    (isRoute : route ∈ (final.ends side).manager.routesTo networkCode ip)
    (through : route.peerInfo = (final.ends side).peer) :
    (machine codec).Sometime (fun link => (link.ends side).manager.Serves networkCode) link events ∧
    (machine codec).Sometime (fun link =>
      (link.ends side.other).manager.Lists networkCode ⟨ip, route.clientLatencyMs⟩) link
        events := by
  have simulation : Simulates (machine codec) PeerLink.machine (Fits codec) shown (Relates codec) :=
    simulates large bounded
  obtain ⟨image, runs, relates⟩ :=
    Vnt.Base.Simulates.run simulation started.relates fits reaches
  have imageStarted : link.messages.Started := fun side => ⟨rfl, rfl, rfl, rfl, rfl, rfl⟩
  have imageUnrouted : link.messages.Unrouted := unrouted
  have sound := PeerLink.sound_of_run imageStarted imageUnrouted runs side
  have shows := relates.shows side
  rw [← routesTo_shownManager _ side.isOutbound, ← shows.manager] at isRoute
  obtain ⟨served, listed⟩ := sound.routes networkCode ip route isRoute
    (through.trans shows.peer.symm)
  have onWire : ∀ {property : PeerLink → Prop} {weaker : WireLink → Prop},
      (∀ state image, Relates codec state image → property image → weaker state) →
      PeerLink.machine.Sometime property link.messages (events.flatMap shown) →
      (machine codec).Sometime weaker link events := by
    intro property weaker implies met
    refine Machine.Sometime.mono (Vnt.Base.Simulates.sometime simulation length_shown
      started.relates fits reaches met) fun state both => ?_
    obtain ⟨image, related, holds⟩ := both
    exact implies state image related holds
  refine ⟨onWire (fun state image related serves => ?_) served,
    onWire (fun state image related lists => ?_) listed⟩
  · obtain ⟨found, isFound⟩ := serves
    rw [(related.shows side).manager, networkStates_shownManager] at isFound
    exact ⟨found, isFound⟩
  · obtain ⟨found, isFound, isListed⟩ := lists
    rw [(related.shows side.other).manager, networkStates_shownManager] at isFound
    exact ⟨found, isFound, isListed⟩

/-- The example network with a client that has the address 10.26.0.3. -/
def clientStates : Map String NetworkState :=
  (∅ : Map String NetworkState).insert "net"
    { NetworkState.exampleState with senderMap := (∅ : Map Ipv4Addr Sender).insert 0x0A1A0003 4 }

/-- The acceptor has the client until it has answered, and no network after that. -/
def reportRun : List WireLinkEvent :=
  .setNetworkStates .acceptor clientStates :: syncRun ++ [.setNetworkStates .acceptor ∅]

/-- The opener has the route after that. -/
theorem routes_reported_reportRun : ∃ final,
    (machine FrameCodec.standard).run exampleLink reportRun = some final ∧
    ⟨0, 10⟩ ∈ (final.ends .opener).manager.routesTo "net" 0x0A1A0003 ∧
    (machine FrameCodec.standard).Sometime (fun link =>
      (link.ends .acceptor).manager.Lists "net" ⟨0x0A1A0003, 10⟩) exampleLink reportRun := by
  have reached : ∃ final, (machine FrameCodec.standard).run exampleLink reportRun = some final ∧
      (⟨0, 10⟩ : IpRouteInfo) ∈ (final.ends .opener).manager.routesTo "net" 0x0A1A0003 ∧
      0 = (final.ends .opener).peer :=
    ⟨_, rfl, by decide, by decide⟩
  obtain ⟨final, reaches, isRoute, through⟩ := reached
  have fits : (machine FrameCodec.standard).Guarded (Fits FrameCodec.standard) exampleLink
      reportRun := by decide
  have unrouted : ∀ side networkCode ip,
      ∀ route ∈ (exampleLink.ends side).manager.routesTo networkCode ip,
        route.peerInfo ≠ (exampleLink.ends side).peer := by
    intro side networkCode ip route member
    cases side <;> cases member
  exact ⟨final, reaches, isRoute, (routes_reported (by decide) (by decide) started_exampleLink
    unrouted fits reaches isRoute through).2⟩

end WireLink

end Vnt.Server
