/-
This file settles whether the merged client list agrees with the client lists of the servers. The
list stands under a lock of its own. An update of a server holds the lock of the servers until it
has written the merged list, and a new set of servers is taken under both locks. `clear` takes the
two locks one after the other, so an update may run between them, and the merged list it writes
stays when the servers are cleared.
-/

import Vnt.Base.Machine
import Vnt.Base.Merging
import Vnt.Client.ServerInfo

namespace Vnt.Client

open Vnt.Base

/-- What `clear` makes of a server. -/
def ServerNodeInfo.clear (_ : ServerNodeInfo) : ServerNodeInfo where
  connected := false
  rtt := none
  dataVersion := 0
  clientMap := ∅

namespace ServerInfoCollection

/-- `ServerInfoCollection::default`. -/
def default : ServerInfoCollection := ⟨[], ∅⟩

/-- The first lock section of `update_client_simple_list`, up to the write of the merged list. -/
def updateNodes (collection : ServerInfoCollection) (serverId : UInt32) (selfIp : Ipv4Addr)
    (list : ClientSimpleInfoList) (now : Int) : ServerInfoCollection :=
  let node := (collection.serverNodeMap.lookup serverId).getD ServerNodeInfo.default
  { collection with
    serverNodeMap := collection.serverNodeMap.insert serverId (node.update selfIp list now) }

/-- The first lock section of `clear`. -/
def clearList (collection : ServerInfoCollection) : ServerInfoCollection :=
  { collection with clientSimpleList := [] }

/-- The second lock section of `clear`. -/
def clearNodes (collection : ServerInfoCollection) : ServerInfoCollection :=
  { collection with
    serverNodeMap := collection.serverNodeMap.retain fun _ node => some node.clear }

/-- The merged list has every address that some server knows once and no other, and has it online
exactly when some server has it online. -/
structure ListRight (collection : ServerInfoCollection) : Prop where
  once : (collection.clientSimpleList.map ClientSimpleInfo.ip).Nodup
  known : ∀ ip, ip ∈ collection.clientSimpleList.map ClientSimpleInfo.ip ↔
    ∃ serverId, (collection.view serverId ip).isSome = true
  online : ∀ info ∈ collection.clientSimpleList,
    info.online = true ↔ ∃ serverId, collection.view serverId info.ip = some true

/-- The clients of every server stand under their own addresses. -/
def NodesKeyed (collection : ServerInfoCollection) : Prop :=
  ∀ serverId node, collection.serverNodeMap.lookup serverId = some node →
    Keyed ClientSimpleInfo.ip node.clientMap

end ServerInfoCollection

/-! ### The calls in progress -/

/-- The collection with the calls that are in progress: the merged list that an update is about to
write while it holds the lock of the servers, and how many calls of `clear` are between their two
sections. -/
structure ListState where
  collection : ServerInfoCollection
  merged : Option (List ClientSimpleInfo)
  clearing : Nat

/-- The lock sections of the calls. -/
inductive ListSection where
  | updateNodes (serverId : UInt32) (selfIp : Ipv4Addr) (list : ClientSimpleInfoList) (now : Int)
  | writeMerged
  | updateServer (serverIds : List UInt32)
  | setServerConnected (serverId : UInt32) (connected : Bool)
  | clearList
  | clearNodes

namespace ListState

def start : ListState := ⟨.default, none, 0⟩

/-- No call is in progress. -/
def Idle (state : ListState) : Prop := state.merged = none ∧ state.clearing = 0

/-- What a section does. The sections that take the lock of the servers wait while an update
holds it. -/
def step (state : ListState) : ListSection → Option ListState
  | .updateNodes serverId selfIp list now =>
    let collection := state.collection.updateNodes serverId selfIp list now
    if state.merged = none then
      some ⟨collection, some (mergeServers collection.serverNodeMap), state.clearing⟩
    else none
  | .writeMerged =>
    state.merged.map fun merged =>
      ⟨{ state.collection with clientSimpleList := merged }, none, state.clearing⟩
  | .updateServer serverIds =>
    if state.merged = none then some ⟨.updateServer serverIds, none, state.clearing⟩ else none
  | .setServerConnected serverId connected =>
    if state.merged = none then
      some ⟨state.collection.setServerConnected serverId connected, none, state.clearing⟩
    else none
  | .clearList => some ⟨state.collection.clearList, state.merged, state.clearing + 1⟩
  | .clearNodes =>
    if state.merged = none ∧ 0 < state.clearing then
      some ⟨state.collection.clearNodes, none, state.clearing - 1⟩
    else none

def machine : Machine ListState ListSection := ⟨step⟩

/-- When no call is in progress the list is right. -/
def RightWhenIdle (state : ListState) : Prop := state.Idle → state.collection.ListRight

/-- The second section of `clear` finds the list empty when it ends the last call in progress. -/
def Keeps (state : ListState) : ListSection → Prop
  | .clearNodes =>
    state.merged = none ∧ state.clearing = 1 → state.collection.clientSimpleList = []
  | _ => True

/-- What every section keeps: an update is about to write the list merged from the servers as they
are. -/
structure Consistent (state : ListState) : Prop where
  keyed : state.collection.NodesKeyed
  merged : ∀ merged, state.merged = some merged →
    merged = mergeServers state.collection.serverNodeMap

end ListState

/-! ### The merged list -/

/-- What stands under an address after one more client with it. -/
def raiseOnline : Option ClientSimpleInfo → ClientSimpleInfo → ClientSimpleInfo
  | some known, info => { known with online := known.online || info.online }
  | none, info => info

theorem writes_mergeInfo : Writes ClientSimpleInfo.ip raiseOnline mergeInfo where
  lookup merged info ip := by
    unfold mergeInfo
    by_cases same : ip = info.ip
    · subst same
      rw [if_pos rfl]
      cases known : merged.lookup info.ip with
      | none =>
        rw [AList.lookup_insert]
        rfl
      | some first =>
        unfold raiseOnline
        dsimp only
        cases info.online with
        | true => rw [if_pos rfl, AList.lookup_insert, Bool.or_true]
        | false => rw [if_neg Bool.false_ne_true, Bool.or_false, known]
    · rw [if_neg same]
      cases merged.lookup info.ip with
      | none => exact AList.lookup_insert_ne same
      | some first =>
        dsimp only
        split
        · exact AList.lookup_insert_ne same
        · rfl
  key known info same := by
    cases known with
    | none => rfl
    | some first => exact same first rfl

namespace ServerInfoCollection

variable {collection : ServerInfoCollection}

theorem view_eq_some_iff (serverId : UInt32) (ip : Ipv4Addr) (online : Bool) :
    collection.view serverId ip = some online ↔
      ∃ node info, collection.serverNodeMap.lookup serverId = some node ∧
        node.clientMap.lookup ip = some info ∧ info.online = online := by
  unfold view
  cases collection.serverNodeMap.lookup serverId with
  | none => simp
  | some node => simp [Option.map_eq_some_iff]

/-- The infos that are merged are those of all servers. -/
theorem mem_infos_iff (keyed : collection.NodesKeyed) (info : ClientSimpleInfo) :
    info ∈ collection.serverNodeMap.values.flatMap (fun node => node.clientMap.values) ↔
      ∃ serverId node, collection.serverNodeMap.lookup serverId = some node ∧
        node.clientMap.lookup info.ip = some info := by
  rw [List.mem_flatMap]
  constructor
  · rintro ⟨node, nodeMember, member⟩
    obtain ⟨serverId, found⟩ := (Map.mem_values_iff _ _).mp nodeMember
    exact ⟨serverId, node, found, ((keyed serverId node found).mem_values_iff info).mp member⟩
  · rintro ⟨serverId, node, found, known⟩
    exact ⟨node, (Map.mem_values_iff _ _).mpr ⟨serverId, found⟩,
      ((keyed serverId node found).mem_values_iff info).mpr known⟩

/-- The list merged from the servers is right. -/
theorem listRight_of_merged (keyed : collection.NodesKeyed)
    (merged : collection.clientSimpleList = mergeServers collection.serverNodeMap) :
    collection.ListRight := by
  have infoKeyed : ∀ {serverId node ip info}, collection.serverNodeMap.lookup serverId = some node →
      node.clientMap.lookup ip = some info → info.ip = ip :=
    fun found known => keyed _ _ found _ _ known
  have mergedKeyed : Keyed ClientSimpleInfo.ip
      ((collection.serverNodeMap.values.flatMap fun node => node.clientMap.values).foldl
        mergeInfo ∅) := writes_mergeInfo.keyed keyed_empty
  refine ⟨?_, fun ip => ?_, fun info member => ?_⟩
  · rw [merged]
    exact mergedKeyed.nodup
  · rw [merged, mergeServers, writes_mergeInfo.mem_map_values_iff]
    simp only [mem_infos_iff keyed, Option.isSome_iff_exists, view_eq_some_iff]
    constructor
    · rintro ⟨info, ⟨serverId, node, found, known⟩, rfl⟩
      exact ⟨serverId, info.online, node, info, found, known, rfl⟩
    · rintro ⟨serverId, -, node, info, found, known, -⟩
      have same := infoKeyed found known
      subst same
      exact ⟨info, ⟨serverId, node, found, known⟩, rfl⟩
  · rw [merged, mergeServers, mergedKeyed.mem_values_iff] at member
    rw [writes_mergeInfo.flag_iff (fun _ => rfl) (fun _ _ => rfl) member]
    simp only [mem_infos_iff keyed, view_eq_some_iff]
    constructor
    · rintro ⟨other, ⟨serverId, node, found, known⟩, same, online⟩
      rw [same] at known
      exact ⟨serverId, node, other, found, known, online⟩
    · rintro ⟨serverId, node, other, found, known, online⟩
      have same := infoKeyed found known
      rw [← same] at known
      exact ⟨other, ⟨serverId, node, found, known⟩, same, online⟩

/-! ### What the sections keep -/

theorem keyed_collectInfos (infos : List ClientSimpleInfo) :
    Keyed ClientSimpleInfo.ip (collectInfos infos) := by
  intro ip info found
  rcases Map.lookup_insertAll_cases ∅ _ found with before | bound
  · rw [AList.lookup_empty] at before
    cases before
  · obtain ⟨other, -, same⟩ := List.mem_map.mp bound
    cases same
    rfl

theorem nodesKeyed_default : default.NodesKeyed := by
  intro serverId node found
  unfold default at found
  rw [AList.lookup_empty] at found
  cases found

theorem NodesKeyed.updateNodes (keyed : collection.NodesKeyed) (serverId : UInt32)
    (selfIp : Ipv4Addr) (list : ClientSimpleInfoList) (now : Int) :
    (collection.updateNodes serverId selfIp list now).NodesKeyed := by
  have known : Keyed ClientSimpleInfo.ip
      ((collection.serverNodeMap.lookup serverId).getD ServerNodeInfo.default).clientMap := by
    cases found : collection.serverNodeMap.lookup serverId with
    | none => exact keyed_empty
    | some node => exact keyed serverId node found
  intro otherId node found
  unfold ServerInfoCollection.updateNodes at found
  dsimp only at found
  rw [Map.lookup_insert_eq] at found
  split at found
  · cases found
    unfold ServerNodeInfo.update
    dsimp only
    split
    · exact keyed_collectInfos _
    · intro ip info bound
      rw [Map.lookup_union] at bound
      split at bound
      · next value inList =>
        cases bound
        exact keyed_collectInfos _ ip info inList
      · exact known ip info bound
  · exact keyed otherId node found

theorem NodesKeyed.setServerConnected (keyed : collection.NodesKeyed) (serverId : UInt32)
    (connected : Bool) : (collection.setServerConnected serverId connected).NodesKeyed := by
  intro otherId node found
  unfold ServerInfoCollection.setServerConnected at found
  dsimp only at found
  rw [Map.lookup_insert_eq] at found
  split at found
  · cases found
    cases known : collection.serverNodeMap.lookup serverId with
    | none => exact keyed_empty
    | some node => exact keyed serverId node known
  · exact keyed otherId node found

theorem view_setServerConnected (serverId : UInt32) (connected : Bool) :
    (collection.setServerConnected serverId connected).view = collection.view := by
  funext otherId ip
  unfold view ServerInfoCollection.setServerConnected
  dsimp only
  rw [Map.lookup_insert_eq]
  by_cases same : otherId = serverId
  · subst same
    rw [if_pos rfl]
    cases collection.serverNodeMap.lookup otherId with
    | none => simp [ServerNodeInfo.default]
    | some node => rfl
  · rw [if_neg same]

theorem ListRight.setServerConnected (right : collection.ListRight) (serverId : UInt32)
    (connected : Bool) : (collection.setServerConnected serverId connected).ListRight := by
  refine ⟨right.once, fun ip => ?_, fun info member => ?_⟩
  · rw [view_setServerConnected]
    exact right.known ip
  · rw [view_setServerConnected]
    exact right.online info member

/-- A server that knows nobody. -/
theorem view_eq_none_of_empty {serverId : UInt32}
    (empty : ∀ node, collection.serverNodeMap.lookup serverId = some node → node.clientMap = ∅)
    (ip : Ipv4Addr) : collection.view serverId ip = none := by
  unfold view
  cases found : collection.serverNodeMap.lookup serverId with
  | none => rfl
  | some node =>
    dsimp only
    rw [empty node found, AList.lookup_empty]
    rfl

/-- When no server knows anybody the right list is the empty one. -/
theorem listRight_iff_of_empty (empty : ∀ serverId node,
      collection.serverNodeMap.lookup serverId = some node → node.clientMap = ∅) :
    collection.ListRight ↔ collection.clientSimpleList = [] := by
  have unknown : ∀ serverId ip, collection.view serverId ip = none :=
    fun serverId => view_eq_none_of_empty (empty serverId)
  constructor
  · intro right
    refine List.eq_nil_iff_forall_not_mem.mpr fun info member => ?_
    obtain ⟨serverId, reported⟩ := (right.known info.ip).mp (List.mem_map_of_mem member)
    rw [unknown] at reported
    cases reported
  · intro isEmpty
    refine ⟨?_, fun ip => ?_, fun info member => ?_⟩
    · rw [isEmpty]
      exact List.nodup_nil
    · simp [isEmpty, unknown]
    · rw [isEmpty] at member
      cases member

theorem clientMap_clearNodes (serverId : UInt32) (node : ServerNodeInfo)
    (found : collection.clearNodes.serverNodeMap.lookup serverId = some node) :
    node.clientMap = ∅ := by
  unfold clearNodes at found
  dsimp only at found
  rw [Map.lookup_retain] at found
  obtain ⟨old, -, cleared⟩ := Option.bind_eq_some_iff.mp found
  cases cleared
  rfl

theorem clientMap_updateServer (serverIds : List UInt32) (serverId : UInt32) (node : ServerNodeInfo)
    (found : (updateServer serverIds).serverNodeMap.lookup serverId = some node) :
    node.clientMap = ∅ := by
  rcases Map.lookup_insertAll_cases ∅ _ found with before | bound
  · rw [AList.lookup_empty] at before
    cases before
  · obtain ⟨otherId, -, same⟩ := List.mem_map.mp bound
    cases same
    rfl

theorem nodesKeyed_of_empty (empty : ∀ serverId node,
      collection.serverNodeMap.lookup serverId = some node → node.clientMap = ∅) :
    collection.NodesKeyed := by
  intro serverId node found
  rw [empty serverId node found]
  exact keyed_empty

end ServerInfoCollection

/-! ### Runs -/

namespace ListState

variable {state next : ListState}

/-- The two sections of an update, one right after the other. -/
theorem run_update (serverId : UInt32) (selfIp : Ipv4Addr) (list : ClientSimpleInfoList)
    (now : Int) (free : state.merged = none) :
    machine.run state [.updateNodes serverId selfIp list now, .writeMerged] =
      some ⟨state.collection.updateClientSimpleList serverId selfIp list now, none,
        state.clearing⟩ := by
  rw [Machine.run_cons]
  show (if _ then _ else _ : Option ListState).bind _ = _
  rw [if_pos free]
  rfl

theorem consistent_start : start.Consistent where
  keyed := ServerInfoCollection.nodesKeyed_default
  merged _ pending := by cases pending

theorem Consistent.step (consistent : state.Consistent) (lockSection : ListSection)
    (steps : machine.step state lockSection = some next) : next.Consistent := by
  cases lockSection with
  | updateNodes serverId selfIp list now =>
    obtain ⟨-, same⟩ := Option.ite_none_right_eq_some.mp steps
    cases same
    refine ⟨consistent.keyed.updateNodes serverId selfIp list now, fun merged pending => ?_⟩
    exact (Option.some.inj pending).symm
  | writeMerged =>
    obtain ⟨merged, -, rfl⟩ := Option.map_eq_some_iff.mp steps
    exact ⟨consistent.keyed, fun _ pending => by cases pending⟩
  | updateServer serverIds =>
    obtain ⟨-, same⟩ := Option.ite_none_right_eq_some.mp steps
    cases same
    exact ⟨ServerInfoCollection.nodesKeyed_of_empty
      (ServerInfoCollection.clientMap_updateServer serverIds), fun _ pending => by cases pending⟩
  | setServerConnected serverId connected =>
    obtain ⟨-, same⟩ := Option.ite_none_right_eq_some.mp steps
    cases same
    exact ⟨consistent.keyed.setServerConnected serverId connected,
      fun _ pending => by cases pending⟩
  | clearList =>
    cases steps
    exact ⟨consistent.keyed, consistent.merged⟩
  | clearNodes =>
    obtain ⟨-, same⟩ := Option.ite_none_right_eq_some.mp steps
    cases same
    exact ⟨ServerInfoCollection.nodesKeyed_of_empty
      ServerInfoCollection.clientMap_clearNodes, fun _ pending => by cases pending⟩

/-- After a section the list is right again, unless the section clears the servers under a list
that was written meanwhile. -/
theorem step_rightWhenIdle_iff (consistent : state.Consistent) (right : state.RightWhenIdle)
    (lockSection : ListSection) (steps : machine.step state lockSection = some next) :
    next.RightWhenIdle ↔ state.Keeps lockSection := by
  cases lockSection with
  | updateNodes serverId selfIp list now =>
    obtain ⟨-, same⟩ := Option.ite_none_right_eq_some.mp steps
    cases same
    exact iff_of_true (fun idle => by cases idle.1) trivial
  | writeMerged =>
    obtain ⟨merged, pending, rfl⟩ := Option.map_eq_some_iff.mp steps
    refine iff_of_true (fun _ => ?_) trivial
    exact ServerInfoCollection.listRight_of_merged consistent.keyed
      (consistent.merged merged pending)
  | updateServer serverIds =>
    obtain ⟨-, same⟩ := Option.ite_none_right_eq_some.mp steps
    cases same
    refine iff_of_true (fun _ => ?_) trivial
    exact (ServerInfoCollection.listRight_iff_of_empty
      (ServerInfoCollection.clientMap_updateServer serverIds)).mpr rfl
  | setServerConnected serverId connected =>
    obtain ⟨free, same⟩ := Option.ite_none_right_eq_some.mp steps
    cases same
    refine iff_of_true (fun idle => ?_) trivial
    exact (right ⟨free, idle.2⟩).setServerConnected serverId connected
  | clearList =>
    cases steps
    exact iff_of_true (fun idle => absurd idle.2 (Nat.succ_ne_zero _)) trivial
  | clearNodes =>
    obtain ⟨⟨free, started⟩, same⟩ := Option.ite_none_right_eq_some.mp steps
    cases same
    have emptied : state.collection.clearNodes.ListRight ↔
        state.collection.clientSimpleList = [] :=
      ServerInfoCollection.listRight_iff_of_empty ServerInfoCollection.clientMap_clearNodes
    constructor
    · rintro rightAfter ⟨-, last⟩
      refine emptied.mp (rightAfter ⟨rfl, ?_⟩)
      show state.clearing - 1 = 0
      omega
    · rintro keeps ⟨-, noneLeft⟩
      have last : state.clearing = 1 := by
        have ended : state.clearing - 1 = 0 := noneLeft
        omega
      exact emptied.mpr (keeps ⟨free, last⟩)

/-- A section that has to wait. -/
theorem keeps_of_disabled (lockSection : ListSection)
    (waits : machine.step state lockSection = none) : state.Keeps lockSection := by
  cases lockSection with
  | clearNodes =>
    rintro ⟨free, last⟩
    have runs : machine.step state .clearNodes = some _ := if_pos ⟨free, by omega⟩
    cases waits.symm.trans runs
  | _ => trivial

/-- In every run the list is right whenever no call is in progress, exactly when every call of
`clear` that ends last finds the list empty. -/
theorem throughout_rightWhenIdle_iff (lockSections : List ListSection) :
    machine.Throughout RightWhenIdle start lockSections ↔
      machine.Guarded Keeps start lockSections := by
  refine Machine.throughout_iff_guarded
    (fun _ lockSection _ consistent => consistent.step lockSection)
    (fun _ lockSection _ consistent right => step_rightWhenIdle_iff consistent right lockSection)
    (fun _ lockSection => keeps_of_disabled lockSection) consistent_start fun _ => ?_
  exact (ServerInfoCollection.listRight_iff_of_empty fun serverId node found => by cases found).mpr
    rfl

/-- A server reports one client that is online between the two sections of `clear`. -/
def reportDuringClear : List ListSection :=
  [.clearList, .updateNodes 1 2 ⟨1, [⟨3, true⟩], true, 0⟩ 0, .writeMerged, .clearNodes]

/-- The client stays in the merged list, and no server knows it. -/
theorem not_listRight_reportDuringClear :
    ∃ final, machine.run start reportDuringClear = some final ∧ final.Idle ∧
      final.collection.clientSimpleList = [⟨3, true⟩] ∧
      (∀ serverId ip, final.collection.view serverId ip = none) ∧ ¬final.collection.ListRight := by
  refine ⟨_, rfl, ⟨rfl, rfl⟩, rfl, fun serverId => ?_, fun right => ?_⟩
  · exact ServerInfoCollection.view_eq_none_of_empty
      (ServerInfoCollection.clientMap_clearNodes serverId)
  · have isEmpty := (ServerInfoCollection.listRight_iff_of_empty
      ServerInfoCollection.clientMap_clearNodes).mp right
    cases isEmpty

end ListState

end Vnt.Client
