/-
This file puts the two sides of the client-list protocol together. The state holds the lease
table that serves the session of one client, what the client keeps, and the pings and answers
under way between them, each in order; either may be lost. Four fields record history that no
program keeps: which network state serves the session, which of them the client's version came
from, the table an answer was made from, and the answer that was applied last. A version that
came from the serving network state stands for a list that has every device changed up to it,
whatever the operations on the table, the pings and the losses in between.
-/

import Vnt.Server.ClientList

namespace Vnt.Sync

open Vnt.Base Vnt.Server Vnt.Client

/-- A ping with the network state its version came from. -/
structure Ping where
  message : PingTurn
  origin : Option Nat

/-- An answer: the ping and the table it was made from. -/
structure Answer where
  ping : Ping
  table : NetworkStateInner

structure ClientSync where
  net : Ipv4Net
  gateway : Ipv4Addr
  table : NetworkStateInner
  selfIp : Ipv4Addr
  serverId : UInt32
  incarnation : Nat
  collection : ServerInfoCollection
  origin : Option Nat
  pings : List Ping
  answers : List Answer
  applied : Option Answer

inductive SyncEvent where
  | lease (event : LeaseEvent)
  | ping (now : Int)
  | answer
  | receive (now : Int)
  | losePing (index : Nat)
  | loseAnswer (index : Nat)

/-- The reply of an answer. -/
def Answer.reply (answer : Answer) (selfIp : Ipv4Addr) : PingReply :=
  answer.table.answerPing selfIp answer.ping.message

/-- The version the client asked from. -/
def Answer.start (answer : Answer) : Nat := answer.ping.message.dataVersion

/-- Whether the answer carries the full list. -/
def Answer.isFull (answer : Answer) : Bool := decide (answer.start > answer.table.dataVersion)

namespace ClientSync

/-- The list the client keeps for the server. -/
def view (state : ClientSync) : Ipv4Addr → Option Bool := state.collection.view state.serverId

/-- The version the client keeps for the server. -/
def dataVersion (state : ClientSync) : Nat := state.collection.dataVersion state.serverId

/-- The table an answer was made from, as the client is to see it. -/
def shown (state : ClientSync) (answer : Answer) : VersionedTable Ipv4Addr Bool :=
  answer.table.shared state.selfIp

/-- Where the client's version comes from after an answer: a full list and a list from the
version 0 start with the serving network state, another delta continues the version of its
ping, and an answer without a list changes nothing. -/
def originAfter (state : ClientSync) (answer : Answer) : Option Nat :=
  if answer.start = answer.table.dataVersion then state.origin
  else if answer.isFull = true ∨ answer.start = 0 then some state.incarnation
  else answer.ping.origin

/-- The client applies an answer. -/
def receive (state : ClientSync) (answer : Answer) (rest : List Answer) (now : Int) :
    ClientSync :=
  { state with
    collection := state.collection.handleReply state.serverId state.selfIp now
      (answer.reply state.selfIp)
    origin := state.originAfter answer
    answers := rest
    applied := some answer }

/-- The state after one event, `none` when the event is not enabled. -/
def step (state : ClientSync) : SyncEvent → Option ClientSync
  | .lease event =>
    some { state with table := state.table.apply state.net state.gateway event, applied := none }
  | .ping now =>
    some { state with
      pings := state.pings ++ [⟨state.collection.handlePing state.serverId now, state.origin⟩]
      applied := none }
  | .answer =>
    match state.pings with
    | ping :: rest =>
      some { state with
        pings := rest
        answers := state.answers ++ [Answer.mk ping state.table]
        applied := none }
    | [] => none
  | .receive now =>
    match state.answers with
    | answer :: rest => some (state.receive answer rest now)
    | [] => none
  | .losePing index => some { state with pings := state.pings.eraseIdx index, applied := none }
  | .loseAnswer index =>
    some { state with answers := state.answers.eraseIdx index, applied := none }

/-- The tables the client will still hear of, the current one last. -/
def tables (state : ClientSync) : List NetworkStateInner :=
  state.answers.map Answer.table ++ [state.table]

/-- The versions in use, with the network states they came from: the client's own, those of
the pings and those of the answers under way. -/
def tickets (state : ClientSync) : List (Option Nat × Nat) :=
  (state.origin, state.dataVersion) ::
    (state.pings.map (fun ping => (ping.origin, ping.message.dataVersion)) ++
      state.answers.map fun answer => (answer.ping.origin, answer.start))

/-- What every state of the protocol has: the tables are well formed and follow each other in
one history, and a version from the serving network state stands for what was changed up to
it. -/
structure Synchronised (state : ClientSync) : Prop where
  gateway : NetworkState.gatewayOf state.net = some state.gateway
  wellFormed : state.table.WellFormed state.net state.gateway
  tables : ∀ table ∈ state.tables, (table.shared state.selfIp).Distinct ∧ table.Bounded
  history : state.tables.Pairwise fun old new =>
    (old.shared state.selfIp).Evolves (new.shared state.selfIp)
  known : ∀ ticket ∈ state.tickets, ticket.1 = some state.incarnation →
    ∀ table ∈ state.tables, ticket.2 ≤ table.dataVersion ∧
      (table.shared state.selfIp).Knows state.view ticket.2
  past : ∀ ticket ∈ state.tickets, ∀ incarnation, ticket.1 = some incarnation →
    incarnation ≤ state.incarnation

variable {state next : ClientSync} {answer : Answer} {rest : List Answer} {event : SyncEvent}

/-! ### What an answer does to the client's list -/

theorem reply_cases (answer : Answer) (selfIp : Ipv4Addr) :
    (answer.start = answer.table.dataVersion ∧
      answer.reply selfIp = .pongTurn answer.ping.message) ∨
      (answer.start ≠ answer.table.dataVersion ∧ answer.isFull = true ∧
        answer.reply selfIp = .pushClientIps ⟨answer.table.dataVersion,
          (answer.table.shared selfIp).items.map infoOf, true, answer.ping.message.time⟩) ∨
      (answer.start < answer.table.dataVersion ∧ answer.isFull = false ∧
        answer.reply selfIp = .pushClientIps ⟨answer.table.dataVersion,
          ((answer.table.shared selfIp).since answer.start).map infoOf, false,
          answer.ping.message.time⟩) := by
  unfold Answer.reply NetworkStateInner.answerPing NetworkStateInner.changedClientSimpleList
  rw [NetworkStateInner.filterMap_simpleInfo_all, NetworkStateInner.filterMap_simpleInfo_since]
  rcases Nat.lt_trichotomy answer.start answer.table.dataVersion with before | same | after
  · have notSame : answer.ping.message.dataVersion ≠ answer.table.dataVersion := Nat.ne_of_lt before
    have notAfter : ¬answer.ping.message.dataVersion > answer.table.dataVersion :=
      Nat.not_lt_of_lt before
    refine .inr (.inr ⟨before, decide_eq_false notAfter, ?_⟩)
    rw [if_neg notSame, if_neg notAfter]
    rfl
  · refine .inl ⟨same, ?_⟩
    rw [if_pos (show answer.ping.message.dataVersion = answer.table.dataVersion from same)]
  · have notSame : answer.ping.message.dataVersion ≠ answer.table.dataVersion :=
      Nat.ne_of_gt after
    refine .inr (.inl ⟨notSame, decide_eq_true after, ?_⟩)
    rw [if_neg notSame, if_pos (show answer.ping.message.dataVersion > _ from after)]

/-- An answer that is not full is a delta from the version of its ping, an empty one when it
carries no list. -/
theorem receive_merged (now : Int) (notFull : answer.isFull = false)
    (distinct : (state.shown answer).Distinct) (bounded : (state.shown answer).Bounded) :
    VersionedTable.Merged state.view ((state.shown answer).since answer.start)
      (state.receive answer rest now).view := by
  rcases reply_cases answer state.selfIp with ⟨same, reply⟩ | ⟨-, full, -⟩ | ⟨-, -, reply⟩
  · have unchanged : (state.receive answer rest now).view = state.view := by
      unfold receive view
      rw [reply]
      exact ServerInfoCollection.view_pongTurn _ _ state.selfIp _ _
    have empty : (state.shown answer).since answer.start = [] := by
      rw [same]
      exact VersionedTable.since_version bounded
    rw [unchanged, empty]
    exact VersionedTable.merged_nil _
  · rw [notFull] at full
    cases full
  · unfold receive view
    rw [reply]
    refine ServerInfoCollection.merged_updateClientSimpleList _ _ _ _ rfl rfl ?_ ?_
    · intro item member
      exact NetworkStateInner.shared_notSelf item (VersionedTable.mem_since.mp member).1
    · intro first firstMember second secondMember
      exact distinct first (VersionedTable.mem_since.mp firstMember).1 second
        (VersionedTable.mem_since.mp secondMember).1

/-- A full answer shows its table. -/
theorem receive_shows (now : Int) (full : answer.isFull = true)
    (distinct : (state.shown answer).Distinct) :
    (state.shown answer).Shows (state.receive answer rest now).view := by
  rcases reply_cases answer state.selfIp with ⟨same, -⟩ | ⟨-, -, reply⟩ | ⟨-, notFull, -⟩
  · have notAfter : ¬answer.start > answer.table.dataVersion := by omega
    rw [Answer.isFull, decide_eq_false notAfter] at full
    cases full
  · unfold receive view
    rw [reply]
    exact ServerInfoCollection.shows_updateClientSimpleList _ _ _ _ rfl rfl
      NetworkStateInner.shared_notSelf distinct
  · rw [notFull] at full
    cases full

/-- What was known of the table of an answer stays known. -/
theorem receive_knows {bound : Nat} (now : Int) (distinct : (state.shown answer).Distinct)
    (bounded : (state.shown answer).Bounded) (knows : (state.shown answer).Knows state.view bound) :
    (state.shown answer).Knows (state.receive answer rest now).view bound := by
  cases full : answer.isFull with
  | true => exact (receive_shows now full distinct).knows
  | false => exact knows.merged distinct (receive_merged now full distinct bounded)

theorem receive_dataVersion (answer : Answer) (rest : List Answer) (now : Int) :
    (state.receive answer rest now).dataVersion =
      if answer.start = answer.table.dataVersion then state.dataVersion
      else answer.table.dataVersion := by
  unfold receive dataVersion
  rcases reply_cases answer state.selfIp with ⟨same, reply⟩ | ⟨different, -, reply⟩ |
    ⟨before, -, reply⟩
  · rw [if_pos same, reply]
    exact ServerInfoCollection.dataVersion_pongTurn _ _ state.selfIp _ _
  · rw [if_neg different, reply]
    exact ServerInfoCollection.dataVersion_updateClientSimpleList ..
  · rw [if_neg (Nat.ne_of_lt before), reply]
    exact ServerInfoCollection.dataVersion_updateClientSimpleList ..

/-! ### The invariant -/

theorem mem_tickets_view (state : ClientSync) :
    (state.origin, state.dataVersion) ∈ state.tickets := List.mem_cons_self

theorem mem_tickets_answer (member : answer ∈ state.answers) :
    (answer.ping.origin, answer.start) ∈ state.tickets :=
  List.mem_cons_of_mem _ (List.mem_append_right _ (List.mem_map.mpr ⟨answer, member, rfl⟩))

theorem mem_tables_current (state : ClientSync) : state.table ∈ state.tables :=
  List.mem_append_right _ List.mem_cons_self

theorem mem_tables_answer (member : answer ∈ state.answers) : answer.table ∈ state.tables :=
  List.mem_append_left _ (List.mem_map.mpr ⟨answer, member, rfl⟩)

/-- The versions in use after an event were in use before, except the client's own after an
answer. -/
theorem tickets_step (enabled : state.step event = some next) {ticket : Option Nat × Nat}
    (member : ticket ∈ next.tickets) :
    ticket ∈ state.tickets ∨ ∃ now answer rest, event = .receive now ∧
      state.answers = answer :: rest ∧ next = state.receive answer rest now ∧
        ticket = (state.originAfter answer, next.dataVersion) := by
  cases event with
  | lease event =>
    cases enabled
    exact .inl member
  | ping now =>
    cases enabled
    unfold tickets at member ⊢
    simp only [List.map_append, List.map_cons, List.map_nil, List.mem_cons, List.mem_append,
      List.not_mem_nil, or_false] at member ⊢
    rcases member with isView | (isPing | isNew) | isAnswer
    · exact .inl (.inl isView)
    · exact .inl (.inr (.inl isPing))
    · exact .inl (.inl isNew)
    · exact .inl (.inr (.inr isAnswer))
  | answer =>
    simp only [ClientSync.step] at enabled
    split at enabled
    · next ping pings head =>
      cases enabled
      unfold tickets at member ⊢
      rw [head]
      simp only [List.map_append, List.map_cons, List.map_nil, List.mem_cons, List.mem_append,
        List.not_mem_nil, or_false] at member ⊢
      rcases member with isView | isPing | isAnswer | isNew
      · exact .inl (.inl isView)
      · exact .inl (.inr (.inl (.inr isPing)))
      · exact .inl (.inr (.inr isAnswer))
      · exact .inl (.inr (.inl (.inl isNew)))
    · cases enabled
  | receive now =>
    simp only [ClientSync.step] at enabled
    split at enabled
    · next answer rest head =>
      cases enabled
      rcases List.mem_cons.mp member with isView | others
      · exact .inr ⟨now, answer, rest, rfl, head, rfl, isView⟩
      · refine .inl (List.mem_cons_of_mem _ ?_)
        rw [head]
        rcases List.mem_append.mp others with isPing | isAnswer
        · exact List.mem_append_left _ isPing
        · exact List.mem_append_right _ (List.mem_cons_of_mem _ isAnswer)
    · cases enabled
  | losePing index =>
    cases enabled
    refine .inl ?_
    rcases List.mem_cons.mp member with isView | others
    · exact List.mem_cons.mpr (.inl isView)
    · refine List.mem_cons_of_mem _ ?_
      rcases List.mem_append.mp others with isPing | isAnswer
      · exact List.mem_append_left _
          (((List.eraseIdx_sublist state.pings index).map _).subset isPing)
      · exact List.mem_append_right _ isAnswer
  | loseAnswer index =>
    cases enabled
    refine .inl ?_
    rcases List.mem_cons.mp member with isView | others
    · exact List.mem_cons.mpr (.inl isView)
    · refine List.mem_cons_of_mem _ ?_
      rcases List.mem_append.mp others with isPing | isAnswer
      · exact List.mem_append_left _ isPing
      · exact List.mem_append_right _
          (((List.eraseIdx_sublist state.answers index).map _).subset isAnswer)

/-- Only an answer that is received is applied. -/
theorem step_cases (enabled : state.step event = some next) :
    (next.applied = none ∧ ∀ now, event ≠ .receive now) ∨
      ∃ now answer rest, event = .receive now ∧ state.answers = answer :: rest ∧
        next = state.receive answer rest now := by
  cases event with
  | receive now =>
    simp only [ClientSync.step] at enabled
    split at enabled
    · next answer rest head =>
      cases enabled
      exact .inr ⟨now, answer, rest, rfl, head, rfl⟩
    · cases enabled
  | answer =>
    simp only [ClientSync.step] at enabled
    split at enabled <;> cases enabled
    exact .inl ⟨rfl, fun _ => SyncEvent.noConfusion⟩
  | _ =>
    cases enabled
    exact .inl ⟨rfl, fun _ => SyncEvent.noConfusion⟩

/-- What is known of the table of an answer when it is applied. -/
theorem Synchronised.shown (sync : state.Synchronised) (member : answer ∈ state.answers) :
    (state.shown answer).Distinct ∧ (state.shown answer).Bounded :=
  ⟨(sync.tables _ (mem_tables_answer member)).1,
    (sync.tables _ (mem_tables_answer member)).2.shared state.selfIp⟩

/-- The start of an answer is known of its table when it is 0 or came from the serving network
state. -/
theorem Synchronised.knows_start (sync : state.Synchronised) (member : answer ∈ state.answers)
    (ours : answer.start = 0 ∨ answer.ping.origin = some state.incarnation) :
    (state.shown answer).Knows state.view answer.start := by
  rcases ours with zero | fromServing
  · intro item _ changed upTo
    omega
  · exact (sync.known _ (mem_tickets_answer member) fromServing _ (mem_tables_answer member)).2

/-- An event that leaves the client's list keeps the invariant when the tables and the versions
in use are among those before, or the table is a later one of the history. -/
theorem Synchronised.of_sublist (sync : state.Synchronised)
    (server : next.net = state.net ∧ next.gateway = state.gateway ∧ next.table = state.table ∧
      next.selfIp = state.selfIp ∧ next.incarnation = state.incarnation)
    (view : next.view = state.view) (tables : next.tables.Sublist state.tables)
    (tickets : ∀ ticket ∈ next.tickets, ticket ∈ state.tickets) : next.Synchronised := by
  obtain ⟨net, gateway, table, selfIp, incarnation⟩ := server
  refine ⟨?_, ?_, ?_, ?_, ?_, ?_⟩
  · rw [net, gateway]
    exact sync.gateway
  · rw [net, gateway, table]
    exact sync.wellFormed
  · rw [selfIp]
    exact fun table member => sync.tables table (tables.subset member)
  · rw [selfIp]
    exact sync.history.sublist tables
  · rw [selfIp, incarnation, view]
    exact fun ticket member fromServing table mentioned =>
      sync.known ticket (tickets ticket member) fromServing table (tables.subset mentioned)
  · rw [incarnation]
    exact fun ticket member => sync.past ticket (tickets ticket member)

/-- An operation on the lease table continues the history. -/
theorem Synchronised.lease (sync : state.Synchronised) (event : LeaseEvent)
    (applied : Option Answer) :
    Synchronised { state with
      table := state.table.apply state.net state.gateway event, applied := applied } := by
  have continues := NetworkStateInner.continues_apply state.net state.gateway state.table event
  have wellFormed := sync.wellFormed.apply sync.gateway event
  have current := sync.tables _ (mem_tables_current state)
  obtain ⟨past, -, toCurrent⟩ := List.pairwise_append.mp sync.history
  refine ⟨sync.gateway, wellFormed, ?_, ?_, ?_, sync.past⟩
  · intro table member
    rcases List.mem_append.mp member with answered | isNext
    · exact sync.tables table (List.mem_append_left _ answered)
    · rw [List.mem_singleton.mp isNext]
      exact ⟨wellFormed.shared_distinct _, current.2.continues continues⟩
  · refine List.pairwise_append.mpr ⟨past, List.pairwise_singleton _ _, ?_⟩
    intro old answered new isNext
    rw [List.mem_singleton.mp isNext]
    exact (toCurrent old answered _ List.mem_cons_self).trans (continues.evolves _)
  · intro ticket member fromServing table mentioned
    rcases List.mem_append.mp mentioned with answered | isNext
    · exact sync.known ticket member fromServing table (List.mem_append_left _ answered)
    · rw [List.mem_singleton.mp isNext]
      obtain ⟨within, knows⟩ :=
        sync.known ticket member fromServing _ (mem_tables_current state)
      exact ⟨Nat.le_trans within continues.1, knows.evolve (continues.evolves _) within⟩

/-- Answering a ping adds the current table once more. -/
theorem Synchronised.answerPing (sync : state.Synchronised)
    (enabled : state.step .answer = some next) : next.Synchronised := by
  have tickets : ∀ ticket ∈ next.tickets, ticket ∈ state.tickets := by
    intro ticket member
    rcases tickets_step enabled member with before | ⟨now, answer, rest, impossible, -⟩
    · exact before
    · cases impossible
  simp only [ClientSync.step] at enabled
  split at enabled
  · next ping pings head =>
    cases enabled
    have split : ClientSync.tables { state with
        pings := pings
        answers := state.answers ++ [Answer.mk ping state.table]
        applied := none } =
          state.answers.map Answer.table ++ [state.table, state.table] := by
      simp [ClientSync.tables]
    have tables : ∀ table, table ∈ state.answers.map Answer.table ++ [state.table, state.table] →
        table ∈ state.tables := by
      intro table member
      rcases List.mem_append.mp member with answered | isCurrent
      · exact List.mem_append_left _ answered
      · have same : table = state.table := by simpa using isCurrent
        rw [same]
        exact mem_tables_current state
    obtain ⟨past, -, toCurrent⟩ := List.pairwise_append.mp sync.history
    refine ⟨sync.gateway, sync.wellFormed, ?_, ?_, ?_, fun ticket member =>
      sync.past ticket (tickets ticket member)⟩
    · rw [split]
      exact fun table member => sync.tables table (tables table member)
    · rw [split]
      refine List.pairwise_append.mpr ⟨past, ?_, ?_⟩
      · simp only [List.pairwise_cons, List.mem_singleton, forall_eq, List.not_mem_nil,
          false_imp_iff, implies_true, List.Pairwise.nil, and_true]
        exact VersionedTable.evolves_refl _
      · intro old answered new isCurrent
        have same : new = state.table := by simpa using isCurrent
        rw [same]
        exact toCurrent old answered _ List.mem_cons_self
    · rw [split]
      exact fun ticket member fromServing table mentioned =>
        sync.known ticket (tickets ticket member) fromServing table (tables table mentioned)
  · cases enabled

/-- Applying an answer. -/
theorem Synchronised.receive (sync : state.Synchronised) (now : Int)
    (head : state.answers = answer :: rest) :
    (state.receive answer rest now).Synchronised := by
  have enabled : state.step (.receive now) = some (state.receive answer rest now) := by
    simp only [ClientSync.step, head]
  have member : answer ∈ state.answers := by
    rw [head]
    exact List.mem_cons_self
  obtain ⟨distinct, bounded⟩ := sync.shown member
  have tables : state.tables = answer.table :: (state.receive answer rest now).tables := by
    unfold ClientSync.tables ClientSync.receive
    rw [head]
    rfl
  have later : ∀ table, table ∈ (state.receive answer rest now).tables → table ∈ state.tables := by
    intro table mentioned
    rw [tables]
    exact List.mem_cons_of_mem _ mentioned
  have history := sync.history
  rw [tables] at history
  obtain ⟨evolves, history⟩ := List.pairwise_cons.mp history
  have known : ∀ ticket ∈ state.tickets, ticket.1 = some state.incarnation →
      ∀ table ∈ (state.receive answer rest now).tables, ticket.2 ≤ table.dataVersion ∧
        (table.shared state.selfIp).Knows (state.receive answer rest now).view ticket.2 := by
    intro ticket inUse fromServing table mentioned
    obtain ⟨within, knows⟩ := sync.known ticket inUse fromServing _ (mem_tables_answer member)
    exact ⟨(sync.known ticket inUse fromServing table (later table mentioned)).1,
      (receive_knows now distinct bounded knows).evolve (evolves table mentioned) within⟩
  have tickets : ∀ ticket ∈ (state.receive answer rest now).tickets, ticket ∈ state.tickets ∨
      ticket = (state.originAfter answer, (state.receive answer rest now).dataVersion) := by
    intro ticket inUse
    refine (tickets_step enabled inUse).imp id ?_
    rintro ⟨later, other, others, -, otherHead, -, isView⟩
    rw [head] at otherHead
    cases otherHead
    exact isView
  refine ⟨sync.gateway, sync.wellFormed, fun table mentioned =>
    sync.tables table (later table mentioned), history, ?_, ?_⟩
  · intro ticket inUse fromServing table mentioned
    rcases tickets ticket inUse with before | rfl
    · exact known ticket before fromServing table mentioned
    · replace fromServing : state.originAfter answer = some state.incarnation := fromServing
      dsimp only
      rw [receive_dataVersion]
      unfold originAfter at fromServing
      by_cases same : answer.start = answer.table.dataVersion
      · rw [if_pos same] at fromServing ⊢
        exact known _ (mem_tickets_view state) fromServing table mentioned
      · rw [if_neg same] at fromServing ⊢
        refine ⟨(evolves table mentioned).1, ?_⟩
        have complete : (state.shown answer).Knows (state.receive answer rest now).view
            answer.table.dataVersion := by
          cases full : answer.isFull with
          | true => exact (receive_shows now full distinct).knows
          | false =>
            refine (sync.knows_start member ?_).complete distinct
              (receive_merged now full distinct bounded)
            rw [full] at fromServing
            by_cases zero : answer.start = 0
            · exact .inl zero
            · rw [if_neg (by simp [zero])] at fromServing
              exact .inr fromServing
        exact complete.evolve (evolves table mentioned) (Nat.le_refl _)
  · intro ticket inUse incarnation fromOne
    rcases tickets ticket inUse with before | rfl
    · exact sync.past ticket before incarnation fromOne
    · replace fromOne : state.originAfter answer = some incarnation := fromOne
      unfold originAfter at fromOne
      split at fromOne
      · exact sync.past _ (mem_tickets_view state) incarnation fromOne
      · split at fromOne
        · cases fromOne
          exact Nat.le_refl _
        · exact sync.past _ (mem_tickets_answer member) incarnation fromOne

theorem Synchronised.step (sync : state.Synchronised) (enabled : state.step event = some next) :
    next.Synchronised := by
  have tickets : (∀ now, event ≠ .receive now) → ∀ ticket ∈ next.tickets,
      ticket ∈ state.tickets := by
    intro notReceive ticket member
    rcases tickets_step enabled member with before | ⟨now, answer, rest, isReceive, -⟩
    · exact before
    · exact absurd isReceive (notReceive now)
  cases event with
  | lease event =>
    cases enabled
    exact sync.lease event none
  | ping now =>
    cases enabled
    exact sync.of_sublist ⟨rfl, rfl, rfl, rfl, rfl⟩ rfl (List.Sublist.refl _)
      (tickets fun _ => SyncEvent.noConfusion)
  | answer => exact sync.answerPing enabled
  | receive now =>
    simp only [ClientSync.step] at enabled
    split at enabled
    · next answer rest head =>
      cases enabled
      exact sync.receive now head
    · cases enabled
  | losePing index =>
    cases enabled
    exact sync.of_sublist ⟨rfl, rfl, rfl, rfl, rfl⟩ rfl (List.Sublist.refl _)
      (tickets fun _ => SyncEvent.noConfusion)
  | loseAnswer index =>
    cases enabled
    exact sync.of_sublist ⟨rfl, rfl, rfl, rfl, rfl⟩ rfl
      (((List.eraseIdx_sublist state.answers index).map _).append_right _)
      (tickets fun _ => SyncEvent.noConfusion)

end ClientSync

end Vnt.Sync
