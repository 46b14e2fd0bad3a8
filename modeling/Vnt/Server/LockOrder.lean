/-
This file settles in which order the operations on the state of a network take their locks: the
mutex of the lease table, and the locks of the shards of the sender map and of the map of traffic
counters. The lease table comes first and the shards after it, in ascending order, with one
exception: the answer to a request of a peer server looks up each entry of the table while it
iterates over the senders, and so under the lock of a shard. As long as no such look-up meets an
operation that holds the table and still has to change that shard, nothing can deadlock.
-/

import Mathlib.Data.Prod.Lex
import Vnt.Base.Locking
import Vnt.Ipv4

namespace Vnt.Server

open Vnt.Base

/-! ### The operations -/

/-- The locks of a `NetworkState`. -/
inductive NetworkLock where
  | leaseState
  | senderShard (shard : Nat)
  | trafficShard (shard : Nat)
  deriving DecidableEq, Repr

/-- How the two maps are divided into shards. -/
structure ShardLayout where
  senderShards : Nat
  senderShard : Ipv4Addr → Fin senderShards
  trafficShard : Ipv4Addr → Nat

/-- An operation on a `NetworkState`, with what decides which locks it takes. -/
inductive NetworkOperation where
  /-- With the number of senders that each shard holds when the iteration comes to it. -/
  | handleClientInfoRequest (senders : Nat → Nat)
  /-- With the address and the old address that were allocated, when one was. -/
  | allocateIpAndGetEntry (allocated : Option (Ipv4Addr × Option Ipv4Addr))
  | offlineIp (ip : Ipv4Addr) (success : Bool)
  /-- With the entry that was removed, and the address in it. -/
  | removeDeviceFromMemory (removed : Option (Option Ipv4Addr))
  | releasePreRegisteredIp (ip : Ipv4Addr) (shouldRemove : Bool)
  | updateClientLatency
  | count
  | broadcast
  | pingLocalClients
  /-- A packet for a client behind peer servers: its sender is used under the lock. -/
  | sendLocal (dest : Ipv4Addr) (found : Bool)
  /-- A packet for a client of a server without peers: its sender is cloned first. -/
  | sendCloned (dest : Ipv4Addr) (found : Bool)
  | recordTxTraffic (src : Ipv4Addr)

/-- What is done under the mutex of the lease table. -/
def underLease (body : List (LockAction NetworkLock)) : List (LockAction NetworkLock) :=
  withLock .leaseState .write body

/-- An iteration in a shard of the sender map: it takes the next shard before it leaves this
one. -/
def iterFrom (body : Nat → List (LockAction NetworkLock)) (shard : Nat) :
    Nat → List (LockAction NetworkLock)
  | 0 => body shard ++ [.release (.senderShard shard)]
  | later + 1 =>
    body shard ++ .acquire (.senderShard (shard + 1)) .read :: .release (.senderShard shard) ::
      iterFrom body (shard + 1) later

namespace ShardLayout

variable (layout : ShardLayout)

/-- `sender_map.iter()`, with what is done in each shard. -/
def iterSenders (body : Nat → List (LockAction NetworkLock)) : List (LockAction NetworkLock) :=
  match layout.senderShards with
  | 0 => []
  | later + 1 => .acquire (.senderShard 0) .read :: iterFrom body 0 later

/-- `sender_map.insert` and `sender_map.remove`. -/
def writeSender (ip : Ipv4Addr) : List (LockAction NetworkLock) :=
  withLock (.senderShard (layout.senderShard ip)) .write []

/-- `traffic_stats_map.insert` and `traffic_stats_map.remove`. -/
def writeTraffic (ip : Ipv4Addr) : List (LockAction NetworkLock) :=
  withLock (.trafficShard (layout.trafficShard ip)) .write []

/-- `record_rx_traffic` and `record_tx_traffic`. -/
def recordTraffic (ip : Ipv4Addr) : List (LockAction NetworkLock) :=
  withLock (.trafficShard (layout.trafficShard ip)) .read []

/-- An entry of both maps is written. -/
def writeBoth (ip : Ipv4Addr) : List (LockAction NetworkLock) :=
  layout.writeSender ip ++ layout.writeTraffic ip

/-- The locks that an operation takes and gives back. -/
def actions : NetworkOperation → List (LockAction NetworkLock)
  | .handleClientInfoRequest senders =>
    -- `get_device_entry_by_ip` for each sender, under the lock of its shard
    layout.iterSenders fun shard => (List.range (senders shard)).flatMap fun _ => underLease []
  | .allocateIpAndGetEntry none => underLease []
  | .allocateIpAndGetEntry (some (ip, oldIp)) =>
    underLease (oldIp.toList.flatMap layout.writeBoth ++ layout.writeBoth ip)
  | .offlineIp ip success => underLease (if success then layout.writeBoth ip else [])
  | .removeDeviceFromMemory none => underLease []
  | .removeDeviceFromMemory (some ip) => underLease (ip.toList.flatMap layout.writeBoth)
  | .releasePreRegisteredIp ip shouldRemove =>
    underLease [] ++ (if shouldRemove then layout.writeBoth ip else [])
  | .updateClientLatency => underLease []
  | .count =>
    underLease [] ++ (List.range layout.senderShards).flatMap fun shard =>
      withLock (.senderShard shard) .read []
  | .broadcast => layout.iterSenders fun _ => []
  | .pingLocalClients => layout.iterSenders fun _ => []
  | .sendLocal dest found =>
    withLock (.senderShard (layout.senderShard dest)) .read
      (if found then layout.recordTraffic dest else [])
  | .sendCloned dest found =>
    withLock (.senderShard (layout.senderShard dest)) .read [] ++
      (if found then layout.recordTraffic dest else [])
  | .recordTxTraffic src => layout.recordTraffic src

/-- The locks of a thread that runs operations one after the other. -/
def program (operations : List NetworkOperation) : List (LockAction NetworkLock) :=
  operations.flatMap layout.actions

/-- Any number of threads that run operations on the state of a network. -/
def threads : Machine (List (LockThread NetworkLock)) (LockEvent (List NetworkOperation)) :=
  lockMachine layout.program

end ShardLayout

/-! ### The order -/

/-- What may be held when a lock is taken. -/
def LockRule (held : List (NetworkLock × LockMode)) : NetworkLock → LockMode → Prop
  | .leaseState, _ => held = [] ∨ ∃ shard, held = [(.senderShard shard, .read)]
  | .senderShard _, .write => held = [] ∨ held = [(.leaseState, .write)]
  | .senderShard shard, .read =>
    held = [] ∨ ∃ earlier < shard, held = [(.senderShard earlier, .read)]
  | .trafficShard _, _ =>
    held = [] ∨ held = [(.leaseState, .write)] ∨ ∃ shard, held = [(.senderShard shard, .read)]

/-- The place of a lock in the order. -/
def NetworkLock.rank : NetworkLock → ℕ ×ₗ ℕ
  | .leaseState => toLex (0, 0)
  | .senderShard shard => toLex (1, shard)
  | .trafficShard shard => toLex (2, shard)

variable (layout : ShardLayout) {held : List (NetworkLock × LockMode)}

theorem keeps_underLease {body : List (LockAction NetworkLock)}
    (keeps : Keeps LockRule [(.leaseState, .write)] body) : Keeps LockRule [] (underLease body) :=
  Keeps.withLock (.inl rfl) (fun _ member => absurd member List.not_mem_nil) keeps

theorem keeps_writeBoth (ip : Ipv4Addr) (allowed : held = [] ∨ held = [(.leaseState, .write)]) :
    Keeps LockRule held (layout.writeBoth ip) := by
  refine .append (.withLock allowed ?_ .nil) (.withLock (allowed.imp_right .inl) ?_ .nil)
  · rcases allowed with rfl | rfl <;> simp
  · rcases allowed with rfl | rfl <;> simp

theorem keeps_recordTraffic (ip : Ipv4Addr)
    (allowed : held = [] ∨ ∃ shard, held = [(.senderShard shard, .read)]) :
    Keeps LockRule held (layout.recordTraffic ip) := by
  refine .withLock (allowed.imp_right .inr) ?_ .nil
  rcases allowed with rfl | ⟨shard, rfl⟩ <;> simp

/-- An iteration follows the order when what is done in each shard does. -/
theorem follows_iterFrom {body : Nat → List (LockAction NetworkLock)}
    (each : ∀ shard, Keeps LockRule [(.senderShard shard, .read)] (body shard))
    (shard later : Nat) :
    Follows LockRule [(.senderShard shard, .read)] (iterFrom body shard later) ∧
      heldAfter [(.senderShard shard, .read)] (iterFrom body shard later) = [] := by
  induction later generalizing shard with
  | zero =>
    refine ⟨follows_append.mpr ⟨(each shard).1, trivial⟩, ?_⟩
    rw [iterFrom, heldAfter_append, (each shard).2]
    simp [heldAfter, dropLock]
  | succ later inductionHypothesis =>
    have left : dropLock [(NetworkLock.senderShard (shard + 1), LockMode.read),
        (.senderShard shard, .read)] (.senderShard shard) =
          [(.senderShard (shard + 1), .read)] := by
      simp [dropLock]
    obtain ⟨follows, after⟩ := inductionHypothesis (shard + 1)
    refine ⟨follows_append.mpr ⟨(each shard).1, ?_⟩, ?_⟩
    · rw [(each shard).2]
      refine ⟨.inr ⟨shard, Nat.lt_succ_self shard, rfl⟩, ?_⟩
      rw [Follows, left]
      exact follows
    · rw [iterFrom, heldAfter_append, (each shard).2, heldAfter, heldAfter, left]
      exact after

theorem keeps_iterSenders {body : Nat → List (LockAction NetworkLock)}
    (each : ∀ shard, Keeps LockRule [(.senderShard shard, .read)] (body shard)) :
    Keeps LockRule [] (layout.iterSenders body) := by
  unfold ShardLayout.iterSenders
  split
  · exact .nil
  · next later _ =>
    obtain ⟨follows, after⟩ := follows_iterFrom each 0 later
    exact ⟨⟨.inl rfl, follows⟩, after⟩

/-- Every operation takes its locks in the order, but for the look-ups, and gives them back. -/
theorem keeps_actions (operation : NetworkOperation) :
    Keeps LockRule [] (layout.actions operation) := by
  have both : ∀ ip, Keeps LockRule [(.leaseState, .write)] (layout.writeBoth ip) :=
    fun ip => keeps_writeBoth layout ip (.inr rfl)
  cases operation with
  | handleClientInfoRequest senders =>
    refine keeps_iterSenders layout fun shard => .flatMap fun _ _ => ?_
    exact .withLock (.inr ⟨shard, rfl⟩) (by simp) .nil
  | allocateIpAndGetEntry allocated =>
    cases allocated with
    | none => exact keeps_underLease .nil
    | some allocated => exact keeps_underLease (.append (.flatMap fun ip _ => both ip) (both _))
  | offlineIp ip success =>
    cases success with
    | true => exact keeps_underLease (both ip)
    | false => exact keeps_underLease .nil
  | removeDeviceFromMemory removed =>
    cases removed with
    | none => exact keeps_underLease .nil
    | some ip => exact keeps_underLease (.flatMap fun ip _ => both ip)
  | releasePreRegisteredIp ip shouldRemove =>
    cases shouldRemove with
    | true => exact .append (keeps_underLease .nil) (keeps_writeBoth layout ip (.inl rfl))
    | false => exact .append (keeps_underLease .nil) .nil
  | updateClientLatency => exact keeps_underLease .nil
  | count =>
    refine .append (keeps_underLease .nil) (.flatMap fun shard _ => ?_)
    exact .withLock (.inl rfl) (by simp) .nil
  | broadcast => exact keeps_iterSenders layout fun _ => .nil
  | pingLocalClients => exact keeps_iterSenders layout fun _ => .nil
  | sendLocal dest found =>
    refine .withLock (.inl rfl) (by simp) ?_
    cases found with
    | true => exact keeps_recordTraffic layout dest (.inr ⟨_, rfl⟩)
    | false => exact .nil
  | sendCloned dest found =>
    refine .append (.withLock (.inl rfl) (by simp) .nil) ?_
    cases found with
    | true => exact keeps_recordTraffic layout dest (.inl rfl)
    | false => exact .nil
  | recordTxTraffic src => exact keeps_recordTraffic layout src (.inl rfl)

theorem follows_program (operations : List NetworkOperation) :
    Follows LockRule [] (layout.program operations) :=
  (Keeps.flatMap fun operation _ => keeps_actions layout operation).1

/-! ### Deadlock freedom -/

/-- Threads that follow the order wait in a circle only when a look-up under the lock of a shard
and a change of that shard under the lease table oppose each other. -/
theorem not_deadlocked_of_follows {threads : List (LockThread NetworkLock)}
    (follows : ∀ thread ∈ threads, Follows LockRule thread.held thread.remaining)
    (free : ¬Opposed threads) : ¬Deadlocked threads := by
  refine not_deadlocked_of_rank NetworkLock.rank ?_
  rintro first second wanted other
    ⟨waiting, holding, lock, mode, rest, heldMode, isWaiting, next, isHolding, isHeld, conflicts⟩
    ⟨earlier, _, blocked, _, _, _, _, _, _, isBlocked, held, _⟩
    ⟨thread, _, _, found, wants⟩ ⟨holder, otherMode, otherRest, otherFound, wantsOther⟩
  cases isWaiting.symm.trans found
  cases isWaiting.symm.trans isBlocked
  cases isHolding.symm.trans otherFound
  cases next.symm.trans wants
  have inThreads := List.mem_of_getElem? isHolding
  have follow := follows holding inThreads
  rw [wantsOther] at follow
  have rule := follow.1
  have fromLease : (wanted, heldMode) ∈ [(NetworkLock.leaseState, LockMode.write)] →
      (∀ shard, other = .senderShard shard → wanted.rank < other.rank) ∧
        ∀ shard, other = .trafficShard shard → wanted.rank < other.rank := by
    intro member
    cases List.mem_singleton.mp member
    refine ⟨?_, ?_⟩
    · rintro shard rfl
      exact Prod.Lex.toLex_lt_toLex.mpr (.inl Nat.zero_lt_one)
    · rintro shard rfl
      exact Prod.Lex.toLex_lt_toLex.mpr (.inl Nat.zero_lt_two)
  cases other with
  | leaseState =>
    rcases rule with nothing | ⟨shard, under⟩
    · rw [nothing] at isHeld
      exact absurd isHeld List.not_mem_nil
    · rw [under] at isHeld
      cases List.mem_singleton.mp isHeld
      have waitingFollow := follows waiting (List.mem_of_getElem? isWaiting)
      rw [wants] at waitingFollow
      cases mode with
      | read => cases conflicts
      | write =>
        rcases waitingFollow.1 with nothing | lease
        · rw [nothing] at held
          exact absurd held List.not_mem_nil
        · refine absurd ⟨holding, inThreads, waiting, List.mem_of_getElem? isWaiting,
            .senderShard shard, .leaseState, nofun, ⟨?_, ?_⟩, ?_, ?_⟩ free
          · rw [under]
            exact List.mem_cons_self
          · rw [wantsOther]
            exact List.mem_cons_self
          · rw [lease]
            exact List.mem_cons_self
          · rw [wants]
            exact List.mem_cons_self
  | senderShard shard =>
    cases otherMode with
    | write =>
      rcases rule with nothing | lease
      · rw [nothing] at isHeld
        exact absurd isHeld List.not_mem_nil
      · exact (fromLease (lease ▸ isHeld)).1 shard rfl
    | read =>
      rcases rule with nothing | ⟨before, less, under⟩
      · rw [nothing] at isHeld
        exact absurd isHeld List.not_mem_nil
      · rw [under] at isHeld
        cases List.mem_singleton.mp isHeld
        exact Prod.Lex.toLex_lt_toLex.mpr (.inr ⟨rfl, less⟩)
  | trafficShard shard =>
    rcases rule with nothing | lease | ⟨before, under⟩
    · rw [nothing] at isHeld
      exact absurd isHeld List.not_mem_nil
    · exact (fromLease (lease ▸ isHeld)).2 shard rfl
    · rw [under] at isHeld
      cases List.mem_singleton.mp isHeld
      exact Prod.Lex.toLex_lt_toLex.mpr (.inl Nat.one_lt_two)

/-- Nothing waits in a circle in any run in which the look-ups and the changes of a shard are kept
apart. -/
theorem deadlockFree_throughout {events : List (LockEvent (List NetworkOperation))}
    (guarded : layout.threads.Guarded SparesNested [] events) :
    layout.threads.Throughout (fun threads => ¬Deadlocked threads) [] events := by
  have inOrder : layout.threads.Throughout (fun threads =>
      (∀ thread ∈ threads, Follows LockRule thread.held thread.remaining) ∧ ¬Opposed threads)
        [] events := by
    refine guarded.throughout ?_ ⟨fun _ member => absurd member List.not_mem_nil, ?_⟩
    · intro threads event next holds spares enabled
      exact ⟨follows_step (follows_program layout) holds.1 enabled,
        not_opposed_step holds.2 spares enabled⟩
    · rintro ⟨_, member, -⟩
      exact List.not_mem_nil member
  exact inOrder.mono fun threads holds => not_deadlocked_of_follows holds.1 holds.2

/-- A look-up is ahead of one thread, which holds the lock of the shard, and a change of the shard
is ahead of another, which holds the lease table. -/
structure InEachOthersWay (threads : List (LockThread NetworkLock)) (reader writer shard : Nat) :
    Prop where
  reads : ∃ thread, threads[reader]? = some thread ∧ (.senderShard shard, .read) ∈ thread.held ∧
    .leaseState ∈ takenUnder (.senderShard shard) thread.remaining
  writes : ∃ thread, threads[writer]? = some thread ∧ (.leaseState, .write) ∈ thread.held ∧
    .senderShard shard ∈ takenUnder .leaseState thread.remaining

theorem isTaken_of_held {threads : List (LockThread NetworkLock)} {index : Nat}
    {thread : LockThread NetworkLock} {lock : NetworkLock} {heldMode mode : LockMode}
    (found : threads[index]? = some thread) (isHeld : (lock, heldMode) ∈ thread.held)
    (conflicts : heldMode.conflicts mode = true) : isTaken threads lock mode = true := by
  refine List.any_eq_true.mpr ⟨thread, List.mem_of_getElem? found, ?_⟩
  exact List.any_eq_true.mpr ⟨(lock, heldMode), isHeld, by simp [conflicts]⟩

/-- A thread that has to wait for a lock under another one keeps the other one. -/
theorem keeps_waiting {thread after : LockThread NetworkLock} (steps : thread.Next after)
    {outer inner : NetworkLock} {mode : LockMode} (isHeld : (outer, mode) ∈ thread.held)
    (ahead : inner ∈ takenUnder outer thread.remaining)
    (blocked : ∀ mode rest, thread.remaining ≠ .acquire inner mode :: rest) :
    (outer, mode) ∈ after.held ∧ inner ∈ takenUnder outer after.remaining := by
  cases steps with
  | acquire held lock other rest =>
    rcases List.mem_cons.mp ahead with rfl | later
    · exact absurd rfl (blocked other rest)
    · exact ⟨List.mem_cons_of_mem _ isHeld, later⟩
  | release held lock rest =>
    rw [takenUnder] at ahead
    split at ahead
    · exact absurd ahead List.not_mem_nil
    · next different =>
      exact ⟨List.mem_filter.mpr ⟨isHeld, decide_eq_true fun same => different same.symm⟩, ahead⟩

/-- Two threads that are in each other's way stay so, and never finish. -/
theorem inEachOthersWay_forever {threads final : List (LockThread NetworkLock)}
    {events : List (LockEvent (List NetworkOperation))} {reader writer shard : Nat}
    (follows : ∀ thread ∈ threads, Follows LockRule thread.held thread.remaining)
    (opposed : InEachOthersWay threads reader writer shard)
    (reaches : layout.threads.run threads events = some final) :
    InEachOthersWay final reader writer shard := by
  induction events generalizing threads with
  | nil =>
    cases reaches
    exact opposed
  | cons event rest inductionHypothesis =>
    obtain ⟨next, enabled, later⟩ := Machine.run_cons_eq_some.mp reaches
    refine inductionHypothesis (follows_step (follows_program layout) follows enabled) ?_ later
    obtain ⟨⟨looking, isLooking, holdsShard, looksUp⟩, changing, isChanging, holdsLease, changes⟩ :=
      opposed
    rcases lockMachine_step enabled with ⟨operation, -, rfl⟩ |
      ⟨index, before, after, -, found, steps, rfl, free⟩
    · have known : ∀ {index : Nat} {thread}, threads[index]? = some thread →
          (threads ++ [⟨[], layout.program operation⟩])[index]? = some thread := by
        intro index thread isThread
        rwa [List.getElem?_append_left (List.getElem?_eq_some_iff.mp isThread).1]
      exact ⟨⟨looking, known isLooking, holdsShard, looksUp⟩,
        changing, known isChanging, holdsLease, changes⟩
    · have inside : index < threads.length := (List.getElem?_eq_some_iff.mp found).1
      refine ⟨?_, ?_⟩
      · by_cases same : index = reader
        · subst same
          cases found.symm.trans isLooking
          refine ⟨after, List.getElem?_set_self inside, keeps_waiting steps holdsShard looksUp ?_⟩
          intro mode rest wants
          have taken : isTaken threads .leaseState mode = true :=
            isTaken_of_held isChanging holdsLease rfl
          exact Bool.false_ne_true ((free _ mode rest wants).symm.trans taken)
        · exact ⟨looking, (List.getElem?_set_ne same).trans isLooking, holdsShard, looksUp⟩
      · by_cases same : index = writer
        · subst same
          cases found.symm.trans isChanging
          refine ⟨after, List.getElem?_set_self inside, keeps_waiting steps holdsLease changes ?_⟩
          intro mode rest wants
          have follow := follows changing (List.mem_of_getElem? found)
          rw [wants] at follow
          cases mode with
          | read =>
            rcases follow.1 with nothing | ⟨earlier, -, under⟩
            · rw [nothing] at holdsLease
              exact List.not_mem_nil holdsLease
            · rw [under] at holdsLease
              cases List.mem_singleton.mp holdsLease
          | write =>
            have taken : isTaken threads (.senderShard shard) .write = true :=
              isTaken_of_held isLooking holdsShard rfl
            exact Bool.false_ne_true ((free _ .write rest wants).symm.trans taken)
        · exact ⟨changing, (List.getElem?_set_ne same).trans isChanging, holdsLease, changes⟩

/-! ### Two threads -/

/-- Maps of two shards. -/
def exampleLayout : ShardLayout where
  senderShards := 2
  senderShard := fun ip => Fin.ofNat 2 ip.toNat
  trafficShard := fun ip => ip.toNat % 2

/-- The answer for one client in the first shard. -/
def oneClient : NetworkOperation :=
  .handleClientInfoRequest fun shard => if shard = 0 then 1 else 0

/-- A device registers, and then a peer server asks for the clients. -/
theorem deadlockFree_oneByOne : exampleLayout.threads.Throughout
    (fun threads => ¬Deadlocked threads) []
      (.start [.allocateIpAndGetEntry (some (0x0A1A0002, none))] :: List.replicate 6 (.advance 0) ++
        .start [oneClient] :: List.replicate 6 (.advance 1)) :=
  deadlockFree_throughout exampleLayout (by decide)

/-- The client goes offline while the answer is prepared: the answer holds the lock of the shard
and waits for the lease table, and the other thread holds the lease table and waits for the
shard. -/
theorem not_deadlockFree_offlineDuringRequest : ∃ threads,
    exampleLayout.threads.run [] [.start [oneClient], .start [.offlineIp 0x0A1A0002 true],
      .advance 0, .advance 1] = some threads ∧ Deadlocked threads := by
  refine ⟨[⟨[(.senderShard 0, .read)], (exampleLayout.program [oneClient]).tail⟩,
    ⟨[(.leaseState, .write)],
      (exampleLayout.program [.offlineIp 0x0A1A0002 true]).tail⟩], by decide, 0, ?_⟩
  refine .tail (.single (b := 1) ?_) ?_
  · exact ⟨_, _, .leaseState, .write, _, .write, rfl, rfl, rfl, List.mem_cons_self, rfl⟩
  · exact ⟨_, _, .senderShard 0, .write, _, .read, rfl, rfl, rfl, List.mem_cons_self, rfl⟩

end Vnt.Server
