/-
This file describes a loop that hands items to one worker for each key, over bounded queues. The
loop reads an item, looks up the worker of its key or starts one, and offers it the item. A worker
takes items from its queue until it ends. The loop learns that a worker has ended only when it
offers it an item. An item may be lost in three ways: the queue of a worker that lives is full, the
worker is gone when it is offered the item, or the worker ends while it holds the item. Every item
that was read is offered, queued, sent or lost. None is lost but to a full queue, exactly when no
item is offered to a worker that is gone and no worker ends while it holds items.
-/

import Mathlib.Algebra.Order.Group.Multiset
import Vnt.Base.Machine
import Vnt.Base.Map

namespace Vnt.Base

/-- A worker: its key, whether it lives, and its queue. -/
structure Worker (Key Item : Type) where
  key : Key
  live : Bool
  queue : List Item

/-- Why an item is lost. -/
inductive DropReason where
  | full
  | gone
  | ended
  deriving DecidableEq, Repr

/-- A lost item. -/
structure Dropped (Key Item : Type) where
  key : Key
  item : Item
  reason : DropReason
  deriving DecidableEq, Repr

/-- An item that the loop is about to offer to a worker. -/
structure Offer (Key Item : Type) where
  key : Key
  item : Item
  worker : Nat

/-- The loop with its table, the workers in the order they were started in, and what became of the
items. -/
structure Dispatcher (Key Item : Type) where
  workerOf : Map Key Nat
  workers : List (Worker Key Item)
  offer : Option (Offer Key Item)
  sent : List (Key × Item)
  dropped : List (Dropped Key Item)

/-- The steps of the loop and of the workers. A worker that takes an item sends it or fails to, and
then ends. -/
inductive DispatchEvent (Key Item : Type) where
  | read (key : Key) (item : Item)
  | trySend
  | take (worker : Nat) (sends : Bool)
  | finish (worker : Nat)

namespace Dispatcher

variable {Key Item : Type} [DecidableEq Key]

def start : Dispatcher Key Item := ⟨∅, [], none, [], []⟩

/-- The end of a worker; what it holds is lost. -/
def endWorker (state : Dispatcher Key Item) (index : Nat) (worker : Worker Key Item) :
    Dispatcher Key Item :=
  { state with
    workers := state.workers.set index { worker with live := false, queue := [] }
    dropped := state.dropped ++ worker.queue.map fun item => ⟨worker.key, item, .ended⟩ }

/-- The loop offers the item that it read to the worker. -/
def offerTo (capacity : Nat) (state : Dispatcher Key Item) (offer : Offer Key Item)
    (worker : Worker Key Item) : Dispatcher Key Item :=
  if worker.live = false then
    { state with
      offer := none
      workerOf := state.workerOf.erase offer.key
      dropped := state.dropped ++ [⟨offer.key, offer.item, .gone⟩] }
  else if worker.queue.length < capacity then
    { state with
      offer := none
      workers := state.workers.set offer.worker
        { worker with queue := worker.queue ++ [offer.item] } }
  else
    { state with
      offer := none
      dropped := state.dropped ++ [⟨offer.key, offer.item, .full⟩] }

/-- The loop reads an item and finds its worker, or starts one. -/
def readItem (state : Dispatcher Key Item) (key : Key) (item : Item) : Dispatcher Key Item :=
  match state.workerOf.lookup key with
  | some worker => { state with offer := some ⟨key, item, worker⟩ }
  | none =>
    { state with
      workerOf := state.workerOf.insert key state.workers.length
      workers := state.workers ++ [⟨key, true, []⟩]
      offer := some ⟨key, item, state.workers.length⟩ }

/-- A worker takes the first item of its queue. -/
def takeItem (state : Dispatcher Key Item) (index : Nat) (sends : Bool)
    (worker : Worker Key Item) : List Item → Option (Dispatcher Key Item)
  | [] => none
  | item :: rest =>
    if sends = true then
      some { state with
        workers := state.workers.set index { worker with queue := rest }
        sent := state.sent ++ [(worker.key, item)] }
    else some (state.endWorker index worker)

def step (capacity : Nat) (state : Dispatcher Key Item) :
    DispatchEvent Key Item → Option (Dispatcher Key Item)
  | .read key item => if state.offer.isNone = true then some (state.readItem key item) else none
  | .trySend =>
    state.offer.bind fun offer =>
      state.workers[offer.worker]?.map (state.offerTo capacity offer)
  | .take index sends =>
    state.workers[index]?.bind fun worker =>
      if worker.live = true then state.takeItem index sends worker worker.queue else none
  | .finish index =>
    state.workers[index]?.bind fun worker =>
      if worker.live = true then some (state.endWorker index worker) else none

def machine (capacity : Nat) : Machine (Dispatcher Key Item) (DispatchEvent Key Item) :=
  ⟨step capacity⟩

/-- Items are lost only to full queues. -/
def OnlyFull (state : Dispatcher Key Item) : Prop := ∀ drop ∈ state.dropped, drop.reason = .full

/-- The worker that is offered an item lives, and a worker that ends holds nothing. -/
def Keeps (state : Dispatcher Key Item) : DispatchEvent Key Item → Prop
  | .read _ _ => True
  | .trySend => ∀ offer ∈ state.offer, ∀ worker ∈ state.workers[offer.worker]?, worker.live = true
  | .take index sends =>
    ∀ worker ∈ state.workers[index]?, worker.live = true → worker.queue ≠ [] → sends = true
  | .finish index =>
    ∀ worker ∈ state.workers[index]?, worker.live = true → worker.queue = []

/-- The items that a list of steps reads. -/
def reads : List (DispatchEvent Key Item) → Multiset (Key × Item)
  | [] => 0
  | .read key item :: rest => {(key, item)} + reads rest
  | _ :: rest => reads rest

/-- The items in the queue of a worker. -/
def queued (worker : Worker Key Item) : Multiset (Key × Item) :=
  worker.queue.map fun item => (worker.key, item)

/-- The items in all queues. -/
def allQueued : List (Worker Key Item) → Multiset (Key × Item)
  | [] => 0
  | worker :: rest => queued worker + allQueued rest

/-- The item that is offered. -/
def offered : Option (Offer Key Item) → Multiset (Key × Item)
  | some offer => {(offer.key, offer.item)}
  | none => 0

/-- The items that are lost. -/
def lost (drops : List (Dropped Key Item)) : Multiset (Key × Item) :=
  drops.map fun drop => (drop.key, drop.item)

/-- The items that are offered, queued, sent or lost. -/
def accounted (state : Dispatcher Key Item) : Multiset (Key × Item) :=
  offered state.offer + allQueued state.workers + state.sent + lost state.dropped

variable {capacity : Nat} {state next : Dispatcher Key Item} {index : Nat}
  {worker : Worker Key Item}

/-! ### What a step loses -/

omit [DecidableEq Key] in
theorem onlyFull_append {state next : Dispatcher Key Item} {more : List (Dropped Key Item)}
    (only : state.OnlyFull) (dropped : next.dropped = state.dropped ++ more) :
    next.OnlyFull ↔ ∀ drop ∈ more, drop.reason = .full := by
  unfold OnlyFull
  rw [dropped, List.forall_mem_append]
  exact and_iff_right only

omit [DecidableEq Key] in
theorem onlyFull_endWorker_iff (only : state.OnlyFull) :
    (state.endWorker index worker).OnlyFull ↔ worker.queue = [] := by
  rw [onlyFull_append only rfl, List.forall_mem_map]
  constructor
  · intro all
    refine List.eq_nil_iff_forall_not_mem.mpr fun item member => ?_
    cases all item member
  · intro empty item member
    rw [empty] at member
    cases member

theorem onlyFull_offerTo_iff (only : state.OnlyFull) (offer : Offer Key Item) :
    (state.offerTo capacity offer worker).OnlyFull ↔ worker.live = true := by
  unfold offerTo
  split
  · next isGone =>
    rw [onlyFull_append only rfl, List.forall_mem_singleton, isGone]
    exact iff_of_false (fun same => by cases same) Bool.false_ne_true
  · next isLive =>
    have live : worker.live = true := Bool.of_not_eq_false isLive
    split
    · exact iff_of_true only live
    · rw [onlyFull_append only rfl, List.forall_mem_singleton]
      exact iff_of_true rfl live

omit [DecidableEq Key] in
theorem onlyFull_takeItem_iff (only : state.OnlyFull) {sends : Bool}
    (takes : state.takeItem index sends worker worker.queue = some next) :
    next.OnlyFull ↔ sends = true := by
  cases queue : worker.queue with
  | nil =>
    rw [queue] at takes
    cases takes
  | cons item rest =>
    rw [queue] at takes
    unfold takeItem at takes
    dsimp only at takes
    split at takes
    · next isSent =>
      cases takes
      exact iff_of_true only isSent
    · next isLost =>
      cases takes
      rw [onlyFull_endWorker_iff only, queue]
      exact iff_of_false (List.cons_ne_nil _ _) isLost

theorem readItem_dropped (key : Key) (item : Item) :
    (state.readItem key item).dropped = state.dropped := by
  unfold readItem
  split
  · rfl
  · rfl

/-- A step loses items only to a full queue exactly when it keeps to the two rules. -/
theorem step_onlyFull_iff (only : state.OnlyFull) (event : DispatchEvent Key Item)
    (steps : (machine capacity).step state event = some next) :
    next.OnlyFull ↔ state.Keeps event := by
  cases event with
  | read key item =>
    obtain ⟨-, same⟩ := Option.ite_none_right_eq_some.mp steps
    cases same
    refine iff_of_true ?_ trivial
    intro drop member
    rw [readItem_dropped] at member
    exact only drop member
  | trySend =>
    obtain ⟨offer, isOffer, offered⟩ := Option.bind_eq_some_iff.mp steps
    obtain ⟨worker, isWorker, rfl⟩ := Option.map_eq_some_iff.mp offered
    rw [onlyFull_offerTo_iff only]
    constructor
    · intro live other isOther found isFound
      cases isOffer.symm.trans isOther
      cases isWorker.symm.trans isFound
      exact live
    · exact fun keeps => keeps offer isOffer worker isWorker
  | take index sends =>
    obtain ⟨worker, isWorker, taken⟩ := Option.bind_eq_some_iff.mp steps
    obtain ⟨live, taken⟩ := Option.ite_none_right_eq_some.mp taken
    rw [onlyFull_takeItem_iff only taken]
    constructor
    · intro isSent found isFound _ _
      exact isSent
    · intro keeps
      refine keeps worker isWorker live fun empty => ?_
      rw [empty] at taken
      cases taken
  | finish index =>
    obtain ⟨worker, isWorker, ended⟩ := Option.bind_eq_some_iff.mp steps
    obtain ⟨live, same⟩ := Option.ite_none_right_eq_some.mp ended
    cases same
    rw [onlyFull_endWorker_iff only]
    constructor
    · intro empty found isFound _
      cases isWorker.symm.trans isFound
      exact empty
    · exact fun keeps => keeps worker isWorker live

/-- A step that has to wait loses nothing. -/
theorem keeps_of_disabled (event : DispatchEvent Key Item)
    (waits : (machine capacity).step state event = none) : state.Keeps event := by
  cases event with
  | read key item => trivial
  | trySend =>
    intro offer isOffer worker isWorker
    have runs : (machine capacity).step state .trySend =
        some (state.offerTo capacity offer worker) := by
      show state.offer.bind _ = _
      rw [isOffer, Option.bind_some, isWorker, Option.map_some]
    cases waits.symm.trans runs
  | take index sends =>
    intro worker isWorker live holds
    by_contra isLost
    have runs : (machine capacity).step state (.take index sends) =
        state.takeItem index sends worker worker.queue := by
      show state.workers[index]?.bind _ = _
      rw [isWorker, Option.bind_some, if_pos live]
    rw [runs] at waits
    cases queue : worker.queue with
    | nil => exact holds queue
    | cons item rest =>
      rw [queue] at waits
      unfold takeItem at waits
      dsimp only at waits
      rw [if_neg isLost] at waits
      cases waits
  | finish index =>
    intro worker isWorker live
    have runs : (machine capacity).step state (.finish index) =
        some (state.endWorker index worker) := by
      show state.workers[index]?.bind _ = _
      rw [isWorker, Option.bind_some, if_pos live]
    cases waits.symm.trans runs

/-- In every run items are lost only to full queues, exactly when every step keeps to the two
rules. -/
theorem throughout_onlyFull_iff (capacity : Nat) (events : List (DispatchEvent Key Item)) :
    (machine capacity).Throughout OnlyFull start events ↔
      (machine capacity).Guarded Keeps start events := by
  refine Machine.throughout_iff_guarded (fun _ _ _ (_ : True) _ => trivial)
    (fun _ event _ _ only => step_onlyFull_iff only event) (fun _ => keeps_of_disabled) trivial ?_
  intro drop member
  cases member

/-! ### What becomes of an item -/

omit [DecidableEq Key] in
/-- A change of one worker changes its queue alone. -/
theorem allQueued_set {workers : List (Worker Key Item)} (isWorker : workers[index]? = some worker)
    (changed : Worker Key Item) :
    allQueued (workers.set index changed) + queued worker =
      allQueued workers + queued changed := by
  induction workers generalizing index with
  | nil => cases isWorker
  | cons first rest inductionHypothesis =>
    cases index with
    | zero =>
      cases isWorker
      rw [List.set_cons_zero, allQueued, allQueued]
      ac_rfl
    | succ index =>
      rw [List.set_cons_succ, allQueued, allQueued, add_assoc, inductionHypothesis isWorker,
        add_assoc]

omit [DecidableEq Key] in
theorem allQueued_append_new (workers : List (Worker Key Item)) (key : Key) :
    allQueued (workers ++ [⟨key, true, []⟩]) = allQueued workers := by
  induction workers with
  | nil => rfl
  | cons first rest inductionHypothesis =>
    rw [List.cons_append, allQueued, inductionHypothesis, allQueued]

omit [DecidableEq Key] in
theorem lost_append (drops more : List (Dropped Key Item)) :
    lost (drops ++ more) = lost drops + lost more := by
  unfold lost
  rw [List.map_append, ← Multiset.coe_add]

omit [DecidableEq Key] in
/-- What a worker holds when it ends is lost. -/
theorem lost_queue (worker : Worker Key Item) :
    lost (worker.queue.map fun item => ⟨worker.key, item, .ended⟩) = queued worker := by
  unfold lost queued
  rw [List.map_map]
  rfl

omit [DecidableEq Key] in
theorem accounted_endWorker (isWorker : state.workers[index]? = some worker) :
    (state.endWorker index worker).accounted = state.accounted := by
  have emptied : allQueued (state.workers.set index { worker with live := false, queue := [] }) +
      queued worker = allQueued state.workers :=
    (allQueued_set isWorker _).trans (add_zero _)
  unfold accounted endWorker
  dsimp only
  rw [← emptied, lost_append, lost_queue]
  ac_rfl

/-- An item that is offered to a worker of its key is queued or lost. -/
theorem accounted_offerTo {offer : Offer Key Item} (isOffer : state.offer = some offer)
    (isWorker : state.workers[offer.worker]? = some worker) (own : worker.key = offer.key) :
    (state.offerTo capacity offer worker).accounted = state.accounted := by
  have dropping : ∀ (sent : Multiset (Key × Item)) reason,
      offered (none : Option (Offer Key Item)) + allQueued state.workers + sent +
          lost (state.dropped ++ [⟨offer.key, offer.item, reason⟩]) =
        offered (some offer) + allQueued state.workers + sent + lost state.dropped := by
    intro sent reason
    rw [lost_append]
    show 0 + _ + _ + (_ + {(offer.key, offer.item)}) = {(offer.key, offer.item)} + _ + _ + _
    rw [zero_add]
    ac_rfl
  unfold accounted offerTo
  rw [isOffer]
  split
  · exact dropping _ .gone
  · split
    · have longer : queued { worker with queue := worker.queue ++ [offer.item] } =
          queued worker + {(offer.key, offer.item)} := by
        unfold queued
        rw [List.map_append, ← Multiset.coe_add, own]
        rfl
      have room := allQueued_set isWorker { worker with queue := worker.queue ++ [offer.item] }
      rw [longer, add_comm (queued worker), ← add_assoc] at room
      dsimp only
      rw [add_right_cancel room]
      show 0 + (_ + {(offer.key, offer.item)}) + _ + _ = {(offer.key, offer.item)} + _ + _ + _
      rw [zero_add]
      ac_rfl
    · exact dropping _ .full

/-- The keys of the workers. -/
def keys (state : Dispatcher Key Item) : List Key := state.workers.map Worker.key

/-- The table and the offer lead to workers of their own keys. -/
structure WellKeyed (state : Dispatcher Key Item) : Prop where
  table : ∀ key index, state.workerOf.lookup key = some index → state.keys[index]? = some key
  offer : ∀ offer ∈ state.offer, state.keys[offer.worker]? = some offer.key

theorem wellKeyed_start : (start : Dispatcher Key Item).WellKeyed where
  table key index found := by cases found
  offer offer isOffer := by cases isOffer

/-- A step that only takes from the table and the offer, and leaves the keys as they are. -/
theorem WellKeyed.of_same (keyed : state.WellKeyed) (keys : next.keys = state.keys)
    (table : ∀ key index, next.workerOf.lookup key = some index →
      state.workerOf.lookup key = some index)
    (offer : ∀ offer ∈ next.offer, offer ∈ state.offer) : next.WellKeyed := by
  refine ⟨fun key index found => ?_, fun one isOne => ?_⟩
  · rw [keys]
    exact keyed.table key index (table key index found)
  · rw [keys]
    exact keyed.offer one (offer one isOne)

omit [DecidableEq Key] in
theorem keys_set (isWorker : state.workers[index]? = some worker) {changed : Worker Key Item}
    (sameKey : changed.key = worker.key) :
    (state.workers.set index changed).map Worker.key = state.keys :=
  map_set_of_getElem? isWorker sameKey

theorem WellKeyed.endWorker (keyed : state.WellKeyed)
    (isWorker : state.workers[index]? = some worker) : (state.endWorker index worker).WellKeyed :=
  keyed.of_same (keys_set isWorker rfl) (fun _ _ found => found) (fun _ isOne => isOne)

theorem WellKeyed.offerTo (keyed : state.WellKeyed) {offer : Offer Key Item}
    (isWorker : state.workers[offer.worker]? = some worker) :
    (state.offerTo capacity offer worker).WellKeyed := by
  unfold Dispatcher.offerTo
  split
  · refine keyed.of_same rfl (fun key index found => ?_) (fun _ isOne => by cases isOne)
    exact (Map.lookup_erase_eq_some.mp found).2
  · split
    · exact keyed.of_same (keys_set isWorker rfl) (fun _ _ found => found)
        (fun _ isOne => by cases isOne)
    · exact keyed.of_same rfl (fun _ _ found => found) (fun _ isOne => by cases isOne)

theorem WellKeyed.readItem (keyed : state.WellKeyed) (key : Key) (item : Item) :
    (state.readItem key item).WellKeyed := by
  unfold Dispatcher.readItem
  split
  · next index found =>
    refine ⟨keyed.table, fun offer isOffer => ?_⟩
    cases isOffer
    exact keyed.table key index found
  · next missing =>
    have last : ∀ worker : Worker Key Item, worker.key = key →
        (state.workers ++ [worker]).map Worker.key = state.keys ++ [key] := by
      rintro worker rfl
      exact List.map_append
    have isNew : (state.keys ++ [key])[state.workers.length]? = some key := by
      have length : state.keys.length = state.workers.length := List.length_map _
      rw [← length]
      exact List.getElem?_concat_length
    refine ⟨fun other index found => ?_, fun offer isOffer => ?_⟩
    · show (List.map Worker.key _)[index]? = some other
      rw [last _ rfl]
      dsimp only at found
      rw [Map.lookup_insert_eq] at found
      split at found
      · next same =>
        cases found
        rw [same]
        exact isNew
      · have earlier := keyed.table other index found
        rw [List.getElem?_append_left (List.getElem?_eq_some_iff.mp earlier).1]
        exact earlier
    · cases isOffer
      show (List.map Worker.key _)[state.workers.length]? = some key
      rw [last _ rfl]
      exact isNew

theorem accounted_readItem (key : Key) (item : Item) (free : state.offer = none) :
    (state.readItem key item).accounted = state.accounted + {(key, item)} := by
  unfold accounted readItem
  rw [free]
  split
  · show {(key, item)} + _ + _ + _ = 0 + _ + _ + _ + _
    rw [zero_add]
    ac_rfl
  · dsimp only
    rw [allQueued_append_new]
    show {(key, item)} + _ + _ + _ = 0 + _ + _ + _ + _
    rw [zero_add]
    ac_rfl

/-- An item that is taken is sent, or lost with the worker. -/
theorem WellKeyed.takeItem (keyed : state.WellKeyed) {sends : Bool}
    (isWorker : state.workers[index]? = some worker)
    (takes : state.takeItem index sends worker worker.queue = some next) :
    next.accounted = state.accounted ∧ next.WellKeyed := by
  cases queue : worker.queue with
  | nil =>
    rw [queue] at takes
    cases takes
  | cons item rest =>
    rw [queue] at takes
    unfold Dispatcher.takeItem at takes
    dsimp only at takes
    split at takes
    · cases takes
      have shorter :
          queued worker = {(worker.key, item)} + queued { worker with queue := rest } := by
        unfold queued
        rw [queue]
        rfl
      have taken := allQueued_set isWorker { worker with queue := rest }
      rw [shorter, ← add_assoc] at taken
      refine ⟨?_, keyed.of_same (keys_set isWorker rfl) (fun _ _ found => found)
        fun _ isOne => isOne⟩
      unfold accounted
      rw [← add_right_cancel taken]
      dsimp only
      rw [← Multiset.coe_add]
      show _ + _ + (_ + {(worker.key, item)}) + _ = _
      ac_rfl
    · cases takes
      exact ⟨accounted_endWorker isWorker, keyed.endWorker isWorker⟩

omit [DecidableEq Key] in
theorem reads_append (first second : List (DispatchEvent Key Item)) :
    reads (first ++ second) = reads first + reads second := by
  induction first with
  | nil => exact (zero_add _).symm
  | cons event rest inductionHypothesis =>
    cases event with
    | read key item =>
      rw [List.cons_append, reads, reads, inductionHypothesis, add_assoc]
    | trySend => exact inductionHypothesis
    | take index sends => exact inductionHypothesis
    | finish index => exact inductionHypothesis

/-- Every item that was read is offered, queued, sent or lost, and no worker gets an item of another
key. -/
theorem accounted_run {final : Dispatcher Key Item} {events : List (DispatchEvent Key Item)}
    (reaches : (machine capacity).run start events = some final) :
    final.accounted = reads events ∧ final.WellKeyed := by
  refine Machine.run_induction
    (fun events state => state.accounted = reads events ∧ state.WellKeyed)
    ⟨rfl, wellKeyed_start⟩ ?_ reaches
  rintro past state event next - ⟨same, keyed⟩ steps
  rw [reads_append, ← same]
  cases event with
  | read key item =>
    obtain ⟨free, isNext⟩ := Option.ite_none_right_eq_some.mp steps
    cases isNext
    exact ⟨accounted_readItem key item (Option.isNone_iff_eq_none.mp free),
      keyed.readItem key item⟩
  | trySend =>
    obtain ⟨offer, isOffer, offered⟩ := Option.bind_eq_some_iff.mp steps
    obtain ⟨worker, isWorker, rfl⟩ := Option.map_eq_some_iff.mp offered
    have own : worker.key = offer.key := by
      have isKey := keyed.offer offer isOffer
      unfold keys at isKey
      rw [List.getElem?_map, isWorker] at isKey
      exact Option.some.inj isKey
    exact ⟨(accounted_offerTo isOffer isWorker own).trans (add_zero _).symm,
      keyed.offerTo isWorker⟩
  | take index sends =>
    obtain ⟨worker, isWorker, taken⟩ := Option.bind_eq_some_iff.mp steps
    obtain ⟨-, takes⟩ := Option.ite_none_right_eq_some.mp taken
    obtain ⟨kept, keyedNext⟩ := keyed.takeItem isWorker takes
    exact ⟨kept.trans (add_zero _).symm, keyedNext⟩
  | finish index =>
    obtain ⟨worker, isWorker, ended⟩ := Option.bind_eq_some_iff.mp steps
    obtain ⟨-, isNext⟩ := Option.ite_none_right_eq_some.mp ended
    cases isNext
    exact ⟨(accounted_endWorker isWorker).trans (add_zero _).symm, keyed.endWorker isWorker⟩

omit [DecidableEq Key] in
theorem prefix_of_keys_eq (same : next.keys = state.keys) : state.keys <+: next.keys :=
  ⟨[], by rw [List.append_nil, same]⟩

/-- Workers keep their keys, and new ones come behind the others. -/
theorem keys_step {event : DispatchEvent Key Item} (steps : step capacity state event = some next) :
    state.keys <+: next.keys := by
  cases event with
  | read key item =>
    obtain ⟨-, isNext⟩ := Option.ite_none_right_eq_some.mp steps
    cases isNext
    unfold readItem
    split
    · exact List.prefix_rfl
    · unfold keys
      rw [List.map_append]
      exact List.prefix_append _ _
  | trySend =>
    obtain ⟨offer, -, offered⟩ := Option.bind_eq_some_iff.mp steps
    obtain ⟨worker, isWorker, rfl⟩ := Option.map_eq_some_iff.mp offered
    unfold offerTo
    split
    · exact List.prefix_rfl
    · split
      · exact prefix_of_keys_eq (keys_set isWorker rfl)
      · exact List.prefix_rfl
  | take index sends =>
    obtain ⟨worker, isWorker, taken⟩ := Option.bind_eq_some_iff.mp steps
    obtain ⟨-, takes⟩ := Option.ite_none_right_eq_some.mp taken
    cases queue : worker.queue with
    | nil =>
      rw [queue] at takes
      cases takes
    | cons item rest =>
      rw [queue] at takes
      unfold takeItem at takes
      dsimp only at takes
      split at takes <;> cases takes <;> exact prefix_of_keys_eq (keys_set isWorker rfl)
  | finish index =>
    obtain ⟨worker, isWorker, ended⟩ := Option.bind_eq_some_iff.mp steps
    obtain ⟨-, isNext⟩ := Option.ite_none_right_eq_some.mp ended
    cases isNext
    exact prefix_of_keys_eq (keys_set isWorker rfl)

/-- A worker that sends, sends the first item of its queue. -/
theorem sent_take {index : Nat} (steps : step capacity state (.take index true) = some next) :
    ∃ worker item, state.workers[index]? = some worker ∧ worker.queue.head? = some item ∧
      next.sent = state.sent ++ [(worker.key, item)] := by
  obtain ⟨worker, isWorker, taken⟩ := Option.bind_eq_some_iff.mp steps
  obtain ⟨-, takes⟩ := Option.ite_none_right_eq_some.mp taken
  cases queue : worker.queue with
  | nil =>
    rw [queue] at takes
    cases takes
  | cons item rest =>
    rw [queue] at takes
    cases takes
    exact ⟨worker, item, isWorker, by rw [queue]; rfl, rfl⟩

/-- Nothing is sent in any other step. -/
theorem sent_of_not_take {event : DispatchEvent Key Item}
    (other : ∀ index, event ≠ .take index true) (steps : step capacity state event = some next) :
    next.sent = state.sent := by
  cases event with
  | read key item =>
    obtain ⟨-, isNext⟩ := Option.ite_none_right_eq_some.mp steps
    cases isNext
    unfold readItem
    split <;> rfl
  | trySend =>
    obtain ⟨offer, -, offered⟩ := Option.bind_eq_some_iff.mp steps
    obtain ⟨worker, -, rfl⟩ := Option.map_eq_some_iff.mp offered
    unfold offerTo
    split
    · rfl
    · split <;> rfl
  | take index sends =>
    cases sends with
    | true => exact absurd rfl (other index)
    | false =>
      obtain ⟨worker, -, taken⟩ := Option.bind_eq_some_iff.mp steps
      obtain ⟨-, takes⟩ := Option.ite_none_right_eq_some.mp taken
      cases queue : worker.queue with
      | nil =>
        rw [queue] at takes
        cases takes
      | cons item rest =>
        rw [queue] at takes
        cases takes
        rfl
  | finish index =>
    obtain ⟨worker, -, ended⟩ := Option.bind_eq_some_iff.mp steps
    obtain ⟨-, isNext⟩ := Option.ite_none_right_eq_some.mp ended
    cases isNext
    rfl

end Dispatcher

end Vnt.Base
