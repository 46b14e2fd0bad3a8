/-
This file is about threads that take locks and give them back. A thread is what it holds and what
it still has to do, and a lock that is held in a conflicting mode stops it. Threads that wait for
each other in a circle wait forever. Two rules exclude that. When the locks have an order in which
every thread takes them, no circle closes. And two threads that take two locks in opposite order
get in each other's way only when both hold their first one.
-/

import Mathlib.Logic.Relation
import Mathlib.Order.Defs.PartialOrder
import Vnt.Base.Machine

namespace Vnt.Base

/-- How a lock is held. -/
inductive LockMode where
  | read
  | write
  deriving DecidableEq, Repr

/-- Only readers share a lock. -/
def LockMode.conflicts : LockMode → LockMode → Bool
  | .read, .read => false
  | _, _ => true

/-- What a thread does to a lock. -/
inductive LockAction (Lock : Type) where
  | acquire (lock : Lock) (mode : LockMode)
  | release (lock : Lock)
  deriving DecidableEq, Repr

/-- A thread: the locks it holds, and what it still has to do. -/
structure LockThread (Lock : Type) where
  held : List (Lock × LockMode)
  remaining : List (LockAction Lock)
  deriving DecidableEq, Repr

/-- A new thread runs an operation, or a thread makes its next step. -/
inductive LockEvent (Operation : Type) where
  | start (operation : Operation)
  | advance (index : Nat)
  deriving DecidableEq, Repr

/-! ### Waiting in a circle -/

variable {Lock Operation : Type} {threads : List (LockThread Lock)}

/-- The first thread waits for a lock that the second one holds. -/
def WaitsFor (threads : List (LockThread Lock)) (first second : Nat) : Prop :=
  ∃ waiting holding lock mode rest heldMode, threads[first]? = some waiting ∧
    waiting.remaining = .acquire lock mode :: rest ∧ threads[second]? = some holding ∧
      (lock, heldMode) ∈ holding.held ∧ heldMode.conflicts mode = true

/-- Some threads wait for each other in a circle. -/
def Deadlocked (threads : List (LockThread Lock)) : Prop :=
  ∃ index, Relation.TransGen (WaitsFor threads) index index

/-- A circle can be followed at each of its members forwards and backwards. -/
theorem transGen_inner {Node : Type} {relation : Node → Node → Prop} {node : Node}
    (circle : Relation.TransGen relation node node) :
    Relation.TransGen (fun first second => relation first second ∧
      (∃ earlier, relation earlier first) ∧ ∃ later, relation second later) node node := by
  have inner : ∀ {start stop}, Relation.TransGen relation start stop →
      (∃ earlier, relation earlier start) → (∃ later, relation stop later) →
        Relation.TransGen (fun first second => relation first second ∧
          (∃ earlier, relation earlier first) ∧ ∃ later, relation second later) start stop := by
    intro start stop path earlier later
    induction path with
    | single edge => exact .single ⟨edge, earlier, later⟩
    | tail path edge inductionHypothesis =>
      obtain ⟨before, -, last⟩ := Relation.TransGen.tail'_iff.mp path
      exact (inductionHypothesis ⟨_, edge⟩).tail ⟨edge, ⟨before, last⟩, later⟩
  obtain ⟨before, -, last⟩ := Relation.TransGen.tail'_iff.mp circle
  obtain ⟨after, first, -⟩ := Relation.TransGen.head'_iff.mp circle
  exact inner circle ⟨before, last⟩ ⟨after, first⟩

/-- The lock that a thread takes next. -/
def Wants (threads : List (LockThread Lock)) (index : Nat) (lock : Lock) : Prop :=
  ∃ thread mode rest, threads[index]? = some thread ∧
    thread.remaining = .acquire lock mode :: rest

/-- When along the circles every thread waits for a higher lock than the one before, there are
none. -/
theorem not_deadlocked_of_rank {Rank : Type} [Preorder Rank] (rank : Lock → Rank)
    (rises : ∀ first second wanted other, WaitsFor threads first second →
      (∃ earlier, WaitsFor threads earlier first) → Wants threads first wanted →
        Wants threads second other → rank wanted < rank other) : ¬Deadlocked threads := by
  rintro ⟨index, circle⟩
  have climbs : ∀ {start stop}, Relation.TransGen (fun first second =>
      WaitsFor threads first second ∧ (∃ earlier, WaitsFor threads earlier first) ∧
        ∃ later, WaitsFor threads second later) start stop →
      ∀ wanted other, Wants threads start wanted → Wants threads stop other →
        rank wanted < rank other := by
    intro start stop path
    induction path with
    | single edge => exact fun wanted other => rises _ _ wanted other edge.1 edge.2.1
    | @tail middle last path edge inductionHypothesis =>
      intro wanted other wants wantsOther
      obtain ⟨thread, -, lock, mode, rest, -, found, next, -⟩ := edge.1
      have between : Wants threads middle lock := ⟨thread, mode, rest, found, next⟩
      exact lt_trans (inductionHypothesis wanted lock wants between)
        (rises _ _ lock other edge.1 edge.2.1 between wantsOther)
  obtain ⟨after, first, -⟩ := Relation.TransGen.head'_iff.mp circle
  obtain ⟨thread, -, lock, mode, rest, -, found, next, -⟩ := first
  have wants : Wants threads index lock := ⟨thread, mode, rest, found, next⟩
  exact lt_irrefl _ (climbs (transGen_inner circle) lock lock wants wants)

/-! ### The machine -/

variable [DecidableEq Lock]

/-- What is held after a lock was given back. -/
def dropLock (held : List (Lock × LockMode)) (lock : Lock) : List (Lock × LockMode) :=
  held.filter fun entry => decide (entry.1 ≠ lock)

/-- What is held after some actions. -/
def heldAfter : List (Lock × LockMode) → List (LockAction Lock) → List (Lock × LockMode)
  | held, [] => held
  | held, .acquire lock mode :: rest => heldAfter ((lock, mode) :: held) rest
  | held, .release lock :: rest => heldAfter (dropLock held lock) rest

/-- Some thread holds the lock in a conflicting mode. -/
def isTaken (threads : List (LockThread Lock)) (lock : Lock) (mode : LockMode) : Bool :=
  threads.any fun thread => thread.held.any fun entry =>
    decide (entry.1 = lock) && entry.2.conflicts mode

/-- The threads as a machine; a thread that has to wait cannot advance. -/
def lockMachine (program : Operation → List (LockAction Lock)) :
    Machine (List (LockThread Lock)) (LockEvent Operation) where
  step := fun threads event =>
    match event with
    | .start operation => some (threads ++ [⟨[], program operation⟩])
    | .advance index =>
      match threads[index]? with
      | none => none
      | some ⟨_, []⟩ => none
      | some ⟨held, .acquire lock mode :: rest⟩ =>
        if isTaken threads lock mode = true then none
        else some (threads.set index ⟨(lock, mode) :: held, rest⟩)
      | some ⟨held, .release lock :: rest⟩ =>
        some (threads.set index ⟨dropLock held lock, rest⟩)

/-- What one step of a thread makes of it. -/
inductive LockThread.Next : LockThread Lock → LockThread Lock → Prop where
  | acquire (held : List (Lock × LockMode)) (lock : Lock) (mode : LockMode)
      (rest : List (LockAction Lock)) :
      Next ⟨held, .acquire lock mode :: rest⟩ ⟨(lock, mode) :: held, rest⟩
  | release (held : List (Lock × LockMode)) (lock : Lock) (rest : List (LockAction Lock)) :
      Next ⟨held, .release lock :: rest⟩ ⟨dropLock held lock, rest⟩

variable {program : Operation → List (LockAction Lock)} {next : List (LockThread Lock)}
  {event : LockEvent Operation}

/-- A step starts a thread or changes one, which does not have to wait. -/
theorem lockMachine_step (enabled : (lockMachine program).step threads event = some next) :
    (∃ operation, event = .start operation ∧ next = threads ++ [⟨[], program operation⟩]) ∨
      ∃ index before after, event = .advance index ∧ threads[index]? = some before ∧
        before.Next after ∧ next = threads.set index after ∧
          ∀ lock mode rest, before.remaining = .acquire lock mode :: rest →
            isTaken threads lock mode = false := by
  cases event with
  | start operation =>
    cases enabled
    exact .inl ⟨operation, rfl, rfl⟩
  | advance index =>
    refine .inr ?_
    unfold lockMachine at enabled
    dsimp only at enabled
    split at enabled
    · cases enabled
    · cases enabled
    · next held lock mode rest found =>
      split at enabled
      · cases enabled
      · next free =>
        cases enabled
        refine ⟨index, _, _, rfl, found, .acquire held lock mode rest, rfl, ?_⟩
        rintro _ _ _ ⟨⟩
        exact Bool.eq_false_iff.mpr free
    · next held lock rest found =>
      cases enabled
      exact ⟨index, _, _, rfl, found, .release held lock rest, rfl, nofun⟩

/-! ### Rules that every thread follows -/

/-- Every lock is taken by the rule, which sees what is held and what is taken how. -/
def Follows (rule : List (Lock × LockMode) → Lock → LockMode → Prop) :
    List (Lock × LockMode) → List (LockAction Lock) → Prop
  | _, [] => True
  | held, .acquire lock mode :: rest =>
    rule held lock mode ∧ Follows rule ((lock, mode) :: held) rest
  | held, .release lock :: rest => Follows rule (dropLock held lock) rest

/-- Actions that follow the rule and leave what is held as it was. -/
def Keeps (rule : List (Lock × LockMode) → Lock → LockMode → Prop) (held : List (Lock × LockMode))
    (actions : List (LockAction Lock)) : Prop :=
  Follows rule held actions ∧ heldAfter held actions = held

/-- Actions under a lock. -/
def withLock (lock : Lock) (mode : LockMode) (body : List (LockAction Lock)) :
    List (LockAction Lock) :=
  .acquire lock mode :: (body ++ [.release lock])

variable {rule : List (Lock × LockMode) → Lock → LockMode → Prop} {held : List (Lock × LockMode)}
  {first second body : List (LockAction Lock)} {lock : Lock} {mode : LockMode}

theorem heldAfter_append (held : List (Lock × LockMode)) (first second : List (LockAction Lock)) :
    heldAfter held (first ++ second) = heldAfter (heldAfter held first) second := by
  induction first generalizing held with
  | nil => rfl
  | cons action rest inductionHypothesis =>
    cases action with
    | acquire lock mode => exact inductionHypothesis _
    | release lock => exact inductionHypothesis _

theorem follows_append : Follows rule held (first ++ second) ↔
    Follows rule held first ∧ Follows rule (heldAfter held first) second := by
  induction first generalizing held with
  | nil => exact (iff_of_eq (true_and _)).symm
  | cons action rest inductionHypothesis =>
    cases action with
    | acquire lock mode =>
      rw [List.cons_append, Follows, Follows, heldAfter, inductionHypothesis, and_assoc]
    | release lock =>
      rw [List.cons_append, Follows, Follows, heldAfter, inductionHypothesis]

theorem Keeps.nil : Keeps rule held [] := ⟨trivial, rfl⟩

theorem Keeps.append (keepsFirst : Keeps rule held first) (keepsSecond : Keeps rule held second) :
    Keeps rule held (first ++ second) := by
  refine ⟨follows_append.mpr ⟨keepsFirst.1, ?_⟩, ?_⟩
  · rw [keepsFirst.2]
    exact keepsSecond.1
  · rw [heldAfter_append, keepsFirst.2, keepsSecond.2]

theorem Keeps.flatMap {Item : Type} {items : List Item} {actions : Item → List (LockAction Lock)}
    (each : ∀ item ∈ items, Keeps rule held (actions item)) :
    Keeps rule held (items.flatMap actions) := by
  induction items with
  | nil => exact .nil
  | cons item rest inductionHypothesis =>
    obtain ⟨one, others⟩ := List.forall_mem_cons.mp each
    exact one.append (inductionHypothesis others)

theorem Keeps.withLock (allowed : rule held lock mode) (free : ∀ entry ∈ held, entry.1 ≠ lock)
    (keeps : Keeps rule ((lock, mode) :: held) body) :
    Keeps rule held (withLock lock mode body) := by
  have dropped : dropLock ((lock, mode) :: held) lock = held := by
    unfold dropLock
    rw [List.filter_cons_of_neg (by simp)]
    exact List.filter_eq_self.mpr fun entry member => decide_eq_true (free entry member)
  refine ⟨⟨allowed, follows_append.mpr ⟨keeps.1, trivial⟩⟩, ?_⟩
  rw [Base.withLock, heldAfter, heldAfter_append, keeps.2]
  exact dropped

/-- When every operation follows the rule, every thread does. -/
theorem follows_step (programs : ∀ operation, Follows rule [] (program operation))
    (all : ∀ thread ∈ threads, Follows rule thread.held thread.remaining)
    (enabled : (lockMachine program).step threads event = some next) :
    ∀ thread ∈ next, Follows rule thread.held thread.remaining := by
  intro thread member
  rcases lockMachine_step enabled with ⟨operation, -, rfl⟩ |
    ⟨index, before, after, -, found, steps, rfl, -⟩
  · rcases List.mem_append.mp member with old | new
    · exact all thread old
    · cases List.mem_singleton.mp new
      exact programs operation
  · rcases List.mem_or_eq_of_mem_set member with old | rfl
    · exact all thread old
    · have follows := all before (List.mem_of_getElem? found)
      cases steps with
      | acquire held lock mode rest => exact follows.2
      | release held lock rest => exact follows

/-! ### Locks in opposite order -/

/-- The locks that are taken before a lock is given back. -/
def takenUnder (outer : Lock) : List (LockAction Lock) → List Lock
  | [] => []
  | .acquire lock _ :: rest => lock :: takenUnder outer rest
  | .release lock :: rest => if lock = outer then [] else takenUnder outer rest

/-- A thread holds the outer lock and takes the inner one before it gives the outer one back. -/
def LockThread.Nests (thread : LockThread Lock) (outer inner : Lock) : Prop :=
  outer ∈ thread.held.map Prod.fst ∧ inner ∈ takenUnder outer thread.remaining

instance (thread : LockThread Lock) (outer inner : Lock) : Decidable (thread.Nests outer inner) :=
  inferInstanceAs (Decidable (_ ∧ _))

/-- Two threads hold one of two locks each, and each takes the other's. -/
def Opposed (threads : List (LockThread Lock)) : Prop :=
  ∃ first ∈ threads, ∃ second ∈ threads, ∃ outer inner, outer ≠ inner ∧
    first.Nests outer inner ∧ second.Nests inner outer

/-- What a thread takes next, and what it takes under that, is taken by no thread the other way
round. -/
def LockThread.Spares (thread : LockThread Lock) (threads : List (LockThread Lock)) : Prop :=
  match thread.remaining with
  | .acquire outer _ :: rest =>
    ∀ inner ∈ takenUnder outer rest, ∀ other ∈ threads, ¬other.Nests inner outer
  | _ => True

/-- The guard: a lock under which others are taken is taken only while no thread that holds one of
these will take the lock under it. -/
def SparesNested (threads : List (LockThread Lock)) : LockEvent Operation → Prop
  | .start _ => True
  | .advance index => ∀ thread ∈ threads[index]?, thread.Spares threads

instance (thread : LockThread Lock) (threads : List (LockThread Lock)) :
    Decidable (thread.Spares threads) :=
  match thread with
  | ⟨_, .acquire outer _ :: rest⟩ =>
    inferInstanceAs (Decidable
      (∀ inner ∈ takenUnder outer rest, ∀ other ∈ threads, ¬other.Nests inner outer))
  | ⟨_, []⟩ => .isTrue trivial
  | ⟨_, .release _ :: _⟩ => .isTrue trivial

instance (threads : List (LockThread Lock)) (event : LockEvent Operation) :
    Decidable (SparesNested threads event) :=
  match event with
  | .start _ => .isTrue trivial
  | .advance index =>
    inferInstanceAs (Decidable (∀ thread ∈ threads[index]?, thread.Spares threads))

/-- A step brings a lock under another one only by taking the other one. -/
theorem LockThread.Next.nests {before after : LockThread Lock} (steps : before.Next after)
    {outer inner : Lock} (nests : after.Nests outer inner) : before.Nests outer inner ∨
      ∃ held mode rest, before = ⟨held, .acquire outer mode :: rest⟩ ∧
        inner ∈ takenUnder outer rest := by
  cases steps with
  | acquire held lock mode rest =>
    obtain ⟨isHeld, isTaken⟩ := nests
    rcases List.mem_cons.mp isHeld with rfl | old
    · exact .inr ⟨held, mode, rest, rfl, isTaken⟩
    · exact .inl ⟨old, List.mem_cons_of_mem _ isTaken⟩
  | release held lock rest =>
    obtain ⟨isHeld, isTaken⟩ := nests
    obtain ⟨entry, kept, rfl⟩ := List.mem_map.mp isHeld
    obtain ⟨old, different⟩ := List.mem_filter.mp kept
    have stays : lock ≠ entry.1 := fun same => of_decide_eq_true different same.symm
    refine .inl ⟨List.mem_map_of_mem old, ?_⟩
    rw [takenUnder, if_neg stays]
    exact isTaken

/-- Guarded steps keep locks from being taken in opposite order. -/
theorem not_opposed_step (free : ¬Opposed threads) (spares : SparesNested threads event)
    (enabled : (lockMachine program).step threads event = some next) : ¬Opposed next := by
  rcases lockMachine_step enabled with ⟨operation, -, rfl⟩ |
    ⟨index, before, after, rfl, found, steps, rfl, -⟩
  · have fresh : ∀ outer inner, ¬(⟨[], program operation⟩ : LockThread Lock).Nests outer inner :=
      fun _ _ nests => List.not_mem_nil nests.1
    rintro ⟨first, inFirst, second, inSecond, outer, inner, different, nestsFirst, nestsSecond⟩
    have old : ∀ {thread outer inner}, thread ∈ threads ++ [⟨[], program operation⟩] →
        thread.Nests outer inner → thread ∈ threads := by
      intro thread outer inner member nests
      rcases List.mem_append.mp member with known | new
      · exact known
      · cases List.mem_singleton.mp new
        exact absurd nests (fresh outer inner)
    exact free ⟨first, old inFirst nestsFirst, second, old inSecond nestsSecond, outer, inner,
      different, nestsFirst, nestsSecond⟩
  · have member := List.mem_of_getElem? found
    -- each of the two nestings was there before or is new, and both are not new
    have origin : ∀ {thread outer inner}, thread ∈ threads.set index after →
        thread.Nests outer inner → (∃ old ∈ threads, old.Nests outer inner) ∨
          ∃ held mode rest, before = ⟨held, .acquire outer mode :: rest⟩ ∧
            inner ∈ takenUnder outer rest := by
      intro thread outer inner inNext nests
      rcases List.mem_or_eq_of_mem_set inNext with old | rfl
      · exact .inl ⟨thread, old, nests⟩
      · exact (steps.nests nests).imp_left fun old => ⟨before, member, old⟩
    have spared : ∀ {held outer mode rest}, before = ⟨held, .acquire outer mode :: rest⟩ →
        ∀ inner ∈ takenUnder outer rest, ∀ other ∈ threads, ¬other.Nests inner outer := by
      rintro held outer mode rest rfl
      exact spares _ found
    rintro ⟨first, inFirst, second, inSecond, outer, inner, different, nestsFirst, nestsSecond⟩
    rcases origin inFirst nestsFirst with ⟨old, isOld, nests⟩ | ⟨held, mode, rest, isBefore, taken⟩
    · rcases origin inSecond nestsSecond with ⟨other, isOther, opposite⟩ |
        ⟨held, mode, rest, isBefore, taken⟩
      · exact free ⟨old, isOld, other, isOther, outer, inner, different, nests, opposite⟩
      · exact spared isBefore outer taken old isOld nests
    · rcases origin inSecond nestsSecond with ⟨other, isOther, opposite⟩ |
        ⟨otherHeld, otherMode, otherRest, isBeforeToo, -⟩
      · exact spared isBefore inner taken other isOther opposite
      · cases isBefore.symm.trans isBeforeToo
        exact different rfl

end Vnt.Base
