/-
This file embeds the task groups of the client. A group keeps the join handles of its tasks under a
lock, and every task keeps a guard that takes its handle out when the task ends. Each critical
section, each notification and each drop of a future or a guard is one event, so a list of events
is one interleaving. A task that was polled drops its future before its guard; one that is aborted
before it was polled drops what it captured in order, the guard first. A waiter looks at the group
and then asks to be notified, and a notification reaches only those who have asked. Whoever waits
holds the group, so its guards always find it.
-/

import Mathlib.Data.Finset.Basic
import Vnt.Base.Machine
import Vnt.Base.Map

namespace Vnt.Client

open Vnt.Base

abbrev TaskId : Type := Nat

abbrev WaiterId : Type := Nat

/-- How far the guard of a task is: it is held, it has taken the last handle out and has still to
notify the waiters, or it is gone. -/
inductive TaskGuard where
  | held
  | notifying
  | dropped
  deriving DecidableEq, Repr

/-- A task the group spawned. Its handle is taken when `TaskGroup::stop` or `SubTask::stop` takes
it out of the map. -/
structure Task where
  polled : Bool
  taken : Bool
  aborted : Bool
  dropped : Bool
  guard : TaskGuard
  deriving DecidableEq, Repr

/-- A task that was just spawned. -/
def Task.new : Task := ⟨false, false, false, false, .held⟩

/-- The guard of a task is dropped next: after the future when that was polled, else when the task
is aborted. -/
def Task.dropsGuard (task : Task) : Prop :=
  task.guard = .held ∧ (task.polled = true → task.dropped = true) ∧
    (task.polled = false → task.aborted = true)

instance instDecidableDropsGuard (task : Task) : Decidable task.dropsGuard :=
  inferInstanceAs (Decidable (_ ∧ _))

/-- How far `wait_all_stopped` is: about to look at the group, about to ask for a notification,
waiting for one, or returned. -/
inductive Waiter where
  | checking
  | checked
  | blocked
  | returned
  deriving DecidableEq, Repr

/-- A waiter after `notify_waiters`. -/
def Waiter.notified : Waiter → Waiter
  | .blocked => .checking
  | phase => phase

/-- `TaskGroupInner` with its tasks, the handles that `SubTask::stop` has taken out and has still
to abort, and the calls of `wait_all_stopped`. -/
structure TaskGroup where
  stopped : Bool
  tasks : Finset TaskId
  spawned : Map TaskId Task
  stopping : Finset TaskId
  waiters : Map WaiterId Waiter

inductive GroupEvent where
  | spawn (id : TaskId)
  | poll (id : TaskId)
  | dropFuture (id : TaskId)
  | removeTask (id : TaskId)
  | notifyWaiters (id : TaskId)
  | stop
  | takeHandle (id : TaskId)
  | abort (id : TaskId)
  | wait (waiter : WaiterId)
  | check (waiter : WaiterId)
  | register (waiter : WaiterId)
  | leave (waiter : WaiterId)
  deriving DecidableEq, Repr

namespace TaskGroup

/-- `TaskGroupInner::new`. -/
def new : TaskGroup := ⟨false, ∅, ∅, ∅, ∅⟩

/-- `TaskGroupInner::all_tasks_stopped`. -/
def allTasksStopped (group : TaskGroup) : Bool := group.stopped && decide (group.tasks = ∅)

def setTask (group : TaskGroup) (id : TaskId) (task : Task) : TaskGroup :=
  { group with spawned := group.spawned.insert id task }

def setWaiter (group : TaskGroup) (waiter : WaiterId) (phase : Waiter) : TaskGroup :=
  { group with waiters := group.waiters.insert waiter phase }

/-- `TaskGroupInner::spawn`; a stopped group spawns nothing. -/
def spawn (group : TaskGroup) (id : TaskId) : Option TaskGroup :=
  match group.spawned.lookup id with
  | some _ => none
  | none =>
    if group.stopped then some group
    else some { group.setTask id .new with tasks := insert id group.tasks }

/-- The runtime polls a future for the first time. -/
def poll (group : TaskGroup) (id : TaskId) (task : Task) : Option TaskGroup :=
  if task.polled || task.aborted then none else some (group.setTask id { task with polled := true })

/-- A future is dropped: it completes or is cancelled, and if it was never polled, after its
guard. -/
def dropFuture (group : TaskGroup) (id : TaskId) (task : Task) : Option TaskGroup :=
  if task.dropped = false ∧ (task.polled = true ∨ task.guard = .dropped) then
    some (group.setTask id { task with dropped := true })
  else none

/-- The critical section of `TaskGroupInner::remove_task`, when the guard of a task is dropped. -/
def removeTask (group : TaskGroup) (id : TaskId) (task : Task) : Option TaskGroup :=
  if task.dropsGuard then
    let tasks := group.tasks.erase id
    if tasks = ∅ then
      some { group.setTask id { task with guard := .notifying } with
        stopped := true
        tasks := tasks }
    else some { group.setTask id { task with guard := .dropped } with tasks := tasks }
  else none

/-- `notify_waiters`, after the critical section of `TaskGroupInner::remove_task`. -/
def notifyWaiters (group : TaskGroup) (id : TaskId) (task : Task) : Option TaskGroup :=
  if task.guard = .notifying then
    some { group.setTask id { task with guard := .dropped } with
      waiters := group.waiters.retain fun _ phase => some (Waiter.notified phase) }
  else none

/-- `TaskGroupInner::stop`: every handle is taken out and aborted. -/
def stop (group : TaskGroup) : TaskGroup :=
  { group with
    stopped := true
    tasks := ∅
    spawned := group.spawned.retain fun id task =>
      some (if id ∈ group.tasks then { task with taken := true, aborted := true } else task) }

/-- `TaskGroupInner::abort_task`, its critical section. -/
def takeHandle (group : TaskGroup) (id : TaskId) (task : Task) : TaskGroup :=
  if id ∈ group.tasks then
    { group.setTask id { task with taken := true } with
      tasks := group.tasks.erase id
      stopping := insert id group.stopping }
  else group

/-- `TaskGroupInner::abort_task` aborts the handle it has taken. -/
def abort (group : TaskGroup) (id : TaskId) (task : Task) : Option TaskGroup :=
  if id ∈ group.stopping then
    some { group.setTask id { task with aborted := true } with
      stopping := group.stopping.erase id }
  else none

/-- The state after one event, `none` when the event is not enabled. -/
def step (group : TaskGroup) : GroupEvent → Option TaskGroup
  | .spawn id => group.spawn id
  | .poll id => (group.spawned.lookup id).bind (group.poll id)
  | .dropFuture id => (group.spawned.lookup id).bind (group.dropFuture id)
  | .removeTask id => (group.spawned.lookup id).bind (group.removeTask id)
  | .notifyWaiters id => (group.spawned.lookup id).bind (group.notifyWaiters id)
  | .stop => some group.stop
  | .takeHandle id => (group.spawned.lookup id).map (group.takeHandle id)
  | .abort id => (group.spawned.lookup id).bind (group.abort id)
  | .wait waiter =>
    match group.waiters.lookup waiter with
    | none => some (group.setWaiter waiter .checking)
    | some _ => none
  | .check waiter =>
    match group.waiters.lookup waiter with
    | some .checking =>
      some (group.setWaiter waiter (if group.allTasksStopped then .returned else .checked))
    | _ => none
  | .register waiter =>
    match group.waiters.lookup waiter with
    | some .checked => some (group.setWaiter waiter .blocked)
    | _ => none
  | .leave waiter => some { group with waiters := group.waiters.erase waiter }

/-- A task group as a machine. -/
def machine : Machine TaskGroup GroupEvent where
  step := step

/-! ### Stopping and waiting -/

/-- Every future the group has spawned is dropped. -/
def AllDropped (group : TaskGroup) : Prop := ∀ task ∈ group.spawned.values, task.dropped = true

/-- Every guard is gone, with its notification. -/
def AllReleased (group : TaskGroup) : Prop :=
  ∀ task ∈ group.spawned.values, task.guard = .dropped

/-- A waiter that has returned found the group stopped with every future dropped. -/
def ReturnsStopped (group : TaskGroup) : Prop :=
  .returned ∈ group.waiters.values → group.stopped = true ∧ group.AllDropped

/-- A waiter is blocked while the group is stopped, every future is dropped and no step of the
group is left. -/
def Stuck (group : TaskGroup) : Prop :=
  .blocked ∈ group.waiters.values ∧ group.stopped = true ∧ group.AllDropped ∧
    group.AllReleased ∧ group.stopping = ∅

/-- Waiting ends, and not too early. -/
def WaitsRight (group : TaskGroup) : Prop := group.ReturnsStopped ∧ ¬group.Stuck

/-- The condition on a step. A waiter looks at a stopped group without handles only when the futures
whose handles were taken out are dropped. It does not ask for a notification after the last one of
a stopped group, and the group is not stopped from outside while somebody waits and no guard is left
to notify. -/
def Timely (group : TaskGroup) : GroupEvent → Prop
  | .check _ => group.allTasksStopped = true →
      ∀ task ∈ group.spawned.values, task.taken = true → task.dropped = true
  | .register _ => group.stopped = true → ¬group.AllReleased
  | .stop => group.AllReleased → .blocked ∉ group.waiters.values
  | _ => True

instance instDecidableAllDropped (group : TaskGroup) : Decidable group.AllDropped :=
  inferInstanceAs (Decidable (∀ task ∈ group.spawned.values, task.dropped = true))

instance instDecidableAllReleased (group : TaskGroup) : Decidable group.AllReleased :=
  inferInstanceAs (Decidable (∀ task ∈ group.spawned.values, task.guard = .dropped))

instance instDecidableWaitsRight (group : TaskGroup) : Decidable group.WaitsRight :=
  inferInstanceAs (Decidable ((.returned ∈ group.waiters.values →
    group.stopped = true ∧ group.AllDropped) ∧ ¬(.blocked ∈ group.waiters.values ∧
      group.stopped = true ∧ group.AllDropped ∧ group.AllReleased ∧ group.stopping = ∅)))

instance instDecidableTimely (group : TaskGroup) :
    ∀ event : GroupEvent, Decidable (group.Timely event)
  | .check _ => inferInstanceAs (Decidable (group.allTasksStopped = true →
      ∀ task ∈ group.spawned.values, task.taken = true → task.dropped = true))
  | .register _ => inferInstanceAs (Decidable (group.stopped = true → ¬group.AllReleased))
  | .stop => inferInstanceAs (Decidable (group.AllReleased → .blocked ∉ group.waiters.values))
  | .spawn _ | .poll _ | .dropFuture _ | .removeTask _ | .notifyWaiters _ | .takeHandle _ | .abort _
  | .wait _ | .leave _ => .isTrue trivial

/-! ### The invariant -/

/-- A handle is in the map, or it was taken out; without a guard the future is dropped, or the
handle was taken out; nothing else is aborted; and the map holds handles of guarded tasks only. -/
structure Handled (group : TaskGroup) : Prop where
  held : ∀ id task, group.spawned.lookup id = some task → task.guard = .held →
    id ∈ group.tasks ∨ task.taken = true
  ended : ∀ id task, group.spawned.lookup id = some task → task.guard ≠ .held →
    task.dropped = true ∨ task.taken = true
  aborts : ∀ id task, group.spawned.lookup id = some task →
    task.aborted = true ∨ id ∈ group.stopping → task.taken = true
  present : ∀ id ∈ group.tasks, ∃ task, group.spawned.lookup id = some task ∧ task.guard = .held
  stopping : ∀ id ∈ group.stopping, group.spawned.lookup id ≠ none

/-- The tasks are handled, a blocked waiter of a stopped group will be notified, and whoever has
returned was right. -/
structure Sound (group : TaskGroup) : Prop where
  handled : group.Handled
  awaited : .blocked ∈ group.waiters.values → group.stopped = true → ¬group.AllReleased
  returns : group.ReturnsStopped

variable {group next : TaskGroup} {id : TaskId} {task changed : Task}

theorem Sound.waitsRight (sound : group.Sound) : group.WaitsRight :=
  ⟨sound.returns, fun stuck => sound.awaited stuck.1 stuck.2.1 stuck.2.2.2.1⟩

theorem sound_new : new.Sound where
  handled := by refine ⟨?_, ?_, ?_, ?_, ?_⟩ <;> intro id <;> simp [new]
  awaited := fun blocked => by simp [new, Map.values] at blocked
  returns := fun returned => by simp [new, Map.values] at returned

/-- An event that changes one task keeps the tasks handled when that task stays so. -/
theorem Handled.insert (handled : group.Handled)
    (spawned : next.spawned = group.spawned.insert id changed)
    (held : changed.guard = .held → id ∈ next.tasks ∨ changed.taken = true)
    (ended : changed.guard ≠ .held → changed.dropped = true ∨ changed.taken = true)
    (aborts : changed.aborted = true ∨ id ∈ next.stopping → changed.taken = true)
    (present : id ∈ next.tasks → changed.guard = .held)
    (tasks : ∀ other, other ≠ id → (other ∈ next.tasks ↔ other ∈ group.tasks))
    (stopping : ∀ other, other ≠ id → other ∈ next.stopping → other ∈ group.stopping) :
    next.Handled := by
  have lookup (other : TaskId) : next.spawned.lookup other =
      if other = id then some changed else group.spawned.lookup other := by
    rw [spawned, Map.lookup_insert_eq]
  refine ⟨fun other found known isHeld => ?_, fun other found known noGuard => ?_,
    fun other found known stops => ?_, fun other member => ?_, fun other member => ?_⟩
  · rw [lookup] at known
    split at known
    · next same =>
      cases known
      exact same ▸ held isHeld
    · next different =>
      exact (handled.held other found known isHeld).imp_left (tasks other different).mpr
  · rw [lookup] at known
    split at known
    · cases known
      exact ended noGuard
    · exact handled.ended other found known noGuard
  · rw [lookup] at known
    split at known
    · next same =>
      cases known
      exact aborts (same ▸ stops)
    · next different =>
      exact handled.aborts other found known (stops.imp_right (stopping other different))
  · rw [lookup]
    split
    · next same => exact ⟨changed, rfl, present (same ▸ member)⟩
    · next different => exact handled.present other ((tasks other different).mp member)
  · rw [lookup]
    split
    · exact Option.some_ne_none changed
    · next different => exact handled.stopping other (stopping other different member)

/-- The futures stay dropped when one task is changed that keeps its own so. -/
theorem AllDropped.insert (dropped : group.AllDropped)
    (known : group.spawned.lookup id = some task)
    (spawned : next.spawned = group.spawned.insert id changed)
    (keeps : task.dropped = true → changed.dropped = true) : next.AllDropped := by
  intro found member
  obtain ⟨other, lookup⟩ := (Map.mem_values_iff _ _).mp member
  rw [spawned, Map.lookup_insert_eq] at lookup
  split at lookup
  · cases lookup
    exact keeps (dropped task ((Map.mem_values_iff _ _).mpr ⟨id, known⟩))
  · exact dropped found ((Map.mem_values_iff _ _).mpr ⟨other, lookup⟩)

/-- The guards were gone before when one task is changed that keeps its guard. -/
theorem AllReleased.of_insert (released : next.AllReleased)
    (known : group.spawned.lookup id = some task)
    (spawned : next.spawned = group.spawned.insert id changed) (same : changed.guard = task.guard) :
    group.AllReleased := by
  intro found member
  obtain ⟨other, lookup⟩ := (Map.mem_values_iff _ _).mp member
  by_cases own : other = id
  · subst own
    cases known.symm.trans lookup
    rw [← same]
    refine released changed ((Map.mem_values_iff _ _).mpr ⟨other, ?_⟩)
    rw [spawned]
    exact AList.lookup_insert _
  · refine released found ((Map.mem_values_iff _ _).mpr ⟨other, ?_⟩)
    rw [spawned]
    exact (AList.lookup_insert_ne own).trans lookup

/-- An event that changes one task keeps the waiters right when it leaves them, keeps a dropped
future, and does not release the last guard of a stopped group. -/
theorem Sound.insert (sound : group.Sound) (handled : next.Handled)
    (known : group.spawned.lookup id = some task)
    (spawned : next.spawned = group.spawned.insert id changed)
    (waiters : next.waiters = group.waiters) (stops : group.stopped = true → next.stopped = true)
    (keeps : task.dropped = true → changed.dropped = true)
    (released : next.stopped = true → next.AllReleased →
      group.stopped = true ∧ group.AllReleased) : next.Sound where
  handled := handled
  awaited := by
    intro blocked stopped allReleased
    rw [waiters] at blocked
    obtain ⟨before, gone⟩ := released stopped allReleased
    exact sound.awaited blocked before gone
  returns := by
    intro returned
    rw [waiters] at returned
    obtain ⟨stopped, dropped⟩ := sound.returns returned
    exact ⟨stops stopped, dropped.insert known spawned keeps⟩

/-! ### One step -/

theorem Sound.spawn (sound : group.Sound) (enabled : group.spawn id = some next) :
    next.Sound := by
  unfold TaskGroup.spawn at enabled
  split at enabled
  · cases enabled
  · next fresh =>
    split at enabled
    · cases enabled
      exact sound
    · next running =>
      cases enabled
      refine ⟨?_, fun _ stopped => absurd stopped running,
        fun returned => absurd (sound.returns returned).1 running⟩
      refine sound.handled.insert rfl (fun _ => .inl (Finset.mem_insert_self _ _))
        (fun noGuard => absurd rfl noGuard) ?_ (fun _ => rfl) (fun other different => ?_)
        (fun _ _ member => member)
      · rintro (aborted | stopping)
        · cases aborted
        · exact absurd fresh (sound.handled.stopping id stopping)
      · exact Finset.mem_insert.trans (or_iff_right different)

/-- An event that leaves the map and the guards alone, and aborts only what was taken out. -/
theorem Sound.keepGuard (sound : group.Sound) (known : group.spawned.lookup id = some task)
    (spawned : next.spawned = group.spawned.insert id changed) (tasks : next.tasks = group.tasks)
    (stopping : next.stopping ⊆ group.stopping) (waiters : next.waiters = group.waiters)
    (stopped : next.stopped = group.stopped) (guard : changed.guard = task.guard)
    (taken : changed.taken = task.taken) (keeps : task.dropped = true → changed.dropped = true)
    (aborts : changed.aborted = true → task.taken = true) : next.Sound := by
  have handled := sound.handled
  refine sound.insert ?_ known spawned waiters (fun before => stopped ▸ before) keeps
    fun after released => ⟨stopped ▸ after, released.of_insert known spawned guard⟩
  refine handled.insert spawned ?_ ?_ ?_ ?_ (fun _ _ => tasks ▸ Iff.rfl)
    fun _ _ member => stopping member
  · rw [guard, taken, tasks]
    exact handled.held id task known
  · rw [guard, taken]
    exact fun noGuard => (handled.ended id task known noGuard).imp_left keeps
  · rw [taken]
    rintro (aborted | member)
    · exact aborts aborted
    · exact handled.aborts id task known (.inr (stopping member))
  · intro member
    obtain ⟨found, lookup, isHeld⟩ := handled.present id (tasks ▸ member)
    cases known.symm.trans lookup
    exact guard.trans isHeld

theorem Sound.poll (sound : group.Sound) (known : group.spawned.lookup id = some task)
    (enabled : group.poll id task = some next) : next.Sound := by
  unfold TaskGroup.poll at enabled
  split at enabled
  · cases enabled
  · cases enabled
    exact sound.keepGuard known rfl rfl subset_rfl rfl rfl rfl rfl (fun dropped => dropped)
      fun aborted => sound.handled.aborts id task known (.inl aborted)

theorem Sound.dropFuture (sound : group.Sound) (known : group.spawned.lookup id = some task)
    (enabled : group.dropFuture id task = some next) : next.Sound := by
  unfold TaskGroup.dropFuture at enabled
  split at enabled
  · cases enabled
    exact sound.keepGuard known rfl rfl subset_rfl rfl rfl rfl rfl (fun _ => rfl)
      fun aborted => sound.handled.aborts id task known (.inl aborted)
  · cases enabled

theorem Sound.abort (sound : group.Sound) (known : group.spawned.lookup id = some task)
    (enabled : group.abort id task = some next) : next.Sound := by
  unfold TaskGroup.abort at enabled
  split at enabled
  · next member =>
    cases enabled
    exact sound.keepGuard known rfl rfl (Finset.erase_subset _ _) rfl rfl rfl rfl
      (fun dropped => dropped) fun _ => sound.handled.aborts id task known (.inr member)
  · cases enabled

/-- `SubTask::stop` takes a handle out; its task keeps the guard. -/
theorem Sound.takeHandle (sound : group.Sound) (known : group.spawned.lookup id = some task) :
    (group.takeHandle id task).Sound := by
  unfold TaskGroup.takeHandle
  split
  · refine sound.insert ?_ known rfl rfl (fun stopped => stopped) (fun dropped => dropped)
      fun stopped released => ⟨stopped, released.of_insert known rfl rfl⟩
    refine sound.handled.insert rfl (fun _ => .inr rfl) (fun _ => .inr rfl) (fun _ => rfl)
      (fun member => absurd rfl (Finset.mem_erase.mp member).1) (fun other different => ?_)
      fun other different member => ?_
    · exact Finset.mem_erase.trans (and_iff_right different)
    · exact (Finset.mem_insert.mp member).resolve_left different
  · exact sound

/-- When the guard of a task takes its handle out, another guard is left, or the waiters of a
stopped group are still to be notified. -/
theorem Sound.removeTask (sound : group.Sound) (known : group.spawned.lookup id = some task)
    (enabled : group.removeTask id task = some next) : next.Sound := by
  have handled := sound.handled
  unfold TaskGroup.removeTask at enabled
  split at enabled
  · next checks =>
    obtain ⟨isHeld, afterFuture, aborted⟩ := checks
    have released : task.dropped = true ∨ task.taken = true := by
      cases polled : task.polled with
      | true => exact .inl (afterFuture polled)
      | false => exact .inr (handled.aborts id task known (.inl (aborted polled)))
    have others : ∀ other, other ≠ id → (other ∈ group.tasks.erase id ↔ other ∈ group.tasks) :=
      fun other different => Finset.mem_erase.trans (and_iff_right different)
    have gone : id ∉ group.tasks.erase id := Finset.notMem_erase id group.tasks
    dsimp only at enabled
    split at enabled
    · cases enabled
      refine sound.insert ?_ known rfl rfl (fun _ => rfl) (fun dropped => dropped) ?_
      · exact handled.insert rfl nofun (fun _ => released) (handled.aborts id task known)
          (fun member => absurd member gone) others (fun _ _ member => member)
      · intro _ allReleased
        have notified := allReleased { task with guard := .notifying }
          ((Map.mem_values_iff _ _).mpr ⟨id, AList.lookup_insert _⟩)
        cases notified
    · next left =>
      cases enabled
      refine sound.insert ?_ known rfl rfl (fun stopped => stopped) (fun dropped => dropped) ?_
      · exact handled.insert rfl nofun (fun _ => released) (handled.aborts id task known)
          (fun member => absurd member gone) others (fun _ _ member => member)
      · intro _ allReleased
        obtain ⟨other, member⟩ := Finset.nonempty_iff_ne_empty.mpr left
        obtain ⟨different, before⟩ := Finset.mem_erase.mp member
        obtain ⟨found, lookup, stillHeld⟩ := handled.present other before
        have isReleased := allReleased found ((Map.mem_values_iff _ _).mpr
          ⟨other, (AList.lookup_insert_ne different).trans lookup⟩)
        cases stillHeld.symm.trans isReleased
  · cases enabled

/-- After a notification nobody is blocked. -/
theorem Sound.notifyWaiters (sound : group.Sound) (known : group.spawned.lookup id = some task)
    (enabled : group.notifyWaiters id task = some next) : next.Sound := by
  have handled := sound.handled
  unfold TaskGroup.notifyWaiters at enabled
  split at enabled
  · next notifying =>
    cases enabled
    have noGuard : task.guard ≠ .held := by
      rw [notifying]
      exact TaskGuard.noConfusion
    refine ⟨?_, fun blocked => ?_, fun returned => ?_⟩
    · refine handled.insert rfl nofun (fun _ => handled.ended id task known noGuard)
        (handled.aborts id task known) (fun member => ?_) (fun _ _ => Iff.rfl)
        (fun _ _ member => member)
      obtain ⟨found, lookup, isHeld⟩ := handled.present id member
      cases known.symm.trans lookup
      exact absurd isHeld noGuard
    · obtain ⟨waiter, lookup⟩ := (Map.mem_values_iff _ _).mp blocked
      rw [Map.lookup_retain] at lookup
      obtain ⟨phase, -, same⟩ := Option.bind_eq_some_iff.mp lookup
      cases phase <;> cases same
    · obtain ⟨waiter, lookup⟩ := (Map.mem_values_iff _ _).mp returned
      rw [Map.lookup_retain] at lookup
      obtain ⟨phase, was, same⟩ := Option.bind_eq_some_iff.mp lookup
      cases phase with
      | returned =>
        obtain ⟨stopped, dropped⟩ := sound.returns ((Map.mem_values_iff _ _).mpr ⟨waiter, was⟩)
        exact ⟨stopped, dropped.insert known rfl fun isDropped => isDropped⟩
      | _ => cases same
  · cases enabled

/-- What stopping leaves of a task. -/
theorem lookup_stop (group : TaskGroup) (id : TaskId) :
    group.stop.spawned.lookup id = (group.spawned.lookup id).map fun task =>
      if id ∈ group.tasks then { task with taken := true, aborted := true } else task := by
  refine (Map.lookup_retain ..).trans ?_
  cases group.spawned.lookup id <;> rfl

/-- `TaskGroup::stop` takes every handle out; the guards stay. -/
theorem Sound.stop (sound : group.Sound) (timely : group.Timely .stop) : group.stop.Sound := by
  have handled := sound.handled
  have after : ∀ id found, group.stop.spawned.lookup id = some found →
      ∃ task, group.spawned.lookup id = some task ∧ found.guard = task.guard ∧
        found.dropped = task.dropped ∧ (task.taken = true → found.taken = true) ∧
          (id ∈ group.tasks → found.taken = true) ∧
            (found.aborted = true → id ∈ group.tasks ∨ task.aborted = true) := by
    intro id found lookup
    rw [lookup_stop] at lookup
    obtain ⟨task, known, rfl⟩ := Option.map_eq_some_iff.mp lookup
    refine ⟨task, known, ?_⟩
    split
    · next member => exact ⟨rfl, rfl, fun _ => rfl, fun _ => rfl, fun _ => .inl member⟩
    · next absent =>
      exact ⟨rfl, rfl, fun taken => taken, fun member => absurd member absent, .inr⟩
  refine ⟨⟨fun id found lookup isHeld => ?_, fun id found lookup noGuard => ?_,
    fun id found lookup stops => ?_, fun _ member => absurd member (Finset.notMem_empty _),
    fun id member => ?_⟩, fun blocked _ released => ?_, fun returned => ?_⟩
  · obtain ⟨task, known, guard, -, keeps, takes, -⟩ := after id found lookup
    exact .inr ((handled.held id task known (guard.symm.trans isHeld)).elim takes keeps)
  · obtain ⟨task, known, guard, dropped, keeps, -⟩ := after id found lookup
    rw [guard] at noGuard
    rw [dropped]
    exact (handled.ended id task known noGuard).imp_right keeps
  · obtain ⟨task, known, -, -, keeps, takes, aborts⟩ := after id found lookup
    rcases stops with aborted | stopping
    · exact (aborts aborted).elim takes fun before =>
        keeps (handled.aborts id task known (.inl before))
    · exact keeps (handled.aborts id task known (.inr stopping))
  · rw [lookup_stop]
    obtain ⟨task, known⟩ := Option.ne_none_iff_exists'.mp (handled.stopping id member)
    rw [known]
    exact Option.some_ne_none _
  · refine timely (fun task member => ?_) blocked
    obtain ⟨id, known⟩ := (Map.mem_values_iff _ _).mp member
    have lookup := lookup_stop group id
    rw [known, Option.map_some] at lookup
    have gone := released _ ((Map.mem_values_iff _ _).mpr ⟨id, lookup⟩)
    split at gone <;> exact gone
  · obtain ⟨-, dropped⟩ := sound.returns returned
    refine ⟨rfl, fun found member => ?_⟩
    obtain ⟨id, lookup⟩ := (Map.mem_values_iff _ _).mp member
    obtain ⟨task, known, -, same, -⟩ := after id found lookup
    rw [same]
    exact dropped task ((Map.mem_values_iff _ _).mpr ⟨id, known⟩)

/-- A waiter goes on: it may be blocked when a guard is left, and it may return when the group is
stopped with every future dropped. -/
theorem Sound.setWaiter (sound : group.Sound) (waiter : WaiterId) {phase : Waiter}
    (blocks : phase = .blocked → group.stopped = true → ¬group.AllReleased)
    (returns : phase = .returned → group.stopped = true ∧ group.AllDropped) :
    (group.setWaiter waiter phase).Sound := by
  have placed : ∀ other, other ∈ (group.setWaiter waiter phase).waiters.values →
      other = phase ∨ other ∈ group.waiters.values := by
    intro other member
    obtain ⟨key, lookup⟩ := (Map.mem_values_iff _ _).mp member
    refine (Classical.em (key = waiter)).imp (fun same => ?_) fun different => ?_
    · rw [same] at lookup
      exact (Option.some.inj ((AList.lookup_insert _).symm.trans lookup)).symm
    · exact (Map.mem_values_iff _ _).mpr
        ⟨key, (AList.lookup_insert_ne different).symm.trans lookup⟩
  refine ⟨⟨sound.handled.held, sound.handled.ended, sound.handled.aborts, sound.handled.present,
    sound.handled.stopping⟩, fun blocked => ?_, fun returned => ?_⟩
  · exact (placed _ blocked).elim (fun same => blocks same.symm) sound.awaited
  · exact (placed _ returned).elim (fun same => returns same.symm) sound.returns

/-- A group that is stopped without handles has dropped every future that was not taken out. -/
theorem Handled.allDropped (handled : group.Handled) (stopped : group.allTasksStopped = true)
    (taken : ∀ task ∈ group.spawned.values, task.taken = true → task.dropped = true) :
    group.stopped = true ∧ group.AllDropped := by
  obtain ⟨isStopped, isEmpty⟩ := Bool.and_eq_true_iff.mp stopped
  have noHandle := of_decide_eq_true isEmpty
  refine ⟨isStopped, fun task member => ?_⟩
  obtain ⟨id, known⟩ := (Map.mem_values_iff _ _).mp member
  by_cases isHeld : task.guard = .held
  · refine taken task member ((handled.held id task known isHeld).resolve_left fun inMap => ?_)
    rw [noHandle] at inMap
    cases inMap
  · exact (handled.ended id task known isHeld).elim (fun dropped => dropped) (taken task member)

/-- Every event that meets the condition keeps the group sound. -/
theorem Sound.step (sound : group.Sound) {event : GroupEvent} (timely : group.Timely event)
    (enabled : group.step event = some next) : next.Sound := by
  cases event with
  | spawn id => exact sound.spawn enabled
  | poll id =>
    obtain ⟨task, known, polls⟩ := Option.bind_eq_some_iff.mp enabled
    exact sound.poll known polls
  | dropFuture id =>
    obtain ⟨task, known, drops⟩ := Option.bind_eq_some_iff.mp enabled
    exact sound.dropFuture known drops
  | removeTask id =>
    obtain ⟨task, known, removes⟩ := Option.bind_eq_some_iff.mp enabled
    exact sound.removeTask known removes
  | notifyWaiters id =>
    obtain ⟨task, known, notifies⟩ := Option.bind_eq_some_iff.mp enabled
    exact sound.notifyWaiters known notifies
  | stop =>
    cases enabled
    exact sound.stop timely
  | takeHandle id =>
    obtain ⟨task, known, rfl⟩ := Option.map_eq_some_iff.mp enabled
    exact sound.takeHandle known
  | abort id =>
    obtain ⟨task, known, aborts⟩ := Option.bind_eq_some_iff.mp enabled
    exact sound.abort known aborts
  | wait waiter =>
    simp only [TaskGroup.step] at enabled
    split at enabled <;> cases enabled
    exact sound.setWaiter waiter nofun nofun
  | check waiter =>
    simp only [TaskGroup.step] at enabled
    split at enabled <;> cases enabled
    refine sound.setWaiter waiter (fun same => ?_) fun same => ?_
    · split at same <;> cases same
    · split at same
      · next stopped => exact sound.handled.allDropped stopped (timely stopped)
      · cases same
  | register waiter =>
    simp only [TaskGroup.step] at enabled
    split at enabled <;> cases enabled
    exact sound.setWaiter waiter (fun _ => timely) nofun
  | leave waiter =>
    cases enabled
    have placed : ∀ other, other ∈ Map.values (group.waiters.erase waiter) →
        other ∈ group.waiters.values := by
      intro other member
      obtain ⟨key, lookup⟩ := (Map.mem_values_iff _ _).mp member
      exact (Map.mem_values_iff _ _).mpr ⟨key, (Map.lookup_erase_eq_some.mp lookup).2⟩
    exact ⟨⟨sound.handled.held, sound.handled.ended, sound.handled.aborts, sound.handled.present,
      sound.handled.stopping⟩, fun blocked => sound.awaited (placed _ blocked),
      fun returned => sound.returns (placed _ returned)⟩

/-! ### Runs -/

/-- In every run whose steps all meet the condition, waiting ends, and not too early. -/
theorem throughout_waitsRight (events : List GroupEvent)
    (guarded : machine.Guarded Timely new events) : machine.Throughout WaitsRight new events :=
  (guarded.throughout (fun _ _ _ sound timely enabled => sound.step timely enabled)
    sound_new).mono fun _ => Sound.waitsRight

/-- A task is stopped while somebody waits, and the waiter looks again when its future is
dropped. -/
theorem waitsRight_stop : machine.Throughout WaitsRight new
    [.spawn 0, .poll 0, .wait 0, .check 0, .register 0, .stop, .dropFuture 0, .removeTask 0,
      .notifyWaiters 0, .check 0] :=
  throughout_waitsRight _ (by decide)

/-- A waiter returns while the future of a stopped task is still there; one that asks after the last
notification stays blocked; and so does one whose group is stopped when no task is left. -/
theorem not_waitsRight :
    ¬machine.Throughout WaitsRight new [.spawn 0, .poll 0, .wait 0, .stop, .check 0] ∧
      ¬machine.Throughout WaitsRight new
        [.spawn 0, .poll 0, .wait 0, .check 0, .dropFuture 0, .removeTask 0, .notifyWaiters 0,
          .register 0] ∧
      ¬machine.Throughout WaitsRight new [.wait 0, .check 0, .register 0, .stop] := by
  have wrong {events : List GroupEvent}
      (ends : ∃ group, machine.run new events = some group ∧ ¬group.WaitsRight) :
      ¬machine.Throughout WaitsRight new events := by
    obtain ⟨group, reaches, isWrong⟩ := ends
    exact fun throughout => isWrong (throughout.final reaches)
  refine ⟨wrong ⟨_, rfl, ?_⟩, wrong ⟨_, rfl, ?_⟩, wrong ⟨_, rfl, ?_⟩⟩ <;> decide

end TaskGroup

end Vnt.Client
