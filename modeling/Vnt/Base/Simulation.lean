/-
This file relates two machines, one of which says more than the other. A relation between their
states is a simulation when each step of the first machine that is allowed is matched by a run of
the second, which may be empty. Every guarded run of the first machine is then matched by a run of
the second.
-/

import Vnt.Base.Machine

namespace Vnt.Base

variable {Concrete Abstract ConcreteEvent AbstractEvent : Type}

/-- Each allowed step of the first machine is matched by a run of the second. -/
def Simulates (concrete : Machine Concrete ConcreteEvent)
    (abstract : Machine Abstract AbstractEvent)
    (allowed : Concrete → ConcreteEvent → Prop) (shown : ConcreteEvent → List AbstractEvent)
    (represents : Concrete → Abstract → Prop) : Prop :=
  ∀ {state : Concrete} {image : Abstract} {event : ConcreteEvent} {next : Concrete},
    represents state image → allowed state event → concrete.step state event = some next →
      ∃ after, abstract.run image (shown event) = some after ∧ represents next after

variable {concrete : Machine Concrete ConcreteEvent} {abstract : Machine Abstract AbstractEvent}
  {allowed : Concrete → ConcreteEvent → Prop} {represents : Concrete → Abstract → Prop}

/-- Each allowed step of the first machine is matched by a step of the second. -/
theorem simulates_of_steps {shown : ConcreteEvent → AbstractEvent}
    (steps : ∀ {state : Concrete} {image : Abstract} {event : ConcreteEvent} {next : Concrete},
      represents state image → allowed state event → concrete.step state event = some next →
        ∃ after, abstract.step image (shown event) = some after ∧ represents next after) :
    Simulates concrete abstract allowed (fun event => [shown event]) represents := by
  intro state image event next related permitted enabled
  obtain ⟨after, matched, kept⟩ := steps related permitted enabled
  exact ⟨after, Machine.run_cons_eq_some.mpr ⟨after, matched, rfl⟩, kept⟩

/-- Every guarded run of the first machine is matched by a run of the second. -/
theorem Simulates.run {shown : ConcreteEvent → List AbstractEvent}
    (simulates : Simulates concrete abstract allowed shown represents) {state final : Concrete}
    {image : Abstract} {events : List ConcreteEvent} (related : represents state image)
    (guarded : concrete.Guarded allowed state events)
    (reaches : concrete.run state events = some final) :
    ∃ after, abstract.run image (events.flatMap shown) = some after ∧ represents final after := by
  induction events generalizing state image with
  | nil =>
    cases reaches
    exact ⟨image, rfl, related⟩
  | cons event rest inductionHypothesis =>
    obtain ⟨permitted, later⟩ := guarded
    obtain ⟨next, enabled, runs⟩ := Machine.run_cons_eq_some.mp reaches
    obtain ⟨middle, matched, kept⟩ := simulates related permitted enabled
    obtain ⟨after, follows, shows⟩ := inductionHypothesis kept (later next enabled) runs
    refine ⟨after, ?_, shows⟩
    rw [List.flatMap_cons, Machine.run_append, matched]
    exact follows

/-- When each event of the first machine shows one of the second at most, what the second machine
meets at some time in the run that is shown is met at that time by an image of the first. -/
theorem Simulates.sometime {shown : ConcreteEvent → List AbstractEvent} {property : Abstract → Prop}
    (simulates : Simulates concrete abstract allowed shown represents)
    (single : ∀ event, (shown event).length ≤ 1) {state final : Concrete} {image : Abstract}
    {events : List ConcreteEvent} (related : represents state image)
    (guarded : concrete.Guarded allowed state events)
    (reaches : concrete.run state events = some final)
    (met : abstract.Sometime property image (events.flatMap shown)) :
    concrete.Sometime (fun state => ∃ image, represents state image ∧ property image) state
      events := by
  obtain ⟨past, rest, middle, split, runs, holds⟩ := met
  induction events generalizing state image past with
  | nil =>
    obtain ⟨rfl, rfl⟩ := List.append_eq_nil_iff.mp split.symm
    cases runs
    exact ⟨[], [], state, rfl, rfl, middle, related, holds⟩
  | cons event later inductionHypothesis =>
    obtain ⟨permitted, guardedLater⟩ := guarded
    obtain ⟨next, enabled, runsLater⟩ := Machine.run_cons_eq_some.mp reaches
    obtain ⟨after, matched, kept⟩ := simulates related permitted enabled
    cases past with
    | nil =>
      cases runs
      exact ⟨[], event :: later, state, rfl, rfl, middle, related, holds⟩
    | cons first others =>
      -- the event shows nothing, or the first of the events in the past
      have goesOn : ∃ remaining, later.flatMap shown = remaining ++ rest ∧
          abstract.run after remaining = some middle := by
        rw [List.flatMap_cons] at split
        cases shows : shown event with
        | nil =>
          rw [shows] at split matched
          cases matched
          exact ⟨first :: others, split, runs⟩
        | cons head tail =>
          have short := single event
          rw [shows, List.length_cons] at short
          obtain rfl : tail = [] := List.length_eq_zero_iff.mp (by omega)
          rw [shows] at split matched
          obtain ⟨rfl, same⟩ := List.cons_eq_cons.mp split
          obtain ⟨reached, stepped, runsOthers⟩ := Machine.run_cons_eq_some.mp runs
          obtain ⟨also, alsoStepped, isAfter⟩ := Machine.run_cons_eq_some.mp matched
          cases stepped.symm.trans alsoStepped
          cases isAfter
          exact ⟨others, same, runsOthers⟩
      obtain ⟨remaining, same, runsRemaining⟩ := goesOn
      obtain ⟨before, behind, seen, isSplit, reachesSeen, shows⟩ :=
        inductionHypothesis kept (guardedLater next enabled) runsLater remaining same runsRemaining
      exact ⟨event :: before, behind, seen, congrArg (event :: ·) isSplit,
        Machine.run_cons_eq_some.mpr ⟨next, enabled, reachesSeen⟩, shows⟩

end Vnt.Base
