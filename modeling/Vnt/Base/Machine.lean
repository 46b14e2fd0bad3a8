/-
This file fixes what a run of a machine is. A machine is a partial step function: an event
that is not enabled in a state has no successor. Two properties of a run matter below. A
run is guarded when each of its steps meets a condition in the state it starts from, and a
property holds throughout a run when it holds in every state the run visits. An invariant
that every guarded step preserves therefore holds throughout every guarded run, and when the
guard is exactly what one step needs, the two notions coincide.
-/

import Mathlib.Data.List.Basic
import Mathlib.Data.List.Induction

namespace Vnt.Base

/-- A machine whose events may be disabled: `step state event` is `none` then. -/
structure Machine (State Event : Type) where
  step : State → Event → Option State

namespace Machine

variable {State Event : Type}

/-- The state after a list of events, `none` when one of them is disabled. -/
def run (machine : Machine State Event) : State → List Event → Option State
  | state, [] => some state
  | state, event :: rest => (machine.step state event).bind fun next => machine.run next rest

/-- Every step of the run meets `allowed` in the state it starts from. -/
def Guarded (machine : Machine State Event) (allowed : State → Event → Prop) :
    State → List Event → Prop
  | _, [] => True
  | state, event :: rest =>
    allowed state event ∧
      ∀ next, machine.step state event = some next → machine.Guarded allowed next rest

/-- The property holds in every state the run visits, the first and the last included. -/
def Throughout (machine : Machine State Event) (property : State → Prop) :
    State → List Event → Prop
  | state, [] => property state
  | state, event :: rest =>
    property state ∧
      ∀ next, machine.step state event = some next → machine.Throughout property next rest

variable {machine : Machine State Event} {allowed : State → Event → Prop}
  {property : State → Prop}

/-- Whether a run is guarded can be computed. -/
instance instDecidableGuarded [∀ state event, Decidable (allowed state event)] :
    ∀ (state : State) (events : List Event), Decidable (machine.Guarded allowed state events)
  | _, [] => .isTrue trivial
  | state, event :: rest =>
    match outcome : machine.step state event with
    | none => decidable_of_iff (allowed state event) (by
        unfold Guarded
        rw [outcome]
        exact ⟨fun permitted => ⟨permitted, nofun⟩, And.left⟩)
    | some next =>
      have := instDecidableGuarded next rest
      decidable_of_iff (allowed state event ∧ machine.Guarded allowed next rest) (by
        rw [Guarded, outcome]
        exact and_congr_right' ⟨fun guarded other same => Option.some.inj same ▸ guarded,
          fun guarded => guarded next rfl⟩)

@[simp] theorem run_nil (state : State) : machine.run state [] = some state := rfl

theorem run_cons (state : State) (event : Event) (rest : List Event) :
    machine.run state (event :: rest) =
      (machine.step state event).bind fun next => machine.run next rest := rfl

theorem run_cons_eq_some {state final : State} {event : Event} {rest : List Event} :
    machine.run state (event :: rest) = some final ↔
      ∃ next, machine.step state event = some next ∧ machine.run next rest = some final := by
  rw [run_cons, Option.bind_eq_some_iff]

theorem Throughout.start {state : State} {events : List Event}
    (throughout : machine.Throughout property state events) : property state := by
  cases events with
  | nil => exact throughout
  | cons event rest => exact throughout.1

/-- The state a run ends in is one of the states it visits. -/
theorem Throughout.final {state final : State} {events : List Event}
    (throughout : machine.Throughout property state events)
    (reaches : machine.run state events = some final) : property final := by
  induction events generalizing state with
  | nil =>
    cases reaches
    exact throughout
  | cons event rest inductionHypothesis =>
    obtain ⟨next, enabled, reaches⟩ := run_cons_eq_some.mp reaches
    exact inductionHypothesis (throughout.2 next enabled) reaches

theorem Throughout.mono {weaker : State → Prop} {state : State} {events : List Event}
    (throughout : machine.Throughout property state events)
    (implies : ∀ state, property state → weaker state) :
    machine.Throughout weaker state events := by
  induction events generalizing state with
  | nil => exact implies state throughout
  | cons event rest inductionHypothesis =>
    exact ⟨implies state throughout.1, fun next enabled =>
      inductionHypothesis (throughout.2 next enabled)⟩

theorem Throughout.and {other : State → Prop} {state : State} {events : List Event}
    (first : machine.Throughout property state events)
    (second : machine.Throughout other state events) :
    machine.Throughout (fun state => property state ∧ other state) state events := by
  induction events generalizing state with
  | nil => exact ⟨first, second⟩
  | cons event rest inductionHypothesis =>
    exact ⟨⟨first.1, second.1⟩, fun next enabled =>
      inductionHypothesis (first.2 next enabled) (second.2 next enabled)⟩

/-- Every run meets the trivial guard. -/
theorem guarded_trivial (machine : Machine State Event) (state : State) (events : List Event) :
    machine.Guarded (fun _ _ => True) state events := by
  induction events generalizing state with
  | nil => trivial
  | cons event rest inductionHypothesis => exact ⟨trivial, fun next _ => inductionHypothesis next⟩

theorem run_append (machine : Machine State Event) (state : State) (first second : List Event) :
    machine.run state (first ++ second) =
      (machine.run state first).bind fun next => machine.run next second := by
  induction first generalizing state with
  | nil => rfl
  | cons event rest inductionHypothesis =>
    rw [List.cons_append, run_cons, run_cons, Option.bind_assoc]
    exact congrArg _ (funext inductionHypothesis)

/-- What holds of the empty run and is kept by each further step holds of every run, where the
property may be one of the events so far and the state they lead to. -/
theorem run_induction {start final : State} {events : List Event}
    (motive : List Event → State → Prop) (initial : motive [] start)
    (kept : ∀ past state event next, machine.run start past = some state → motive past state →
      machine.step state event = some next → motive (past ++ [event]) next)
    (reaches : machine.run start events = some final) : motive events final := by
  induction events using List.reverseRecOn generalizing final with
  | nil =>
    cases reaches
    exact initial
  | append_singleton past event inductionHypothesis =>
    rw [run_append] at reaches
    obtain ⟨state, before, reaches⟩ := Option.bind_eq_some_iff.mp reaches
    obtain ⟨next, enabled, same⟩ := run_cons_eq_some.mp reaches
    cases same
    exact kept past state event final before (inductionHypothesis before) enabled

/-- A guarded run goes on as a guarded run with events that the guard always lets pass. -/
theorem Guarded.append {state : State} {first second : List Event}
    (guarded : machine.Guarded allowed state first)
    (free : ∀ event ∈ second, ∀ state, allowed state event) :
    machine.Guarded allowed state (first ++ second) := by
  induction first generalizing state with
  | nil =>
    clear guarded
    induction second generalizing state with
    | nil => trivial
    | cons event rest inductionHypothesis =>
      obtain ⟨head, others⟩ := List.forall_mem_cons.mp free
      exact ⟨head state, fun next _ => inductionHypothesis others⟩
  | cons event rest inductionHypothesis =>
    exact ⟨guarded.1, fun next enabled => inductionHypothesis (guarded.2 next enabled)⟩

theorem Guarded.append_singleton {state final : State} {events : List Event} {event : Event}
    (guarded : machine.Guarded allowed state events)
    (reaches : machine.run state events = some final) (permitted : allowed final event) :
    machine.Guarded allowed state (events ++ [event]) := by
  induction events generalizing state with
  | nil =>
    cases reaches
    exact ⟨permitted, fun _ _ => trivial⟩
  | cons first rest inductionHypothesis =>
    refine ⟨guarded.1, fun next enabled => ?_⟩
    obtain ⟨_, isNext, later⟩ := run_cons_eq_some.mp reaches
    cases enabled.symm.trans isNext
    exact inductionHypothesis (guarded.2 next enabled) later

theorem Guarded.of_append {state : State} {first second : List Event}
    (guarded : machine.Guarded allowed state (first ++ second)) :
    machine.Guarded allowed state first := by
  induction first generalizing state with
  | nil => trivial
  | cons event rest inductionHypothesis =>
    exact ⟨guarded.1, fun next enabled => inductionHypothesis (guarded.2 next enabled)⟩

theorem Guarded.of_run {state middle : State} {first second : List Event}
    (guarded : machine.Guarded allowed state (first ++ second))
    (reaches : machine.run state first = some middle) : machine.Guarded allowed middle second := by
  induction first generalizing state with
  | nil =>
    cases reaches
    exact guarded
  | cons event rest inductionHypothesis =>
    obtain ⟨next, enabled, later⟩ := run_cons_eq_some.mp reaches
    exact inductionHypothesis (guarded.2 next enabled) later

theorem Guarded.and {other : State → Event → Prop} {state : State} {events : List Event}
    (first : machine.Guarded allowed state events) (second : machine.Guarded other state events) :
    machine.Guarded (fun state event => allowed state event ∧ other state event) state events := by
  induction events generalizing state with
  | nil => trivial
  | cons event rest inductionHypothesis =>
    exact ⟨⟨first.1, second.1⟩, fun next enabled =>
      inductionHypothesis (first.2 next enabled) (second.2 next enabled)⟩

theorem Guarded.mono_of_mem {other : State → Event → Prop} {state : State} {events : List Event}
    (guarded : machine.Guarded allowed state events)
    (implies : ∀ event ∈ events, ∀ state, allowed state event → other state event) :
    machine.Guarded other state events := by
  induction events generalizing state with
  | nil => trivial
  | cons event rest inductionHypothesis =>
    obtain ⟨first, others⟩ := List.forall_mem_cons.mp implies
    exact ⟨first state guarded.1, fun next enabled =>
      inductionHypothesis (guarded.2 next enabled) others⟩

/-- An invariant of the guarded steps holds throughout every guarded run. -/
theorem Guarded.throughout {state : State} {events : List Event}
    (guarded : machine.Guarded allowed state events)
    (preserved : ∀ state event next, property state → allowed state event →
      machine.step state event = some next → property next)
    (initial : property state) : machine.Throughout property state events := by
  induction events generalizing state with
  | nil => exact initial
  | cons event rest inductionHypothesis =>
    exact ⟨initial, fun next enabled => inductionHypothesis (guarded.2 next enabled)
      (preserved state event next initial guarded.1 enabled)⟩

/-- What an invariant and the guard imply of each step holds of each step of a guarded run. -/
theorem Guarded.imp {invariant : State → Prop} {other : State → Event → Prop} {state : State}
    {events : List Event} (guarded : machine.Guarded allowed state events)
    (preserved : ∀ state event next, invariant state → allowed state event →
      machine.step state event = some next → invariant next)
    (implies : ∀ state event, invariant state → allowed state event → other state event)
    (start : invariant state) : machine.Guarded other state events := by
  induction events generalizing state with
  | nil => trivial
  | cons event rest inductionHypothesis =>
    exact ⟨implies state event start guarded.1, fun next enabled =>
      inductionHypothesis (guarded.2 next enabled)
        (preserved state event next start guarded.1 enabled)⟩

/-- A property that no step establishes holds throughout every run that ends with it. -/
theorem throughout_of_final {state final : State} {events : List Event}
    (stable : ∀ state event next, machine.step state event = some next → property next →
      property state)
    (reaches : machine.run state events = some final) (last : property final) :
    machine.Throughout property state events := by
  induction events generalizing state with
  | nil =>
    cases reaches
    exact last
  | cons event rest inductionHypothesis =>
    obtain ⟨next, enabled, reaches⟩ := run_cons_eq_some.mp reaches
    have later := inductionHypothesis reaches
    refine ⟨stable state event next enabled later.start, fun other otherEnabled => ?_⟩
    cases enabled.symm.trans otherEnabled
    exact later

/-- When, under an invariant of all admitted steps, a property can be traced back through a step
only if the guard let that step pass, a run of admitted steps that ends with the property is
guarded. -/
theorem guarded_of_final (invariant property : State → Prop) {admitted : State → Event → Prop}
    {state final : State} {events : List Event}
    (preserved : ∀ state event next, invariant state → admitted state event →
      machine.step state event = some next → invariant next)
    (back : ∀ state event next, invariant state → admitted state event →
      machine.step state event = some next → property next → property state ∧ allowed state event)
    (admits : machine.Guarded admitted state events) (start : invariant state)
    (reaches : machine.run state events = some final)
    (last : property final) : property state ∧ machine.Guarded allowed state events := by
  induction events generalizing state with
  | nil =>
    cases reaches
    exact ⟨last, trivial⟩
  | cons event rest inductionHypothesis =>
    obtain ⟨next, enabled, reaches⟩ := run_cons_eq_some.mp reaches
    obtain ⟨later, guarded⟩ := inductionHypothesis (admits.2 next enabled)
      (preserved state event next start admits.1 enabled) reaches
    obtain ⟨before, permitted⟩ := back state event next start admits.1 enabled later
    refine ⟨before, permitted, fun other otherEnabled => ?_⟩
    cases enabled.symm.trans otherEnabled
    exact guarded

/-- When, under an invariant of all steps, no step keeps the property unless the guard let it pass,
a run through which the property holds is guarded. -/
theorem Throughout.guarded {invariant : State → Prop} {state : State} {events : List Event}
    (throughout : machine.Throughout property state events)
    (preserved : ∀ state event next, invariant state → machine.step state event = some next →
      invariant next)
    (needed : ∀ state event next, invariant state → property state →
      machine.step state event = some next → property next → allowed state event)
    (disabled : ∀ state event, machine.step state event = none → allowed state event)
    (start : invariant state) : machine.Guarded allowed state events := by
  induction events generalizing state with
  | nil => trivial
  | cons event rest inductionHypothesis =>
    obtain ⟨here, later⟩ := throughout
    refine ⟨?_, fun next enabled => inductionHypothesis (later next enabled)
      (preserved state event next start enabled)⟩
    cases outcome : machine.step state event with
    | none => exact disabled state event outcome
    | some next =>
      exact needed state event next start here outcome (later next outcome).start

/-- When, under an invariant of all admissible steps, the guard is exactly what one step needs to
keep the property, a run of admissible events keeps the property throughout if and only if every
step of it is guarded. -/
theorem throughout_iff_guarded_of_admissible {admissible : Event → Prop} {invariant : State → Prop}
    {state : State} {events : List Event}
    (preserved : ∀ state event next, invariant state → admissible event →
      machine.step state event = some next → invariant next)
    (exact : ∀ state event next, invariant state → property state →
      machine.step state event = some next → (property next ↔ allowed state event))
    (disabled : ∀ state event, machine.step state event = none → allowed state event)
    (all : ∀ event ∈ events, admissible event)
    (start : invariant state) (initial : property state) :
    machine.Throughout property state events ↔ machine.Guarded allowed state events := by
  induction events generalizing state with
  | nil => exact ⟨fun _ => trivial, fun _ => initial⟩
  | cons event rest inductionHypothesis =>
    obtain ⟨first, others⟩ := List.forall_mem_cons.mp all
    constructor
    · rintro ⟨-, later⟩
      have continued : ∀ next, machine.step state event = some next →
          machine.Guarded allowed next rest := fun next enabled =>
        (inductionHypothesis others (preserved state event next start first enabled)
          (later next enabled).start).mp (later next enabled)
      refine ⟨?_, continued⟩
      cases outcome : machine.step state event with
      | none => exact disabled state event outcome
      | some next =>
        exact (exact state event next start initial outcome).mp (later next outcome).start
    · rintro ⟨permitted, later⟩
      refine ⟨initial, fun next enabled => ?_⟩
      exact (inductionHypothesis others (preserved state event next start first enabled)
        ((exact state event next start initial enabled).mpr permitted)).mpr (later next enabled)

/-- When the invariant is one of all steps, this holds of all runs. -/
theorem throughout_iff_guarded {invariant : State → Prop} {state : State} {events : List Event}
    (preserved : ∀ state event next, invariant state → machine.step state event = some next →
      invariant next)
    (exact : ∀ state event next, invariant state → property state →
      machine.step state event = some next → (property next ↔ allowed state event))
    (disabled : ∀ state event, machine.step state event = none → allowed state event)
    (start : invariant state) (initial : property state) :
    machine.Throughout property state events ↔ machine.Guarded allowed state events :=
  throughout_iff_guarded_of_admissible
    (fun state event next holds (_ : True) enabled => preserved state event next holds enabled)
    exact disabled (fun _ _ => trivial) start initial

/-- The property holds in some state the run visits. -/
def Sometime (machine : Machine State Event) (property : State → Prop) (start : State)
    (events : List Event) : Prop :=
  ∃ past rest state, events = past ++ rest ∧ machine.run start past = some state ∧ property state

theorem sometime_of_final {start final : State} {events : List Event}
    (reaches : machine.run start events = some final) (last : property final) :
    machine.Sometime property start events :=
  ⟨events, [], final, (List.append_nil events).symm, reaches, last⟩

theorem Sometime.mono {weaker : State → Prop} {start : State} {events : List Event}
    (sometime : machine.Sometime property start events)
    (implies : ∀ state, property state → weaker state) : machine.Sometime weaker start events := by
  obtain ⟨past, rest, state, split, reaches, holds⟩ := sometime
  exact ⟨past, rest, state, split, reaches, implies state holds⟩

/-- What a run has seen stays seen when it goes on. -/
theorem Sometime.append {start : State} {events : List Event}
    (sometime : machine.Sometime property start events) (later : List Event) :
    machine.Sometime property start (events ++ later) := by
  obtain ⟨past, rest, state, rfl, reaches, holds⟩ := sometime
  exact ⟨past, rest ++ later, state, List.append_assoc past rest later, reaches, holds⟩

/-- Some step of the run starts something, and no later one ends it. -/
def Since (machine : Machine State Event) (starts ends : State → Event → Prop) (start : State)
    (events : List Event) : Prop :=
  ∃ past event rest state next, events = past ++ event :: rest ∧
    machine.run start past = some state ∧ starts state event ∧
    machine.step state event = some next ∧
    machine.Guarded (fun state event => ¬ends state event) next rest

theorem since_append_singleton {starts ends : State → Event → Prop} {start state next : State}
    {past : List Event} {event : Event} (before : machine.run start past = some state)
    (enabled : machine.step state event = some next) :
    machine.Since starts ends start (past ++ [event]) ↔
      machine.Since starts ends start past ∧ ¬ends state event ∨ starts state event := by
  constructor
  · rintro ⟨earlier, first, rest, middle, after, split, reaches, started, isNext, kept⟩
    rcases List.eq_nil_or_concat rest with rfl | ⟨between, last, rfl⟩
    · obtain ⟨rfl, same⟩ := List.append_inj' split rfl
      cases same
      cases before.symm.trans reaches
      exact .inr started
    · rw [List.concat_eq_append, ← List.cons_append, ← List.append_assoc] at split
      obtain ⟨rfl, same⟩ := List.append_inj' split rfl
      cases same
      rw [run_append, reaches, Option.bind_some, run_cons, isNext, Option.bind_some] at before
      rw [List.concat_eq_append] at kept
      exact .inl ⟨⟨earlier, first, between, middle, after, rfl, reaches, started, isNext,
        kept.of_append⟩, (kept.of_run before).1⟩
  · rintro (⟨⟨earlier, first, rest, middle, after, rfl, reaches, started, isNext, kept⟩, stays⟩ |
      started)
    · rw [run_append, reaches, Option.bind_some, run_cons, isNext, Option.bind_some] at before
      refine ⟨earlier, first, rest ++ [event], middle, after, ?_, reaches, started, isNext, ?_⟩
      · rw [List.append_assoc, List.cons_append]
      · exact kept.append_singleton before stays
    · exact ⟨past, event, [], state, next, rfl, before, started, enabled, trivial⟩

/-- When, under an invariant of all steps, a property holds after a step exactly if the step starts
it or keeps it, a run from a state without it ends with it exactly if some step has started it and
no later one ended it. -/
theorem final_iff_since {invariant property : State → Prop} {starts ends : State → Event → Prop}
    {start final : State} {events : List Event}
    (preserved : ∀ state event next, invariant state → machine.step state event = some next →
      invariant next)
    (exact : ∀ state event next, invariant state → machine.step state event = some next →
      (property next ↔ property state ∧ ¬ends state event ∨ starts state event))
    (initial : invariant start) (absent : ¬property start)
    (reaches : machine.run start events = some final) :
    property final ↔ machine.Since starts ends start events := by
  have both : invariant final ∧ (property final ↔ machine.Since starts ends start events) := by
    refine run_induction
      (fun past state => invariant state ∧ (property state ↔ machine.Since starts ends start past))
      ⟨initial, ?_⟩ (fun past state event next before holds enabled => ?_) reaches
    · refine iff_of_false absent ?_
      rintro ⟨past, event, rest, -, -, split, -⟩
      exact List.append_ne_nil_of_right_ne_nil past (List.cons_ne_nil event rest) split.symm
    · refine ⟨preserved state event next holds.1 enabled, ?_⟩
      rw [exact state event next holds.1 enabled, since_append_singleton before enabled, holds.2]
  exact both.2

end Machine

end Vnt.Base
