import Mathlib.Data.List.Basic

/-!
# Runs of partial step functions

A system is a partial step function on states, labelled by events.  A run
feeds it a finite list of events; an event that is not enabled stops the run.
`Along` states that a condition on a state and the event taken there holds at
every step of a run.  The invariant rule derives a property of every reached
state from what one admissible step preserves; it has a form for states
together with what the steps of the run have recorded.
-/

namespace Refuge
namespace Foundation

variable {State : Type*} {Event : Type*}

/-- The state reached by feeding a list of events to a partial step function. -/
def run (step : State → Event → Option State) : State → List Event → Option State
  | state, [] => some state
  | state, event :: events => (step state event).bind fun next => run step next events

@[simp] theorem run_nil (step : State → Event → Option State) (state : State) :
    run step state [] = some state := rfl

@[simp] theorem run_cons
    (step : State → Event → Option State)
    (state : State) (event : Event) (events : List Event) :
    run step state (event :: events) =
      (step state event).bind fun next => run step next events := rfl

/-- A run over a concatenation continues the run over its first part. -/
theorem run_append
    (step : State → Event → Option State)
    (state : State) (first second : List Event) :
    run step state (first ++ second) =
      (run step state first).bind fun next => run step next second := by
  induction first generalizing state with
  | nil => rfl
  | cons event events inductionHypothesis =>
      cases stepped : step state event with
      | none => simp [stepped]
      | some next => simp [stepped, inductionHypothesis]

/-- Every event of the run is taken in a state where `good` admits it. -/
def Along
    (step : State → Event → Option State)
    (good : State → Event → Prop) : State → List Event → Prop
  | _, [] => True
  | state, event :: events =>
      good state event ∧
        ∀ next, step state event = some next → Along step good next events

@[simp] theorem along_nil
    (step : State → Event → Option State)
    (good : State → Event → Prop) (state : State) :
    Along step good state [] := trivial

/-- A condition holds along a run if it holds at its first step and along the
rest. -/
theorem Along.cons
    {step : State → Event → Option State}
    {good : State → Event → Prop}
    {state next : State} {event : Event} {events : List Event}
    (first : good state event) (stepped : step state event = some next)
    (rest : Along step good next events) :
    Along step good state (event :: events) := by
  refine ⟨first, fun other otherStepped => ?_⟩
  obtain rfl := Option.some.inj (stepped.symm.trans otherStepped)
  exact rest

instance decidableAlong
    (step : State → Event → Option State) (good : State → Event → Prop)
    [∀ state event, Decidable (good state event)] :
    ∀ (events : List Event) (state : State), Decidable (Along step good state events)
  | [], _ => isTrue trivial
  | event :: events, state =>
      match stepped : step state event with
      | none => decidable_of_iff (good state event)
          ⟨fun first => ⟨first, fun _ taken => by rw [stepped] at taken; cases taken⟩, And.left⟩
      | some next =>
          have := decidableAlong step good events next
          decidable_of_iff (good state event ∧ Along step good next events)
            ⟨fun both => .cons both.1 stepped both.2, fun along => ⟨along.1, along.2 next stepped⟩⟩

/-- Two conditions that hold along a run hold together. -/
theorem Along.and
    {step : State → Event → Option State}
    {first second : State → Event → Prop}
    {state : State} {events : List Event}
    (one : Along step first state events) (other : Along step second state events) :
    Along step (fun state event => first state event ∧ second state event) state events := by
  induction events generalizing state with
  | nil => trivial
  | cons event events inductionHypothesis =>
      exact ⟨⟨one.1, other.1⟩, fun next stepped =>
        inductionHypothesis (one.2 next stepped) (other.2 next stepped)⟩

/-- A condition that holds of every state and event holds along every run. -/
theorem Along.of_forall
    {step : State → Event → Option State}
    {good : State → Event → Prop}
    (always : ∀ state event, good state event)
    (state : State) (events : List Event) :
    Along step good state events := by
  induction events generalizing state with
  | nil => trivial
  | cons event events inductionHypothesis =>
      exact ⟨always state event, fun next _ => inductionHypothesis next⟩

/-- A condition that some events meet in every state holds along runs of these. -/
theorem Along.of_forall_mem
    {step : State → Event → Option State}
    {good : State → Event → Prop}
    {events : List Event}
    (always : ∀ event ∈ events, ∀ state, good state event)
    (state : State) :
    Along step good state events := by
  induction events generalizing state with
  | nil => trivial
  | cons event events inductionHypothesis =>
      refine ⟨always event List.mem_cons_self state, fun next _ => ?_⟩
      exact inductionHypothesis
        (fun later present => always later (List.mem_cons_of_mem _ present)) next

/-- A condition holds along a run that continues another. -/
theorem Along.append
    {step : State → Event → Option State}
    {good : State → Event → Prop}
    {state : State} {first second : List Event}
    (before : Along step good state first)
    (after : ∀ middle, run step state first = some middle → Along step good middle second) :
    Along step good state (first ++ second) := by
  induction first generalizing state with
  | nil => exact after state rfl
  | cons event events inductionHypothesis =>
      refine ⟨before.1, fun next stepped => inductionHypothesis (before.2 next stepped) ?_⟩
      intro middle reached
      exact after middle (by rw [run_cons, stepped]; exact reached)

/-- The invariant rule: what every admissible step preserves holds in the
state a run of admissible steps ends in. -/
theorem run_invariant
    {step : State → Event → Option State}
    {good : State → Event → Prop}
    {invariant : State → Prop}
    (preserved : ∀ state event next,
      invariant state → good state event →
        step state event = some next → invariant next)
    {state final : State} {events : List Event}
    (initially : invariant state)
    (along : Along step good state events)
    (reached : run step state events = some final) :
    invariant final := by
  induction events generalizing state with
  | nil =>
      have same : state = final := by simpa using reached
      exact same ▸ initially
  | cons event events inductionHypothesis =>
      obtain ⟨next, stepped, continued⟩ := Option.bind_eq_some_iff.mp reached
      exact inductionHypothesis
        (preserved state event next initially along.1 stepped)
        (along.2 next stepped) continued

/-- The invariant rule for runs of any steps. -/
theorem run_preserved
    {step : State → Event → Option State}
    {invariant : State → Prop}
    (preserved : ∀ state event next,
      invariant state → step state event = some next → invariant next)
    {state final : State} {events : List Event}
    (initially : invariant state)
    (reached : run step state events = some final) :
    invariant final := by
  have anyStep : Along step (fun _ _ => True) state events :=
    Along.of_forall (fun _ _ => trivial) state events
  refine run_invariant (fun before event after holds _ stepped => ?_) initially anyStep reached
  exact preserved before event after holds stepped

/-- What every admissible step of an invariant state meets holds along a run. -/
theorem Along.of_invariant
    {step : State → Event → Option State}
    {good met : State → Event → Prop}
    {invariant : State → Prop}
    (preserved : ∀ state event next,
      invariant state → good state event →
        step state event = some next → invariant next)
    (meets : ∀ state event, invariant state → good state event → met state event)
    {state : State} {events : List Event}
    (initially : invariant state)
    (along : Along step good state events) :
    Along step met state events := by
  induction events generalizing state with
  | nil => trivial
  | cons event events inductionHypothesis =>
      exact ⟨meets state event initially along.1, fun next stepped =>
        inductionHypothesis (preserved state event next initially along.1 stepped)
          (along.2 next stepped)⟩

/-! ## Records -/

section

variable {Entry : Type*}

/-- What the steps of a run record, in their order. -/
def recordedAlong
    (step : State → Event → Option State)
    (record : State → State → Event → List Entry) : State → List Event → List Entry
  | _, [] => []
  | state, event :: events =>
      match step state event with
      | none => []
      | some next => record state next event ++ recordedAlong step record next events

theorem recordedAlong_cons
    {step : State → Event → Option State}
    {record : State → State → Event → List Entry}
    {state next : State} {event : Event} (stepped : step state event = some next)
    (events : List Event) :
    recordedAlong step record state (event :: events) =
      record state next event ++ recordedAlong step record next events := by
  rw [recordedAlong, stepped]

/-- The invariant rule for a state and what was recorded up to it. -/
theorem run_invariant_recorded
    {step : State → Event → Option State}
    {record : State → State → Event → List Entry}
    {invariant : State → List Entry → Prop}
    (preserved : ∀ state event next entries,
      invariant state entries → step state event = some next →
        invariant next (entries ++ record state next event))
    {state final : State} {entries : List Entry} {events : List Event}
    (initially : invariant state entries)
    (reached : run step state events = some final) :
    invariant final (entries ++ recordedAlong step record state events) := by
  induction events generalizing state entries with
  | nil =>
      obtain rfl : state = final := by simpa using reached
      rw [recordedAlong, List.append_nil]
      exact initially
  | cons event events inductionHypothesis =>
      obtain ⟨next, stepped, continued⟩ := Option.bind_eq_some_iff.mp reached
      rw [recordedAlong_cons stepped, ← List.append_assoc]
      exact inductionHypothesis (preserved state event next entries initially stepped) continued

end

/-! ## Simulation -/

section

variable {Other Move : Type*}
  {step : State → Event → Option State} {otherStep : Other → Move → Option Other}
  {good : State → Event → Prop} {relation : State → Other → Prop} {move : Event → Move}

/-- The simulation rule: a run of admissible steps is matched by a run of another
system if every admissible step is matched by one of its steps. -/
theorem run_simulates
    (matched : ∀ state event next other,
      relation state other → good state event → step state event = some next →
        ∃ after, otherStep other (move event) = some after ∧ relation next after)
    {state final : State} {other : Other} {events : List Event}
    (initially : relation state other)
    (along : Along step good state events)
    (reached : run step state events = some final) :
    ∃ after, run otherStep other (events.map move) = some after ∧ relation final after := by
  induction events generalizing state other with
  | nil =>
      have same : state = final := by simpa using reached
      exact ⟨other, rfl, same ▸ initially⟩
  | cons event events inductionHypothesis =>
      obtain ⟨next, stepped, continued⟩ := Option.bind_eq_some_iff.mp reached
      obtain ⟨middle, taken, related⟩ := matched state event next other initially along.1 stepped
      obtain ⟨after, others, final⟩ :=
        inductionHypothesis related (along.2 next stepped) continued
      exact ⟨after, by rw [List.map_cons, run_cons, taken]; exact others, final⟩

/-- What the other system meets where it matches an admissible step holds along the
run that matches. -/
theorem Along.of_simulates
    {met : Other → Move → Prop}
    (matched : ∀ state event next other,
      relation state other → good state event → step state event = some next →
        ∃ after, otherStep other (move event) = some after ∧ relation next after)
    (meets : ∀ state event other,
      relation state other → good state event → met other (move event))
    {state final : State} {other : Other} {events : List Event}
    (initially : relation state other)
    (along : Along step good state events)
    (reached : run step state events = some final) :
    Along otherStep met other (events.map move) := by
  induction events generalizing state other with
  | nil => trivial
  | cons event events inductionHypothesis =>
      obtain ⟨next, stepped, continued⟩ := Option.bind_eq_some_iff.mp reached
      obtain ⟨middle, taken, related⟩ := matched state event next other initially along.1 stepped
      exact .cons (meets state event other initially along.1) taken
        (inductionHypothesis related (along.2 next stepped) continued)

end

end Foundation
end Refuge
