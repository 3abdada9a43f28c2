import Mathlib.Data.List.Basic

/-!
# Independent components

A system whose state is seen through one view for each component.  Every event
belongs to one component: what it returns and what it does to the view of that
component depend on that view alone, and it leaves the other views as they
are.  In such a system every component runs by itself, as if the events of the
others were not there.
-/

namespace Refuge
namespace Foundation

variable {State : Type*} {Event : Type*} {Output : Type*} {Component : Type*} {Value : Type*}

/-- The state after a list of events, and each event with its output. -/
def trace (step : State → Event → State × Output) :
    State → List Event → State × List (Event × Output)
  | state, [] => (state, [])
  | state, event :: events =>
      let rest := trace step (step state event).1 events
      (rest.1, (event, (step state event).2) :: rest.2)

@[simp] theorem trace_nil (step : State → Event → State × Output) (state : State) :
    trace step state [] = (state, []) := rfl

theorem trace_cons
    (step : State → Event → State × Output) (state : State) (event : Event)
    (events : List Event) :
    trace step state (event :: events) =
      ((trace step (step state event).1 events).1,
        (event, (step state event).2) :: (trace step (step state event).1 events).2) := rfl

/-- The outputs of a trace are listed with its events. -/
theorem map_fst_trace
    (step : State → Event → State × Output) (state : State) (events : List Event) :
    (trace step state events).2.map Prod.fst = events := by
  induction events generalizing state with
  | nil => rfl
  | cons event events inductionHypothesis => simp [trace_cons, inductionHypothesis]

/-- The events of one component. -/
def ownedBy [DecidableEq Component] (owner : Event → Component) (component : Component) (events : List Event) :
    List Event :=
  events.filter fun event => owner event = component

theorem ownedBy_cons_of_eq [DecidableEq Component] {owner : Event → Component}
    {event : Event} {component : Component} (owned : owner event = component)
    (events : List Event) :
    ownedBy owner component (event :: events) = event :: ownedBy owner component events :=
  List.filter_cons_of_pos (by simpa using owned)

theorem ownedBy_cons_of_ne [DecidableEq Component] {owner : Event → Component}
    {event : Event} {component : Component} (different : owner event ≠ component)
    (events : List Event) :
    ownedBy owner component (event :: events) = ownedBy owner component events :=
  List.filter_cons_of_neg (by simpa using different)

/-- In the states of the invariant, an event acts on the view of its owner
alone. -/
structure Independent
    (step : State → Event → State × Output) (invariant : State → Prop)
    (view : Component → State → Value) (owner : Event → Component)
    (act : Value → Event → Value × Output) : Prop where
  /-- Events keep the invariant. -/
  keeps : ∀ {state} event, invariant state → invariant (step state event).1
  /-- The owner's view and the output depend on the owner's view. -/
  own : ∀ {state} event, invariant state →
    (view (owner event) (step state event).1, (step state event).2) =
      act (view (owner event) state) event
  /-- The other views stay. -/
  other : ∀ {state} event {component}, invariant state → component ≠ owner event →
    view component (step state event).1 = view component state

namespace Independent

variable {step : State → Event → State × Output} {invariant : State → Prop}
  {view : Component → State → Value} {owner : Event → Component}
  {act : Value → Event → Value × Output}

/-- A run keeps the invariant. -/
theorem invariant_trace
    (independent : Independent step invariant view owner act)
    {state : State} (initially : invariant state) (events : List Event) :
    invariant (trace step state events).1 := by
  induction events generalizing state with
  | nil => exact initially
  | cons event events inductionHypothesis =>
      exact inductionHypothesis (independent.keeps event initially)

variable [DecidableEq Component]

/-- Every component runs by itself on its own events. -/
theorem trace_view
    (independent : Independent step invariant view owner act)
    {state : State} (initially : invariant state) (events : List Event)
    (component : Component) :
    (view component (trace step state events).1,
      (trace step state events).2.filter fun event => owner event.1 = component) =
      trace act (view component state) (ownedBy owner component events) := by
  induction events generalizing state with
  | nil => rfl
  | cons event events inductionHypothesis =>
      have later := inductionHypothesis (independent.keeps event initially)
      obtain ⟨laterView, laterOutputs⟩ := Prod.ext_iff.mp later
      rw [trace_cons]
      by_cases owned : owner event = component
      · have own := independent.own event initially
        rw [owned] at own
        rw [ownedBy_cons_of_eq owned, List.filter_cons_of_pos (by simpa using owned),
          trace_cons, ← own]
        exact Prod.ext laterView (congrArg (List.cons _) laterOutputs)
      · rw [ownedBy_cons_of_ne owned, List.filter_cons_of_neg (by simpa using owned),
          ← independent.other event initially (Ne.symm owned)]
        exact Prod.ext laterView laterOutputs

/-- Runs with the same events of a component look the same to it. -/
theorem view_eq_of_ownedBy_eq
    (independent : Independent step invariant view owner act)
    {state : State} (initially : invariant state) {first second : List Event}
    {component : Component}
    (same : ownedBy owner component first = ownedBy owner component second) :
    view component (trace step state first).1 = view component (trace step state second).1 := by
  have firstView := independent.trace_view initially first component
  have secondView := independent.trace_view initially second component
  rw [same] at firstView
  exact (Prod.ext_iff.mp (firstView.trans secondView.symm)).1

/-- Leaving out the events of the other components changes neither what a
component sees nor what its events return. -/
theorem trace_ownedBy
    (independent : Independent step invariant view owner act)
    {state : State} (initially : invariant state) (events : List Event)
    (component : Component) :
    view component (trace step state events).1 =
        view component (trace step state (ownedBy owner component events)).1 ∧
      ((trace step state events).2.filter fun event => owner event.1 = component) =
        (trace step state (ownedBy owner component events)).2 := by
  have idempotent : ownedBy owner component (ownedBy owner component events) =
      ownedBy owner component events := by
    simp [ownedBy]
  have whole := independent.trace_view initially events component
  have alone := independent.trace_view initially (ownedBy owner component events) component
  rw [idempotent] at alone
  obtain ⟨views, outputs⟩ := Prod.ext_iff.mp (whole.trans alone.symm)
  refine ⟨views, outputs.trans (List.filter_eq_self.mpr fun event present => ?_)⟩
  have listed : event.1 ∈ ownedBy owner component events := by
    rw [← map_fst_trace step state (ownedBy owner component events)]
    exact List.mem_map_of_mem present
  simpa using (List.mem_filter.mp listed).2

/-- A component without events keeps its view. -/
theorem view_eq_of_ownedBy_eq_nil
    (independent : Independent step invariant view owner act)
    {state : State} (initially : invariant state) {events : List Event}
    {component : Component} (none : ownedBy owner component events = []) :
    view component (trace step state events).1 = view component state :=
  have same : ownedBy owner component events = ownedBy owner component [] := none
  independent.view_eq_of_ownedBy_eq initially same

end Independent

end Foundation
end Refuge
