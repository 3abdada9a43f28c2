import Refuge.Foundation.Run

/-!
# The last write to a location

Events that each write one value to one location of a store.  When every step
of a run shows its own value at its own location and nothing new anywhere
else, the end of the run shows at every location the last value written there,
or what was there at the start.
-/

namespace Refuge
namespace Foundation

variable
  {State : Type*} {Event : Type*} {Location : Type*} {Value : Type*}
  [DecidableEq Location]
  (target : Event → Location) (value : Event → Value)

/-- The last value written to a location. -/
def lastWrite (location : Location) : List Event → Option Value
  | [] => none
  | event :: events =>
      (lastWrite location events).or
        (if target event = location then some (value event) else none)

@[simp] theorem lastWrite_nil (location : Location) :
    lastWrite target value location [] = none := rfl

@[simp] theorem lastWrite_cons
    (location : Location) (event : Event) (events : List Event) :
    lastWrite target value location (event :: events) =
      (lastWrite target value location events).or
        (if target event = location then some (value event) else none) := rfl

/-- A later list of writes comes before an earlier one. -/
theorem lastWrite_append (location : Location) (first second : List Event) :
    lastWrite target value location (first ++ second) =
      (lastWrite target value location second).or
        (lastWrite target value location first) := by
  induction first with
  | nil => simp
  | cons event events inductionHypothesis =>
      simp [inductionHypothesis, Option.or_assoc]

variable {target value}

/-- The view rule: a run of writes shows the last write at every location. -/
theorem run_view_eq
    {step : State → Event → Option State}
    {good : State → Event → Prop}
    {invariant : State → Prop}
    {view : State → Location → Option Value}
    (preserved : ∀ state event next,
      invariant state → good state event →
        step state event = some next → invariant next)
    (shown : ∀ state event next,
      invariant state → good state event → step state event = some next →
        ∀ location, view next location =
          if target event = location then some (value event) else view state location)
    {state final : State} {events : List Event}
    (initially : invariant state)
    (along : Along step good state events)
    (reached : run step state events = some final)
    (location : Location) :
    view final location =
      (lastWrite target value location events).or (view state location) := by
  induction events generalizing state with
  | nil =>
      obtain rfl : state = final := by simpa using reached
      simp
  | cons event events inductionHypothesis =>
      obtain ⟨next, stepped, continued⟩ := Option.bind_eq_some_iff.mp reached
      rw [inductionHypothesis
        (preserved state event next initially along.1 stepped)
        (along.2 next stepped) continued,
        shown state event next initially along.1 stepped, lastWrite_cons,
        Option.or_assoc]
      congr 1
      split <;> rfl

end Foundation
end Refuge
