import Mathlib.Data.Nat.Notation

/-!
# Loops that may not end

A round of a loop goes on in another state or ends the loop with a result.  A
loop that is given a number of rounds may use them up; `Ends` says that some
number is enough.
-/

namespace Refuge
namespace Foundation

/-- What a round comes to. -/
inductive Round (State Result : Type*)
  | again (state : State)
  | done (result : Result)

variable {State Result : Type*}

/-- The result of a loop, if the given rounds are enough. -/
def loop (round : State → Round State Result) : Nat → State → Option Result
  | 0, _ => none
  | rounds + 1, state =>
      match round state with
      | .again next => loop round rounds next
      | .done result => some result

/-- The loop ends with a result. -/
def Ends (round : State → Round State Result) (state : State) (result : Result) : Prop :=
  ∃ rounds, loop round rounds state = some result

variable {round : State → Round State Result} {state next : State} {result : Result}

theorem loop_succ_of_again (continues : round state = .again next) (rounds : Nat) :
    loop round (rounds + 1) state = loop round rounds next := by
  rw [loop, continues]

theorem loop_succ_of_done (ended : round state = .done result) (rounds : Nat) :
    loop round (rounds + 1) state = some result := by
  rw [loop, ended]

theorem Ends.of_done (ended : round state = .done result) : Ends round state result :=
  ⟨1, loop_succ_of_done ended 0⟩

theorem Ends.of_again
    (continues : round state = .again next) (ends : Ends round next result) :
    Ends round state result := by
  obtain ⟨rounds, looped⟩ := ends
  exact ⟨rounds + 1, by rw [loop_succ_of_again continues, looped]⟩

/-- What holds of a round that ends the loop, and of a round when it holds of the
rest, holds of every loop that ends. -/
theorem Ends.induct
    (holds : State → Result → Prop)
    (done : ∀ state result, round state = .done result → holds state result)
    (again : ∀ state next result, round state = .again next → holds next result →
      holds state result)
    (ends : Ends round state result) : holds state result := by
  obtain ⟨rounds, looped⟩ := ends
  induction rounds generalizing state with
  | zero => exact absurd looped.symm (Option.some_ne_none result)
  | succ rounds inductionHypothesis =>
      cases taken : round state with
      | again next =>
          rw [loop_succ_of_again taken] at looped
          exact again _ _ _ taken (inductionHypothesis looped)
      | done other =>
          rw [loop_succ_of_done taken] at looped
          exact done _ _ (taken.trans (congrArg _ (Option.some.inj looped)))

/-- States with the same round end alike. -/
theorem Ends.of_round_eq
    {other : State} (same : round other = round state) (ends : Ends round state result) :
    Ends round other result := by
  obtain ⟨rounds, looped⟩ := ends
  refine ⟨rounds, ?_⟩
  cases rounds with
  | zero => exact looped
  | succ rounds => rwa [loop, same]

/-- More rounds do not change a result. -/
theorem loop_mono
    {rounds more : Nat} (enough : rounds ≤ more)
    (looped : loop round rounds state = some result) :
    loop round more state = some result := by
  induction rounds generalizing state more with
  | zero => exact absurd looped.symm (Option.some_ne_none result)
  | succ rounds inductionHypothesis =>
      obtain ⟨more, rfl⟩ : ∃ fewer, more = fewer + 1 := ⟨more - 1, by omega⟩
      cases taken : round state with
      | again next =>
          rw [loop_succ_of_again taken] at looped ⊢
          exact inductionHypothesis (Nat.le_of_succ_le_succ enough) looped
      | done other =>
          rw [loop_succ_of_done taken] at looped ⊢
          exact looped

/-- A loop has one result. -/
theorem Ends.unique
    {other : Result} (first : Ends round state result) (second : Ends round state other) :
    result = other := by
  obtain ⟨rounds, looped⟩ := first
  obtain ⟨others, otherLooped⟩ := second
  have least := loop_mono (Nat.le_max_left rounds others) looped
  have most := loop_mono (Nat.le_max_right rounds others) otherLooped
  exact Option.some.inj (least.symm.trans most)

/-- A round that changes nothing is repeated for ever. -/
theorem not_ends_of_again_self (continues : round state = .again state) :
    ¬Ends round state result := by
  rintro ⟨rounds, looped⟩
  induction rounds with
  | zero => exact absurd looped.symm (Option.some_ne_none result)
  | succ rounds inductionHypothesis =>
      rw [loop_succ_of_again continues] at looped
      exact inductionHypothesis looped

end Foundation
end Refuge
