import Refuge.Foundation.Run
import Mathlib.Logic.Function.Basic

/-!
# Looks at a growing history

A history of events grows while observers look at it from time to time.  A look
is recorded with its mark, the number of events that had happened by then.  The
marks of one observer never go back, so what it sees later it sees after a
longer part of the same history.  A moment divides the looks of an observer: those
it has had the views of were taken before it, those it had not asked for after it.

What is recorded of a run grows with it: the rule for such records gives one for
the whole run, which every state on the way has a part of.
-/

namespace Refuge
namespace Foundation

/-- What an observer saw, and how many events had happened. -/
structure Look (View : Type*) where
  mark : Nat
  view : View

section

variable {Event : Type*} {View : Type*} (shows : List Event → View → Prop)

/-- The looks of one observer, first to last: each shows what had happened by its
mark. -/
structure Looks (history : List Event) (looks : List (Look View)) : Prop where
  ordered : looks.Pairwise fun earlier later => earlier.mark ≤ later.mark
  within : ∀ look ∈ looks, look.mark ≤ history.length
  shown : ∀ look ∈ looks, shows (history.take look.mark) look.view

end

namespace Looks

variable {Event : Type*} {View : Type*} {shows : List Event → View → Prop}
  {history : List Event} {looks : List (Look View)}

theorem nil : Looks shows history [] where
  ordered := List.Pairwise.nil
  within := by simp
  shown := by simp

/-- The history may grow. -/
theorem grow (recorded : Looks shows history looks) (more : List Event) :
    Looks shows (history ++ more) looks where
  ordered := recorded.ordered
  within := by
    intro look present
    rw [List.length_append]
    exact Nat.le_trans (recorded.within look present) (Nat.le_add_right _ _)
  shown := by
    intro look present
    rw [List.take_append_of_le_length (recorded.within look present)]
    exact recorded.shown look present

/-- The observer may look at all that has happened. -/
theorem look (recorded : Looks shows history looks) {view : View} (seen : shows history view) :
    Looks shows history (looks ++ [⟨history.length, view⟩]) where
  ordered := by
    rw [List.pairwise_append]
    refine ⟨recorded.ordered, List.pairwise_singleton _ _, fun earlier present last isLast => ?_⟩
    obtain rfl := List.mem_singleton.mp isLast
    exact recorded.within earlier present
  within := by
    intro look present
    rcases List.mem_append.mp present with earlier | last
    · exact recorded.within look earlier
    · obtain rfl := List.mem_singleton.mp last
      exact Nat.le_refl _
  shown := by
    intro look present
    rcases List.mem_append.mp present with earlier | last
    · exact recorded.shown look earlier
    · obtain rfl := List.mem_singleton.mp last
      rwa [List.take_length]

end Looks

/-- The marks are those of looks around a moment when `moment` events had happened,
`asked` looks had been asked for and the observer had had the views of `told`. -/
structure Dated {View : Type*} (moment asked told : Nat) (looks : List (Look View)) : Prop where
  known : told ≤ looks.length
  before : ∀ look ∈ looks.take told, look.mark ≤ moment
  after : ∀ look ∈ looks.drop asked, moment ≤ look.mark

namespace Dated

variable {Event : Type*} {View : Type*} {shows : List Event → View → Prop}
  {history : List Event} {looks : List (Look View)} {moment asked told : Nat}

/-- The present divides the looks. -/
theorem now (recorded : Looks shows history looks) (answered : looks.length ≤ asked)
    (known : told ≤ looks.length) : Dated history.length asked told looks where
  known := known
  before look present := recorded.within look (List.mem_of_mem_take present)
  after := by
    rw [List.drop_of_length_le answered]
    simp

/-- It goes on dividing them when more are taken. -/
theorem append (dated : Dated moment asked told looks) {more : List (Look View)}
    (later : ∀ look ∈ more, moment ≤ look.mark) : Dated moment asked told (looks ++ more) where
  known := by
    rw [List.length_append]
    exact Nat.le_trans dated.known (Nat.le_add_right _ _)
  before := by
    rw [List.take_append_of_le_length dated.known]
    exact dated.before
  after := by
    rw [List.drop_append]
    intro look present
    rcases List.mem_append.mp present with earlier | last
    · exact dated.after look earlier
    · exact later look (List.mem_of_mem_drop last)

/-- A look the observer had had the view of was taken before, -/
theorem le_moment
    (dated : Dated moment asked told looks) {index : Nat} {look : Look View}
    (found : looks[index]? = some look) (known : index < told) : look.mark ≤ moment := by
  apply dated.before
  rw [List.mem_iff_getElem?]
  exact ⟨index, by rw [List.getElem?_take_of_lt known, found]⟩

/-- and one it had not asked for, after. -/
theorem moment_le
    (dated : Dated moment asked told looks) {index : Nat} {look : Look View}
    (found : looks[index]? = some look) (unasked : asked ≤ index) : moment ≤ look.mark := by
  apply dated.after
  rw [List.mem_iff_getElem?]
  exact ⟨index - asked, by rw [List.getElem?_drop, Nat.add_sub_cancel' unasked, found]⟩

end Dated

/-- A history and the looks of its observers. -/
structure Record (Event Observer View : Type*) where
  history : List Event
  looks : Observer → List (Look View)

namespace Record

variable {Event Observer View : Type*}

/-- A later record has the same looks, and others after its history. -/
def Grows (before after : Record Event Observer View) : Prop :=
  before.history.length ≤ after.history.length ∧
    ∀ observer, ∃ more, after.looks observer = before.looks observer ++ more ∧
      ∀ look ∈ more, before.history.length ≤ look.mark

theorem Grows.refl (record : Record Event Observer View) : record.Grows record :=
  ⟨Nat.le_refl _, fun _ => ⟨[], (List.append_nil _).symm, by simp⟩⟩

theorem Grows.trans
    {first second third : Record Event Observer View}
    (earlier : first.Grows second) (later : second.Grows third) : first.Grows third := by
  refine ⟨Nat.le_trans earlier.1 later.1, fun observer => ?_⟩
  obtain ⟨more, append, marks⟩ := earlier.2 observer
  obtain ⟨most, appendMost, marksMost⟩ := later.2 observer
  refine ⟨more ++ most, by rw [appendMost, append, List.append_assoc], fun look present => ?_⟩
  rcases List.mem_append.mp present with before | after
  · exact marks look before
  · exact Nat.le_trans earlier.1 (marksMost look after)

/-- One observer takes more looks. -/
theorem Grows.observe
    [DecidableEq Observer] (record : Record Event Observer View) (observer : Observer)
    {more : List (Look View)} (marks : ∀ look ∈ more, record.history.length ≤ look.mark) :
    record.Grows
      { record with
        looks := Function.update record.looks observer (record.looks observer ++ more) } := by
  refine ⟨Nat.le_refl _, fun other => ?_⟩
  by_cases same : other = observer
  · subst same
    exact ⟨more, Function.update_self _ _ _, marks⟩
  · exact ⟨[], by simp [same], by simp⟩

/-- Some of the observers. -/
theorem Grows.comp
    {before after : Record Event Observer View} (grows : before.Grows after)
    {Some : Type*} (observer : Some → Observer) :
    Grows ⟨before.history, fun some => before.looks (observer some)⟩
      ⟨after.history, fun some => after.looks (observer some)⟩ :=
  ⟨grows.1, fun some => grows.2 (observer some)⟩

/-- A moment in the past divides the looks of today. -/
theorem Grows.dated
    {before after : Record Event Observer View} (grows : before.Grows after)
    {shows : List Event → View → Prop} {observer : Observer} {asked told : Nat}
    (recorded : Looks shows before.history (before.looks observer))
    (answered : (before.looks observer).length ≤ asked)
    (known : told ≤ (before.looks observer).length) :
    Dated before.history.length asked told (after.looks observer) := by
  obtain ⟨more, append, marks⟩ := grows.2 observer
  rw [append]
  exact (Dated.now recorded answered known).append marks

end Record

/-- The record rule: when every admissible step extends what is recorded, a run ends
with a record that extends one for every state it went through. -/
theorem exists_record
    {State : Type*} {Event : Type*} {Record : Type*}
    {step : State → Event → Option State} {good : State → Event → Prop}
    {accounts : State → Record → Prop} {isPartOf : Record → Record → Prop}
    (refl : ∀ record, isPartOf record record)
    (trans : ∀ {first second third}, isPartOf first second → isPartOf second third →
      isPartOf first third)
    (preserved : ∀ state event next record, accounts state record → good state event →
      step state event = some next → ∃ more, accounts next more ∧ isPartOf record more)
    {state final : State} {events : List Event} {record : Record}
    (initially : accounts state record) (along : Along step good state events)
    (reached : run step state events = some final) :
    ∃ last, accounts final last ∧ isPartOf record last ∧
      ∀ first second middle, events = first ++ second → run step state first = some middle →
        ∃ part, accounts middle part ∧ isPartOf part last := by
  induction events generalizing state record with
  | nil =>
      obtain rfl : state = final := by simpa using reached
      refine ⟨record, initially, refl record, fun first second middle split reachedMiddle => ?_⟩
      obtain ⟨rfl, rfl⟩ := List.append_eq_nil_iff.mp split.symm
      obtain rfl : state = middle := by simpa using reachedMiddle
      exact ⟨record, initially, refl record⟩
  | cons event events inductionHypothesis =>
      obtain ⟨next, stepped, continued⟩ := Option.bind_eq_some_iff.mp reached
      obtain ⟨more, accountsNext, extended⟩ :=
        preserved state event next record initially along.1 stepped
      obtain ⟨last, accountsLast, extendedLast, parts⟩ :=
        inductionHypothesis accountsNext (along.2 next stepped) continued
      have whole := trans extended extendedLast
      refine ⟨last, accountsLast, whole, fun first second middle split reachedMiddle => ?_⟩
      cases first with
      | nil =>
          obtain rfl : state = middle := by simpa using reachedMiddle
          exact ⟨record, initially, whole⟩
      | cons other first =>
          obtain ⟨rfl, rest⟩ := List.cons.inj split
          rw [run_cons, stepped] at reachedMiddle
          exact parts first second middle rest reachedMiddle

end Foundation
end Refuge
