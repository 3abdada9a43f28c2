import Mathlib.Data.List.Basic

/-!
# Buffers of a fixed capacity

A buffer of C holds a text and its terminator within its capacity.  A copy that
does not fit stops the computation, which is undefined from there on; every
other way of stopping early is a return with a code.  `Agrees` relates such a
computation to one on plain texts.
-/

namespace Refuge
namespace Foundation

universe u v

/-- A buffer and the text in it. -/
structure Buffer (Symbol : Type*) where
  capacity : Nat
  content : List Symbol
  /-- There is room for the terminator. -/
  length_lt : content.length < capacity

/-- How a computation stops before its end. -/
inductive Stop (Code : Type*)
  /-- A copy does not fit its buffer. -/
  | overflows
  | returns (code : Code)

namespace Buffer

variable {Symbol Code : Type*}

/-- Write a text into new memory of a capacity. -/
def alloc (capacity : Nat) (text : List Symbol) : Except (Stop Code) (Buffer Symbol) :=
  if length_lt : text.length < capacity then .ok { capacity, content := text, length_lt }
  else .error .overflows

/-- Write a text over the one in a buffer. -/
def copy (buffer : Buffer Symbol) (text : List Symbol) : Except (Stop Code) (Buffer Symbol) :=
  alloc buffer.capacity text

/-- The smallest buffer of a text. -/
def exactly (text : List Symbol) : Buffer Symbol where
  capacity := text.length + 1
  content := text
  length_lt := Nat.lt_succ_self _

theorem alloc_of_lt
    {capacity : Nat} {text : List Symbol} (length_lt : text.length < capacity) :
    alloc capacity text = (.ok { capacity, content := text, length_lt } :
      Except (Stop Code) (Buffer Symbol)) :=
  dif_pos length_lt

theorem alloc_of_not_lt
    {capacity : Nat} {text : List Symbol} (long : ¬text.length < capacity) :
    alloc capacity text = (.error .overflows : Except (Stop Code) (Buffer Symbol)) :=
  dif_neg long

@[simp] theorem alloc_length_succ (text : List Symbol) :
    alloc (text.length + 1) text = (.ok (exactly text) : Except (Stop Code) (Buffer Symbol)) :=
  alloc_of_lt (Nat.lt_succ_self _)

end Buffer

section

variable {Code : Type*} {First Other : Type u}

@[simp] theorem ok_bind (value : First) (later : First → Except (Stop Code) Other) :
    (Except.ok value >>= later) = later value := rfl

@[simp] theorem error_bind (stop : Stop Code) (later : First → Except (Stop Code) Other) :
    ((Except.error stop : Except (Stop Code) First) >>= later) = .error stop := rfl

/-- A sequence that yields something has yielded something before it. -/
theorem bind_eq_ok_iff
    {first : Except (Stop Code) First} {later : First → Except (Stop Code) Other}
    {result : Other} :
    (first >>= later) = .ok result ↔ ∃ value, first = .ok value ∧ later value = .ok result := by
  cases first with
  | error stop => simp
  | ok value => simp

end

section

variable {Code : Type*} {First Other : Type u} {Second Last : Type v}

/-- Unless it overflows, a computation yields what the other does, as seen through
`view`, or the code the other does. -/
def Agrees (view : First → Second) : Except (Stop Code) First → Except Code Second → Prop
  | .ok value, plain => plain = .ok (view value)
  | .error (.returns code), plain => plain = .error code
  | .error .overflows, _ => True

/-- Agreeing computations followed by agreeing ones agree. -/
theorem Agrees.bind
    {view : First → Second} {laterView : Other → Last}
    {bounded : Except (Stop Code) First} {plain : Except Code Second}
    {later : First → Except (Stop Code) Other} {plainLater : Second → Except Code Last}
    (agrees : Agrees view bounded plain)
    (laterAgrees : ∀ value, Agrees laterView (later value) (plainLater (view value))) :
    Agrees laterView (bounded >>= later) (plain >>= plainLater) := by
  cases bounded with
  | ok value =>
      obtain rfl := agrees
      exact laterAgrees value
  | error stop =>
      cases stop with
      | overflows => trivial
      | returns code =>
          obtain rfl := agrees
          rfl

/-- A text written into a buffer agrees with the text. -/
theorem agrees_alloc {Symbol : Type*} (capacity : Nat) (text : List Symbol) :
    Agrees Buffer.content (Buffer.alloc capacity text) (.ok text : Except Code (List Symbol)) := by
  by_cases room : text.length < capacity
  · rw [Buffer.alloc_of_lt room]
    rfl
  · rw [Buffer.alloc_of_not_lt room]
    trivial

theorem Agrees.view_eq
    {view : First → Second} {first : First} {value : Second}
    (agrees : Agrees view (.ok first : Except (Stop Code) First) (.ok value)) :
    view first = value :=
  (Except.ok.inj agrees).symm

/-- A text that has been written is in its buffer. -/
theorem Buffer.content_of_alloc
    {Symbol : Type*} {capacity : Nat} {text : List Symbol} {buffer : Buffer Symbol}
    (written : alloc capacity text = (.ok buffer : Except (Stop Code) (Buffer Symbol))) :
    buffer.content = text := by
  have agrees := @agrees_alloc Code Symbol capacity text
  rw [written] at agrees
  exact agrees.view_eq

/-- A computation that agrees with a value is followed by what finds that value. -/
theorem Agrees.ok_bind
    {Final : Type*} {view : First → Second} {laterView : Other → Final} {value : Second}
    {bounded : Except (Stop Code) First} {later : First → Except (Stop Code) Other}
    {plain : Except Code Final}
    (agrees : Agrees view bounded (.ok value))
    (laterAgrees : ∀ first, view first = value → Agrees laterView (later first) plain) :
    Agrees laterView (bounded >>= later) plain := by
  cases bounded with
  | ok first => exact laterAgrees first agrees.view_eq
  | error stop =>
      cases stop with
      | overflows => trivial
      | returns code => cases agrees

/-- A computation that agrees with a value overflows or yields it. -/
theorem Agrees.ok_cases
    {view : First → Second} {value : Second} {bounded : Except (Stop Code) First}
    (agrees : Agrees view bounded (.ok value)) :
    bounded = .error .overflows ∨ ∃ first, bounded = .ok first ∧ view first = value := by
  cases bounded with
  | ok first => exact .inr ⟨first, rfl, agrees.view_eq⟩
  | error stop =>
      cases stop with
      | overflows => exact .inl rfl
      | returns code => cases agrees

/-- After a copy what follows finds the text in the buffer. -/
theorem Agrees.copy_bind
    {Symbol : Type u} {view : Other → Last} (buffer : Buffer Symbol) (text : List Symbol)
    {later : Buffer Symbol → Except (Stop Code) Other} {plain : Except Code Last}
    (laterAgrees : ∀ value, value.content = text → Agrees view (later value) plain) :
    Agrees view (buffer.copy text >>= later) plain :=
  (agrees_alloc buffer.capacity text).ok_bind laterAgrees

end

end Foundation
end Refuge
