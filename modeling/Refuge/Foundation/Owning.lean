import Mathlib.Algebra.Order.Group.Multiset
import Mathlib.Data.Multiset.Count
import Mathlib.Tactic.Abel

/-!
# Programs that own blocks

A program allocates blocks of several kinds and frees them.  Whether the n-th
allocation succeeds is for an oracle to say.  Freeing a block that is not held
stops the program for good, so that a program which never stops so frees nothing
twice.  `Owns` states what a program holds in the end for what it holds at the
start, whatever blocks others hold; its rules follow the program.
-/

namespace Refuge
namespace Foundation

/-- A block, with the number of its allocation. -/
structure Block (Kind : Type) where
  number : Nat
  kind : Kind
  deriving DecidableEq

/-- The blocks that are held. -/
structure Store (Kind : Type) where
  live : Multiset (Block Kind)
  /-- The number of the next allocation. -/
  next : Nat
  distinct : live.Nodup
  below : ∀ block ∈ live, block.number < next

namespace Store

variable {Kind : Type}

/-- An allocation that fails. -/
def skip (store : Store Kind) : Store Kind where
  live := store.live
  next := store.next + 1
  distinct := store.distinct
  below := fun block present => Nat.lt_succ_of_lt (store.below block present)

/-- An allocation that succeeds. -/
def push (store : Store Kind) (kind : Kind) : Store Kind where
  live := ⟨store.next, kind⟩ ::ₘ store.live
  next := store.next + 1
  distinct := Multiset.nodup_cons.mpr
    ⟨fun present => absurd (store.below _ present) (Nat.lt_irrefl _), store.distinct⟩
  below := by
    intro block present
    rcases Multiset.mem_cons.mp present with rfl | held
    · exact Nat.lt_succ_self _
    · exact Nat.lt_succ_of_lt (store.below block held)

/-- A block that is no longer held. -/
def drop [DecidableEq Kind] (store : Store Kind) (block : Block Kind) : Store Kind where
  live := store.live.erase block
  next := store.next
  distinct := store.distinct.erase block
  below := fun _ present => store.below _ (Multiset.mem_of_mem_erase present)

/-- Nothing is held. -/
def empty : Store Kind where
  live := 0
  next := 0
  distinct := Multiset.nodup_zero
  below := fun _ present => absurd present (Multiset.notMem_zero _)

end Store

/-- How a program stops for good. -/
inductive Stray (Fault : Type)
  /-- It frees a block that is not held. -/
  | frees
  | other (fault : Fault)

/-- A program that allocates and frees. -/
abbrev Owning (Kind Fault : Type) := StateT (Store Kind) (Except (Stray Fault))

section

variable {Kind Fault : Type}

/-- Allocate a block, if there is memory for it. -/
def alloc (allocates : Nat → Bool) (kind : Kind) : Owning Kind Fault (Option (Block Kind)) :=
  fun store =>
    if allocates store.next then .ok (some ⟨store.next, kind⟩, store.push kind)
    else .ok (none, store.skip)

/-- Free a block. -/
def free [DecidableEq Kind] (block : Block Kind) : Owning Kind Fault Unit := fun store =>
  if block ∈ store.live then .ok ((), store.drop block) else .error .frees

/-- A block becomes part of another one and is not freed by itself. -/
def absorb [DecidableEq Kind] (block : Block Kind) : Owning Kind Fault Unit :=
  free block

/-- Do what is not defined. -/
def stray {Result : Type} (fault : Fault) : Owning Kind Fault Result := fun _ =>
  .error (.other fault)

end

/-! ## What is held -/

section

variable {Kind Fault Result Other : Type}

/-- What a program comes to: results that `post` says, or an allowed fault. -/
def ComesTo (allowed : Fault → Prop) (post : Result → Multiset (Block Kind) → Prop) :
    Except (Stray Fault) (Result × Store Kind) → Prop
  | .ok (result, after) => post result after.live
  | .error .frees => False
  | .error (.other fault) => allowed fault

/-- Started with some blocks, a program stops for good only by an allowed fault; it
ends with the blocks that `post` says, and leaves those of others alone. -/
def Owns (allowed : Fault → Prop) (held : Multiset (Block Kind))
    (program : Owning Kind Fault Result) (post : Result → Multiset (Block Kind) → Prop) : Prop :=
  ∀ (store : Store Kind) (others : Multiset (Block Kind)), store.live = held + others →
    ComesTo allowed (fun result live => ∃ left, post result left ∧ live = left + others)
      (program store)

variable {allowed more : Fault → Prop} {held rest : Multiset (Block Kind)}
  {program : Owning Kind Fault Result} {later : Result → Owning Kind Fault Other}
  {mid post : Result → Multiset (Block Kind) → Prop}
  {last : Other → Multiset (Block Kind) → Prop}

theorem ComesTo.imp
    {outcome : Except (Stray Fault) (Result × Store Kind)} (comes : ComesTo allowed mid outcome)
    (allows : ∀ fault, allowed fault → more fault)
    (weaker : ∀ result live, mid result live → post result live) : ComesTo more post outcome := by
  cases outcome with
  | ok reached => exact weaker _ _ comes
  | error stop =>
      cases stop with
      | frees => exact comes
      | other fault => exact allows fault comes

namespace Owns

theorem pure {result : Result} (done : post result held) :
    Owns allowed held (Pure.pure result : Owning Kind Fault Result) post :=
  fun _ _ live => ⟨held, done, live⟩

theorem stray {fault : Fault} (is : allowed fault) :
    Owns allowed held (Foundation.stray fault : Owning Kind Fault Result) post :=
  fun _ _ _ => is

/-- The rule for a sequence. -/
theorem bind
    (first : Owns allowed held program mid)
    (second : ∀ result left, mid result left → Owns allowed left (later result) last) :
    Owns allowed held (program >>= later) last := by
  intro store others live
  have ran := first store others live
  simp only [Bind.bind, StateT.bind, Except.bind]
  cases stepped : program store with
  | error stop =>
      rw [stepped] at ran
      cases stop with
      | frees => exact ran
      | other fault => exact ran
  | ok outcome =>
      rw [stepped] at ran
      obtain ⟨left, reached, after⟩ := ran
      exact second outcome.1 left reached outcome.2 others after

/-- The frame rule: what else is held stays held. -/
theorem frame (owns : Owns allowed held program post) (rest : Multiset (Block Kind)) :
    Owns allowed (held + rest) program fun result left =>
      ∃ own, post result own ∧ left = own + rest := by
  intro store others live
  refine (owns store (rest + others) (by rw [live, add_assoc])).imp (fun _ is => is) ?_
  rintro result _ ⟨left, reached, rfl⟩
  exact ⟨left + rest, ⟨left, reached, rfl⟩, (add_assoc _ _ _).symm⟩

/-- The rule of consequence. -/
theorem mono
    (owns : Owns allowed held program mid)
    (weaker : ∀ result left, mid result left → post result left) :
    Owns allowed held program post :=
  fun store others live => (owns store others live).imp (fun _ is => is)
    fun _ _ ⟨left, reached, after⟩ => ⟨left, weaker _ _ reached, after⟩

/-- More faults may be allowed. -/
theorem allow
    (owns : Owns allowed held program post) (allows : ∀ fault, allowed fault → more fault) :
    Owns more held program post :=
  fun store others live => (owns store others live).imp allows fun _ _ reached => reached

/-- The rule for a call that is given some of the blocks. -/
theorem give
    {own : Multiset (Block Kind)} (splits : held = own + rest)
    (first : Owns allowed own program mid)
    (second : ∀ result left, mid result left → Owns allowed (left + rest) (later result) last) :
    Owns allowed held (program >>= later) last := by
  rw [splits]
  refine (first.frame rest).bind ?_
  rintro result _ ⟨left, reached, rfl⟩
  exact second result left reached

/-- The rule for a call that is given nothing. -/
theorem call
    (first : Owns allowed 0 program mid)
    (second : ∀ result left, mid result left → Owns allowed (left + held) (later result) last) :
    Owns allowed held (program >>= later) last :=
  give (zero_add held).symm first second

/-- The rule for an allocation. -/
theorem alloc
    (allocates : Nat → Bool) (kind : Kind)
    {later : Option (Block Kind) → Owning Kind Fault Other}
    (fails : ∀ number, allocates number = false → Owns allowed held (later none) last)
    (succeeds : ∀ block : Block Kind, block.kind = kind → allocates block.number = true →
      Owns allowed ({block} + held) (later (some block)) last) :
    Owns allowed held (Foundation.alloc allocates kind >>= later) last := by
  intro store others live
  simp only [Bind.bind, StateT.bind, Except.bind, Foundation.alloc]
  cases outcome : allocates store.next with
  | false => exact fails _ outcome store.skip others live
  | true =>
      refine succeeds ⟨store.next, kind⟩ rfl outcome (store.push kind) others ?_
      rw [add_assoc, ← live]
      rfl

/-- The rule for freeing. -/
theorem free [DecidableEq Kind]
    {block : Block Kind} {later : Unit → Owning Kind Fault Other} (rest : Multiset (Block Kind))
    (splits : held = {block} + rest) (second : Owns allowed rest (later ()) last) :
    Owns allowed held (Foundation.free block >>= later) last := by
  intro store others live
  rw [splits, add_assoc, Multiset.singleton_add] at live
  have present : block ∈ store.live := live ▸ Multiset.mem_cons_self _ _
  simp only [Bind.bind, StateT.bind, Except.bind, Foundation.free, if_pos present]
  refine second (store.drop block) others ?_
  simp [Store.drop, live]

theorem absorb [DecidableEq Kind]
    {block : Block Kind} {later : Unit → Owning Kind Fault Other} (rest : Multiset (Block Kind))
    (splits : held = {block} + rest) (second : Owns allowed rest (later ()) last) :
    Owns allowed held (Foundation.absorb block >>= later) last :=
  free rest splits second

/-- The rule for a sequence that ends at the first error. -/
theorem attempt
    {Code : Type} {program : Owning Kind Fault (Except Code Result)}
    {later : Result → ExceptT Code (Owning Kind Fault) Other}
    {mid : Except Code Result → Multiset (Block Kind) → Prop}
    {last : Except Code Other → Multiset (Block Kind) → Prop}
    (first : Owns allowed 0 program mid)
    (fails : ∀ code left, mid (.error code) left → last (.error code) (left + held))
    (succeeds : ∀ result left, mid (.ok result) left →
      Owns allowed (left + held) (later result).run last) :
    Owns allowed held (ExceptT.mk program >>= later).run last := by
  refine first.call fun result left reached => ?_
  cases result with
  | error code => exact .pure (fails code left reached)
  | ok result => exact succeeds result left reached

/-- Freeing at the end. -/
theorem last_free [DecidableEq Kind] (block : Block Kind) :
    Owns allowed {block} (Foundation.free block) fun _ left => left = 0 := by
  have freed : Owns allowed {block} (Foundation.free block >>= Pure.pure) fun _ left => left = 0 :=
    free 0 (add_zero _).symm (pure rfl)
  rwa [bind_pure] at freed

/-- A program that starts with nothing held. -/
theorem comesTo (owns : Owns allowed 0 program post) :
    ComesTo allowed post (program Store.empty) := by
  refine (owns Store.empty 0 rfl).imp (fun _ is => is) ?_
  rintro result _ ⟨left, reached, rfl⟩
  rwa [add_zero]

end Owns

end

end Foundation
end Refuge
