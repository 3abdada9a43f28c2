import Mathlib.Tactic.Ring
import Mathlib.Tactic.Positivity
import Mathlib.Data.Nat.Log

/-!
# Binary64 numbers

A finite binary64 number is an integral multiple of `2 ^ -1074` whose
magnitude has a significand of at most 53 bits and stays below `2 ^ 1024`.
`ofRatio` rounds an exact ratio to the nearest such number, ties to even, and
overflows to an infinity; a ratio that is already representable is its own
rounding.  The two signed zeros are one value here.
-/

namespace Refuge
namespace Foundation

/-- The integer nearest to `numerator / denominator`, ties to even. -/
def roundHalfEven (numerator denominator : Nat) : Nat :=
  let quotient := numerator / denominator
  let remainder := numerator % denominator
  if 2 * remainder < denominator then quotient
  else if denominator < 2 * remainder then quotient + 1
  else if quotient % 2 = 0 then quotient
  else quotient + 1

theorem roundHalfEven_le_succ (numerator denominator : Nat) :
    roundHalfEven numerator denominator ≤ numerator / denominator + 1 := by
  unfold roundHalfEven
  dsimp only
  split_ifs <;> omega

/-- An exact quotient is its own rounding. -/
@[simp] theorem roundHalfEven_mul_right
    (quotient : Nat) {denominator : Nat} (positive : 0 < denominator) :
    roundHalfEven (quotient * denominator) denominator = quotient := by
  unfold roundHalfEven
  simp [Nat.mul_div_cancel quotient positive, positive]

namespace Binary64

/-- The smallest subnormal, the unit of measure, is `2 ^ -1074`. -/
@[irreducible] def unitExponent : Nat := 1074

/-- Finite magnitudes stay below `2 ^ 1024`. -/
def overflowExponent : Nat := 1024

/-- The number one, in units. -/
def unitsPerOne : Nat := 2 ^ unitExponent

/-- The first magnitude that overflows, in units. -/
def overflowUnits : Nat := 2 ^ overflowExponent * unitsPerOne

theorem unitExponent_pos : 0 < unitExponent := by
  rw [unitExponent]
  decide

theorem unitsPerOne_pos : 0 < unitsPerOne :=
  Nat.two_pow_pos unitExponent

/-- A magnitude, in units, that a finite binary64 number can have. -/
def Representable (magnitude : Nat) : Prop :=
  (∃ significand exponent,
    significand < 2 ^ 53 ∧ magnitude = significand * 2 ^ exponent) ∧
    magnitude < overflowUnits

/-- Number of low bits of the integral part that a 53-bit significand drops. -/
def droppedBits (magnitude : Nat) : Nat :=
  magnitude.log2 - 52

/-- The magnitude of at most 53 significant bits nearest to a ratio. -/
def roundUnits (numerator denominator : Nat) : Nat :=
  let dropped := droppedBits (numerator / denominator)
  roundHalfEven numerator (denominator * 2 ^ dropped) * 2 ^ dropped

private theorem lt_two_pow_droppedBits (magnitude : Nat) :
    magnitude < 2 ^ (53 + droppedBits magnitude) := by
  have bound : magnitude < 2 ^ (magnitude.log2 + 1) := Nat.lt_log2_self
  refine lt_of_lt_of_le bound (Nat.pow_le_pow_right (by decide) ?_)
  unfold droppedBits
  omega

private theorem droppedBits_mul_two_pow_le
    {significand : Nat} (exponent : Nat) (small : significand < 2 ^ 53) :
    droppedBits (significand * 2 ^ exponent) ≤ exponent := by
  unfold droppedBits
  by_cases zero : significand = 0
  · simp [zero]
  · have nonzero : significand * 2 ^ exponent ≠ 0 := by positivity
    have below : significand * 2 ^ exponent < 2 ^ (53 + exponent) := by
      rw [pow_add]
      exact Nat.mul_lt_mul_of_pos_right small (by positivity)
    have := (Nat.log2_lt nonzero).mpr below
    omega

/-- A rounded magnitude has at most 53 significant bits. -/
theorem roundUnits_significand (numerator denominator : Nat) :
    ∃ significand exponent, significand < 2 ^ 53 ∧
      roundUnits numerator denominator = significand * 2 ^ exponent := by
  unfold roundUnits
  generalize droppedEq : droppedBits (numerator / denominator) = dropped
  have quotientBound : numerator / (denominator * 2 ^ dropped) < 2 ^ 53 := by
    rw [← Nat.div_div_eq_div_mul, Nat.div_lt_iff_lt_mul (by positivity),
      ← pow_add, ← droppedEq]
    exact lt_two_pow_droppedBits _
  have rounded := roundHalfEven_le_succ numerator (denominator * 2 ^ dropped)
  rcases Nat.lt_or_ge (roundHalfEven numerator (denominator * 2 ^ dropped))
    (2 ^ 53) with below | carried
  · exact ⟨_, dropped, below, rfl⟩
  · have carry : roundHalfEven numerator (denominator * 2 ^ dropped) = 2 ^ 53 := by
      omega
    refine ⟨2 ^ 52, dropped + 1, by decide, ?_⟩
    dsimp only
    rw [carry]
    ring

/-- A representable magnitude is its own rounding. -/
theorem roundUnits_exact
    {magnitude denominator : Nat}
    (positive : 0 < denominator)
    (representable : Representable magnitude) :
    roundUnits (magnitude * denominator) denominator = magnitude := by
  obtain ⟨⟨significand, exponent, small, rfl⟩, _⟩ := representable
  unfold roundUnits
  rw [Nat.mul_div_cancel _ positive]
  have dropsZeros := droppedBits_mul_two_pow_le exponent small
  generalize droppedBits (significand * 2 ^ exponent) = dropped at dropsZeros
  obtain ⟨kept, rfl⟩ := Nat.exists_eq_add_of_le dropsZeros
  have regroup : significand * 2 ^ (dropped + kept) * denominator =
      (significand * 2 ^ kept) * (denominator * 2 ^ dropped) := by ring
  simp only [regroup]
  rw [roundHalfEven_mul_right _ (by positivity)]
  ring

/-- Integers up to `2 ^ 53` are representable. -/
theorem representable_natural {value : Nat} (small : value ≤ 2 ^ 53) :
    Representable (value * unitsPerOne) := by
  constructor
  · rcases Nat.lt_or_ge value (2 ^ 53) with below | atLeast
    · exact ⟨value, unitExponent, below, rfl⟩
    · refine ⟨2 ^ 52, unitExponent + 1, by decide, ?_⟩
      rw [show value = 2 ^ 53 by omega, unitsPerOne]
      ring
  · have fits : 2 ^ 53 < 2 ^ overflowExponent :=
      Nat.pow_lt_pow_right (by decide) (by decide)
    exact Nat.mul_lt_mul_of_pos_right (lt_of_le_of_lt small fits) unitsPerOne_pos

end Binary64

/-- A finite binary64 number, as a signed number of units. -/
structure Finite64 where
  /-- The value, in units of `2 ^ -1074`. -/
  units : Int
  /-- Its magnitude fits a 53-bit significand and does not overflow. -/
  representable : Binary64.Representable units.natAbs

@[ext] theorem Finite64.ext {left right : Finite64}
    (units : left.units = right.units) : left = right := by
  cases left
  cases right
  simpa using units

instance : DecidableEq Finite64 := fun left right =>
  decidable_of_iff (left.units = right.units)
    ⟨Finite64.ext, fun equal => equal ▸ rfl⟩

/-- A binary64 number. -/
inductive Binary64
  | nan
  | infinity (negative : Bool)
  | finite (value : Finite64)
  deriving DecidableEq

namespace Binary64

/-- Whether a number is neither an infinity nor a NaN. -/
def isFinite : Binary64 → Bool
  | .finite _ => true
  | _ => false

/-- Comparison with zero; a NaN is unequal to it. -/
def isZero : Binary64 → Bool
  | .finite value => value.units = 0
  | _ => false

/-- Apply a sign to a magnitude. -/
def signed (negative : Bool) (magnitude : Nat) : Int :=
  if negative then -(magnitude : Int) else magnitude

@[simp] theorem natAbs_signed (negative : Bool) (magnitude : Nat) :
    (signed negative magnitude).natAbs = magnitude := by
  cases negative <;> simp [signed]

/-- The number nearest to a signed ratio. -/
def ofRatio (negative : Bool) (numerator denominator : Nat) : Binary64 :=
  let magnitude := roundUnits (numerator * unitsPerOne) denominator
  if below : magnitude < overflowUnits then
    .finite
      { units := signed negative magnitude
        representable := by
          rw [natAbs_signed]
          exact ⟨roundUnits_significand _ _, below⟩ }
  else .infinity negative

/-- A ratio that is exactly representable is converted exactly. -/
theorem ofRatio_exact
    (negative : Bool) {numerator denominator : Nat}
    (positive : 0 < denominator) (value : Finite64)
    (sign : value.units = signed negative value.units.natAbs)
    (exact : numerator * unitsPerOne = value.units.natAbs * denominator) :
    ofRatio negative numerator denominator = .finite value := by
  have rounded : roundUnits (numerator * unitsPerOne) denominator =
      value.units.natAbs := by
    rw [exact, roundUnits_exact positive value.representable]
  unfold ofRatio
  simp only [rounded, value.representable.2, ↓reduceDIte, Binary64.finite.injEq]
  ext
  exact sign.symm

/-- The number nearest to an integer. -/
def ofInt (value : Int) : Binary64 :=
  ofRatio (value < 0) value.natAbs 1

/-- Integers of magnitude at most `2 ^ 53` are converted exactly. -/
theorem ofInt_eq
    {value : Int} (small : value.natAbs ≤ 2 ^ 53) :
    ∃ exact : Finite64, ofInt value = .finite exact ∧
      exact.units = value * unitsPerOne := by
  let exact : Finite64 :=
    { units := value * unitsPerOne
      representable := by
        rw [Int.natAbs_mul, Int.natAbs_natCast]
        exact representable_natural small }
  refine ⟨exact, ofRatio_exact _ Nat.one_pos exact ?_ ?_, rfl⟩
  · have magnitude : exact.units.natAbs = value.natAbs * unitsPerOne := by
      simp only [exact, Int.natAbs_mul, Int.natAbs_natCast]
    rw [magnitude]
    simp only [exact, signed, decide_eq_true_eq]
    split
    · rw [Nat.cast_mul, Int.ofNat_natAbs_of_nonpos (by omega)]
      ring
    · rw [Nat.cast_mul, Int.natAbs_of_nonneg (by omega)]
  · simp only [exact, Int.natAbs_mul, Int.natAbs_natCast]
    ring

@[simp] theorem isFinite_ofInt
    {value : Int} (small : value.natAbs ≤ 2 ^ 53) :
    (ofInt value).isFinite = true := by
  obtain ⟨exact, equation, _⟩ := ofInt_eq small
  rw [equation]
  rfl

theorem isZero_ofInt_iff
    {value : Int} (small : value.natAbs ≤ 2 ^ 53) :
    (ofInt value).isZero = true ↔ value = 0 := by
  obtain ⟨exact, equation, units⟩ := ofInt_eq small
  rw [equation]
  simp [isZero, units, unitsPerOne_pos.ne']

/-- Distinct small integers are distinct numbers. -/
theorem ofInt_injective
    {left right : Int}
    (leftSmall : left.natAbs ≤ 2 ^ 53) (rightSmall : right.natAbs ≤ 2 ^ 53)
    (equal : ofInt left = ofInt right) : left = right := by
  obtain ⟨leftExact, leftEquation, leftUnits⟩ := ofInt_eq leftSmall
  obtain ⟨rightExact, rightEquation, rightUnits⟩ := ofInt_eq rightSmall
  rw [leftEquation, rightEquation] at equal
  have sameUnits : left * unitsPerOne = right * unitsPerOne := by
    rw [← leftUnits, ← rightUnits, Binary64.finite.inj equal]
  have nonzero : (unitsPerOne : Int) ≠ 0 := by
    exact_mod_cast unitsPerOne_pos.ne'
  exact mul_right_cancel₀ nonzero sameUnits

end Binary64
end Foundation
end Refuge
