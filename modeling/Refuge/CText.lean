import Refuge.Foundation.Binary64

/-!
# C texts and the number conversions of the standard library

A C string is the list of its bytes before the terminator; a byte is written
as the character of that code.  `strlen` is the length of the list.  This
module defines the conversions the program calls: `atoi` and `atof` read the
longest numeric prefix, `sprintf` with `%d` and `%f` writes a number.
-/

namespace Refuge

open Foundation

/-- The bytes of a C string before its terminator. -/
abbrev Text := List Char

/-- `tolower` on every byte, in the C locale. -/
def lowercase (text : Text) : Text :=
  text.map Char.toLower

/-- `isspace` in the C locale. -/
def isSpace (byte : Char) : Bool :=
  byte = ' ' || ('\t' ≤ byte && byte ≤ '\r')

/-- Split off an optional sign. -/
def scanSign : Text → Bool × Text
  | '-' :: rest => (true, rest)
  | '+' :: rest => (false, rest)
  | text => (false, text)

/-- The value of a string of decimal digits. -/
def decimalValue (digits : Text) : Nat :=
  Nat.ofDigitChars 10 digits 0

/-! ## Integers -/

/-- The `int` obtained by keeping the low 32 bits. -/
def toInt32 (value : Int) : Int :=
  Int.bmod value (2 ^ 32)

theorem toInt32_eq
    {value : Int} (lower : -2 ^ 31 ≤ value) (upper : value < 2 ^ 31) :
    toInt32 value = value := by
  unfold toInt32
  exact Int.bmod_eq_of_le (by omega) (by omega)

/-- `strtol` in base ten, saturating at the bounds of `long`. -/
def strtol (text : Text) : Int :=
  let (negative, body) := scanSign (text.dropWhile isSpace)
  let value := Binary64.signed negative (decimalValue (body.takeWhile Char.isDigit))
  max (-2 ^ 63) (min (2 ^ 63 - 1) value)

/-- `atoi` is `strtol` converted to `int`. -/
def atoi (text : Text) : Int :=
  toInt32 (strtol text)

/-- The decimal digits of a natural number. -/
def decimal (value : Nat) : Text :=
  Nat.toDigits 10 value

/-- `sprintf` with `%d`. -/
def sprintfD (value : Int) : Text :=
  if value < 0 then '-' :: decimal value.natAbs else decimal value.natAbs

/-! ## Floating point -/

/-- Split off an exponent: a mark, an optional sign and decimal digits. -/
def scanExponent (mark : Char) : Text → Int × Text
  | [] => (0, [])
  | byte :: rest =>
      let (negative, body) := scanSign rest
      if byte.toLower = mark ∧ body.takeWhile Char.isDigit ≠ [] then
        (Binary64.signed negative (decimalValue (body.takeWhile Char.isDigit)),
          body.dropWhile Char.isDigit)
      else (0, byte :: rest)

/-- Split off digits with an optional fraction: the digits, the number of them
after the point, and the rest. -/
def scanFraction (isDigit : Char → Bool) (text : Text) : Text × Nat × Text :=
  let whole := text.takeWhile isDigit
  match text.dropWhile isDigit with
  | '.' :: rest =>
      let fraction := rest.takeWhile isDigit
      if whole = [] ∧ fraction = [] then ([], 0, text)
      else (whole ++ fraction, fraction.length, rest.dropWhile isDigit)
  | rest => (whole, 0, rest)

/-- The number nearest to a significand scaled by a power of a base. -/
def scaled (negative : Bool) (significand base : Nat) (exponent : Int) : Binary64 :=
  if 0 ≤ exponent then
    Binary64.ofRatio negative (significand * base ^ exponent.toNat) 1
  else
    Binary64.ofRatio negative significand (base ^ (-exponent).toNat)

/-- Read an unsigned decimal numeral; no digits read as zero. -/
def scanDecimal (negative : Bool) (text : Text) : Binary64 × Text :=
  let (digits, places, afterDigits) := scanFraction Char.isDigit text
  if digits = [] then (.ofInt 0, text)
  else
    let (exponent, rest) := scanExponent 'e' afterDigits
    (scaled negative (decimalValue digits) 10 (exponent - places), rest)

/-- A hexadecimal digit. -/
def isHexDigit (byte : Char) : Bool :=
  byte.isDigit || ('a' ≤ byte.toLower && byte.toLower ≤ 'f')

/-- The value of a hexadecimal digit. -/
def hexDigitValue (byte : Char) : Nat :=
  if byte.isDigit then byte.toNat - 48 else byte.toLower.toNat - 87

/-- Read the digits of a hexadecimal numeral after its `0x`; no digits read as
the zero before the `x`. -/
def scanHexadecimal (negative : Bool) (text : Text) : Binary64 :=
  let (digits, places, afterDigits) := scanFraction isHexDigit text
  let (exponent, _) := scanExponent 'p' afterDigits
  scaled negative (digits.foldl (fun value digit => 16 * value + hexDigitValue digit) 0)
    2 (exponent - 4 * places)

/-- `atof`: blanks, an optional sign, then an infinity, a NaN, a hexadecimal or
a decimal numeral; anything else is zero. -/
def atof (text : Text) : Binary64 :=
  let (negative, body) := scanSign (text.dropWhile isSpace)
  if "inf".toList.isPrefixOf (lowercase body) then .infinity negative
  else if "nan".toList.isPrefixOf (lowercase body) then .nan
  else if "0x".toList.isPrefixOf (lowercase body) then
    scanHexadecimal negative (body.drop 2)
  else (scanDecimal negative body).1

/-- Pad a numeral with leading zeros. -/
def padZeros (width : Nat) (digits : Text) : Text :=
  List.replicate (width - digits.length) '0' ++ digits

/-- `sprintf` with `%f`: six decimals, rounded half to even. -/
def sprintfF : Binary64 → Text
  | .nan => "nan".toList
  | .infinity negative => if negative then "-inf".toList else "inf".toList
  | .finite value =>
      let millionths :=
        roundHalfEven (value.units.natAbs * 10 ^ 6) Binary64.unitsPerOne
      (if value.units < 0 then ['-'] else []) ++
        decimal (millionths / 10 ^ 6) ++
          '.' :: padZeros 6 (decimal (millionths % 10 ^ 6))

/-! ## Reading back what was written -/

theorem isDigit_of_mem_decimal
    {value : Nat} {byte : Char} (present : byte ∈ decimal value) :
    byte.isDigit = true :=
  Nat.isDigit_of_mem_toDigits (by decide) (by decide) present

theorem decimal_ne_nil (value : Nat) : decimal value ≠ [] :=
  Nat.toDigits_ne_nil

@[simp] theorem decimalValue_decimal (value : Nat) :
    decimalValue (decimal value) = value :=
  Nat.ofDigitChars_ten_toDigits

/-- A text that does not begin with a digit. -/
def NoDigitHead (text : Text) : Prop :=
  ∀ byte ∈ text.head?, byte.isDigit = false

theorem takeWhile_isDigit_decimal_append
    (value : Nat) {rest : Text} (stops : NoDigitHead rest) :
    (decimal value ++ rest).takeWhile Char.isDigit = decimal value := by
  rw [List.takeWhile_append_of_pos fun _ present => isDigit_of_mem_decimal present]
  cases rest with
  | nil => simp
  | cons byte rest =>
      have notDigit : byte.isDigit = false := stops byte (by simp)
      simp [notDigit]

theorem dropWhile_isDigit_decimal_append
    (value : Nat) {rest : Text} (stops : NoDigitHead rest) :
    (decimal value ++ rest).dropWhile Char.isDigit = rest := by
  rw [List.dropWhile_append_of_pos fun _ present => isDigit_of_mem_decimal present]
  cases rest with
  | nil => rfl
  | cons byte rest =>
      have notDigit : byte.isDigit = false := stops byte (by simp)
      simp [notDigit]

/-- A numeral begins with a digit. -/
theorem decimal_eq_cons (value : Nat) :
    ∃ digit digits, decimal value = digit :: digits ∧ digit.isDigit = true := by
  obtain ⟨digit, digits, split⟩ := List.exists_cons_of_ne_nil (decimal_ne_nil value)
  exact ⟨digit, digits, split, isDigit_of_mem_decimal (split ▸ List.mem_cons_self)⟩

theorem isDigit_bounds {byte : Char} (digit : byte.isDigit = true) :
    48 ≤ byte.toNat ∧ byte.toNat ≤ 57 := by
  simp only [Char.isDigit, ge_iff_le, Bool.and_eq_true, decide_eq_true_eq,
    UInt32.le_iff_toNat_le] at digit
  exact digit

theorem isDigit_ne {byte other : Char}
    (digit : byte.isDigit = true) (notDigit : other.isDigit = false) :
    byte ≠ other := by
  rintro rfl
  rw [digit] at notDigit
  exact Bool.noConfusion notDigit

theorem isSpace_of_isDigit {byte : Char} (digit : byte.isDigit = true) :
    isSpace byte = false := by
  have bounds := isDigit_bounds digit
  have notBlank : byte ≠ ' ' := isDigit_ne digit (by decide)
  have above : ¬byte ≤ '\r' := by
    rw [Char.le_def, UInt32.le_iff_toNat_le]
    change ¬byte.toNat ≤ 13
    omega
  simp [isSpace, notBlank, above]

theorem scanSign_of_isDigit
    {byte : Char} (digit : byte.isDigit = true) (rest : Text) :
    scanSign (byte :: rest) = (false, byte :: rest) := by
  have notMinus : byte ≠ '-' := isDigit_ne digit (by decide)
  have notPlus : byte ≠ '+' := isDigit_ne digit (by decide)
  unfold scanSign
  split <;> simp_all

theorem toLower_of_isDigit {byte : Char} (digit : byte.isDigit = true) :
    byte.toLower = byte := by
  have bounds := isDigit_bounds digit
  unfold Char.toLower
  split
  · rename_i upper
    have := upper.1
    rw [ge_iff_le, UInt32.le_iff_toNat_le] at this
    change 65 ≤ byte.toNat at this
    omega
  · rfl

/-- Leading blanks and signs are absent from a numeral. -/
theorem scanSign_dropWhile_decimal_append (value : Nat) (rest : Text) :
    scanSign ((decimal value ++ rest).dropWhile isSpace) =
      (false, decimal value ++ rest) := by
  obtain ⟨digit, digits, split, isDigit⟩ := decimal_eq_cons value
  rw [split, List.cons_append, List.dropWhile_cons_of_neg
    (by simp [isSpace_of_isDigit isDigit]), scanSign_of_isDigit isDigit]

private theorem scanSign_dropWhile_minus (text : Text) :
    scanSign (('-' :: text).dropWhile isSpace) = (true, text) := rfl

/-- `atoi` reads back what `%d` wrote, up to the first other byte. -/
theorem atoi_sprintfD_append
    {value : Int} (lower : -2 ^ 31 ≤ value) (upper : value < 2 ^ 31)
    {rest : Text} (stops : NoDigitHead rest) :
    atoi (sprintfD value ++ rest) = value := by
  unfold atoi strtol sprintfD
  by_cases negative : value < 0
  · simp only [negative, ↓reduceIte, List.cons_append, scanSign_dropWhile_minus,
      takeWhile_isDigit_decimal_append _ stops, decimalValue_decimal,
      Binary64.signed]
    rw [show max (-2 ^ 63) (min (2 ^ 63 - 1) (-(value.natAbs : Int))) = value by omega]
    exact toInt32_eq lower upper
  · simp only [negative, ↓reduceIte, scanSign_dropWhile_decimal_append,
      takeWhile_isDigit_decimal_append _ stops, decimalValue_decimal,
      Binary64.signed, Bool.false_eq_true]
    rw [show max (-2 ^ 63) (min (2 ^ 63 - 1) (value.natAbs : Int)) = value by omega]
    exact toInt32_eq lower upper

/-- `%f` writes a small integer as its digits, a point and six zeros. -/
theorem sprintfF_ofInt {value : Int} (small : value.natAbs ≤ 2 ^ 53) :
    sprintfF (.ofInt value) = sprintfD value ++ ".000000".toList := by
  obtain ⟨exact, equation, units⟩ := Binary64.ofInt_eq small
  have positive := Binary64.unitsPerOne_pos
  have magnitude : exact.units.natAbs * 10 ^ 6 =
      (value.natAbs * 10 ^ 6) * Binary64.unitsPerOne := by
    rw [units, Int.natAbs_mul, Int.natAbs_natCast]
    ring
  have sign : exact.units < 0 ↔ value < 0 := by
    have nonneg : (0 : Int) < Binary64.unitsPerOne := by exact_mod_cast positive
    rw [units]
    constructor
    · intro below
      by_contra atLeast
      exact absurd (Int.mul_nonneg (Int.not_lt.mp atLeast) nonneg.le) (by omega)
    · intro below
      exact Int.mul_neg_of_neg_of_pos below nonneg
  have zeros : padZeros 6 (decimal 0) = "000000".toList := by decide
  rw [equation]
  simp only [sprintfF, magnitude, roundHalfEven_mul_right _ positive, sign]
  rw [Nat.mul_div_cancel _ (by decide), Nat.mul_mod_left, zeros]
  unfold sprintfD
  split <;> simp

/-- The text of a small number converts back to it. -/
theorem atoi_sprintfF_ofInt
    {value : Int} (lower : -2 ^ 31 ≤ value) (upper : value < 2 ^ 31) :
    atoi (sprintfF (.ofInt value)) = value := by
  have stops : NoDigitHead ".000000".toList := by
    intro byte present
    obtain rfl : '.' = byte := by simpa using present
    rfl
  rw [sprintfF_ofInt (by omega), atoi_sprintfD_append lower upper stops]

/-- The digits that follow those of a counter. -/
theorem sprintfD_atoi_sprintfF_ofInt {count : Nat} (room : count + 1 < 2 ^ 31) :
    sprintfD (toInt32 (atoi (sprintfF (.ofInt count)) + 1)) = decimal (count + 1) := by
  have next : toInt32 ((count : Int) + 1) = ((count + 1 : Nat) : Int) := by
    rw [toInt32_eq (by omega) (by omega)]
    rfl
  rw [atoi_sprintfF_ofInt (by omega) (by omega), next, sprintfD, Int.natAbs_natCast]
  exact if_neg (by omega)

private theorem not_isPrefixOf_decimal
    {pattern : Text} (byte : Char) (present : byte ∈ pattern)
    (notDigit : byte.isDigit = false) (value : Nat) :
    pattern.isPrefixOf (decimal value) = false := by
  rw [Bool.eq_false_iff]
  intro isPrefix
  have inDecimal : byte ∈ decimal value :=
    (List.isPrefixOf_iff_prefix.mp isPrefix).subset present
  rw [isDigit_of_mem_decimal inDecimal] at notDigit
  exact Bool.noConfusion notDigit

/-- `atof` converts the digits of a natural number to the nearest number. -/
theorem atof_decimal (value : Nat) :
    atof (decimal value) = .ofInt value := by
  have noHead : NoDigitHead [] := by simp [NoDigitHead]
  have unsigned := scanSign_dropWhile_decimal_append value []
  have whole := takeWhile_isDigit_decimal_append value noHead
  have nothing := dropWhile_isDigit_decimal_append value noHead
  rw [List.append_nil] at unsigned whole nothing
  have lowered : lowercase (decimal value) = decimal value := by
    unfold lowercase
    rw [List.map_congr_left fun byte present =>
      toLower_of_isDigit (isDigit_of_mem_decimal present), List.map_id']
  have notInf : "inf".toList.isPrefixOf (decimal value) = false :=
    not_isPrefixOf_decimal 'i' (by decide) (by decide) value
  have notNan : "nan".toList.isPrefixOf (decimal value) = false :=
    not_isPrefixOf_decimal 'n' (by decide) (by decide) value
  have notHex : "0x".toList.isPrefixOf (decimal value) = false :=
    not_isPrefixOf_decimal 'x' (by decide) (by decide) value
  have fraction : scanFraction Char.isDigit (decimal value) =
      (decimal value, 0, []) := by
    simp only [scanFraction, whole, nothing]
  have negative : decide ((value : Int) < 0) = false := by simp
  unfold atof
  simp only [unsigned, lowered, notInf, notNan, notHex, Bool.false_eq_true,
    ↓reduceIte, scanDecimal, fraction, decimal_ne_nil, scanExponent, scaled,
    Binary64.ofInt, decimalValue_decimal, negative, Int.natAbs_natCast]
  simp

end Refuge
