import Refuge.Json.Library
import Mathlib.Data.List.TakeWhile

/-!
# A reference JSON library

A printer and a parser of JSON texts that satisfy `CJson.Lawful`.  The layout
is the formatted one of `cJSON_Print`: one member a line, indented by tabs.
Integers are printed as their digits; other numbers are printed exactly, as an
integer scaled by a power of ten, where the library would choose a shorter
numeral.  Escapes of characters outside ASCII are not read.
-/

namespace Refuge
namespace Reference

open Foundation

/-! ## Printing -/

/-- The text of a number. -/
def printNumber : Binary64 → Text
  | .finite value =>
      if value.units % Binary64.unitsPerOne = 0 then
        sprintfD (value.units / Binary64.unitsPerOne)
      else
        sprintfD (value.units * 5 ^ Binary64.unitExponent) ++
          'e' :: '-' :: decimal Binary64.unitExponent
  | _ => "null".toList

/-- A hexadecimal digit. -/
def hexDigit (value : Nat) : Char :=
  Nat.digitChar value

/-- The text of a character inside a string. -/
def escape (byte : Char) : Text :=
  if byte = '"' then ['\\', '"']
  else if byte = '\\' then ['\\', '\\']
  else if byte = '\x08' then ['\\', 'b']
  else if byte = '\x0c' then ['\\', 'f']
  else if byte = '\n' then ['\\', 'n']
  else if byte = '\r' then ['\\', 'r']
  else if byte = '\t' then ['\\', 't']
  else if byte.toNat < 32 then
    ['\\', 'u', '0', '0', hexDigit (byte.toNat / 16), hexDigit (byte.toNat % 16)]
  else [byte]

/-- The text of a string, with its quotes. -/
def printString (value : Text) : Text :=
  '"' :: value.flatMap escape ++ ['"']

/-- Indentation. -/
def tabs (depth : Nat) : Text :=
  List.replicate depth '\t'

mutual

/-- The text of a value at a depth of indentation. -/
def printValue (depth : Nat) : Json → Text
  | .null => "null".toList
  | .bool true => "true".toList
  | .bool false => "false".toList
  | .number value => printNumber value
  | .string value => printString value
  | .array [] => ['[', ']']
  | .array (item :: items) => '[' :: (printValue (depth + 1) item ++ printItems depth items)
  | .object [] => '{' :: '\n' :: (tabs depth ++ ['}'])
  | .object ((name, value) :: members) =>
      '{' :: '\n' :: (tabs (depth + 1) ++ printString name ++ ':' :: '\t' ::
        (printValue (depth + 1) value ++ printMembers depth members))

/-- The text of the items after the first, and the closing bracket. -/
def printItems (depth : Nat) : List Json → Text
  | [] => [']']
  | item :: items => ',' :: ' ' :: (printValue (depth + 1) item ++ printItems depth items)

/-- The text of the members after the first, and the closing brace. -/
def printMembers (depth : Nat) : List (Text × Json) → Text
  | [] => '\n' :: (tabs depth ++ ['}'])
  | (name, value) :: members =>
      ',' :: '\n' :: (tabs (depth + 1) ++ printString name ++ ':' :: '\t' ::
        (printValue (depth + 1) value ++ printMembers depth members))

end

/-! ## Parsing -/

/-- Skip bytes up to the blank. -/
def skipSpace (text : Text) : Text :=
  text.dropWhile fun byte => byte.toNat ≤ 32

/-- The value of a hexadecimal digit, if it is one. -/
def readHexDigit (byte : Char) : Option Nat :=
  if isHexDigit byte then some (hexDigitValue byte) else none

/-- Four hexadecimal digits that name an ASCII character. -/
def readUnicode (first second third fourth : Char) : Option Char := do
  let first ← readHexDigit first
  let second ← readHexDigit second
  let third ← readHexDigit third
  let fourth ← readHexDigit fourth
  let code := 4096 * first + 256 * second + 16 * third + fourth
  if code < 128 then some (Char.ofNat code) else none

/-- The character an escape of one letter stands for. -/
def readEscape : Char → Option Char
  | '"' => some '"'
  | '\\' => some '\\'
  | '/' => some '/'
  | 'b' => some '\x08'
  | 'f' => some '\x0c'
  | 'n' => some '\n'
  | 'r' => some '\r'
  | 't' => some '\t'
  | _ => none

/-- The rest of a string after its opening quote. -/
def parseString : Text → Option (Text × Text)
  | [] => none
  | '"' :: rest => some ([], rest)
  | '\\' :: 'u' :: first :: second :: third :: fourth :: rest =>
      (readUnicode first second third fourth).bind fun byte =>
        (parseString rest).map fun (value, after) => (byte :: value, after)
  | '\\' :: letter :: rest =>
      (readEscape letter).bind fun byte =>
        (parseString rest).map fun (value, after) => (byte :: value, after)
  | '\\' :: [] => none
  | byte :: rest => (parseString rest).map fun (value, after) => (byte :: value, after)

/-- A number. -/
def parseNumber (text : Text) : Option (Json × Text) :=
  let (negative, body) := scanSign text
  if (scanFraction Char.isDigit body).1 = [] then none
  else
    let (value, rest) := scanDecimal negative body
    some (.number value, rest)

/-- One of the three literals. -/
def parseLiteral : Text → Option (Json × Text)
  | 'n' :: 'u' :: 'l' :: 'l' :: rest => some (.null, rest)
  | 't' :: 'r' :: 'u' :: 'e' :: rest => some (.bool true, rest)
  | 'f' :: 'a' :: 'l' :: 's' :: 'e' :: rest => some (.bool false, rest)
  | _ => none

/-- A name and its colon. -/
def parseName (text : Text) : Option (Text × Text) :=
  match skipSpace text with
  | '"' :: rest =>
      (parseString rest).bind fun (name, after) =>
        match skipSpace after with
        | ':' :: value => some (name, value)
        | _ => none
  | _ => none

mutual

/-- A value at the start of a text. -/
def parseValue : Nat → Text → Option (Json × Text)
  | 0, _ => none
  | _ + 1, [] => none
  | fuel + 1, byte :: rest =>
      if byte = '"' then
        (parseString rest).map fun (value, after) => (.string value, after)
      else if byte = '[' then
        match skipSpace rest with
        | ']' :: after => some (.array [], after)
        | items => (parseItems fuel items).map fun (items, after) => (.array items, after)
      else if byte = '{' then
        match skipSpace rest with
        | '}' :: after => some (.object [], after)
        | members =>
            (parseMembers fuel members).map fun (members, after) => (.object members, after)
      else if byte = '-' ∨ byte.isDigit then parseNumber (byte :: rest)
      else parseLiteral (byte :: rest)

/-- The items of an array from the first on, and the closing bracket. -/
def parseItems : Nat → Text → Option (List Json × Text)
  | 0, _ => none
  | fuel + 1, text =>
      (parseValue fuel (skipSpace text)).bind fun (item, after) =>
        match skipSpace after with
        | ']' :: rest => some ([item], rest)
        | ',' :: rest => (parseItems fuel rest).map fun (items, rest) => (item :: items, rest)
        | _ => none

/-- The members of an object from the first on, and the closing brace. -/
def parseMembers : Nat → Text → Option (List (Text × Json) × Text)
  | 0, _ => none
  | fuel + 1, text =>
      (parseName text).bind fun (name, value) =>
        (parseValue fuel (skipSpace value)).bind fun (value, after) =>
          match skipSpace after with
          | '}' :: rest => some ([(name, value)], rest)
          | ',' :: rest =>
              (parseMembers fuel rest).map fun (members, rest) =>
                ((name, value) :: members, rest)
          | _ => none

end

end Reference

/-- The reference library. -/
def CJson.reference : CJson where
  parse := fun text =>
    (Reference.parseValue text.length (Reference.skipSpace text)).map Prod.fst
  print := Reference.printValue 0

namespace Reference

open Foundation

/-! ## Reading back scalars -/

theorem readHexDigit_hexDigit {value : Nat} (small : value < 16) :
    readHexDigit (hexDigit value) = some value := by
  revert value
  decide

/-- Reading the text of a character gives the character. -/
theorem parseString_escape (byte : Char) (text : Text) :
    parseString (escape byte ++ text) =
      (parseString text).map fun (value, after) => (byte :: value, after) := by
  unfold escape
  split_ifs with quote backslash backspace formFeed newline carriage tab control
  · subst quote
    simp [parseString, readEscape]
  · subst backslash
    simp [parseString, readEscape]
  · subst backspace
    simp [parseString, readEscape]
  · subst formFeed
    simp [parseString, readEscape]
  · subst newline
    simp [parseString, readEscape]
  · subst carriage
    simp [parseString, readEscape]
  · subst tab
    simp [parseString, readEscape]
  · have high := readHexDigit_hexDigit (show byte.toNat / 16 < 16 by omega)
    have low := readHexDigit_hexDigit (show byte.toNat % 16 < 16 by omega)
    have zero : readHexDigit '0' = some 0 := by decide
    have code : 16 * (byte.toNat / 16) + byte.toNat % 16 = byte.toNat := by omega
    simp [parseString, readUnicode, high, low, zero, code,
      show byte.toNat < 128 by omega]
  · rw [List.singleton_append, parseString.eq_def (byte :: text)]
    split <;> simp_all

/-- Reading a printed string gives the string. -/
theorem parseString_printString (value rest : Text) :
    parseString (value.flatMap escape ++ '"' :: rest) = some (value, rest) := by
  induction value with
  | nil => simp [parseString]
  | cons byte value inductionHypothesis =>
      rw [List.flatMap_cons, List.append_assoc, parseString_escape, inductionHypothesis]
      rfl

/-- What may follow a printed value: nothing, or a byte no numeral contains. -/
def Delimited (rest : Text) : Prop :=
  ∀ byte ∈ rest.head?, byte = ',' ∨ byte = ']' ∨ byte = '\n'

theorem Delimited.noDigitHead {rest : Text} (delimited : Delimited rest) :
    NoDigitHead rest := by
  intro byte present
  rcases delimited byte present with rfl | rfl | rfl <;> rfl

private theorem scanFraction_decimal
    (value : Nat) {rest : Text}
    (noDigit : NoDigitHead rest) (noPoint : rest.head? ≠ some '.') :
    scanFraction Char.isDigit (decimal value ++ rest) = (decimal value, 0, rest) := by
  unfold scanFraction
  rw [takeWhile_isDigit_decimal_append value noDigit,
    dropWhile_isDigit_decimal_append value noDigit]
  split
  · rename_i after point
    simp at noPoint
  · rfl

private theorem scanExponent_of_delimited {rest : Text} (delimited : Delimited rest) :
    scanExponent 'e' rest = (0, rest) := by
  cases rest with
  | nil => rfl
  | cons byte rest =>
      have other : byte.toLower ≠ 'e' := by
        rcases delimited byte (by simp) with rfl | rfl | rfl <;> decide
      simp [scanExponent, other]

private theorem scanDecimal_decimal
    (negative : Bool) (value : Nat) {rest : Text} (delimited : Delimited rest) :
    scanDecimal negative (decimal value ++ rest) =
      (Binary64.ofRatio negative value 1, rest) := by
  have noPoint : rest.head? ≠ some '.' := by
    intro point
    rcases delimited '.' point with equal | equal | equal <;> exact absurd equal (by decide)
  simp [scanDecimal, scanFraction_decimal value delimited.noDigitHead noPoint,
    decimal_ne_nil, scanExponent_of_delimited delimited, scaled]

private theorem scanDecimal_decimal_exponent
    (negative : Bool) (value exponent : Nat) {rest : Text}
    (delimited : Delimited rest) (positive : 0 < exponent) :
    scanDecimal negative (decimal value ++ 'e' :: '-' :: (decimal exponent ++ rest)) =
      (Binary64.ofRatio negative value (10 ^ exponent), rest) := by
  have noDigit : NoDigitHead ('e' :: '-' :: (decimal exponent ++ rest)) := by
    intro byte present
    obtain rfl : 'e' = byte := by simpa using present
    rfl
  have fraction := scanFraction_decimal value noDigit (by simp)
  have marked : scanExponent 'e' ('e' :: '-' :: (decimal exponent ++ rest)) =
      (-(exponent : Int), rest) := by
    simp [scanExponent, scanSign,
      takeWhile_isDigit_decimal_append exponent delimited.noDigitHead,
      dropWhile_isDigit_decimal_append exponent delimited.noDigitHead,
      decimal_ne_nil, Binary64.signed]
  simp [scanDecimal, fraction, decimal_ne_nil, marked, scaled, positive.ne']

/-- Reading a signed numeral scans its magnitude under its sign. -/
private theorem parseNumber_sprintfD_append
    (value : Int) {rest after : Text} {number : Binary64}
    (noDigit : NoDigitHead rest) (noPoint : rest.head? ≠ some '.')
    (scanned : scanDecimal (value < 0) (decimal value.natAbs ++ rest) = (number, after)) :
    parseNumber (sprintfD value ++ rest) = some (.number number, after) := by
  have digits : (scanFraction Char.isDigit (decimal value.natAbs ++ rest)).1 ≠ [] := by
    rw [scanFraction_decimal value.natAbs noDigit noPoint]
    exact decimal_ne_nil _
  unfold parseNumber sprintfD
  by_cases negative : value < 0
  · simp only [negative, decide_true] at scanned
    simp [negative, scanSign, digits, scanned]
  · obtain ⟨digit, more, split, isDigit⟩ := decimal_eq_cons value.natAbs
    have unsigned : scanSign (decimal value.natAbs ++ rest) =
        (false, decimal value.natAbs ++ rest) := by
      rw [split, List.cons_append, scanSign_of_isDigit isDigit]
    simp only [negative, decide_false] at scanned
    simp [negative, unsigned, digits, scanned]

/-- Scaling by a positive number keeps the sign. -/
private theorem scaled_neg_iff {value scale : Int} (positive : 0 < scale) :
    value * scale < 0 ↔ value < 0 := by
  rw [← not_le, ← not_le, mul_nonneg_iff_of_pos_right positive]

/-- Reading the text of a finite number gives the number. -/
theorem parseNumber_printNumber
    (value : Finite64) {rest : Text} (delimited : Delimited rest) :
    parseNumber (printNumber (.finite value) ++ rest) =
      some (.number (.finite value), rest) := by
  have positive : (0 : Int) < Binary64.unitsPerOne := by
    exact_mod_cast Binary64.unitsPerOne_pos
  have noPoint : rest.head? ≠ some '.' := by
    intro point
    rcases delimited '.' point with equal | equal | equal <;> exact absurd equal (by decide)
  have sign (scaledValue : Int) (same : scaledValue < 0 ↔ value.units < 0) :
      value.units = Binary64.signed (scaledValue < 0) value.units.natAbs := by
    simp only [Binary64.signed, same, decide_eq_true_eq]
    split <;> omega
  simp only [printNumber]
  split_ifs with whole
  · have units_eq : value.units =
        value.units / Binary64.unitsPerOne * Binary64.unitsPerOne :=
      (Int.ediv_mul_cancel (Int.dvd_of_emod_eq_zero whole)).symm
    generalize value.units / (Binary64.unitsPerOne : Int) = quotient at units_eq
    apply parseNumber_sprintfD_append quotient delimited.noDigitHead noPoint
    rw [scanDecimal_decimal _ _ delimited, Binary64.ofRatio_exact _ Nat.one_pos value]
    · exact sign quotient (by rw [units_eq, scaled_neg_iff positive])
    · rw [mul_one, units_eq, Int.natAbs_mul, Int.natAbs_natCast]
  · have fivePositive : (0 : Int) < 5 ^ Binary64.unitExponent := Int.pow_pos (by decide)
    rw [List.append_assoc]
    apply parseNumber_sprintfD_append
    · intro byte present
      obtain rfl : 'e' = byte := by simpa using present
      rfl
    · simp
    · rw [List.cons_append, List.cons_append,
        scanDecimal_decimal_exponent _ _ _ delimited Binary64.unitExponent_pos,
        Binary64.ofRatio_exact _ (Nat.pow_pos (by decide)) value]
      · exact sign _ (scaled_neg_iff fivePositive)
      · rw [Int.natAbs_mul, Int.natAbs_pow, Binary64.unitsPerOne, mul_assoc]
        rw [show Int.natAbs 5 = 5 by rfl, ← mul_pow, show 5 * 2 = 10 by rfl]

/-! ## Reading back trees -/

theorem skipSpace_of_visible {byte : Char} (visible : 32 < byte.toNat) (rest : Text) :
    skipSpace (byte :: rest) = byte :: rest := by
  simp [skipSpace, visible]

@[simp] theorem skipSpace_blank_cons (rest : Text) :
    skipSpace (' ' :: rest) = skipSpace rest := rfl

@[simp] theorem skipSpace_newline_cons (rest : Text) :
    skipSpace ('\n' :: rest) = skipSpace rest := rfl

@[simp] theorem skipSpace_tab_cons (rest : Text) :
    skipSpace ('\t' :: rest) = skipSpace rest := rfl

@[simp] theorem skipSpace_tabs_append (depth : Nat) (rest : Text) :
    skipSpace (tabs depth ++ rest) = skipSpace rest := by
  induction depth with
  | zero => rfl
  | succ depth inductionHypothesis => exact inductionHypothesis

@[simp] theorem skipSpace_skipSpace (text : Text) :
    skipSpace (skipSpace text) = skipSpace text := by
  unfold skipSpace
  rw [List.dropWhile_eq_self_iff]
  exact List.dropWhile_get_zero_not _ _

/-- A printed finite number begins with a sign or a digit. -/
private theorem printNumber_eq_cons (value : Finite64) :
    ∃ byte text, printNumber (.finite value) = byte :: text ∧
      (byte = '-' ∨ byte.isDigit = true) := by
  have sprinted (number : Int) (rest : Text) :
      ∃ byte text, sprintfD number ++ rest = byte :: text ∧
        (byte = '-' ∨ byte.isDigit = true) := by
    unfold sprintfD
    split
    · exact ⟨_, _, rfl, Or.inl rfl⟩
    · obtain ⟨digit, digits, split, isDigit⟩ := decimal_eq_cons number.natAbs
      exact ⟨digit, digits ++ rest, by rw [split, List.cons_append], Or.inr isDigit⟩
  simp only [printNumber]
  split_ifs with whole
  · simpa using sprinted (value.units / Binary64.unitsPerOne) []
  · exact sprinted _ _

/-- No structural byte is a sign or a digit. -/
private theorem ne_of_number_head {byte other : Char}
    (head : byte = '-' ∨ byte.isDigit = true)
    (notMinus : other ≠ '-') (notDigit : other.isDigit = false) :
    byte ≠ other := by
  rintro rfl
  rcases head with rfl | digit
  · exact notMinus rfl
  · rw [digit] at notDigit
    exact Bool.noConfusion notDigit

private theorem visible_of_number_head {byte : Char}
    (head : byte = '-' ∨ byte.isDigit = true) : 32 < byte.toNat := by
  rcases head with rfl | digit
  · decide
  · simp only [Char.isDigit, ge_iff_le, Bool.and_eq_true, decide_eq_true_eq,
      UInt32.le_iff_toNat_le] at digit
    exact lt_of_lt_of_le (by decide) digit.1

/-- A printed value begins with a visible byte, and not with a bracket that
closes. -/
private theorem printValue_eq_cons (depth : Nat) (value : Json) :
    ∃ byte text, printValue depth value = byte :: text ∧ 32 < byte.toNat ∧ byte ≠ ']' := by
  cases value with
  | null => exact ⟨'n', _, rfl, by decide⟩
  | bool value =>
      cases value with
      | true => exact ⟨'t', _, rfl, by decide⟩
      | false => exact ⟨'f', _, rfl, by decide⟩
  | number value =>
      cases value with
      | finite value =>
          obtain ⟨byte, text, printed, head⟩ := printNumber_eq_cons value
          exact ⟨byte, text, printed, visible_of_number_head head,
            ne_of_number_head head (by decide) (by decide)⟩
      | nan => exact ⟨'n', _, rfl, by decide⟩
      | infinity negative => exact ⟨'n', _, rfl, by decide⟩
  | string value => exact ⟨'"', _, rfl, by decide⟩
  | array items => cases items <;> exact ⟨'[', _, rfl, by decide⟩
  | object members => cases members <;> exact ⟨'{', _, rfl, by decide⟩

theorem skipSpace_printValue_append (depth : Nat) (value : Json) (rest : Text) :
    skipSpace (printValue depth value ++ rest) = printValue depth value ++ rest := by
  obtain ⟨byte, text, printed, visible, _⟩ := printValue_eq_cons depth value
  rw [printed, List.cons_append, skipSpace_of_visible visible]

/-- Reading a printed name and its colon. -/
private theorem parseName_printString
    {text name rest : Text}
    (skips : skipSpace text = printString name ++ ':' :: rest) :
    parseName text = some (name, rest) := by
  have opened : printString name ++ ':' :: rest =
      '"' :: (name.flatMap escape ++ '"' :: ':' :: rest) := by
    simp [printString]
  unfold parseName
  rw [skips, opened]
  simp [parseString_printString, skipSpace_of_visible (show 32 < ':'.toNat by decide)]

private theorem delimited_printItems (depth : Nat) (items : List Json) (rest : Text) :
    Delimited (printItems depth items ++ rest) := by
  cases items <;> simp [printItems, Delimited]

private theorem delimited_printMembers
    (depth : Nat) (members : List (Text × Json)) (rest : Text) :
    Delimited (printMembers depth members ++ rest) := by
  obtain _ | ⟨⟨name, value⟩, members⟩ := members <;> simp [printMembers, Delimited]

/-- What a printed value is read back as, with fuel for its length. -/
def ReadsBack (value : Json) : Prop :=
  ∀ depth fuel rest, (printValue depth value).length ≤ fuel → Delimited rest →
    parseValue fuel (printValue depth value ++ rest) = some (value.reprint, rest)

private theorem parseItems_blank_cons (fuel : Nat) (text : Text) :
    parseItems fuel (' ' :: text) = parseItems fuel text := by
  cases fuel <;> simp [parseItems]

private theorem parseItems_printItems
    {item : Json} {items : List Json}
    (itemReads : ReadsBack item) (itemsRead : ∀ other ∈ items, ReadsBack other)
    (depth fuel : Nat) (rest : Text)
    (enough : (printValue (depth + 1) item ++ printItems depth items).length ≤ fuel) :
    parseItems fuel (printValue (depth + 1) item ++ (printItems depth items ++ rest)) =
      some ((item :: items).map Json.reprint, rest) := by
  induction items generalizing item fuel with
  | nil =>
      obtain ⟨fuel, rfl⟩ : ∃ less, fuel = less + 1 :=
        Nat.exists_eq_add_one.mpr (by simp [printItems] at enough; omega)
      simp only [printItems, List.length_append, List.length_singleton] at enough
      rw [parseItems, skipSpace_printValue_append,
        itemReads (depth + 1) fuel _ (by omega) (delimited_printItems depth [] rest)]
      simp [printItems, skipSpace_of_visible (show 32 < ']'.toNat by decide)]
  | cons next items inductionHypothesis =>
      obtain ⟨fuel, rfl⟩ : ∃ less, fuel = less + 1 :=
        Nat.exists_eq_add_one.mpr (by simp [printItems] at enough; omega)
      simp only [printItems, List.length_append, List.length_cons] at enough
      have continued := inductionHypothesis (itemsRead next (by simp))
        (fun other present => itemsRead other (by simp [present])) fuel
        (by rw [List.length_append]; omega)
      rw [parseItems, skipSpace_printValue_append,
        itemReads (depth + 1) fuel _ (by omega) (delimited_printItems depth _ rest)]
      simp only [printItems, List.cons_append, Option.bind_some,
        skipSpace_of_visible (show 32 < ','.toNat by decide)]
      rw [List.append_assoc, parseItems_blank_cons, continued]
      rfl

/-- The text of the members from the first on. -/
private def memberText (depth : Nat) (name : Text) (value : Json) (rest : Text) : Text :=
  tabs (depth + 1) ++ printString name ++ ':' :: '\t' ::
    (printValue (depth + 1) value ++ rest)

private theorem skipSpace_memberText
    (depth : Nat) (name : Text) (value : Json) (rest : Text) :
    skipSpace (memberText depth name value rest) =
      printString name ++ ':' :: '\t' :: (printValue (depth + 1) value ++ rest) := by
  rw [memberText, List.append_assoc, skipSpace_tabs_append]
  exact skipSpace_of_visible (show 32 < '"'.toNat by decide) _

private theorem parseMembers_newline_cons (fuel : Nat) (text : Text) :
    parseMembers fuel ('\n' :: text) = parseMembers fuel text := by
  cases fuel <;> simp [parseMembers, parseName]

private theorem parseMembers_printMembers
    {name : Text} {value : Json} {members : List (Text × Json)}
    (valueReads : ReadsBack value) (membersRead : ∀ other ∈ members, ReadsBack other.2)
    (depth fuel : Nat) (rest : Text)
    (enough : (memberText depth name value (printMembers depth members)).length ≤ fuel) :
    parseMembers fuel (memberText depth name value (printMembers depth members ++ rest)) =
      some (Json.reprintMembers ((name, value) :: members), rest) := by
  induction members generalizing name value fuel with
  | nil =>
      obtain ⟨fuel, rfl⟩ : ∃ less, fuel = less + 1 :=
        Nat.exists_eq_add_one.mpr (by simp [memberText] at enough; omega)
      simp only [memberText, List.length_append, List.length_cons] at enough
      rw [parseMembers, parseName_printString (skipSpace_memberText depth name value _),
        Option.bind_some]
      dsimp only
      rw [skipSpace_tab_cons, skipSpace_printValue_append,
        valueReads (depth + 1) fuel _ (by omega) (delimited_printMembers depth [] rest)]
      simp [printMembers, skipSpace_of_visible (show 32 < '}'.toNat by decide),
        Json.reprintMembers_eq_map]
  | cons next members inductionHypothesis =>
      obtain ⟨nextName, nextValue⟩ := next
      obtain ⟨fuel, rfl⟩ : ∃ less, fuel = less + 1 :=
        Nat.exists_eq_add_one.mpr (by simp [memberText] at enough; omega)
      simp only [memberText, printMembers, List.length_append, List.length_cons] at enough
      have continued := @inductionHypothesis nextName nextValue
        (membersRead (nextName, nextValue) (by simp))
        (fun other present => membersRead other (by simp [present])) fuel
        (by simp only [memberText, List.length_append, List.length_cons]; omega)
      rw [parseMembers, parseName_printString (skipSpace_memberText depth name value _),
        Option.bind_some]
      dsimp only
      rw [skipSpace_tab_cons, skipSpace_printValue_append,
        valueReads (depth + 1) fuel _ (by omega) (delimited_printMembers depth _ rest)]
      have unfolded :
          printMembers depth ((nextName, nextValue) :: members) ++ rest =
            ',' :: '\n' :: memberText depth nextName nextValue
              (printMembers depth members ++ rest) := by
        simp [printMembers, memberText]
      simp only [unfolded, Option.bind_some,
        skipSpace_of_visible (show 32 < ','.toNat by decide),
        parseMembers_newline_cons, continued, Option.map_some]
      rfl

private theorem parseItems_skipSpace (fuel : Nat) (text : Text) :
    parseItems fuel (skipSpace text) = parseItems fuel text := by
  cases fuel <;> simp [parseItems]

private theorem parseMembers_skipSpace (fuel : Nat) (text : Text) :
    parseMembers fuel (skipSpace text) = parseMembers fuel text := by
  cases fuel <;> simp [parseMembers, parseName]

private theorem parseValue_bracket
    {text : Text} (nonempty : (skipSpace text).head? ≠ some ']') (fuel : Nat) :
    parseValue (fuel + 1) ('[' :: text) =
      (parseItems fuel text).map fun (items, after) => (.array items, after) := by
  rw [← parseItems_skipSpace, parseValue, if_neg (by decide), if_pos rfl]
  split
  · simp_all
  · rfl

private theorem parseValue_brace
    {text : Text} (nonempty : (skipSpace text).head? ≠ some '}') (fuel : Nat) :
    parseValue (fuel + 1) ('{' :: text) =
      (parseMembers fuel text).map fun (members, after) => (.object members, after) := by
  rw [← parseMembers_skipSpace, parseValue, if_neg (by decide), if_neg (by decide),
    if_pos rfl]
  split
  · simp_all
  · rfl

private theorem parseValue_number
    {byte : Char} (head : byte = '-' ∨ byte.isDigit = true) (fuel : Nat) (text : Text) :
    parseValue (fuel + 1) (byte :: text) = parseNumber (byte :: text) := by
  rw [parseValue, if_neg (ne_of_number_head head (by decide) (by decide)),
    if_neg (ne_of_number_head head (by decide) (by decide)),
    if_neg (ne_of_number_head head (by decide) (by decide)), if_pos head]

/-- A printed value is not empty, so reading it has fuel. -/
private theorem ReadsBack.of_succ
    {value : Json}
    (reads : ∀ depth fuel rest, (printValue depth value).length ≤ fuel + 1 →
      Delimited rest →
        parseValue (fuel + 1) (printValue depth value ++ rest) = some (value.reprint, rest)) :
    ReadsBack value := by
  intro depth fuel rest enough delimited
  cases fuel with
  | zero =>
      obtain ⟨byte, text, printed, _⟩ := printValue_eq_cons depth value
      rw [printed, List.length_cons] at enough
      omega
  | succ fuel => exact reads depth fuel rest enough delimited

/-- Reading a printed value gives its reprint. -/
theorem readsBack (value : Json) : ReadsBack value := by
  induction value with
  | null =>
      refine ReadsBack.of_succ fun depth fuel rest _ _ => ?_
      simp [printValue, parseValue, parseLiteral]
  | bool value =>
      refine ReadsBack.of_succ fun depth fuel rest _ _ => ?_
      cases value <;> simp [printValue, parseValue, parseLiteral]
  | number value =>
      refine ReadsBack.of_succ fun depth fuel rest _ delimited => ?_
      cases value with
      | nan =>
          simp [printValue, printNumber, parseValue, parseLiteral, Json.reprint_number,
            Binary64.isFinite]
      | infinity negative =>
          simp [printValue, printNumber, parseValue, parseLiteral, Json.reprint_number,
            Binary64.isFinite]
      | finite value =>
          obtain ⟨byte, text, printed, head⟩ := printNumber_eq_cons value
          have read := parseNumber_printNumber value delimited
          rw [printed, List.cons_append] at read
          rw [printValue, printed, List.cons_append, parseValue_number head, read]
          rfl
  | string value =>
      refine ReadsBack.of_succ fun depth fuel rest _ _ => ?_
      simp [printValue, printString, parseValue, parseString_printString]
  | array items inductionHypothesis =>
      refine ReadsBack.of_succ fun depth fuel rest enough _ => ?_
      cases items with
      | nil =>
          simp [printValue, parseValue, skipSpace_of_visible (show 32 < ']'.toNat by decide)]
      | cons item items =>
          have read := parseItems_printItems (inductionHypothesis item (by simp))
            (fun other present => inductionHypothesis other (List.mem_cons_of_mem _ present))
            depth fuel rest (by simpa [printValue] using enough)
          obtain ⟨byte, text, printed, visible, notClosing⟩ :=
            printValue_eq_cons (depth + 1) item
          rw [printValue, List.cons_append, List.append_assoc, parseValue_bracket, read]
          · simp
          · rw [skipSpace_printValue_append, printed]
            simpa using notClosing
  | object members inductionHypothesis =>
      refine ReadsBack.of_succ fun depth fuel rest enough _ => ?_
      obtain _ | ⟨⟨name, value⟩, members⟩ := members
      · simp [printValue, parseValue, Json.reprintMembers,
          skipSpace_of_visible (show 32 < '}'.toNat by decide)]
      · have unfolded (rest : Text) :
            printValue depth (.object ((name, value) :: members)) ++ rest =
              '{' :: '\n' :: memberText depth name value (printMembers depth members ++ rest) := by
          simp [printValue, memberText]
        have read := @parseMembers_printMembers name value members
          (inductionHypothesis (name, value) List.mem_cons_self)
          (fun other present => inductionHypothesis other (List.mem_cons_of_mem _ present))
          depth fuel rest (by
            have length := congrArg List.length (unfolded [])
            simp only [List.append_nil, List.length_cons] at length
            omega)
        rw [unfolded, parseValue_brace, parseMembers_newline_cons, read]
        · simp
        · rw [skipSpace_newline_cons, skipSpace_memberText]
          simp [printString]

/-! ## Reading a longer text -/

section Extension

variable {byte : Char} {text rest after : Text}

private theorem takeWhile_append_of_stops
    {holds : Char → Bool} (stops : text.dropWhile holds ≠ []) (more : Text) :
    (text ++ more).takeWhile holds = text.takeWhile holds ∧
      (text ++ more).dropWhile holds = text.dropWhile holds ++ more := by
  induction text with
  | nil => exact absurd rfl stops
  | cons byte text inductionHypothesis =>
      cases holds_byte : holds byte with
      | false => simp [holds_byte]
      | true =>
          simp only [List.dropWhile_cons, holds_byte, ↓reduceIte] at stops
          obtain ⟨taken, dropped⟩ := inductionHypothesis stops
          simp [holds_byte, taken, dropped]

private theorem skipSpace_append (visible : skipSpace text ≠ []) (more : Text) :
    skipSpace (text ++ more) = skipSpace text ++ more :=
  (takeWhile_append_of_stops visible more).2

private theorem scanSign_append (nonempty : text ≠ []) (more : Text) :
    scanSign (text ++ more) = ((scanSign text).1, (scanSign text).2 ++ more) := by
  obtain ⟨byte, text, rfl⟩ := List.exists_cons_of_ne_nil nonempty
  unfold scanSign
  rw [List.cons_append]
  split <;> simp_all

private theorem parseString_append
    {value : Text} (read : parseString text = some (value, rest)) (more : Text) :
    parseString (text ++ more) = some (value, rest ++ more) := by
  fun_induction parseString text generalizing value rest with
  | case1 => simp at read
  | case2 after => simp_all [parseString]
  | case3 first second third fourth after inductionHypothesis =>
      simp only [Option.bind_eq_some_iff, Option.map_eq_some_iff] at read
      obtain ⟨byte, decoded, ⟨value, rest⟩, continued, equal⟩ := read
      simp_all [parseString]
  | case4 letter after notUnicode inductionHypothesis =>
      simp only [Option.bind_eq_some_iff, Option.map_eq_some_iff] at read
      obtain ⟨byte, decoded, ⟨value, rest⟩, continued, equal⟩ := read
      have notU : letter ≠ 'u' := by
        rintro rfl
        exact absurd decoded (by simp [readEscape])
      simp_all [parseString]
  | case5 => simp at read
  | case6 byte after notQuote notUnicode notEscape notLast inductionHypothesis =>
      simp only [Option.map_eq_some_iff] at read
      obtain ⟨⟨value, rest⟩, continued, equal⟩ := read
      have notBackslash : byte ≠ '\\' := by
        intro backslash
        cases after with
        | nil => exact notLast backslash rfl
        | cons letter after => exact notEscape letter after backslash rfl
      simp_all [parseString]

/-- A remainder that a numeral before it cannot be continued by. -/
def Stops (rest : Text) : Prop :=
  ∃ byte after, rest = byte :: after ∧ byte.toLower ≠ 'e'

private theorem scanFraction_append
    {digits : Text} {places : Nat}
    (scanned : scanFraction Char.isDigit text = (digits, places, rest))
    (nonempty : digits ≠ []) (stops : rest ≠ []) (more : Text) :
    scanFraction Char.isDigit (text ++ more) = (digits, places, rest ++ more) := by
  have dropped : text.dropWhile Char.isDigit ≠ [] := by
    intro empty
    simp only [scanFraction, empty, Prod.mk.injEq] at scanned
    exact stops scanned.2.2.symm
  obtain ⟨taken, continued⟩ := takeWhile_append_of_stops dropped more
  obtain ⟨byte, fraction, split⟩ := List.exists_cons_of_ne_nil dropped
  by_cases point : byte = '.'
  · subst point
    simp only [scanFraction, split] at scanned
    simp only [scanFraction, taken, continued, split, List.cons_append]
    split_ifs at scanned with nothing
    · exact absurd (Prod.mk.inj scanned).1.symm nonempty
    · simp only [Prod.mk.injEq] at scanned
      obtain ⟨digitsEq, placesEq, restEq⟩ := scanned
      have fractionDropped : fraction.dropWhile Char.isDigit ≠ [] := restEq ▸ stops
      obtain ⟨fractionTaken, fractionContinued⟩ := takeWhile_append_of_stops fractionDropped more
      rw [fractionTaken, fractionContinued, if_neg nothing, digitsEq, placesEq, restEq]
  · obtain ⟨digitsEq, placesEq, rfl⟩ :
        text.takeWhile Char.isDigit = digits ∧ 0 = places ∧ byte :: fraction = rest := by
      simpa [scanFraction, split, point] using scanned
    simp [scanFraction, taken, continued, split, point, digitsEq, placesEq]

private theorem scanExponent_append
    {exponent : Int}
    (scanned : scanExponent 'e' text = (exponent, rest)) (stops : Stops rest) (more : Text) :
    scanExponent 'e' (text ++ more) = (exponent, rest ++ more) := by
  obtain ⟨byte, after, rfl, notMark⟩ := stops
  cases text with
  | nil => simp [scanExponent] at scanned
  | cons mark text =>
      simp only [scanExponent] at scanned
      split_ifs at scanned with marked
      · obtain ⟨exponentEq, restEq⟩ := Prod.mk.inj scanned
        have signed : text ≠ [] := by
          rintro rfl
          simp [scanSign] at restEq
        obtain ⟨taken, continued⟩ :=
          takeWhile_append_of_stops (restEq ▸ List.cons_ne_nil byte after) more
        simp only [List.cons_append, scanExponent, scanSign_append signed, taken, continued,
          if_pos marked, exponentEq, restEq]
      · obtain ⟨exponentEq, restEq⟩ := Prod.mk.inj scanned
        obtain ⟨rfl, rfl⟩ := List.cons.inj restEq
        simp [scanExponent, notMark, exponentEq]

private theorem parseNumber_append
    {value : Json}
    (read : parseNumber text = some (value, rest)) (stops : Stops rest) (more : Text) :
    parseNumber (text ++ more) = some (value, rest ++ more) := by
  have signed : text ≠ [] := by
    rintro rfl
    simp [parseNumber, scanSign, scanFraction] at read
  obtain ⟨⟨digits, places, afterDigits⟩, fraction⟩ :
    ∃ scanned, scanFraction Char.isDigit (scanSign text).2 = scanned := ⟨_, rfl⟩
  simp only [parseNumber, fraction] at read
  split_ifs at read with nothing
  simp only [scanDecimal, fraction, if_neg nothing, Option.some.injEq, Prod.mk.injEq] at read
  obtain ⟨valueEq, restEq⟩ := read
  have marked : scanExponent 'e' afterDigits = ((scanExponent 'e' afterDigits).1, rest) :=
    Prod.ext rfl restEq
  have continued : afterDigits ≠ [] := by
    rintro rfl
    obtain ⟨byte, after, rfl, _⟩ := stops
    simp [scanExponent] at restEq
  simp only [parseNumber, scanSign_append signed,
    scanFraction_append fraction nothing continued more, scanDecimal, if_neg nothing,
    scanExponent_append marked stops more, valueEq]

private theorem parseLiteral_append
    {value : Json} (read : parseLiteral text = some (value, rest)) (more : Text) :
    parseLiteral (text ++ more) = some (value, rest ++ more) := by
  unfold parseLiteral at read
  split at read <;> simp_all [parseLiteral]

private theorem skipSpace_append_of_eq
    (skipped : skipSpace text = byte :: rest) (more : Text) :
    skipSpace (text ++ more) = byte :: (rest ++ more) := by
  rw [skipSpace_append (skipped ▸ List.cons_ne_nil byte rest), skipped, List.cons_append]

private theorem parseName_append
    {name : Text} (read : parseName text = some (name, rest)) (more : Text) :
    parseName (text ++ more) = some (name, rest ++ more) := by
  unfold parseName at read
  split at read
  · rename_i quoted opened
    obtain ⟨⟨name, after⟩, string, closed⟩ := Option.bind_eq_some_iff.mp read
    dsimp only at closed
    split at closed
    · rename_i value colon
      obtain ⟨rfl, rfl⟩ : name = _ ∧ value = _ := by simpa using closed
      simp [parseName, skipSpace_append_of_eq opened, parseString_append string,
        skipSpace_append_of_eq colon]
    · simp at closed
  · simp at read

private theorem toLower_ne_of_blank (blank : byte.toNat ≤ 32) : byte.toLower ≠ 'e' := by
  unfold Char.toLower
  split
  · rename_i upper
    have atLeast := upper.1
    rw [ge_iff_le, UInt32.le_iff_toNat_le] at atLeast
    change 65 ≤ byte.toNat at atLeast
    omega
  · rintro rfl
    exact absurd blank (by decide)

/-- A separator stops a numeral, with or without blanks before it. -/
private theorem stops_of_skipSpace
    (separator : skipSpace after = byte :: rest) (notMark : byte.toLower ≠ 'e') :
    Stops after := by
  cases after with
  | nil => simp [skipSpace] at separator
  | cons first after =>
      refine ⟨first, after, rfl, ?_⟩
      by_cases blank : first.toNat ≤ 32
      · exact toLower_ne_of_blank blank
      · rw [skipSpace_of_visible (by omega)] at separator
        rw [(List.cons.inj separator).1]
        exact notMark

private theorem ne_nil_of_parseValue
    {fuel : Nat} {value : Json} (read : parseValue fuel text = some (value, rest)) :
    text ≠ [] := by
  rintro rfl
  cases fuel <;> simp [parseValue] at read

/-- With this much fuel, what was read is read again, with any more fuel, when
more text follows; a number only if the text after it stops it. -/
structure ReadsMore (fuel : Nat) : Prop where
  /-- For a value. -/
  value : ∀ {larger text value rest}, fuel ≤ larger →
    parseValue fuel text = some (value, rest) →
      ((∃ number, value = .number number) → Stops rest) →
        ∀ more, parseValue larger (text ++ more) = some (value, rest ++ more)
  /-- For the items of an array. -/
  items : ∀ {larger text items rest}, fuel ≤ larger →
    parseItems fuel text = some (items, rest) →
      ∀ more, parseItems larger (text ++ more) = some (items, rest ++ more)
  /-- For the members of an object. -/
  members : ∀ {larger text members rest}, fuel ≤ larger →
    parseMembers fuel text = some (members, rest) →
      ∀ more, parseMembers larger (text ++ more) = some (members, rest ++ more)

private theorem parseItems_readsMore
    {fuel larger : Nat} {items : List Json}
    (readsMore : ReadsMore fuel) (enough : fuel ≤ larger)
    (read : parseItems (fuel + 1) text = some (items, rest)) (more : Text) :
    parseItems (larger + 1) (text ++ more) = some (items, rest ++ more) := by
  rw [parseItems] at read ⊢
  obtain ⟨⟨item, after⟩, itemRead, continued⟩ := Option.bind_eq_some_iff.mp read
  dsimp only at continued
  rw [skipSpace_append (ne_nil_of_parseValue itemRead)]
  split at continued
  · rename_i remaining bracket
    have itemMore := readsMore.value enough itemRead
      (fun _ => stops_of_skipSpace bracket (by decide)) more
    simp_all [skipSpace_append_of_eq bracket]
  · rename_i remaining comma
    obtain ⟨⟨later, remainder⟩, laterRead, equal⟩ := Option.map_eq_some_iff.mp continued
    have itemMore := readsMore.value enough itemRead
      (fun _ => stops_of_skipSpace comma (by decide)) more
    have laterMore := readsMore.items enough laterRead more
    simp_all [skipSpace_append_of_eq comma]
  · simp at continued

private theorem parseMembers_readsMore
    {fuel larger : Nat} {members : List (Text × Json)}
    (readsMore : ReadsMore fuel) (enough : fuel ≤ larger)
    (read : parseMembers (fuel + 1) text = some (members, rest)) (more : Text) :
    parseMembers (larger + 1) (text ++ more) = some (members, rest ++ more) := by
  rw [parseMembers] at read ⊢
  obtain ⟨⟨name, valueText⟩, nameRead, continued⟩ := Option.bind_eq_some_iff.mp read
  obtain ⟨⟨value, after⟩, valueRead, continued⟩ := Option.bind_eq_some_iff.mp continued
  dsimp only at valueRead continued
  rw [parseName_append nameRead]
  dsimp only [Option.bind_some]
  rw [skipSpace_append (ne_nil_of_parseValue valueRead)]
  split at continued
  · rename_i remaining brace
    have valueMore := readsMore.value enough valueRead
      (fun _ => stops_of_skipSpace brace (by decide)) more
    simp_all [skipSpace_append_of_eq brace]
  · rename_i remaining comma
    obtain ⟨⟨later, remainder⟩, laterRead, equal⟩ := Option.map_eq_some_iff.mp continued
    have valueMore := readsMore.value enough valueRead
      (fun _ => stops_of_skipSpace comma (by decide)) more
    have laterMore := readsMore.members enough laterRead more
    simp_all [skipSpace_append_of_eq comma]
  · simp at continued

private theorem head_skipSpace_append
    (visible : skipSpace text ≠ []) (more : Text) :
    (skipSpace (text ++ more)).head? = (skipSpace text).head? := by
  rw [skipSpace_append visible, List.head?_append_of_ne_nil _ visible]

private theorem parseArray_readsMore
    {fuel larger : Nat} {value : Json}
    (readsMore : ReadsMore fuel) (enough : fuel ≤ larger)
    (read : parseValue (fuel + 1) ('[' :: text) = some (value, rest)) (more : Text) :
    parseValue (larger + 1) ('[' :: (text ++ more)) = some (value, rest ++ more) := by
  by_cases empty : (skipSpace text).head? = some ']'
  · obtain ⟨remaining, opened⟩ := List.head?_eq_some_iff.mp empty
    simp_all [parseValue, skipSpace_append_of_eq opened]
  · rw [parseValue_bracket empty] at read
    obtain ⟨⟨items, after⟩, itemsRead, equal⟩ := Option.map_eq_some_iff.mp read
    have visible : skipSpace text ≠ [] := by
      intro blank
      rw [← parseItems_skipSpace, blank] at itemsRead
      cases fuel with
      | zero => simp [parseItems] at itemsRead
      | succ fuel => cases fuel <;> simp [parseItems, parseValue, skipSpace] at itemsRead
    rw [parseValue_bracket (by rwa [head_skipSpace_append visible]),
      readsMore.items enough itemsRead more]
    simp_all

private theorem parseObject_readsMore
    {fuel larger : Nat} {value : Json}
    (readsMore : ReadsMore fuel) (enough : fuel ≤ larger)
    (read : parseValue (fuel + 1) ('{' :: text) = some (value, rest)) (more : Text) :
    parseValue (larger + 1) ('{' :: (text ++ more)) = some (value, rest ++ more) := by
  by_cases empty : (skipSpace text).head? = some '}'
  · obtain ⟨remaining, opened⟩ := List.head?_eq_some_iff.mp empty
    simp_all [parseValue, skipSpace_append_of_eq opened]
  · rw [parseValue_brace empty] at read
    obtain ⟨⟨members, after⟩, membersRead, equal⟩ := Option.map_eq_some_iff.mp read
    have visible : skipSpace text ≠ [] := by
      intro blank
      rw [← parseMembers_skipSpace, blank] at membersRead
      cases fuel <;> simp [parseMembers, parseName, skipSpace] at membersRead
    rw [parseValue_brace (by rwa [head_skipSpace_append visible]),
      readsMore.members enough membersRead more]
    simp_all

theorem readsMore (fuel : Nat) : ReadsMore fuel := by
  induction fuel with
  | zero =>
      constructor
      · intro larger text value rest _ read
        simp [parseValue] at read
      · intro larger text items rest _ read
        simp [parseItems] at read
      · intro larger text members rest _ read
        simp [parseMembers] at read
  | succ fuel inductionHypothesis =>
      constructor
      · intro larger text value rest enough read stops more
        obtain ⟨larger, rfl⟩ := Nat.exists_eq_add_of_le' (le_of_add_le_right enough)
        rw [Nat.add_le_add_iff_right] at enough
        obtain ⟨byte, text, rfl⟩ := List.exists_cons_of_ne_nil (ne_nil_of_parseValue read)
        by_cases bracket : byte = '['
        · subst bracket
          exact parseArray_readsMore inductionHypothesis enough read more
        by_cases brace : byte = '{'
        · subst brace
          exact parseObject_readsMore inductionHypothesis enough read more
        rw [parseValue] at read
        rw [List.cons_append, parseValue]
        simp only [bracket, brace, ↓reduceIte] at read ⊢
        split_ifs at read ⊢ with quote number
        · obtain ⟨⟨string, after⟩, stringRead, equal⟩ := Option.map_eq_some_iff.mp read
          rw [parseString_append stringRead]
          simp_all
        · refine parseNumber_append read (stops ?_) more
          simp only [parseNumber] at read
          split_ifs at read
          exact ⟨_, (Prod.mk.inj (Option.some.inj read)).1.symm⟩
        · exact parseLiteral_append read more
      · intro larger text items rest enough read more
        obtain ⟨larger, rfl⟩ := Nat.exists_eq_add_of_le' (le_of_add_le_right enough)
        exact parseItems_readsMore inductionHypothesis (by omega) read more
      · intro larger text members rest enough read more
        obtain ⟨larger, rfl⟩ := Nat.exists_eq_add_of_le' (le_of_add_le_right enough)
        exact parseMembers_readsMore inductionHypothesis (by omega) read more

end Extension

/-! ## The laws -/

private theorem nul_notMem_sprintfD (value : Int) : '\x00' ∉ sprintfD value := by
  intro present
  have inDecimal : '\x00' ∈ decimal value.natAbs := by
    unfold sprintfD at present
    split at present
    · simpa using present
    · exact present
  exact absurd (isDigit_of_mem_decimal inDecimal) (by decide)

private theorem nul_notMem_printNumber (value : Binary64) : '\x00' ∉ printNumber value := by
  cases value with
  | nan => decide
  | infinity negative => exact (by decide : '\x00' ∉ "null".toList)
  | finite value =>
      simp only [printNumber]
      split_ifs with whole
      · exact nul_notMem_sprintfD _
      · have exponent : '\x00' ∉ decimal Binary64.unitExponent := fun present =>
          absurd (isDigit_of_mem_decimal present) (by decide)
        simp [nul_notMem_sprintfD, exponent]

private theorem hexDigit_ne_nul {value : Nat} (small : value < 16) :
    '\x00' ≠ hexDigit value := by
  intro nul
  have read := readHexDigit_hexDigit small
  rw [← nul] at read
  exact absurd read (by simp [readHexDigit, show isHexDigit '\x00' = false by decide])

private theorem nul_notMem_escape (byte : Char) : '\x00' ∉ escape byte := by
  unfold escape
  split_ifs with _ _ _ _ _ _ _ control
  iterate 7 decide
  · have high := hexDigit_ne_nul (show byte.toNat / 16 < 16 by omega)
    have low := hexDigit_ne_nul (show byte.toNat % 16 < 16 by omega)
    simp [high, low]
  · intro nul
    obtain rfl := List.mem_singleton.mp nul
    exact control (by decide)

private theorem nul_notMem_printString (value : Text) : '\x00' ∉ printString value := by
  simp [printString, nul_notMem_escape]

private theorem nul_notMem_tabs (depth : Nat) : '\x00' ∉ tabs depth := by
  simp [tabs]

private theorem nul_notMem_printItems
    {items : List Json} (depth : Nat)
    (clean : ∀ item ∈ items, ∀ depth, '\x00' ∉ printValue depth item) :
    '\x00' ∉ printItems depth items := by
  induction items with
  | nil => simp [printItems]
  | cons item items inductionHypothesis =>
      have itemClean := clean item List.mem_cons_self (depth + 1)
      have itemsClean := inductionHypothesis fun other present =>
        clean other (List.mem_cons_of_mem _ present)
      simp [printItems, itemClean, itemsClean]

private theorem nul_notMem_printMembers
    {members : List (Text × Json)} (depth : Nat)
    (clean : ∀ member ∈ members, ∀ depth, '\x00' ∉ printValue depth member.2) :
    '\x00' ∉ printMembers depth members := by
  induction members with
  | nil => simp [printMembers, nul_notMem_tabs]
  | cons member members inductionHypothesis =>
      have memberClean := clean member List.mem_cons_self (depth + 1)
      have membersClean := inductionHypothesis fun other present =>
        clean other (List.mem_cons_of_mem _ present)
      simp [printMembers, nul_notMem_tabs, nul_notMem_printString, memberClean, membersClean]

/-- A printed value is a C string. -/
theorem nul_notMem_printValue (depth : Nat) (value : Json) :
    '\x00' ∉ printValue depth value := by
  induction value generalizing depth with
  | null => simp [printValue]
  | bool value => cases value <;> simp [printValue]
  | number value => simpa [printValue] using nul_notMem_printNumber value
  | string value => simpa [printValue] using nul_notMem_printString value
  | array items inductionHypothesis =>
      cases items with
      | nil => simp [printValue]
      | cons item items =>
          have itemClean := inductionHypothesis item List.mem_cons_self (depth + 1)
          have itemsClean := nul_notMem_printItems depth fun other present =>
            inductionHypothesis other (List.mem_cons_of_mem _ present)
          simp [printValue, itemClean, itemsClean]
  | object members inductionHypothesis =>
      cases members with
      | nil => simp [printValue, nul_notMem_tabs]
      | cons member members =>
          have memberClean := inductionHypothesis member List.mem_cons_self (depth + 1)
          have membersClean := nul_notMem_printMembers depth fun other present =>
            inductionHypothesis other (List.mem_cons_of_mem _ present)
          simp [printValue, nul_notMem_tabs, nul_notMem_printString, memberClean, membersClean]

/-- Reading a whole printed value, with or without blanks before it. -/
theorem parse_printValue {text : Text} {value : Json} {depth : Nat}
    (skips : skipSpace text = printValue depth value) :
    CJson.reference.parse text = some value.reprint := by
  have enough : (printValue depth value).length ≤ text.length := by
    rw [← skips]
    exact (List.dropWhile_sublist _).length_le
  have read := readsBack value depth text.length [] enough (by simp [Delimited])
  rw [List.append_nil] at read
  simp [CJson.reference, skips, read]

/-- An object cut before its closing brace is not read. -/
theorem parse_cut_printValue
    {members : List (Text × Json)} {cut : Text}
    (isPrefix : cut <+: printValue 0 (.object members))
    (proper : cut ≠ printValue 0 (.object members)) :
    CJson.reference.parse cut = none := by
  obtain ⟨missing, whole⟩ := isPrefix
  obtain ⟨text, opened⟩ : ∃ text, printValue 0 (.object members) = '{' :: text := by
    cases members <;> exact ⟨_, rfl⟩
  cases cut with
  | nil => simp [CJson.reference, parseValue, skipSpace]
  | cons byte cut =>
      obtain ⟨rfl, joined⟩ := List.cons.inj (whole.trans opened)
      change cut ++ missing = text at joined
      simp only [CJson.reference, Option.map_eq_none_iff,
        skipSpace_of_visible (show 32 < '{'.toNat by decide)]
      by_contra parsed
      obtain ⟨⟨value, rest⟩, read⟩ := Option.ne_none_iff_exists'.mp parsed
      have readWhole : parseValue (text.length + 1) ('{' :: text) =
          some (value, rest ++ missing) := by
        have enough : cut.length ≤ text.length := by simp [← joined]
        rw [← joined]
        exact parseObject_readsMore (readsMore cut.length) (joined ▸ enough) read missing
      have expected := readsBack (.object members) 0 _ [] le_rfl (by simp [Delimited])
      rw [List.append_nil, opened, List.length_cons, readWhole] at expected
      obtain ⟨_, nothing⟩ := Prod.mk.inj (Option.some.inj expected)
      obtain ⟨_, rfl⟩ := List.append_eq_nil_iff.mp nothing
      exact proper (by rw [← whole, List.append_nil])

end Reference

/-- The reference library is lawful. -/
theorem CJson.reference_lawful : CJson.reference.Lawful where
  parse_print := fun tree => by
    obtain ⟨byte, text, printed, visible, _⟩ := Reference.printValue_eq_cons 0 tree
    apply Reference.parse_printValue
    change Reference.skipSpace (Reference.printValue 0 tree) = _
    rw [printed, Reference.skipSpace_of_visible visible]
  parse_nil := rfl
  print_no_nul := Reference.nul_notMem_printValue 0
  parse_cut := fun _ _ => Reference.parse_cut_printValue

end Refuge
