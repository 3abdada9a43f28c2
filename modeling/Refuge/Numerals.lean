import Refuge.Authorisation
import Refuge.Override

/-!
# Numerals and other texts

With `INTPARSE` a text is meant to become a number if it is one, and to be kept
if it is not.  The test is `atof(buffer) != 0`, a conversion of the longest
numeric prefix: zero stays a text, and a text with a numeric prefix, an
infinity or a NaN loses the rest of it.
-/

namespace Refuge

open Foundation

/-- The digits from the first to the last that is not zero. -/
def significantDigits (digits : Text) : Text :=
  (((digits.dropWhile (· = '0')).reverse).dropWhile (· = '0')).reverse

/-- A decimal numeral. -/
structure Numeral where
  /-- The sign, if it has one. -/
  sign : Text
  /-- The digits before the point. -/
  whole : Text
  /-- The digits after the point; none if there is no point. -/
  fraction : Text
  sign_valid : sign = [] ∨ sign = ['+'] ∨ sign = ['-']
  whole_nonempty : whole ≠ []
  isDigit : ∀ byte ∈ whole ++ fraction, byte.isDigit = true
  significant : (significantDigits (whole ++ fraction)).length ≤ 15

namespace Numeral

/-- The point and the digits after it. -/
def fractionText (numeral : Numeral) : Text :=
  if numeral.fraction = [] then [] else '.' :: numeral.fraction

/-- The text of a numeral. -/
def text (numeral : Numeral) : Text :=
  numeral.sign ++ (numeral.whole ++ numeral.fractionText)

/-- The number nearest to what a numeral says. -/
def value (numeral : Numeral) : Binary64 :=
  Binary64.ofRatio (numeral.sign = ['-'])
    (decimalValue (numeral.whole ++ numeral.fraction)) (10 ^ numeral.fraction.length)

/-- The numeral begins, after its sign, with a digit. -/
theorem exists_whole_eq_cons (numeral : Numeral) :
    ∃ digit digits, numeral.whole = digit :: digits ∧ digit.isDigit = true := by
  obtain ⟨digit, digits, split⟩ := List.exists_cons_of_ne_nil numeral.whole_nonempty
  refine ⟨digit, digits, split, numeral.isDigit digit ?_⟩
  rw [split]
  exact List.mem_cons_self

/-- The sign is split off as it was written. -/
theorem scanSign_text (numeral : Numeral) :
    scanSign (numeral.text.dropWhile isSpace) =
      (decide (numeral.sign = ['-']), numeral.whole ++ numeral.fractionText) := by
  obtain ⟨digit, digits, split, isDigit⟩ := numeral.exists_whole_eq_cons
  rcases numeral.sign_valid with none | plus | minus
  · have noBlank : isSpace digit = false := isSpace_of_isDigit isDigit
    rw [text, none, split, List.nil_append, List.cons_append,
      List.dropWhile_cons_of_neg (by simp [noBlank]), scanSign_of_isDigit isDigit]
    rfl
  · rw [text, plus, List.cons_append, List.dropWhile_cons_of_neg (by decide)]
    rfl
  · rw [text, minus, List.cons_append, List.dropWhile_cons_of_neg (by decide)]
    rfl

/-- What follows the sign has digits and a point only. -/
theorem isDigit_or_point (numeral : Numeral) {byte : Char}
    (present : byte ∈ lowercase (numeral.whole ++ numeral.fractionText)) :
    byte.isDigit = true ∨ byte = '.' := by
  obtain ⟨source, sourcePresent, rfl⟩ := List.mem_map.mp present
  have digitOf (inDigits : source ∈ numeral.whole ++ numeral.fraction) :
      source.toLower.isDigit = true := by
    have isDigit := numeral.isDigit source inDigits
    rwa [toLower_of_isDigit isDigit]
  rcases List.mem_append.mp sourcePresent with inWhole | inFraction
  · exact Or.inl (digitOf (List.mem_append_left _ inWhole))
  · unfold fractionText at inFraction
    split at inFraction
    · exact absurd inFraction List.not_mem_nil
    · rcases List.mem_cons.mp inFraction with rfl | later
      · exact Or.inr rfl
      · exact Or.inl (digitOf (List.mem_append_right _ later))

/-- What follows the sign does not begin with a word. -/
theorem not_isPrefixOf_lowercase (numeral : Numeral) {word : Text} (letter : Char)
    (present : letter ∈ word) (notDigit : letter.isDigit = false) (notPoint : letter ≠ '.') :
    word.isPrefixOf (lowercase (numeral.whole ++ numeral.fractionText)) = false := by
  rw [Bool.eq_false_iff]
  intro begins
  have inText := (List.isPrefixOf_iff_prefix.mp begins).subset present
  rcases numeral.isDigit_or_point inText with digit | point
  · rw [digit] at notDigit
    exact Bool.noConfusion notDigit
  · exact notPoint point

/-- The digits of a numeral are scanned to its end. -/
theorem scanFraction_text (numeral : Numeral) :
    scanFraction Char.isDigit (numeral.whole ++ numeral.fractionText) =
      (numeral.whole ++ numeral.fraction, numeral.fraction.length, []) := by
  have wholeDigits : ∀ byte ∈ numeral.whole, byte.isDigit = true := fun byte present =>
    numeral.isDigit byte (List.mem_append_left _ present)
  have fractionDigits : ∀ byte ∈ numeral.fraction, byte.isDigit = true := fun byte present =>
    numeral.isDigit byte (List.mem_append_right _ present)
  unfold scanFraction fractionText
  rw [List.takeWhile_append_of_pos wholeDigits, List.dropWhile_append_of_pos wholeDigits]
  split_ifs with none
  · simp [none]
  · simp only [List.dropWhile_cons_of_neg (show ¬('.'.isDigit = true) by decide),
      List.takeWhile_cons_of_neg (show ¬('.'.isDigit = true) by decide), List.append_nil,
      numeral.whole_nonempty, false_and, ↓reduceIte,
      List.takeWhile_eq_self_iff.mpr fractionDigits, List.dropWhile_eq_nil_iff.mpr fractionDigits]

/-- A numeral converts to its value. -/
theorem atof_text (numeral : Numeral) : atof numeral.text = numeral.value := by
  have digits : numeral.whole ++ numeral.fraction ≠ [] := by
    simp [numeral.whole_nonempty]
  have noInfinity := @not_isPrefixOf_lowercase numeral "inf".toList 'i'
    (by decide) (by decide) (by decide)
  have noNan := @not_isPrefixOf_lowercase numeral "nan".toList 'n'
    (by decide) (by decide) (by decide)
  have noHexadecimal := @not_isPrefixOf_lowercase numeral "0x".toList 'x'
    (by decide) (by decide) (by decide)
  unfold atof
  simp only [numeral.scanSign_text, noInfinity, noNan, noHexadecimal, Bool.false_eq_true,
    ↓reduceIte, scanDecimal, numeral.scanFraction_text, digits, scanExponent, scaled, value]
  by_cases none : numeral.fraction = []
  · simp [none]
  · have places : ¬0 ≤ (0 : Int) - numeral.fraction.length := by
      have := List.length_pos_iff.mpr none
      omega
    rw [if_neg places]
    simp

end Numeral

/-- The whole of a text is a numeral. -/
def IsNumeral (text : Text) : Prop :=
  ∃ numeral : Numeral, numeral.text = text

section

variable (cJSON : CJson)

/-- The call stores the number nearest to a text that is a numeral, and keeps
any other text, which is then read back as it was. -/
def KeepsKind (cjsonBuffer key buffer : Text) : Prop :=
  ∃ after members,
    cjsonAddKeyValueToJsonString cJSON cjsonBuffer key buffer (OVERRIDE ||| INTPARSE) =
        .ok after ∧
      cJSON.parse after = some (.object members) ∧
        (∀ numeral : Numeral, numeral.text = buffer →
          Members.lookup members key = some (.number numeral.value)) ∧
          (¬IsNumeral buffer → Members.lookup members key = some (.string buffer) ∧
            getValueOfKeyFromJsonString cJSON after key = .ok buffer)

/-- `set_supply_status` stores the number nearest to a numeral. -/
def SuppliesNumber (category key : Text) (numeral : Numeral) (file : Text) (document : Json) :
    Prop :=
  cJSON.parse (setSupplyStatus cJSON .none category key numeral.text file).file =
    some (Json.writeAt [SUPPLIES, category, key] (.number numeral.value) document.reprint)

end

section

variable {cJSON : CJson}

/-- A number comes back from printing as itself exactly when it is finite. -/
theorem reprint_number_eq_iff (value : Binary64) :
    (Json.number value).reprint = .number value ↔ value.isFinite = true := by
  rw [Json.reprint_eq_self_iff]
  rfl

/-- What a text is stored as is printed as the number it converts to exactly
when that is finite and not zero. -/
theorem reprint_storedValue_eq_number_iff (text : Text) :
    (storedValue text).reprint = .number (atof text) ↔
      (atof text).isZero = false ∧ (atof text).isFinite = true := by
  unfold storedValue
  cases zero : (atof text).isZero with
  | true => simp
  | false => simpa using reprint_number_eq_iff (atof text)

/-- It is printed as the text exactly when that converts to zero. -/
theorem reprint_storedValue_eq_string_iff (text : Text) :
    (storedValue text).reprint = .string text ↔ (atof text).isZero = true := by
  unfold storedValue
  cases zero : (atof text).isZero with
  | true => simp
  | false =>
      rw [if_neg (by simp), Json.reprint_number]
      split <;> simp

/-- A text stored in an object is a number exactly when it is a numeral, and
then the nearest one, if and only if it is a numeral of a finite number other
than zero, or no numeral and converts to zero. -/
theorem keepsKind_iff
    (lawful : cJSON.Lawful) {cjsonBuffer : Text} {members : List (Text × Json)}
    (parsed : cJSON.parse cjsonBuffer = some (.object members))
    (distinct : Members.FoldDistinct lowercase members) (key buffer : Text) :
    KeepsKind cJSON cjsonBuffer key buffer ↔
      IsNumeral buffer ∧ (atof buffer).isZero = false ∧ (atof buffer).isFinite = true ∨
        ¬IsNumeral buffer ∧ (atof buffer).isZero = true := by
  let written := Members.replace lowercase members key (storedValue buffer)
  have added : cjsonAddKeyValueToJsonString cJSON cjsonBuffer key buffer
      (OVERRIDE ||| INTPARSE) = .ok (cJSON.print (.object written)) := by
    rw [cjsonAddKeyValueToJsonString_object parsed (by decide), encodeValue_intparse]
  have afterParsed : cJSON.parse (cJSON.print (.object written)) =
      some (.object (Json.reprintMembers written)) := by
    rw [lawful.parse_print, Json.reprint_object]
  have found : Members.lookup (Json.reprintMembers written) key =
      some (storedValue buffer).reprint := by
    rw [Json.lookup_reprintMembers_replace distinct, if_pos rfl]
  constructor
  · rintro ⟨after, inner, addedAfter, innerParsed, number, text⟩
    obtain rfl := Except.ok.inj (added.symm.trans addedAfter)
    obtain rfl := Json.object.inj (Option.some.inj (afterParsed.symm.trans innerParsed))
    rw [found] at number text
    by_cases isNumeral : IsNumeral buffer
    · obtain ⟨numeral, rfl⟩ := isNumeral
      have stored := Option.some.inj (number numeral rfl)
      rw [← numeral.atof_text, reprint_storedValue_eq_number_iff] at stored
      exact Or.inl ⟨⟨numeral, rfl⟩, stored⟩
    · have stored := Option.some.inj (text isNumeral).1
      exact Or.inr ⟨isNumeral, (reprint_storedValue_eq_string_iff buffer).mp stored⟩
  · intro kept
    refine ⟨_, _, added, afterParsed, fun numeral same => ?_, fun noNumeral => ?_⟩
    · subst same
      have stored := (kept.resolve_right fun other => other.1 ⟨numeral, rfl⟩).2
      rw [found, ← numeral.atof_text, (reprint_storedValue_eq_number_iff _).mpr stored]
    · have stored := (kept.resolve_left fun other => noNumeral other.1).2
      have string : Members.lookup (Json.reprintMembers written) key = some (.string buffer) := by
        rw [found, (reprint_storedValue_eq_string_iff buffer).mpr stored]
      refine ⟨string, ?_⟩
      simp [getValueOfKeyFromJsonString, getValueOfKeyFromJsonObject, afterParsed, string,
        textOfValue]

/-- A numeral is stored as a supply as the number nearest to it exactly when
that is finite and not zero. -/
theorem suppliesNumber_iff
    (lawful : cJSON.Lawful) {file category key : Text} {document : Json}
    (parsed : cJSON.parse file = some document)
    (reaches : Json.Reaches [SUPPLIES, category, key] document) (numeral : Numeral) :
    SuppliesNumber cJSON category key numeral file document ↔
      numeral.value.isZero = false ∧ numeral.value.isFinite = true := by
  obtain ⟨after, applied, afterParsed⟩ := Update.apply_none_of_reaches lawful
    (.setSupply category key numeral.text) parsed reaches rfl
  have stored : (setSupplyStatus cJSON .none category key numeral.text file).file = after :=
    congrArg Updated.file applied
  rw [SuppliesNumber, stored, afterParsed, Option.some.injEq, Json.reprint_writeAt,
    ← numeral.atof_text, ← reprint_storedValue_eq_number_iff]
  constructor
  · exact ((Json.reaches_reprint_iff _ _).mpr reaches).eq_of_writeAt_eq
  · intro same
    rw [← same]
    rfl

/-- Both ways of storing a text: it becomes a number or stays a text as it
should exactly on these texts. -/
theorem texts_keep_their_kind_iff
    (lawful : cJSON.Lawful) {cjsonBuffer file : Text} {members : List (Text × Json)}
    {document : Json}
    (parsed : cJSON.parse cjsonBuffer = some (.object members))
    (distinct : Members.FoldDistinct lowercase members)
    (fileParsed : cJSON.parse file = some document) (category key : Text)
    (reaches : Json.Reaches [SUPPLIES, category, key] document) :
    (∀ buffer, KeepsKind cJSON cjsonBuffer key buffer ↔
      IsNumeral buffer ∧ (atof buffer).isZero = false ∧ (atof buffer).isFinite = true ∨
        ¬IsNumeral buffer ∧ (atof buffer).isZero = true) ∧
      ∀ numeral : Numeral, SuppliesNumber cJSON category key numeral file document ↔
        numeral.value.isZero = false ∧ numeral.value.isFinite = true :=
  ⟨keepsKind_iff lawful parsed distinct key, suppliesNumber_iff lawful fileParsed reaches⟩

end

/-! ## Amounts -/

theorem length_significantDigits_le (digits : Text) :
    (significantDigits digits).length ≤ digits.length := by
  unfold significantDigits
  calc _ ≤ (digits.dropWhile (· = '0')).reverse.length := by
        rw [List.length_reverse]
        exact (List.dropWhile_sublist _).length_le
    _ ≤ digits.length := by
        rw [List.length_reverse]
        exact (List.dropWhile_sublist _).length_le

/-- The numeral of a natural number of at most 15 digits. -/
def Numeral.ofNat (value : Nat) (small : value < 10 ^ 15) : Numeral where
  sign := []
  whole := decimal value
  fraction := []
  sign_valid := Or.inl rfl
  whole_nonempty := decimal_ne_nil value
  isDigit := by
    intro byte present
    rw [List.append_nil] at present
    exact isDigit_of_mem_decimal present
  significant := by
    refine (length_significantDigits_le _).trans ?_
    rw [List.append_nil]
    exact (Nat.length_toDigits_le_iff (by decide) (by decide)).mpr small

@[simp] theorem Numeral.text_ofNat (value : Nat) (small : value < 10 ^ 15) :
    (Numeral.ofNat value small).text = decimal value := by
  simp [text, ofNat, fractionText]

/-- The numeral of an amount. -/
def amountNumeral : Numeral :=
  .ofNat 120 (by decide)

/-- The numeral of zero. -/
def zeroNumeral : Numeral :=
  .ofNat 0 (by decide)

private theorem parse_emptyObject :
    CJson.reference.parse (CJson.reference.print (.object [])) = some (.object []) :=
  CJson.reference_lawful.parse_print_of_finite ((Json.finite_object_iff _).mpr trivial)

/-- The amount becomes a number. -/
theorem texts_keep_their_kind_amount :
    KeepsKind .reference (CJson.reference.print (.object [])) "water".toList
        amountNumeral.text ∧
      SuppliesNumber .reference "food".toList "water".toList amountNumeral overflowFile
        (.object overflowMembers) := by
  have reaches : Json.Reaches [SUPPLIES, "food".toList, "water".toList]
      (.object overflowMembers) :=
    fun _ => ⟨_, rfl, fun _ => ⟨_, rfl, fun deeper => absurd rfl deeper⟩⟩
  have amount : (atof amountNumeral.text).isZero = false ∧
      (atof amountNumeral.text).isFinite = true := by
    rw [amountNumeral, Numeral.text_ofNat, atof_decimal]
    decide +kernel
  have settled := texts_keep_their_kind_iff CJson.reference_lawful parse_emptyObject
    List.nodup_nil parse_overflowFile "food".toList "water".toList reaches
  refine ⟨(settled.1 _).mpr (Or.inl ⟨⟨amountNumeral, rfl⟩, amount⟩), ?_⟩
  rw [amountNumeral.atof_text] at amount
  exact (settled.2 amountNumeral).mpr amount

/-- Zero stays a text. -/
theorem not_keepsKind_zero :
    ¬KeepsKind .reference (CJson.reference.print (.object [])) "water".toList
      zeroNumeral.text := by
  have zero : (atof zeroNumeral.text).isZero = true := by
    rw [zeroNumeral, Numeral.text_ofNat, atof_decimal]
    decide +kernel
  rw [keepsKind_iff CJson.reference_lawful parse_emptyObject List.nodup_nil]
  rintro (⟨_, nonzero, _⟩ | ⟨noNumeral, _⟩)
  · rw [zero] at nonzero
    exact Bool.noConfusion nonzero
  · exact noNumeral ⟨zeroNumeral, rfl⟩

end Refuge
