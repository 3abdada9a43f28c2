import Refuge.CText

/-!
# What the client reads from standard input

Standard input is the text that is still to be read.  `scanf` with `%d` reads an
integer, with `%s` a word, and `fgets` a line; each leaves what follows what it
has read.
-/

namespace Refuge

open Foundation

/-- An integer at the very start of a text, and what follows it. -/
def scanInteger (text : Text) : Option (Int × Text) :=
  let body := (scanSign text).2
  if body.takeWhile Char.isDigit = [] then none
  else some (atoi text, body.dropWhile Char.isDigit)

/-- `scanf` with `%d`: white space is skipped, and what is no integer is left where
it is.  Whether a sign that no digit follows is left too is a matter of the
library. -/
def scanfD (takesSign : Bool) (stdin : Text) : Option Int × Text :=
  let text := stdin.dropWhile isSpace
  match scanInteger text with
  | some (value, rest) => (some value, rest)
  | none => (none, if takesSign then (scanSign text).2 else text)

/-- `scanf` with `%s`; nothing is read at the end of the input. -/
def scanfS (stdin : Text) : Option Text × Text :=
  let text := stdin.dropWhile isSpace
  let word := text.takeWhile fun byte => !isSpace byte
  if word = [] then (none, text) else (some word, text.dropWhile fun byte => !isSpace byte)

/-- `fgets` into an array: a line with its end, or as much of it as there is room
for before the terminator; nothing at the end of the input. -/
def fgets (size : Nat) (stdin : Text) : Option Text × Text :=
  if stdin = [] then (none, [])
  else
    let length := min (size - 1) ((stdin.takeWhile (· ≠ '\n')).length + 1)
    (some (stdin.take length), stdin.drop length)

/-! ## Integers at the start of a text -/

theorem scanInteger_eq_some_iff {text rest : Text} {value : Int} :
    scanInteger text = some (value, rest) ↔
      (scanSign text).2.takeWhile Char.isDigit ≠ [] ∧ atoi text = value ∧
        (scanSign text).2.dropWhile Char.isDigit = rest := by
  unfold scanInteger
  dsimp only
  split
  · rename_i none
    simp [none]
  · rename_i digits
    simp [digits]

theorem scanSign_cons_of_ne {byte : Char} (notMinus : byte ≠ '-') (notPlus : byte ≠ '+')
    (text : Text) : scanSign (byte :: text) = (false, byte :: text) := by
  unfold scanSign
  split <;> simp_all

theorem length_scanSign_le (text : Text) : (scanSign text).2.length ≤ text.length := by
  unfold scanSign
  split <;> simp

/-- An integer does not start with white space. -/
theorem scanInteger_cons_of_isSpace {byte : Char} (blank : isSpace byte = true) (text : Text) :
    scanInteger (byte :: text) = none := by
  have notDigit : byte.isDigit = false := by
    by_contra digit
    rw [isSpace_of_isDigit (Bool.eq_true_of_not_eq_false digit)] at blank
    cases blank
  have unsigned : scanSign (byte :: text) = (false, byte :: text) :=
    scanSign_cons_of_ne (by rintro rfl; cases blank) (by rintro rfl; cases blank) text
  simp [scanInteger, unsigned, notDigit]

theorem dropWhile_isSpace_append_of_scanInteger
    {text rest : Text} {value : Int} (scanned : scanInteger text = some (value, rest))
    (after : Text) : (text ++ after).dropWhile isSpace = text ++ after := by
  cases text with
  | nil => cases scanned
  | cons byte text =>
      refine List.dropWhile_cons_of_neg fun blank => ?_
      rw [scanInteger_cons_of_isSpace blank] at scanned
      cases scanned

/-- An integer takes at least a byte. -/
theorem length_lt_of_scanInteger
    {text rest : Text} {value : Int} (scanned : scanInteger text = some (value, rest)) :
    rest.length < text.length := by
  obtain ⟨digits, _, rfl⟩ := scanInteger_eq_some_iff.mp scanned
  have split := congrArg List.length
    (List.takeWhile_append_dropWhile (p := Char.isDigit) (l := (scanSign text).2))
  rw [List.length_append] at split
  have := List.length_pos_of_ne_nil digits
  have := length_scanSign_le text
  omega

theorem scanSign_append_newline (text after : Text) :
    scanSign (text ++ '\n' :: after) = ((scanSign text).1, (scanSign text).2 ++ '\n' :: after) := by
  cases text with
  | nil => rfl
  | cons byte text =>
      by_cases minus : byte = '-'
      · rw [minus]
        rfl
      · by_cases plus : byte = '+'
        · rw [plus]
          rfl
        · rw [List.cons_append, scanSign_cons_of_ne minus plus, scanSign_cons_of_ne minus plus]
          rfl

theorem takeWhile_isDigit_append_newline (text after : Text) :
    (text ++ '\n' :: after).takeWhile Char.isDigit = text.takeWhile Char.isDigit := by
  induction text with
  | nil => rfl
  | cons byte text inductionHypothesis =>
      simp only [List.cons_append, List.takeWhile_cons, inductionHypothesis]

theorem dropWhile_isDigit_append_newline (text after : Text) :
    (text ++ '\n' :: after).dropWhile Char.isDigit =
      text.dropWhile Char.isDigit ++ '\n' :: after := by
  induction text with
  | nil => rfl
  | cons byte text inductionHypothesis =>
      simp only [List.cons_append, List.dropWhile_cons, inductionHypothesis]
      split <;> rfl

/-- A line break ends an integer and is none itself. -/
theorem scanInteger_append_newline (text after : Text) :
    scanInteger (text ++ '\n' :: after) =
      (scanInteger text).map fun scanned => (scanned.1, scanned.2 ++ '\n' :: after) := by
  cases scanned : scanInteger text with
  | none =>
      have none : (scanSign text).2.takeWhile Char.isDigit = [] := by
        unfold scanInteger at scanned
        dsimp only at scanned
        split at scanned
        · assumption
        · cases scanned
      rw [Option.map_none, scanInteger, scanSign_append_newline]
      dsimp only
      rw [takeWhile_isDigit_append_newline, if_pos none]
  | some integer =>
      obtain ⟨value, rest⟩ := integer
      obtain ⟨digits, converted, rfl⟩ := scanInteger_eq_some_iff.mp scanned
      rw [Option.map_some, scanInteger_eq_some_iff, scanSign_append_newline]
      refine ⟨by rwa [takeWhile_isDigit_append_newline], ?_,
        dropWhile_isDigit_append_newline _ _⟩
      rw [← converted]
      have here := dropWhile_isSpace_append_of_scanInteger scanned []
      rw [List.append_nil] at here
      simp only [atoi, strtol, dropWhile_isSpace_append_of_scanInteger scanned, here,
        scanSign_append_newline, takeWhile_isDigit_append_newline]

/-! ## `scanf` with `%d` -/

theorem scanfD_cons_of_isSpace
    (takesSign : Bool) {byte : Char} (blank : isSpace byte = true) (stdin : Text) :
    scanfD takesSign (byte :: stdin) = scanfD takesSign stdin := by
  simp [scanfD, blank]

theorem scanfD_of_scanInteger
    (takesSign : Bool) {stdin rest : Text} {value : Int}
    (scanned : scanInteger stdin = some (value, rest)) :
    scanfD takesSign stdin = (some value, rest) := by
  have here := dropWhile_isSpace_append_of_scanInteger scanned []
  rw [List.append_nil] at here
  simp [scanfD, here, scanned]

theorem scanInteger_of_scanfD
    {takesSign : Bool} {stdin rest : Text} {value : Int}
    (read : scanfD takesSign stdin = (some value, rest)) :
    scanInteger (stdin.dropWhile isSpace) = some (value, rest) := by
  unfold scanfD at read
  dsimp only at read
  split at read
  · rename_i scanned
    obtain ⟨same, rfl⟩ := Prod.mk.inj read
    rw [scanned, Option.some.inj same]
  · cases read

/-- An integer that is read takes at least a byte. -/
theorem length_lt_of_scanfD
    {takesSign : Bool} {stdin rest : Text} {value : Int}
    (read : scanfD takesSign stdin = (some value, rest)) : rest.length < stdin.length :=
  lt_of_lt_of_le (length_lt_of_scanInteger (scanInteger_of_scanfD read))
    (List.dropWhile_sublist _).length_le

/-- No word is read only at the end of the input. -/
theorem eq_nil_of_scanfS {stdin rest : Text} (read : scanfS stdin = (none, rest)) :
    rest = [] := by
  unfold scanfS at read
  dsimp only at read
  split at read
  · rename_i noWord
    obtain ⟨_, rfl⟩ := Prod.mk.inj read
    cases behind : stdin.dropWhile isSpace with
    | nil => rfl
    | cons byte text =>
        have visible := List.head?_dropWhile_not isSpace stdin
        rw [behind] at visible noWord
        have notBlank : isSpace byte = false := by simpa using visible
        rw [List.takeWhile_cons, notBlank] at noWord
        cases noWord
  · cases read

/-- A word is not empty and has no white space in it. -/
theorem word_of_scanfS {stdin word rest : Text} (read : scanfS stdin = (some word, rest)) :
    word ≠ [] ∧ ∀ byte ∈ word, isSpace byte = false := by
  unfold scanfS at read
  dsimp only at read
  split at read
  · cases read
  · rename_i isWord
    obtain ⟨same, _⟩ := Prod.mk.inj read
    obtain rfl := Option.some.inj same
    have all := List.all_eq_true.mp (@List.all_takeWhile _ (fun byte => !isSpace byte)
      (stdin.dropWhile isSpace))
    exact ⟨isWord, fun byte present => by simpa using all byte present⟩

end Refuge
