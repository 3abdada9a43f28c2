import Refuge.Pointers

/-!
# Recognising commands

Both loops of the server switch on `get_command`, which makes an `int` of the
text of the first `command` member.  A buffer asks for a branch when that
member is the number or the numeral of it; every other buffer is a command
error.  The conversion reads a numeric prefix and gives 0, the command to
close, where there is none, and a buffer without a text for the member makes
`get_command` free an unassigned pointer, so the two agree only on some buffers.
-/

namespace Refuge

open Foundation

section

variable (cJSON : CJson) (allocates : Text → Bool)

end

section

variable
  {cJSON : CJson} {allocates : Text → Bool} {surroundings : Surroundings}
  {recvSocketBuffer file : Text}

/-- A printed object converts to 0. -/
theorem atoi_of_brace {text : Text} (brace : text.head? = some '\x7b') : atoi text = 0 := by
  cases text with
  | nil => simp at brace
  | cons byte rest =>
      obtain rfl : byte = '\x7b' := by simpa using brace
      have noBlank : ('\x7b' :: rest).dropWhile isSpace = '\x7b' :: rest :=
        List.dropWhile_cons_of_neg (by decide)
      have unsigned : scanSign ('\x7b' :: rest) = (false, '\x7b' :: rest) := rfl
      have noDigit : ('\x7b' :: rest).takeWhile Char.isDigit = [] :=
        List.takeWhile_cons_of_neg (by decide)
      simp only [atoi, strtol, noBlank, unsigned, noDigit]
      decide

end

/-! ## Words and numerals -/

theorem CJson.reference_braced (members : List (Text × Json)) :
    (CJson.reference.print (.object members)).head? = some '\x7b' := by
  cases members <;> rfl

/-- The numeral of the status command. -/
def statusNumeral : Text := "\x7b\"command\":\"1\"\x7d".toList

end Refuge
