import Refuge.Json.Reference
import Mathlib.Algebra.BigOperators.Group.List.Basic

/-!
# The layout of printed objects

`cJSON_Print` writes one member a line, and indents the text of its value by a
tab.  How long a printed object is follows from its members, and so does how a
write at a path changes it.
-/

namespace Refuge

open Foundation

/-- A text with one more tab on every line but the first. -/
def indent (text : Text) : Text :=
  text.flatMap fun byte => if byte = '\n' then ['\n', '\t'] else [byte]

/-- The line of a member, from the texts of its name and value. -/
def formatMember (member : Text × Text) : Text :=
  '\t' :: (member.1 ++ ':' :: '\t' :: member.2)

/-- The lines of the members after the first, and the closing brace. -/
def formatMembers : List (Text × Text) → Text
  | [] => ['\n', '}']
  | member :: members => ',' :: '\n' :: (formatMember member ++ formatMembers members)

/-- The text of an object, from those of its members. -/
def formatObject : List (Text × Text) → Text
  | [] => ['{', '\n', '}']
  | member :: members => '{' :: '\n' :: (formatMember member ++ formatMembers members)

/-- How `cJSON_Print` lays out what it prints. -/
structure CJson.Formatted (cJSON : CJson) : Prop where
  print_object : ∀ members, cJSON.print (.object members) =
    formatObject (members.map fun member =>
      (cJSON.print (.string member.1), indent (cJSON.print member.2)))
  /-- What was printed and parsed again is printed in the same way. -/
  print_reprint : ∀ tree, cJSON.print tree.reprint = cJSON.print tree
  /-- A string is on one line, -/
  string_line : ∀ value, '\n' ∉ cJSON.print (.string value)
  /-- and so is a number. -/
  number_line : ∀ value, '\n' ∉ cJSON.print (.number value)

/-- The line breaks in a text. -/
def breaks (text : Text) : Nat :=
  text.count '\n'

theorem breaks_eq_zero {text : Text} (line : '\n' ∉ text) : breaks text = 0 :=
  List.count_eq_zero.mpr line

@[simp] theorem length_indent (text : Text) : (indent text).length = text.length + breaks text := by
  induction text with
  | nil => rfl
  | cons byte text inductionHypothesis =>
      unfold indent breaks at *
      by_cases newline : byte = '\n'
      · simp [newline, inductionHypothesis]
        omega
      · simp [newline, inductionHypothesis]
        omega

@[simp] theorem breaks_indent (text : Text) : breaks (indent text) = breaks text := by
  induction text with
  | nil => rfl
  | cons byte text inductionHypothesis =>
      unfold indent breaks at *
      by_cases newline : byte = '\n'
      · simp [newline, inductionHypothesis]
      · simp [newline, inductionHypothesis]

theorem length_formatMembers (members : List (Text × Text)) :
    (formatMembers members).length =
      (members.map fun member => member.1.length + member.2.length + 5).sum + 2 := by
  induction members with
  | nil => rfl
  | cons member members inductionHypothesis =>
      simp [formatMembers, formatMember, inductionHypothesis]
      omega

theorem breaks_formatMembers (members : List (Text × Text)) :
    breaks (formatMembers members) =
      (members.map fun member => breaks member.1 + breaks member.2 + 1).sum + 1 := by
  induction members with
  | nil => rfl
  | cons member members inductionHypothesis =>
      unfold breaks at *
      simp [formatMembers, formatMember, inductionHypothesis]
      omega

/-- An object with a member is as long as the lines of its members and the braces. -/
theorem length_formatObject {members : List (Text × Text)} (nonempty : members ≠ []) :
    (formatObject members).length =
      (members.map fun member => member.1.length + member.2.length + 5).sum + 2 := by
  cases members with
  | nil => exact absurd rfl nonempty
  | cons member members =>
      simp [formatObject, formatMember, length_formatMembers]
      omega

theorem breaks_formatObject {members : List (Text × Text)} (nonempty : members ≠ []) :
    breaks (formatObject members) =
      (members.map fun member => breaks member.1 + breaks member.2 + 1).sum + 1 := by
  cases members with
  | nil => exact absurd rfl nonempty
  | cons member members =>
      have rest := breaks_formatMembers members
      unfold breaks at *
      simp [formatObject, formatMember, rest]
      omega

section

variable (cJSON : CJson)

/-- The length of a member's line, with what separates it from the next. -/
def lineLength (member : Text × Json) : Nat :=
  (cJSON.print (.string member.1)).length + (indent (cJSON.print member.2)).length + 5

variable {cJSON} (formatted : cJSON.Formatted)

include formatted

theorem length_print_object {members : List (Text × Json)} (nonempty : members ≠ []) :
    (cJSON.print (.object members)).length =
      (members.map (lineLength cJSON)).sum + 2 := by
  rw [formatted.print_object, length_formatObject (by simpa using nonempty), List.map_map]
  rfl

theorem breaks_print_object {members : List (Text × Json)} (nonempty : members ≠ []) :
    breaks (cJSON.print (.object members)) =
      (members.map fun member => breaks (cJSON.print member.2) + 1).sum + 1 := by
  rw [formatted.print_object, breaks_formatObject (by simpa using nonempty), List.map_map]
  congr 2
  apply List.map_congr_left
  intro member _
  simp [breaks_eq_zero (formatted.string_line member.1)]

/-- A member more makes an object longer. -/
theorem length_print_lt_append (members : List (Text × Json)) (member : Text × Json) :
    (cJSON.print (.object members)).length <
      (cJSON.print (.object (members ++ [member]))).length := by
  rw [length_print_object formatted (List.append_ne_nil_of_right_ne_nil _ (by simp)),
    List.map_append, List.sum_append, List.map_singleton, List.sum_singleton, lineLength]
  cases members with
  | nil =>
      rw [formatted.print_object]
      simp [formatObject]
  | cons first others =>
      rw [length_print_object formatted (List.cons_ne_nil first others)]
      omega

/-- Exchanging the value of a member changes its line. -/
theorem length_print_replace
    {members : List (Text × Json)} {name : Text} {old : Json}
    (hits : Members.HitsExact lowercase members name)
    (found : Members.lookup members name = some old) (value : Json) :
    (cJSON.print (.object (Members.replace lowercase members name value))).length +
          (cJSON.print old).length + breaks (cJSON.print old) =
        (cJSON.print (.object members)).length +
          (cJSON.print value).length + breaks (cJSON.print value) ∧
      breaks (cJSON.print (.object (Members.replace lowercase members name value))) +
          breaks (cJSON.print old) =
        breaks (cJSON.print (.object members)) + breaks (cJSON.print value) := by
  obtain ⟨rest, before, after⟩ := hits.exists_perm found
  have nonempty : members ≠ [] := by
    rintro rfl
    exact absurd before.length_eq (by simp)
  have replaced : Members.replace lowercase members name value ≠ [] := by
    intro empty
    exact absurd ((after value).length_eq) (by simp [empty])
  have lengthBefore := (before.map (lineLength cJSON)).sum_eq
  have lengthAfter := ((after value).map (lineLength cJSON)).sum_eq
  have breaksBefore := (before.map fun member => breaks (cJSON.print member.2) + 1).sum_eq
  have breaksAfter := ((after value).map fun member => breaks (cJSON.print member.2) + 1).sum_eq
  rw [List.map_cons, List.sum_cons] at lengthBefore lengthAfter breaksBefore breaksAfter
  simp only [lineLength, length_indent] at lengthBefore lengthAfter breaksBefore breaksAfter
  rw [length_print_object formatted nonempty, length_print_object formatted replaced,
    breaks_print_object formatted nonempty, breaks_print_object formatted replaced]
  omega

/-- A write at a path changes the printed text by what the new value and the old
one add to it there. -/
theorem length_print_writeAt
    {target : List Text} {document old : Json} (hits : Json.HitsAlong target document)
    (found : Json.path target document = some old) (value : Json) :
    (cJSON.print (Json.writeAt target value document)).length +
          (cJSON.print old).length + target.length * breaks (cJSON.print old) =
        (cJSON.print document).length +
          (cJSON.print value).length + target.length * breaks (cJSON.print value) ∧
      breaks (cJSON.print (Json.writeAt target value document)) + breaks (cJSON.print old) =
        breaks (cJSON.print document) + breaks (cJSON.print value) := by
  induction target generalizing document with
  | nil =>
      obtain rfl := Option.some.inj found
      simp
      omega
  | cons name rest inductionHypothesis =>
      cases document with
      | object members =>
          rw [Json.path_cons_object] at found
          obtain ⟨child, childFound, below⟩ := Option.bind_eq_some_iff.mp found
          rw [Json.hitsAlong_cons_object_iff] at hits
          obtain ⟨lengths, breaksSame⟩ := inductionHypothesis (hits.2 child childFound) below
          rw [Json.writeAt_cons_object, childFound, Option.getD_some]
          obtain ⟨lengthsHere, breaksHere⟩ := length_print_replace formatted hits.1 childFound
            (Json.writeAt rest value child)
          rw [List.length_cons, Nat.succ_mul, Nat.succ_mul]
          omega
      | _ => exact absurd found.symm (Option.some_ne_none old)

end

/-- How long a string is printed: an ordinary byte is one byte, a quote or backslash
two, and a control character up to six. -/
structure CJson.Escapes (cJSON : CJson) (width : Char → Nat) : Prop where
  length_string : ∀ value, (cJSON.print (.string value)).length = (value.map width).sum + 2
  quote : width '"' = 2
  backslash : width '\\' = 2
  control : ∀ byte, byte.toNat < 32 → width byte ≤ 6
  ordinary : ∀ byte, 32 ≤ byte.toNat → byte ≠ '"' → byte ≠ '\\' → width byte = 1

/-- A byte that is printed as it is. -/
def isOrdinary (byte : Char) : Bool :=
  32 ≤ byte.toNat && byte ≠ '"' && byte ≠ '\\'

namespace CJson.Escapes

variable {cJSON : CJson} {width : Char → Nat} (escapes : cJSON.Escapes width)

include escapes

theorem width_le (byte : Char) : width byte ≤ 6 := by
  by_cases control : byte.toNat < 32
  · exact escapes.control byte control
  · by_cases quote : byte = '"'
    · rw [quote, escapes.quote]
      decide
    · by_cases backslash : byte = '\\'
      · rw [backslash, escapes.backslash]
        decide
      · rw [escapes.ordinary byte (by omega) quote backslash]
        decide

theorem sum_width_le (value : Text) : (value.map width).sum ≤ 6 * value.length := by
  induction value with
  | nil => simp
  | cons byte value inductionHypothesis =>
      have := escapes.width_le byte
      simp only [List.map_cons, List.sum_cons, List.length_cons]
      omega

theorem sum_width_of_ordinary {value : Text} (ordinary : value.all isOrdinary = true) :
    (value.map width).sum = value.length := by
  induction value with
  | nil => rfl
  | cons byte value inductionHypothesis =>
      simp only [List.all_cons, isOrdinary, Bool.and_eq_true, decide_eq_true_eq] at ordinary
      obtain ⟨⟨⟨printable, notQuote⟩, notBackslash⟩, rest⟩ := ordinary
      have one := escapes.ordinary byte printable (by simpa using notQuote)
        (by simpa using notBackslash)
      simp only [List.map_cons, List.sum_cons, List.length_cons, one, inductionHypothesis rest]
      omega

end CJson.Escapes

/-! ## The layout of the reference library -/

theorem indent_append (first second : Text) :
    indent (first ++ second) = indent first ++ indent second := by
  simp [indent]

@[simp] theorem indent_nil : indent [] = [] := rfl

@[simp] theorem indent_cons_of_ne {byte : Char} (other : byte ≠ '\n') (text : Text) :
    indent (byte :: text) = byte :: indent text := by
  simp [indent, other]

theorem indent_of_line {text : Text} (line : '\n' ∉ text) : indent text = text := by
  induction text with
  | nil => rfl
  | cons byte text inductionHypothesis =>
      rw [List.mem_cons, not_or] at line
      rw [indent_cons_of_ne (Ne.symm line.1), inductionHypothesis line.2]

namespace Reference

theorem newline_notMem_escape (byte : Char) : '\n' ∉ escape byte := by
  unfold escape
  split_ifs with quote backslash backspace formFeed newline carriage tab control
  · decide
  · decide
  · decide
  · decide
  · decide
  · decide
  · decide
  · have hexDigits : ∀ value < 16, hexDigit value ≠ '\n' := by decide
    have high := hexDigits (byte.toNat / 16) (by omega)
    have low := hexDigits (byte.toNat % 16) (by omega)
    simp [Ne.symm high, Ne.symm low]
  · simpa using Ne.symm newline

theorem newline_notMem_printString (value : Text) : '\n' ∉ printString value := by
  simp [printString, newline_notMem_escape]

theorem newline_notMem_sprintfD (value : Int) : '\n' ∉ sprintfD value := by
  have digits : '\n' ∉ decimal value.natAbs := by
    intro present
    exact absurd (isDigit_of_mem_decimal present) (by decide)
  unfold sprintfD
  split
  · simpa using digits
  · exact digits

theorem newline_notMem_printNumber (value : Binary64) : '\n' ∉ printNumber value := by
  unfold printNumber
  split
  · split
    · exact newline_notMem_sprintfD _
    · have digits : '\n' ∉ decimal Binary64.unitExponent := by
        intro present
        exact absurd (isDigit_of_mem_decimal present) (by decide)
      simp [newline_notMem_sprintfD, digits]
  · decide

theorem indent_newline_tabs (depth : Nat) (rest : Text) :
    indent ('\n' :: (tabs depth ++ rest)) = '\n' :: (tabs (depth + 1) ++ indent rest) := by
  have line : '\n' ∉ tabs depth := by simp [tabs]
  have first : indent ['\n'] = ['\n', '\t'] := rfl
  rw [← List.singleton_append, indent_append, indent_append, first, indent_of_line line]
  rfl

/-- Printing one deeper indents by a tab. -/
def IndentsBelow (value : Json) : Prop :=
  ∀ depth, printValue (depth + 1) value = indent (printValue depth value)

theorem printItems_succ
    {items : List Json} (below : ∀ item ∈ items, IndentsBelow item) (depth : Nat) :
    printItems (depth + 1) items = indent (printItems depth items) := by
  induction items with
  | nil => rfl
  | cons item items inductionHypothesis =>
      have rest := inductionHypothesis fun other later => below other (List.mem_cons_of_mem item later)
      simp [printItems, below item List.mem_cons_self (depth + 1), rest, indent_append]

theorem printMembers_succ
    {members : List (Text × Json)} (below : ∀ member ∈ members, IndentsBelow member.2)
    (depth : Nat) :
    printMembers (depth + 1) members = indent (printMembers depth members) := by
  induction members with
  | nil =>
      rw [printMembers, printMembers, indent_newline_tabs]
      rfl
  | cons member members inductionHypothesis =>
      obtain ⟨name, value⟩ := member
      have rest := inductionHypothesis fun other later => below other (List.mem_cons_of_mem _ later)
      have first := below _ List.mem_cons_self (depth + 1)
      simp [printMembers, first, rest, indent_append, indent_newline_tabs,
        indent_of_line (newline_notMem_printString name)]

/-- Every value is indented as a whole. -/
theorem indentsBelow (value : Json) : IndentsBelow value := by
  induction value with
  | null => exact fun _ => rfl
  | bool value =>
      intro depth
      cases value <;> rfl
  | number value =>
      intro depth
      exact (indent_of_line (newline_notMem_printNumber value)).symm
  | string value =>
      intro depth
      exact (indent_of_line (newline_notMem_printString value)).symm
  | array items below =>
      intro depth
      cases items with
      | nil => rfl
      | cons item items =>
          have rest := printItems_succ (fun other later => below other (List.mem_cons_of_mem item later))
            depth
          simp [printValue, below item List.mem_cons_self (depth + 1), rest, indent_append]
  | object members below =>
      intro depth
      cases members with
      | nil => simp [printValue, indent_newline_tabs]
      | cons member members =>
          obtain ⟨name, value⟩ := member
          have rest := printMembers_succ
            (fun other later => below other (List.mem_cons_of_mem _ later)) depth
          have first := below _ List.mem_cons_self (depth + 1)
          simp [printValue, first, rest, indent_append, indent_newline_tabs,
            indent_of_line (newline_notMem_printString name)]

theorem printMembers_zero (members : List (Text × Json)) :
    printMembers 0 members =
      formatMembers (members.map fun member =>
        (printString member.1, indent (printValue 0 member.2))) := by
  induction members with
  | nil => rfl
  | cons member members inductionHypothesis =>
      obtain ⟨name, value⟩ := member
      simp [printMembers, formatMembers, formatMember, inductionHypothesis, indentsBelow value 0,
        tabs]

theorem printValue_object (members : List (Text × Json)) :
    printValue 0 (.object members) =
      formatObject (members.map fun member =>
        (printString member.1, indent (printValue 0 member.2))) := by
  cases members with
  | nil => rfl
  | cons member members =>
      obtain ⟨name, value⟩ := member
      simp [printValue, formatObject, formatMember, printMembers_zero, indentsBelow value 0, tabs]

/-- A value is printed as what it comes back as is. -/
def PrintsAgain (value : Json) : Prop :=
  ∀ depth, printValue depth value.reprint = printValue depth value

theorem printItems_reprint
    {items : List Json} (again : ∀ item ∈ items, PrintsAgain item) (depth : Nat) :
    printItems depth (Json.reprintItems items) = printItems depth items := by
  induction items with
  | nil => rfl
  | cons item items inductionHypothesis =>
      rw [Json.reprintItems, printItems, printItems, again item List.mem_cons_self,
        inductionHypothesis fun other later => again other (List.mem_cons_of_mem item later)]

theorem printMembers_reprint
    {members : List (Text × Json)} (again : ∀ member ∈ members, PrintsAgain member.2)
    (depth : Nat) :
    printMembers depth (Json.reprintMembers members) = printMembers depth members := by
  induction members with
  | nil => rfl
  | cons member members inductionHypothesis =>
      obtain ⟨name, value⟩ := member
      rw [Json.reprintMembers, printMembers, printMembers, again _ List.mem_cons_self,
        inductionHypothesis fun other later => again other (List.mem_cons_of_mem _ later)]

theorem printsAgain (value : Json) : PrintsAgain value := by
  induction value with
  | number value =>
      intro depth
      rw [Json.reprint_number]
      split
      · rfl
      · next notFinite =>
          cases value with
          | finite value => exact absurd rfl notFinite
          | _ => rfl
  | array items again =>
      intro depth
      cases items with
      | nil => rfl
      | cons item items =>
          have rest := printItems_reprint
            (fun other later => again other (List.mem_cons_of_mem item later)) depth
          rw [Json.reprint, Json.reprintItems, printValue, printValue,
            again item List.mem_cons_self, rest]
  | object members again =>
      intro depth
      cases members with
      | nil => rfl
      | cons member members =>
          obtain ⟨name, value⟩ := member
          have rest := printMembers_reprint
            (fun other later => again other (List.mem_cons_of_mem _ later)) depth
          rw [Json.reprint, Json.reprintMembers, printValue, printValue,
            again _ List.mem_cons_self, rest]
  | _ => exact fun _ => rfl

end Reference

/-- The reference library lays objects out like `cJSON_Print`. -/
theorem CJson.reference_formatted : CJson.reference.Formatted where
  print_object := Reference.printValue_object
  print_reprint := fun tree => Reference.printsAgain tree 0
  string_line := Reference.newline_notMem_printString
  number_line := Reference.newline_notMem_printNumber

/-- The reference library escapes as many bytes as `cJSON_Print`. -/
theorem CJson.reference_escapes :
    CJson.reference.Escapes fun byte => (Reference.escape byte).length where
  length_string := fun value => by
    change (Reference.printString value).length = _
    simp [Reference.printString, List.length_flatMap]
  quote := rfl
  backslash := rfl
  control := fun byte _ => by
    unfold Reference.escape
    split_ifs <;> simp
  ordinary := fun byte printable notQuote notBackslash => by
    have above (control : Char) (below : control.toNat < 32) : byte ≠ control := by
      rintro rfl
      omega
    have notControl : ¬byte.toNat < 32 := by omega
    simp only [Reference.escape, notQuote, notBackslash, above '\x08' (by decide),
      above '\x0c' (by decide), above '\n' (by decide), above '\r' (by decide),
      above '\t' (by decide), notControl, ↓reduceIte, List.length_singleton]

end Refuge
