import Refuge.Json.Path

/-!
# The JSON library the program calls

`Parse` and `Print` are not part of this repository; they are parameters, and
`Lawful` states what the program relies on.  The calls on parsed trees are
defined here: lookup compares names exactly, deletion ignores ASCII case, and
adding does not look at the kind of its target.  A child added to a scalar is
dropped here, since printing never writes it.
-/

namespace Refuge

open Foundation

/-- `cJSON_Parse` and `cJSON_Print`; `none` stands for a null result. -/
structure CJson where
  /-- Parse a text; what follows the first value is ignored. -/
  parse : Text → Option Json
  /-- Print a tree. -/
  print : Json → Text

/-- What the program relies on. -/
structure CJson.Lawful (cJSON : CJson) : Prop where
  /-- Parsing undoes printing, a number that is not finite coming back as null. -/
  parse_print : ∀ tree, cJSON.parse (cJSON.print tree) = some tree.reprint
  /-- The empty text is no JSON value. -/
  parse_nil : cJSON.parse [] = none
  /-- A printed text is a C string. -/
  print_no_nul : ∀ tree, '\x00' ∉ cJSON.print tree
  /-- An object cut before its closing brace is no JSON value. -/
  parse_cut : ∀ members cut, cut <+: cJSON.print (.object members) →
    cut ≠ cJSON.print (.object members) → cJSON.parse cut = none

/-- Parsing undoes printing on finite trees. -/
theorem CJson.Lawful.parse_print_of_finite
    {cJSON : CJson} (lawful : cJSON.Lawful)
    {tree : Json} (finite : tree.Finite) :
    cJSON.parse (cJSON.print tree) = some tree := by
  rw [lawful.parse_print, finite.reprint_eq]

/-- A text that parses is not empty. -/
theorem CJson.Lawful.ne_nil_of_parse
    {cJSON : CJson} (lawful : cJSON.Lawful)
    {text : Text} {tree : Json} (parsed : cJSON.parse text = some tree) :
    text ≠ [] := by
  rintro rfl
  rw [lawful.parse_nil] at parsed
  exact absurd parsed.symm (Option.some_ne_none tree)

/-- Nothing prints as the empty text. -/
theorem CJson.Lawful.print_ne_nil
    {cJSON : CJson} (lawful : cJSON.Lawful) (tree : Json) :
    cJSON.print tree ≠ [] :=
  lawful.ne_nil_of_parse (lawful.parse_print tree)

namespace Json

/-- `cJSON_GetObjectItemCaseSensitive`: items of an array have no names. -/
def getObjectItemCaseSensitive : Json → Text → Option Json
  | .object members, name => Members.lookup members name
  | _, _ => none

/-- `cJSON_DeleteItemFromObject`: the first member whose name is equal
ignoring ASCII case. -/
def deleteItemFromObject : Json → Text → Json
  | .object members, name => .object (Members.eraseFolded lowercase members name)
  | other, _ => other

/-- `cJSON_AddItemToObject`: append at the end.  An item added to an array keeps
its name in cJSON and can be found by it until the tree is printed; here the
items of an array never have names. -/
def addItemToObject : Json → Text → Json → Json
  | .object members, name, item => .object (members ++ [(name, item)])
  | .array items, _, item => .array (items ++ [item])
  | other, _, _ => other

@[simp] theorem getObjectItemCaseSensitive_object
    (members : List (Text × Json)) (name : Text) :
    getObjectItemCaseSensitive (.object members) name =
      Members.lookup members name := rfl

/-- A value with a named member is an object. -/
theorem isObject_of_getObjectItem
    {value item : Json} {name : Text}
    (found : getObjectItemCaseSensitive value name = some item) :
    ∃ members, value = .object members ∧ Members.lookup members name = some item := by
  cases value with
  | object members => exact ⟨members, rfl, found⟩
  | _ => simp [getObjectItemCaseSensitive] at found

end Json
end Refuge
