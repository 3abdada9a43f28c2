import Refuge.Capacities
import Refuge.ClientRequest
import Refuge.Prompts

/-!
# The client's dialogue, in its buffers

What the client makes of standard input: the credentials, and one request after
the other, each in a cleared `send_socket_buffer`.  A prompt is given a number
of rounds; one that is still asking then stops the run, as the user's choice to
end the client does.
-/

namespace Refuge

open Foundation

def MAX_USERNAME_LENGTH : Nat := 50
def MAX_PASSWORD_LENGTH : Nat := 50
def MAX_K_V_SUP_LENGHT : Nat := 50

/-- How a run stops when nothing has gone wrong. -/
inductive Pause
  | asking
  /-- In `end_client_conn`. -/
  | ended

/-- The string in an array that bytes were read into. -/
def cString (bytes : Text) : Text :=
  Framing.untilStop NUL bytes

/-- A prompt of `get_credentials`: a line is read into a zeroed array and a
terminator is written over the last byte of the string.  An empty string has
none, and the terminator goes before the array. -/
def getCredential (size : Nat) (stdin : Text) : Except (Stop Pause) (Text × Text) :=
  let (line, stdin) := fgets size stdin
  let string := cString (line.getD [])
  if string = [] then .error .overflows else .ok (string.dropLast, stdin)

/-- `get_credentials`: the username, the password and what follows them. -/
def getCredentials (stdin : Text) : Except (Stop Pause) (Text × Text × Text) := do
  let (username, stdin) ← getCredential MAX_USERNAME_LENGTH stdin
  let (password, stdin) ← getCredential MAX_PASSWORD_LENGTH stdin
  return (username, password, stdin)

/-- A turn of the loop of `main`: its flag, and the rounds each prompt is given. -/
structure ClientTurn where
  skipOption : Bool
  option : Nat
  category : Nat
  amount : Nat

/-- The category of an option. -/
def supplyTypeOf (option : Int) : SupplyType :=
  if option = 1 then .food else .medicine

/-- `send_socket_buffer` after `memset`. -/
def clearedBuffer : TextBuffer where
  capacity := BUFFER_SIZE
  content := []
  length_lt := by decide

namespace Buffered

section

/- `takesSign` is as for `scanf`; `leftover` is the string that happens to be in
the memory of `key`. -/
variable (cJSON : CJson) (takesSign : Bool) (leftover : Text)

/-- Ask until there is an answer. -/
def ask (prompt : Prompt) (rounds : Nat) (stdin : Text) : Except (Stop Pause) (Int × Text) :=
  match loop (prompt.round takesSign) rounds (0, stdin) with
  | some answer => .ok answer
  | none => .error (.returns .asking)

/-- Add a text to the request; the code returned is not looked at. -/
def addText (sendSocketBuffer : TextBuffer) (key value : Text) :
    Except (Stop Pause) TextBuffer :=
  match Bounded.cjsonAddKeyValueToJsonString cJSON sendSocketBuffer key value OVERRIDE with
  | .ok buffer => .ok buffer
  | .error (.returns _) => .ok sendSocketBuffer
  | .error .overflows => .error .overflows

/-- The array of the key and the string in it. -/
def readKey : Option Text → Except (Stop Pause) Text
  | none => .ok leftover
  | some word => do
      let key ← Buffer.alloc MAX_K_V_SUP_LENGHT word
      return cString key.content

/-- `get_supplies_options`. -/
def getSuppliesOptions (turn : ClientTurn) (stdin : Text) (sendSocketBuffer : TextBuffer) :
    Except (Stop Pause) (Text × TextBuffer) := do
  let (option, stdin) ← ask takesSign categoryPrompt turn.category stdin
  let supplyType := supplyTypeOf option
  let sendSocketBuffer ← addText cJSON sendSocketBuffer K_SUP_COMMAND supplyType.option
  let sendSocketBuffer ← addText cJSON sendSocketBuffer K_SUP_COMMAND_EQ supplyType.equivalent
  let (word, stdin) := scanfS stdin
  let key ← readKey leftover word
  let sendSocketBuffer ← addText cJSON sendSocketBuffer K_KEY key
  let (value, stdin) ← ask takesSign amountPrompt turn.amount stdin
  let valueStr : TextBuffer ← Buffer.alloc 10 (sprintfD value)
  let sendSocketBuffer ← addText cJSON sendSocketBuffer K_VALUE valueStr.content
  return (stdin, sendSocketBuffer)

/-- `get_options`. -/
def getOptions (turn : ClientTurn) (stdin : Text) (sendSocketBuffer : TextBuffer) :
    Except (Stop Pause) (Text × TextBuffer) := do
  let (option, stdin) ← ask takesSign optionPrompt turn.option stdin
  if option = 1 then
    let sendSocketBuffer ← addText cJSON sendSocketBuffer K_COMMAND OPTION1
    let sendSocketBuffer ← addText cJSON sendSocketBuffer K_COMMAND_EQ OPTION1_EQ
    return (stdin, sendSocketBuffer)
  else if option = 2 then
    let sendSocketBuffer ← addText cJSON sendSocketBuffer K_COMMAND OPTION2
    let sendSocketBuffer ← addText cJSON sendSocketBuffer K_COMMAND_EQ OPTION2_EQ
    getSuppliesOptions cJSON takesSign leftover turn stdin sendSocketBuffer
  else .error (.returns .ended)

/-- `add_credentials`. -/
def addCredentials (username password : Text) (sendSocketBuffer : TextBuffer) :
    Except (Stop Pause) TextBuffer := do
  let sendSocketBuffer ← addText cJSON sendSocketBuffer K_HOSTNAME username
  addText cJSON sendSocketBuffer K_PASSWORD password

/-- The request of a turn, and what is left of standard input. -/
def request (username password : Text) (turn : ClientTurn) (stdin : Text) :
    Except (Stop Pause) (Text × TextBuffer) :=
  if turn.skipOption then do
    let (stdin, sendSocketBuffer) ←
      getOptions cJSON takesSign leftover turn stdin clearedBuffer
    let sendSocketBuffer ← addCredentials cJSON username password sendSocketBuffer
    return (stdin, sendSocketBuffer)
  else do
    let sendSocketBuffer ← addText cJSON clearedBuffer K_COMMAND OPTION1
    let sendSocketBuffer ← addText cJSON sendSocketBuffer K_COMMAND_EQ OPTION1_EQ
    return (stdin, sendSocketBuffer)

/-- One request after the other. -/
def requests (username password : Text) : List ClientTurn → Text → Except (Stop Pause) Text
  | [], stdin => .ok stdin
  | turn :: turns, stdin => do
      let (stdin, _) ← request cJSON takesSign leftover username password turn stdin
      requests username password turns stdin

/-- The client, on all that its user types. -/
def client (turns : List ClientTurn) (stdin : Text) : Except (Stop Pause) Text := do
  let (username, password, stdin) ← getCredentials stdin
  requests cJSON takesSign leftover username password turns stdin

end

end Buffered

/-- No write of the client leaves its array. -/
def RequestsFit (cJSON : CJson) (takesSign : Bool) (leftover stdin : Text) : Prop :=
  ∀ turns, Buffered.client cJSON takesSign leftover turns stdin ≠ .error .overflows

/-! ## Asking -/

namespace Buffered

variable {takesSign : Bool} {prompt : Prompt} {stdin rest : Text} {value : Int}

/-- A prompt is still asking or has the first answer. -/
theorem ask_cases (takesSign : Bool) (prompt : Prompt) (rounds : Nat) (stdin : Text) :
    ask takesSign prompt rounds stdin = .error (.returns .asking) ∨
      ∃ value rest, prompt.FirstAnswer takesSign stdin value rest ∧
        ask takesSign prompt rounds stdin = .ok (value, rest) := by
  unfold ask
  cases looped : loop (prompt.round takesSign) rounds (0, stdin) with
  | none => exact .inl rfl
  | some answer => exact .inr ⟨answer.1, answer.2, Prompt.takes_iff.mp ⟨rounds, looped⟩, rfl⟩

/-- With enough rounds it has the first answer. -/
theorem exists_ask (answer : prompt.FirstAnswer takesSign stdin value rest) :
    ∃ rounds, ask takesSign prompt rounds stdin = .ok (value, rest) := by
  obtain ⟨rounds, looped⟩ := Prompt.takes_iff.mpr answer
  exact ⟨rounds, by rw [ask, looped]⟩

end Buffered

theorem option_of_firstAnswer
    {takesSign : Bool} {stdin rest : Text} {option : Int}
    (answer : optionPrompt.FirstAnswer takesSign stdin option rest) :
    option = 1 ∨ option = 2 ∨ option = OPTION_END := by
  obtain ⟨_, _, _, accepted⟩ := answer
  simpa [optionPrompt, or_assoc] using accepted

/-- What the prompts of an order accept. -/
theorem exists_supplyOrder
    {takesSign : Bool} {stdin word afterKey rest : Text} {value : Int} (supplyType : SupplyType)
    (key : scanfS stdin = (some word, afterKey))
    (amount : amountPrompt.FirstAnswer takesSign afterKey value rest) :
    ∃ order : SupplyOrder, order.supplyType = supplyType ∧ order.key = word ∧
      (order.value : Int) = value := by
  obtain ⟨isWord, unspaced⟩ := word_of_scanfS key
  obtain ⟨middle, _, scanned, accepted⟩ := amount
  have positive : 0 < value := by simpa [amountPrompt] using accepted
  obtain ⟨_, converted, _⟩ := scanInteger_eq_some_iff.mp scanned
  have small : atoi middle < 2 ^ 31 := Int.bmod_lt (by decide)
  obtain ⟨amount, rfl⟩ := Int.eq_ofNat_of_zero_le positive.le
  let order : SupplyOrder :=
    { supplyType
      key := word
      value := amount
      key_nonempty := isWord
      key_unspaced := unspaced
      value_positive := by omega
      value_small := by omega }
  exact ⟨order, rfl, rfl, rfl⟩

/-! ## The texts of a request -/

/-- A field takes the printed name and value, and five bytes of layout. -/
def fieldLength (cJSON : CJson) (field : Text × Text) : Nat :=
  (cJSON.print (.string field.1)).length + (cJSON.print (.string field.2)).length + 5

section

variable {cJSON : CJson}

theorem length_print_textObject
    (formatted : cJSON.Formatted) {fields : List (Text × Text)} (nonempty : fields ≠ []) :
    (cJSON.print (textObject fields)).length = (fields.map (fieldLength cJSON)).sum + 2 := by
  rw [textObject, length_print_object formatted (by simpa using nonempty), List.map_map]
  congr 2
  refine List.map_congr_left fun field _ => ?_
  simp [lineLength, fieldLength, breaks_eq_zero (formatted.string_line field.2)]

theorem rootOf_print_textObject (lawful : cJSON.Lawful) (fields : List (Text × Text)) :
    rootOf cJSON (cJSON.print (textObject fields)) = textObject fields := by
  rw [rootOf, lawful.parse_print, reprint_textObject, Option.getD_some]

theorem rootOf_nil (lawful : cJSON.Lawful) : rootOf cJSON [] = textObject [] := by
  rw [rootOf, lawful.parse_nil]
  rfl

theorem length_print_textObject_le_append
    (formatted : cJSON.Formatted) {fields : List (Text × Text)} (nonempty : fields ≠ [])
    (more : List (Text × Text)) :
    (cJSON.print (textObject fields)).length ≤
      (cJSON.print (textObject (fields ++ more))).length := by
  rw [length_print_textObject formatted nonempty,
    length_print_textObject formatted (List.append_ne_nil_of_left_ne_nil nonempty _),
    List.map_append, List.sum_append]
  omega

namespace Buffered

/-- A text under a new name is appended, if there is room. -/
theorem addText_eq
    {buffer : TextBuffer} {fields : List (Text × Text)}
    (holds : rootOf cJSON buffer.content = textObject fields) {key : Text}
    (absent : key ∉ Members.names fields) (value : Text) :
    addText cJSON buffer key value =
      Buffer.alloc buffer.capacity (cJSON.print (textObject (fields ++ [(key, value)]))) := by
  have absent : key ∉ Members.names
      (fields.map fun field => (field.1, Json.string field.2)) := by
    simpa [Members.names, Function.comp_def] using absent
  have added : (textObject fields).overrideItem key (.string value) =
      textObject (fields ++ [(key, value)]) := by
    rw [textObject, Json.overrideItem_object, Members.replace_of_notMem _ absent]
    simp [textObject]
  rw [addText, cjsonAddKeyValueToJsonString_copy _ _ (by decide) (encodeValue_override value),
    holds, added, Buffer.copy]
  by_cases room : (cJSON.print (textObject (fields ++ [(key, value)]))).length < buffer.capacity
  · rw [Buffer.alloc_of_lt room, Buffer.alloc_of_lt room]
  · rw [Buffer.alloc_of_not_lt room, Buffer.alloc_of_not_lt room]

/-- Add texts one after the other. -/
def addTexts (cJSON : CJson) (fields : List (Text × Text)) (sendSocketBuffer : TextBuffer) :
    Except (Stop Pause) TextBuffer :=
  fields.foldlM (fun buffer field => addText cJSON buffer field.1 field.2) sendSocketBuffer

/-- There is room for all of them when there is room for the last. -/
theorem addTexts_eq
    (lawful : cJSON.Lawful) (formatted : cJSON.Formatted)
    {buffer : TextBuffer} {fields more : List (Text × Text)}
    (holds : rootOf cJSON buffer.content = textObject fields)
    (distinct : (Members.names (fields ++ more)).Nodup) (nonempty : more ≠ []) :
    addTexts cJSON more buffer =
      Buffer.alloc buffer.capacity (cJSON.print (textObject (fields ++ more))) := by
  induction more generalizing buffer fields with
  | nil => exact absurd rfl nonempty
  | cons field more inductionHypothesis =>
      have absent : field.1 ∉ Members.names fields := by
        rw [Members.names, List.map_append, List.nodup_append] at distinct
        exact fun present => distinct.2.2 _ present _ (by simp) rfl
      have split : fields ++ field :: more = fields ++ [field] ++ more := by simp
      rw [addTexts, List.foldlM_cons, addText_eq holds absent]
      by_cases room : (cJSON.print (textObject (fields ++ [field]))).length < buffer.capacity
      · rw [Buffer.alloc_of_lt room]
        cases more with
        | nil =>
            rw [Buffer.alloc_of_lt room]
            rfl
        | cons next more =>
            rw [split] at distinct ⊢
            exact inductionHypothesis (rootOf_print_textObject lawful _) distinct (by simp)
      · have longer := length_print_textObject_le_append formatted
          (List.append_ne_nil_of_right_ne_nil fields (List.cons_ne_nil field [])) more
        rw [Buffer.alloc_of_not_lt room, split, Buffer.alloc_of_not_lt (by omega)]
        rfl

end Buffered

end

/-! ## How long requests are -/

/-- What a text takes when it is printed, without its quotes. -/
def printedWidth (width : Char → Nat) (text : Text) : Nat :=
  (text.map width).sum

/-- The fields of a request for the state without credentials, -/
def pollFields : List (Text × Text) :=
  [(K_COMMAND, OPTION1), (K_COMMAND_EQ, OPTION1_EQ)]

/-- and with them. -/
def statusFields (username password : Text) : List (Text × Text) :=
  pollFields ++ [(K_HOSTNAME, username), (K_PASSWORD, password)]

/-- The fields of an order before its category, -/
def modifyFields : List (Text × Text) :=
  [(K_COMMAND, OPTION2), (K_COMMAND_EQ, OPTION2_EQ)]

/-- before its key, -/
def categoryFields (supplyType : SupplyType) : List (Text × Text) :=
  modifyFields ++
    [(K_SUP_COMMAND, supplyType.option), (K_SUP_COMMAND_EQ, supplyType.equivalent)]

/-- and with its key. -/
def keyFields (supplyType : SupplyType) (key : Text) : List (Text × Text) :=
  categoryFields supplyType ++ [(K_KEY, key)]

/-- The fields after it. -/
def amountFields (value : Int) (username password : Text) : List (Text × Text) :=
  [(K_VALUE, sprintfD value), (K_HOSTNAME, username), (K_PASSWORD, password)]

section

variable {cJSON : CJson} {width : Char → Nat}

theorem fieldLength_eq
    (escapes : cJSON.Escapes width) {name : Text} (ordinary : name.all isOrdinary = true)
    (value : Text) :
    fieldLength cJSON (name, value) = name.length + printedWidth width value + 9 := by
  rw [fieldLength, escapes.length_string, escapes.length_string,
    escapes.sum_width_of_ordinary ordinary, printedWidth]
  dsimp only
  omega

theorem printedWidth_of_ordinary
    (escapes : cJSON.Escapes width) {text : Text} (ordinary : text.all isOrdinary = true) :
    printedWidth width text = text.length :=
  escapes.sum_width_of_ordinary ordinary

theorem length_print_statusFields
    (formatted : cJSON.Formatted) (escapes : cJSON.Escapes width) (username password : Text) :
    (cJSON.print (textObject (statusFields username password))).length =
      97 + printedWidth width username + printedWidth width password := by
  rw [length_print_textObject formatted (by simp [statusFields])]
  simp (disch := decide) only [statusFields, pollFields, List.cons_append, List.nil_append,
    List.map_cons, List.map_nil, List.sum_cons, List.sum_nil, fieldLength_eq escapes,
    printedWidth_of_ordinary escapes]
  change 7 + 1 + 9 + (18 + 17 + 9 + (8 + _ + 9 + (8 + _ + 9 + 0))) + 2 = _
  omega

theorem length_print_pollFields_lt
    (formatted : cJSON.Formatted) (escapes : cJSON.Escapes width) :
    (cJSON.print (textObject pollFields)).length < BUFFER_SIZE := by
  have shorter := length_print_textObject_le_append formatted
    (show pollFields ≠ [] by simp [pollFields]) [(K_HOSTNAME, []), (K_PASSWORD, [])]
  rw [← statusFields, length_print_statusFields formatted escapes] at shorter
  have empty : printedWidth width [] = 0 := rfl
  have size : BUFFER_SIZE = 1024 := rfl
  omega

theorem SupplyType.equivalent_ordinary (supplyType : SupplyType) :
    supplyType.equivalent.all isOrdinary = true := by
  cases supplyType <;> decide

theorem SupplyType.length_equivalent_le (supplyType : SupplyType) :
    supplyType.equivalent.length ≤ 8 := by
  cases supplyType <;> decide

theorem sum_fieldLength_keyFields
    (escapes : cJSON.Escapes width) (supplyType : SupplyType) (key : Text) :
    ((keyFields supplyType key).map (fieldLength cJSON)).sum =
      121 + supplyType.equivalent.length + printedWidth width key := by
  have option : printedWidth width supplyType.option = 1 := by
    rw [printedWidth_of_ordinary escapes (by cases supplyType <;> decide)]
    cases supplyType <;> rfl
  have equivalent := printedWidth_of_ordinary escapes supplyType.equivalent_ordinary
  simp (disch := decide) only [keyFields, categoryFields, modifyFields, List.cons_append,
    List.nil_append, List.map_cons, List.map_nil, List.sum_cons, List.sum_nil,
    fieldLength_eq escapes, printedWidth_of_ordinary escapes, option, equivalent]
  change 7 + 1 + 9 + (18 + 15 + 9 + (10 + 1 + 9 + (21 + _ + 9 + (3 + _ + 9 + 0)))) = _
  omega

theorem length_print_keyFields
    (formatted : cJSON.Formatted) (escapes : cJSON.Escapes width)
    (supplyType : SupplyType) (key : Text) :
    (cJSON.print (textObject (keyFields supplyType key))).length =
      123 + supplyType.equivalent.length + printedWidth width key := by
  rw [length_print_textObject formatted (by simp [keyFields, categoryFields, modifyFields]),
    sum_fieldLength_keyFields escapes]
  omega

/-- There is always room for the fields before the key. -/
theorem length_print_categoryFields_lt
    (formatted : cJSON.Formatted) (escapes : cJSON.Escapes width) (supplyType : SupplyType) :
    (cJSON.print (textObject (categoryFields supplyType))).length < BUFFER_SIZE := by
  have shorter := length_print_textObject_le_append formatted
    (show categoryFields supplyType ≠ [] by simp [categoryFields, modifyFields]) [(K_KEY, [])]
  rw [← keyFields, length_print_keyFields formatted escapes] at shorter
  have := supplyType.length_equivalent_le
  have empty : printedWidth width [] = 0 := rfl
  have size : BUFFER_SIZE = 1024 := rfl
  omega

theorem length_print_modifyFields_lt
    (formatted : cJSON.Formatted) (escapes : cJSON.Escapes width) :
    (cJSON.print (textObject modifyFields)).length < BUFFER_SIZE :=
  lt_of_le_of_lt
    (length_print_textObject_le_append formatted
      (show modifyFields ≠ [] by simp [modifyFields]) _)
    (length_print_categoryFields_lt formatted escapes .food)

theorem sprintfD_ordinary (value : Int) : (sprintfD value).all isOrdinary = true := by
  have digits : (decimal value.natAbs).all isOrdinary = true := by
    rw [List.all_eq_true]
    intro byte present
    have digit := isDigit_of_mem_decimal present
    have bounds := isDigit_bounds digit
    have notQuote : byte ≠ '"' := isDigit_ne digit (by decide)
    have notBackslash : byte ≠ '\\' := isDigit_ne digit (by decide)
    simp only [isOrdinary, Bool.and_eq_true, decide_eq_true_eq, ne_eq]
    exact ⟨⟨by omega, by simpa using notQuote⟩, by simpa using notBackslash⟩
  unfold sprintfD
  split
  · rw [List.all_cons, digits]
    rfl
  · exact digits

theorem length_print_keyFields_append
    (formatted : cJSON.Formatted) (escapes : cJSON.Escapes width)
    (supplyType : SupplyType) (key : Text) (value : Int) (username password : Text) :
    (cJSON.print (textObject
        (keyFields supplyType key ++ amountFields value username password))).length =
      171 + supplyType.equivalent.length + printedWidth width key + (sprintfD value).length +
        printedWidth width username + printedWidth width password := by
  have digits := printedWidth_of_ordinary escapes (sprintfD_ordinary value)
  have rest : ((amountFields value username password).map (fieldLength cJSON)).sum =
      48 + (sprintfD value).length + printedWidth width username +
        printedWidth width password := by
    simp (disch := decide) only [amountFields, List.map_cons, List.map_nil, List.sum_cons,
      List.sum_nil, fieldLength_eq escapes, digits]
    change 5 + _ + 9 + (8 + _ + 9 + (8 + _ + 9 + 0)) = _
    omega
  rw [length_print_textObject formatted (by simp [keyFields, categoryFields, modifyFields]),
    List.map_append, List.sum_append, sum_fieldLength_keyFields escapes, rest]
  omega

end

/-! ## What a turn makes of its answers -/

namespace Buffered

section

variable {cJSON : CJson} {width : Char → Nat} {takesSign : Bool}
  {leftover username password : Text} {turn : ClientTurn} {stdin : Text}

/-- The first fields of a request are put into the cleared buffer. -/
theorem addTexts_clearedBuffer
    (lawful : cJSON.Lawful) (formatted : cJSON.Formatted) {fields : List (Text × Text)}
    (nonempty : fields ≠ []) (distinct : (Members.names fields).Nodup) :
    addTexts cJSON fields clearedBuffer =
      Buffer.alloc BUFFER_SIZE (cJSON.print (textObject fields)) :=
  @addTexts_eq cJSON lawful formatted clearedBuffer [] fields (rootOf_nil lawful) distinct nonempty

theorem nodup_names_statusFields : (Members.names (statusFields username password)).Nodup := by
  change [K_COMMAND, K_COMMAND_EQ, K_HOSTNAME, K_PASSWORD].Nodup
  decide

theorem nodup_names_orderFields (supplyType : SupplyType) (key value : Text) :
    (Members.names (keyFields supplyType key ++
      [(K_VALUE, value), (K_HOSTNAME, username), (K_PASSWORD, password)])).Nodup := by
  change [K_COMMAND, K_COMMAND_EQ, K_SUP_COMMAND, K_SUP_COMMAND_EQ, K_KEY, K_VALUE, K_HOSTNAME,
    K_PASSWORD].Nodup
  decide

theorem nodup_names_keyFields (supplyType : SupplyType) (key : Text) :
    (Members.names (keyFields supplyType key)).Nodup :=
  (@nodup_names_orderFields [] [] supplyType key []).sublist
    ((List.sublist_append_left _ _).map _)

theorem nodup_names_categoryFields (supplyType : SupplyType) :
    (Members.names (categoryFields supplyType)).Nodup :=
  (nodup_names_keyFields supplyType []).sublist ((List.sublist_append_left _ _).map _)

theorem request_status
    (lawful : cJSON.Lawful) (formatted : cJSON.Formatted) (asks : turn.skipOption = true)
    {rest : Text} (option : ask takesSign optionPrompt turn.option stdin = .ok (1, rest)) :
    request cJSON takesSign leftover username password turn stdin =
      (Buffer.alloc BUFFER_SIZE (cJSON.print (textObject (statusFields username password))) >>=
        fun buffer => .ok (rest, buffer)) := by
  have added := addTexts_clearedBuffer lawful formatted (by simp [statusFields])
    (@nodup_names_statusFields username password)
  rw [← added, request, if_pos asks, getOptions, option]
  simp only [addTexts, statusFields, pollFields, List.cons_append, List.nil_append,
    addCredentials, List.foldlM_cons, List.foldlM_nil, bind_assoc, pure_bind, ok_bind,
    ↓reduceIte]
  rfl

/-- A request for which the category is still asked for. -/
theorem request_asking
    (lawful : cJSON.Lawful) (formatted : cJSON.Formatted) (escapes : cJSON.Escapes width)
    (asks : turn.skipOption = true) {afterOption : Text}
    (option : ask takesSign optionPrompt turn.option stdin = .ok (2, afterOption))
    (asking : ask takesSign categoryPrompt turn.category afterOption =
      .error (.returns .asking)) :
    request cJSON takesSign leftover username password turn stdin =
      .error (.returns .asking) := by
  have unfolded : request cJSON takesSign leftover username password turn stdin =
      (addTexts cJSON modifyFields clearedBuffer >>= fun _ => .error (.returns .asking)) := by
    have notStatus : (2 : Int) ≠ 1 := by decide
    rw [request, if_pos asks, getOptions, option]
    simp only [ok_bind, error_bind, notStatus, ↓reduceIte, getSuppliesOptions, asking, addTexts,
      modifyFields, List.foldlM_cons, List.foldlM_nil, bind_assoc, pure_bind]
  have distinct : (Members.names modifyFields).Nodup := by decide
  rw [unfolded, addTexts_clearedBuffer lawful formatted (by simp [modifyFields]) distinct,
    Buffer.alloc_of_lt (length_print_modifyFields_lt formatted escapes), ok_bind]

/-- The key is the word that is read, or what is in its memory. -/
theorem agrees_readKey (leftover : Text) (word : Option Text) :
    Agrees id (readKey leftover word) (.ok (word.elim leftover cString)) := by
  cases word with
  | none => rfl
  | some word =>
      refine (agrees_alloc MAX_K_V_SUP_LENGHT word).ok_bind fun key content => ?_
      rw [content]
      rfl

theorem readKey_of_lt {word : Text} (short : word.length < MAX_K_V_SUP_LENGHT) :
    readKey leftover (some word) = .ok (cString word) := by
  rw [readKey, Buffer.alloc_of_lt short]
  rfl

theorem word_of_readKey
    {word key : Text} (read : readKey leftover (some word) = .ok key) : key = cString word := by
  have agrees := agrees_readKey leftover (some word)
  rw [read] at agrees
  exact agrees.view_eq

/-- An order from its key on, with what has to have room for its parts. -/
def orderSteps
    (cJSON : CJson) (takesSign : Bool) (leftover username password : Text)
    (supplyType : SupplyType) (rounds : Nat) (stdin : Text) :
    Except (Stop Pause) (Text × TextBuffer) := do
  let key ← readKey leftover (scanfS stdin).1
  let _ : TextBuffer ←
    Buffer.alloc BUFFER_SIZE (cJSON.print (textObject (keyFields supplyType key)))
  let answer ← ask takesSign amountPrompt rounds (scanfS stdin).2
  let _ : TextBuffer ← Buffer.alloc 10 (sprintfD answer.1)
  let buffer ← Buffer.alloc BUFFER_SIZE
    (cJSON.print (textObject
      (keyFields supplyType key ++ amountFields answer.1 username password)))
  return (answer.2, buffer)

theorem request_order
    (lawful : cJSON.Lawful) (formatted : cJSON.Formatted) (escapes : cJSON.Escapes width)
    (asks : turn.skipOption = true) {afterOption afterCategory : Text} {category : Int}
    (option : ask takesSign optionPrompt turn.option stdin = .ok (2, afterOption))
    (supplyType : ask takesSign categoryPrompt turn.category afterOption =
      .ok (category, afterCategory)) :
    request cJSON takesSign leftover username password turn stdin =
      orderSteps cJSON takesSign leftover username password (supplyTypeOf category) turn.amount
        afterCategory := by
  have unfolded : request cJSON takesSign leftover username password turn stdin = do
      let buffer ← addTexts cJSON (categoryFields (supplyTypeOf category)) clearedBuffer
      let key ← readKey leftover (scanfS afterCategory).1
      let buffer ← addTexts cJSON [(K_KEY, key)] buffer
      let answer ← ask takesSign amountPrompt turn.amount (scanfS afterCategory).2
      let valueStr : TextBuffer ← Buffer.alloc 10 (sprintfD answer.1)
      let buffer ← addTexts cJSON
        [(K_VALUE, valueStr.content), (K_HOSTNAME, username), (K_PASSWORD, password)] buffer
      return (answer.2, buffer) := by
    have notStatus : (2 : Int) ≠ 1 := by decide
    rw [request, if_pos asks, getOptions, option]
    simp only [ok_bind, notStatus, ↓reduceIte, getSuppliesOptions, supplyType, addTexts,
      categoryFields, modifyFields, List.cons_append, List.nil_append, addCredentials,
      List.foldlM_cons, List.foldlM_nil, bind_assoc, pure_bind]
  rw [unfolded, orderSteps,
    addTexts_clearedBuffer lawful formatted (by simp [categoryFields, modifyFields])
      (nodup_names_categoryFields _),
    Buffer.alloc_of_lt (length_print_categoryFields_lt formatted escapes _), ok_bind]
  congr 1
  funext key
  rw [@addTexts_eq cJSON lawful formatted _ (categoryFields (supplyTypeOf category)) _
    (rootOf_print_textObject lawful _) (nodup_names_keyFields _ key) (by simp), ← keyFields]
  by_cases room : (cJSON.print (textObject (keyFields (supplyTypeOf category) key))).length <
    BUFFER_SIZE
  · rw [Buffer.alloc_of_lt room, ok_bind, ok_bind]
    congr 1
    funext answer
    by_cases digits : (sprintfD answer.1).length < 10
    · rw [Buffer.alloc_of_lt digits, ok_bind, ok_bind]
      rw [@addTexts_eq cJSON lawful formatted _ (keyFields (supplyTypeOf category) key) _
        (rootOf_print_textObject lawful _) (nodup_names_orderFields _ key _) (by simp)]
      rfl
    · rw [Buffer.alloc_of_not_lt digits]
      rfl
  · rw [Buffer.alloc_of_not_lt room]
    rfl

/-- The request that is made without asking. -/
theorem request_poll
    (lawful : cJSON.Lawful) (formatted : cJSON.Formatted) (escapes : cJSON.Escapes width)
    (silent : turn.skipOption = false) :
    ∃ buffer, request cJSON takesSign leftover username password turn stdin =
      .ok (stdin, buffer) := by
  have distinct : (Members.names pollFields).Nodup := by decide
  have added := addTexts_clearedBuffer lawful formatted (by simp [pollFields]) distinct
  have unfolded : request cJSON takesSign leftover username password turn stdin =
      (addTexts cJSON pollFields clearedBuffer >>= fun buffer => .ok (stdin, buffer)) := by
    rw [request, silent, if_neg (by decide)]
    simp only [addTexts, pollFields, List.foldlM_cons, List.foldlM_nil, bind_assoc, pure_bind]
    rfl
  rw [unfolded, added, Buffer.alloc_of_lt (length_print_pollFields_lt formatted escapes)]
  exact ⟨_, rfl⟩

/-! ## The request of a dialogue -/

/-- A request for the state is the one of that choice. -/
theorem content_of_request_status
    (lawful : cJSON.Lawful) (formatted : cJSON.Formatted) (asks : turn.skipOption = true)
    {rest left : Text} {buffer : TextBuffer}
    (option : ask takesSign optionPrompt turn.option stdin = .ok (1, rest))
    (made : request cJSON takesSign leftover username password turn stdin = .ok (left, buffer)) :
    left = rest ∧ buffer.content = clientRequest cJSON .getStatus username password := by
  have content : clientRequest cJSON .getStatus username password =
      cJSON.print (textObject (statusFields username password)) :=
    foldl_addText lawful (by simp [statusFields]) nodup_names_statusFields
  rw [request_status lawful formatted asks option] at made
  obtain ⟨complete, printed, made⟩ := bind_eq_ok_iff.mp made
  obtain ⟨rfl, rfl⟩ := Prod.mk.inj (Except.ok.inj made)
  exact ⟨rfl, (Buffer.content_of_alloc printed).trans content.symm⟩

/-- An order whose key has no zero byte is the one of that choice. -/
theorem content_of_request_order
    (lawful : cJSON.Lawful) (formatted : cJSON.Formatted) (escapes : cJSON.Escapes width)
    (asks : turn.skipOption = true) {afterOption afterCategory afterKey rest left : Text}
    {category : Int} {order : SupplyOrder} {buffer : TextBuffer}
    (option : ask takesSign optionPrompt turn.option stdin = .ok (2, afterOption))
    (supplyType : ask takesSign categoryPrompt turn.category afterOption =
      .ok (category, afterCategory))
    (ordered : order.supplyType = supplyTypeOf category)
    (key : scanfS afterCategory = (some order.key, afterKey)) (clean : NUL ∉ order.key)
    (amount : ask takesSign amountPrompt turn.amount afterKey = .ok ((order.value : Int), rest))
    (made : request cJSON takesSign leftover username password turn stdin = .ok (left, buffer)) :
    left = rest ∧
      buffer.content = clientRequest cJSON (.modifySupplies order) username password := by
  have whole : cString order.key = order.key := by
    have cut := Framing.untilStop_append_replicate clean 0
    rwa [List.replicate_zero, List.append_nil] at cut
  have fields : orderFields order username password =
      keyFields (supplyTypeOf category) order.key ++
        amountFields order.value username password := by
    rw [← ordered]
    rfl
  rw [clientRequest_modifySupplies lawful, fields]
  rw [request_order lawful formatted escapes asks option supplyType, orderSteps, key, amount]
    at made
  obtain ⟨word, read, made⟩ := bind_eq_ok_iff.mp made
  obtain ⟨keyed, -, made⟩ := bind_eq_ok_iff.mp made
  rw [ok_bind] at made
  obtain ⟨valueStr, -, made⟩ := bind_eq_ok_iff.mp made
  obtain ⟨complete, printed, made⟩ := bind_eq_ok_iff.mp made
  obtain ⟨rfl, rfl⟩ := Prod.mk.inj (Except.ok.inj made)
  obtain rfl : word = order.key := (word_of_readKey read).trans whole
  exact ⟨rfl, Buffer.content_of_alloc printed⟩

/-- A turn that asks and is completed sends the request of a choice, if no zero byte is
typed in the key. -/
theorem exists_choice_of_request
    (lawful : cJSON.Lawful) (formatted : cJSON.Formatted) (escapes : cJSON.Escapes width)
    (asks : turn.skipOption = true)
    (clean : ∀ afterOption category afterCategory word afterKey,
      optionPrompt.FirstAnswer takesSign stdin 2 afterOption →
        categoryPrompt.FirstAnswer takesSign afterOption category afterCategory →
          scanfS afterCategory = (some word, afterKey) → NUL ∉ word)
    {rest : Text} {buffer : TextBuffer}
    (made : request cJSON takesSign leftover username password turn stdin = .ok (rest, buffer)) :
    ∃ choice, buffer.content = clientRequest cJSON choice username password := by
  rcases ask_cases takesSign optionPrompt turn.option stdin with
    asking | ⟨option, afterOption, answer, asked⟩
  · rw [request, if_pos asks, getOptions, asking] at made
    cases made
  rcases option_of_firstAnswer answer with rfl | rfl | rfl
  · exact ⟨.getStatus, (content_of_request_status lawful formatted asks asked made).2⟩
  · rcases ask_cases takesSign categoryPrompt turn.category afterOption with
      asking | ⟨category, afterCategory, supplyType, chosen⟩
    · rw [request_asking lawful formatted escapes asks asked asking] at made
      cases made
    have steps := made
    rw [request_order lawful formatted escapes asks asked chosen, orderSteps] at steps
    obtain ⟨key, -, steps⟩ := bind_eq_ok_iff.mp steps
    obtain ⟨keyed, -, steps⟩ := bind_eq_ok_iff.mp steps
    obtain ⟨⟨value, behind⟩, amountAsked, -⟩ := bind_eq_ok_iff.mp steps
    rcases ask_cases takesSign amountPrompt turn.amount (scanfS afterCategory).2 with
      asking | ⟨other, left, amount, answered⟩
    · rw [asking] at amountAsked
      cases amountAsked
    rcases read : scanfS afterCategory with ⟨_ | word, afterKey⟩
    · rw [read, eq_nil_of_scanfS read] at amount
      exact absurd amount Prompt.not_firstAnswer_nil
    · rw [read] at amount answered
      obtain ⟨order, ordered, rfl, rfl⟩ :=
        exists_supplyOrder (supplyTypeOf category) read amount
      exact ⟨.modifySupplies order,
        (content_of_request_order lawful formatted escapes asks asked chosen ordered read
          (clean _ _ _ _ _ answer supplyType read) answered made).2⟩
  · rw [request, if_pos asks, getOptions, asked] at made
    cases made

end

end Buffered

end Refuge
