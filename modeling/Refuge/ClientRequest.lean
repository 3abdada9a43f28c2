import Refuge.Authorisation
import Refuge.Stream

/-!
# From the client's request to the server's answer

The client builds a request by adding one text after the other to an empty
buffer, and sends the whole buffer.  The server takes the texts out again one
by one.  The two ends agree on every field, so an order for supplies is
carried out as it was made, if the credentials are the administrator's.
-/

namespace Refuge

open Foundation

def K_COMMAND_EQ : Text := "command_equivalent".toList
def K_SUP_COMMAND : Text := "suply_type".toList
def OPTION1 : Text := "1".toList
def OPTION1_EQ : Text := "Get server status".toList
def OPTION2 : Text := "2".toList
def OPTION2_EQ : Text := "Modify supplies".toList
def SUP_OPT1 : Text := "1".toList
def SUP_OPT1_EQ : Text := "food".toList
def SUP_OPT2 : Text := "2".toList
def SUP_OPT2_EQ : Text := "medicine".toList

/-- The categories `get_supplies_options` offers. -/
inductive SupplyType
  | food
  | medicine
  deriving DecidableEq

/-- The text of the option. -/
def SupplyType.option : SupplyType → Text
  | .food => SUP_OPT1
  | .medicine => SUP_OPT2

/-- The name of the category. -/
def SupplyType.equivalent : SupplyType → Text
  | .food => SUP_OPT1_EQ
  | .medicine => SUP_OPT2_EQ

/-- What the prompts of `get_supplies_options` accept: a key as `%s` reads it
and a positive `int`. -/
structure SupplyOrder where
  supplyType : SupplyType
  key : Text
  value : Nat
  key_nonempty : key ≠ []
  key_unspaced : ∀ byte ∈ key, isSpace byte = false
  value_positive : 0 < value
  value_small : value < 2 ^ 31

/-- What the prompts of `get_options` accept, short of ending the client. -/
inductive Choice
  | getStatus
  | modifySupplies (order : SupplyOrder)

section

variable (cJSON : CJson)

/-- Add a text to the request; the code returned is not looked at. -/
def addText (sendSocketBuffer key value : Text) : Text :=
  match cjsonAddKeyValueToJsonString cJSON sendSocketBuffer key value OVERRIDE with
  | .error _ => sendSocketBuffer
  | .ok buffer => buffer

/-- `get_supplies_options`. -/
def getSuppliesOptions (order : SupplyOrder) (sendSocketBuffer : Text) : Text :=
  let sendSocketBuffer := addText cJSON sendSocketBuffer K_SUP_COMMAND order.supplyType.option
  let sendSocketBuffer :=
    addText cJSON sendSocketBuffer K_SUP_COMMAND_EQ order.supplyType.equivalent
  let sendSocketBuffer := addText cJSON sendSocketBuffer K_KEY order.key
  addText cJSON sendSocketBuffer K_VALUE (sprintfD order.value)

/-- `get_options`. -/
def getOptions (choice : Choice) (sendSocketBuffer : Text) : Text :=
  match choice with
  | .getStatus =>
      let sendSocketBuffer := addText cJSON sendSocketBuffer K_COMMAND OPTION1
      addText cJSON sendSocketBuffer K_COMMAND_EQ OPTION1_EQ
  | .modifySupplies order =>
      let sendSocketBuffer := addText cJSON sendSocketBuffer K_COMMAND OPTION2
      let sendSocketBuffer := addText cJSON sendSocketBuffer K_COMMAND_EQ OPTION2_EQ
      getSuppliesOptions cJSON order sendSocketBuffer

/-- `add_credentials`. -/
def addCredentials (username password sendSocketBuffer : Text) : Text :=
  let sendSocketBuffer := addText cJSON sendSocketBuffer K_HOSTNAME username
  addText cJSON sendSocketBuffer K_PASSWORD password

/-- The request for a choice, built in a buffer that was just cleared. -/
def clientRequest (choice : Choice) (username password : Text) : Text :=
  addCredentials cJSON username password (getOptions cJSON choice [])

end

/-- `check_credentials` of the client: 1 if both are `ubuntu`. -/
def clientCheckCredentials (username password : Text) : Int :=
  if username = ADMIN ∧ password = ADMIN then 1 else 0

/-! ## The request is an object of texts -/

/-- An object whose members are all strings. -/
def textObject (fields : List (Text × Text)) : Json :=
  .object (fields.map fun field => (field.1, .string field.2))

@[simp] theorem reprint_textObject (fields : List (Text × Text)) :
    (textObject fields).reprint = textObject fields := by
  simp [textObject, Json.reprintMembers_eq_map, Function.comp_def]

/-- The fields of a request for supplies. -/
def orderFields (order : SupplyOrder) (username password : Text) : List (Text × Text) :=
  [(K_COMMAND, OPTION2), (K_COMMAND_EQ, OPTION2_EQ),
    (K_SUP_COMMAND, order.supplyType.option),
    (K_SUP_COMMAND_EQ, order.supplyType.equivalent), (K_KEY, order.key),
    (K_VALUE, sprintfD order.value), (K_HOSTNAME, username), (K_PASSWORD, password)]

section

variable {cJSON : CJson}

/-- The first text starts an object. -/
theorem addText_nil (lawful : cJSON.Lawful) (key value : Text) :
    addText cJSON [] key value = cJSON.print (textObject [(key, value)]) := by
  rw [addText, cjsonAddKeyValueToJsonString_unparsable lawful.parse_nil, encodeValue_override]
  rfl

/-- A text under a new name is appended. -/
theorem addText_print
    (lawful : cJSON.Lawful) {fields : List (Text × Text)} {key : Text}
    (absent : key ∉ Members.names fields) (value : Text) :
    addText cJSON (cJSON.print (textObject fields)) key value =
      cJSON.print (textObject (fields ++ [(key, value)])) := by
  have parsed : cJSON.parse (cJSON.print (textObject fields)) = some (textObject fields) := by
    rw [lawful.parse_print, reprint_textObject]
  have absent : key ∉ Members.names
      (fields.map fun field => (field.1, Json.string field.2)) := by
    simpa [Members.names, Function.comp_def] using absent
  rw [addText, cjsonAddKeyValueToJsonString_object parsed (by decide), encodeValue_override]
  simp [Members.replace_of_notMem _ absent, textObject]

/-- Adding texts under distinct names one after the other prints their object. -/
theorem foldl_addText
    (lawful : cJSON.Lawful) {fields : List (Text × Text)} (nonempty : fields ≠ [])
    (distinct : (Members.names fields).Nodup) :
    fields.foldl (fun buffer field => addText cJSON buffer field.1 field.2) [] =
      cJSON.print (textObject fields) := by
  induction fields using List.reverseRecOn with
  | nil => exact absurd rfl nonempty
  | append_singleton fields field inductionHypothesis =>
      rw [List.foldl_append, List.foldl_cons, List.foldl_nil]
      rcases fields.eq_nil_or_concat with rfl | ⟨first, last, concat⟩
      · exact addText_nil lawful _ _
      · rw [Members.names, List.map_append, List.nodup_append] at distinct
        rw [inductionHypothesis (by simp [concat]) distinct.1]
        refine addText_print lawful (fun present => ?_) _
        exact distinct.2.2 _ present _ (List.mem_singleton_self _) rfl

/-- The request for supplies, as it leaves the client. -/
theorem clientRequest_modifySupplies
    (lawful : cJSON.Lawful) (order : SupplyOrder) (username password : Text) :
    clientRequest cJSON (.modifySupplies order) username password =
      cJSON.print (textObject (orderFields order username password)) := by
  have distinct : (Members.names (orderFields order username password)).Nodup := by
    change [K_COMMAND, K_COMMAND_EQ, K_SUP_COMMAND, K_SUP_COMMAND_EQ, K_KEY, K_VALUE,
      K_HOSTNAME, K_PASSWORD].Nodup
    decide
  exact foldl_addText lawful (by simp [orderFields]) distinct

/-- Taking a text out of a printed object of texts. -/
theorem getValueOfKeyFromJsonString_textObject
    (lawful : cJSON.Lawful) {fields : List (Text × Text)} {key value : Text}
    (found : Members.lookup fields key = some value) :
    getValueOfKeyFromJsonString cJSON (cJSON.print (textObject fields)) key = .ok value := by
  have parsed : cJSON.parse (cJSON.print (textObject fields)) = some (textObject fields) := by
    rw [lawful.parse_print, reprint_textObject]
  have inObject : (textObject fields).getObjectItemCaseSensitive key =
      some (.string value) := by
    rw [textObject, Json.getObjectItemCaseSensitive_object,
      Members.lookup_map_value Json.string, found]
    rfl
  simp [getValueOfKeyFromJsonString, getValueOfKeyFromJsonObject, parsed, inObject,
    textOfValue]

/-! ## The server takes the request apart -/

/-- The path of the supply an order is for. -/
def SupplyOrder.target (order : SupplyOrder) : List Text :=
  [SUPPLIES, order.supplyType.equivalent, order.key]

/-- A document whose root, supplies and category are objects with distinct
names, ignoring case. -/
def Orderable (supplyType : SupplyType) (document : Json) : Prop :=
  ∃ members supplies category, document = .object members ∧
    Members.FoldDistinct lowercase members ∧
      Members.lookup members SUPPLIES = some (.object supplies) ∧
        Members.FoldDistinct lowercase supplies ∧
          Members.lookup supplies supplyType.equivalent = some (.object category) ∧
            Members.FoldDistinct lowercase category

theorem Orderable.writable
    {order : SupplyOrder} {document : Json}
    (orderable : Orderable order.supplyType document) :
    Json.Writable order.target document := by
  obtain ⟨members, supplies, category, rfl, distinct, suppliesFound, suppliesDistinct,
    categoryFound, categoryDistinct⟩ := orderable
  refine ⟨distinct.nodup_names, distinct.hitsExact _, fun _ => ⟨_, suppliesFound, ?_⟩⟩
  refine ⟨suppliesDistinct.nodup_names, suppliesDistinct.hitsExact _,
    fun _ => ⟨_, categoryFound, ?_⟩⟩
  exact ⟨categoryDistinct.nodup_names, categoryDistinct.hitsExact _,
    fun proper => absurd rfl proper⟩

/-- The amount of an order is stored as that number. -/
theorem storedValue_orderValue (order : SupplyOrder) :
    storedValue (sprintfD order.value) = .number (.ofInt order.value) := by
  have digits : sprintfD order.value = decimal order.value := by
    rw [sprintfD, if_neg (by omega), Int.natAbs_natCast]
  have small := order.value_small
  rw [digits, storedValue_decimal order.value_positive (by omega)]

section

variable (lawful : cJSON.Lawful) (order : SupplyOrder) (username password : Text)

include lawful

theorem getCommand_clientRequest :
    getCommand cJSON false (clientRequest cJSON (.modifySupplies order) username password) =
      OPTION2_ := by
  have command : Members.lookup (orderFields order username password) K_COMMAND =
      some OPTION2 := rfl
  rw [clientRequest_modifySupplies lawful, getCommand, if_neg (by decide),
    getValueOfKeyFromJsonString_textObject lawful command]
  decide

/-- Both ends make the same of the credentials. -/
theorem checkCredentials_clientRequest :
    checkCredentials cJSON (clientRequest cJSON (.modifySupplies order) username password) = 0 ↔
      clientCheckCredentials username password = 1 := by
  have hostname : Members.lookup (orderFields order username password) K_HOSTNAME =
      some username := rfl
  have passwordFound : Members.lookup (orderFields order username password) K_PASSWORD =
      some password := rfl
  rw [clientRequest_modifySupplies lawful, checkCredentials_eq_zero_iff,
    getValueOfKeyFromJsonString_textObject lawful hostname,
    getValueOfKeyFromJsonString_textObject lawful passwordFound, clientCheckCredentials]
  simp

theorem supplyArguments_clientRequest :
    supplyArguments cJSON (clientRequest cJSON (.modifySupplies order) username password) =
      .ok (order.supplyType.equivalent, order.key, sprintfD order.value) := by
  have category : Members.lookup (orderFields order username password) K_SUP_COMMAND_EQ =
      some order.supplyType.equivalent := rfl
  have key : Members.lookup (orderFields order username password) K_KEY =
      some order.key := rfl
  have value : Members.lookup (orderFields order username password) K_VALUE =
      some (sprintfD order.value) := rfl
  rw [clientRequest_modifySupplies lawful, supplyArguments,
    getValueOfKeyFromJsonString_textObject lawful category,
    getValueOfKeyFromJsonString_textObject lawful key,
    getValueOfKeyFromJsonString_textObject lawful value]
  rfl

/-- A request that fits the buffer is sent by one `send`, and received whole by
one `recv` of it. -/
theorem sendMessage_clientRequest
    (beyond : List Char)
    (short : (clientRequest cJSON (.modifySupplies order) username password).length <
      BUFFER_SIZE) :
    ∃ bytes,
      sendMessage beyond (clientRequest cJSON (.modifySupplies order) username password)
          BUFFER_SIZE = [bytes] ∧
        recvTcpMessage (some bytes) =
          (0, clientRequest cJSON (.modifySupplies order) username password) := by
  rw [clientRequest_modifySupplies lawful] at short ⊢
  have nonempty := lawful.print_ne_nil (textObject (orderFields order username password))
  have clean : NUL ∉ cJSON.print (textObject (orderFields order username password)) :=
    lawful.print_no_nul _
  refine ⟨_, sendMessage_eq beyond nonempty clean (by omega) le_rfl, ?_⟩
  simp only [recvTcpMessage, Framing.untilStop_append_replicate clean, nonempty, ↓reduceIte]

/-- The request of an order goes to the credential check. -/
theorem runAdminServer_clientRequest
    {surroundings : Surroundings} (uninterrupted : surroundings.flagHandler = false)
    (file : Text) :
    runAdminServer cJSON surroundings
        (clientRequest cJSON (.modifySupplies order) username password) file =
      if clientCheckCredentials username password = 1 then
        setAndSendSuplyStatus cJSON surroundings
          (clientRequest cJSON (.modifySupplies order) username password) file
      else sendDeneidMessage cJSON surroundings file := by
  have nonempty : clientRequest cJSON (.modifySupplies order) username password ≠ [] := by
    rw [clientRequest_modifySupplies lawful]
    exact lawful.print_ne_nil _
  have command := getCommand_clientRequest lawful order username password
  have credentials := checkCredentials_clientRequest lawful order username password
  have notClose : OPTION2_ ≠ CLOSE_CONNECTION := by decide
  have notStatus : OPTION2_ ≠ OPTION1_ := by decide
  simp only [runAdminServer, uninterrupted, command, nonempty, notClose, notStatus, ne_eq,
    credentials, ↓reduceIte, ite_not]

/-- What `set_supply` does with the request of an order. -/
theorem setSupply_clientRequest
    {faults : FileFaults} {file : Text} {document : Json}
    (parsed : cJSON.parse file = some document)
    (orderable : Orderable order.supplyType document) (flushed : faults.lost = 0)
    (code : (setSupply cJSON faults
      (clientRequest cJSON (.modifySupplies order) username password) file).code = 0) :
    ∃ text,
      setSupply cJSON faults
          (clientRequest cJSON (.modifySupplies order) username password) file =
          { code := 0, buffer := text, file := text } ∧
        cJSON.parse text =
          some (Json.writeAt order.target (.number (.ofInt order.value)) document).reprint := by
  rw [setSupply, supplyArguments_clientRequest lawful] at code ⊢
  dsimp only at code ⊢
  split_ifs at code ⊢ with failed
  · exact absurd (show (1 : Int) = 0 from code) (by decide)
  · rw [← storedValue_orderValue]
    exact Update.apply_of_reaches lawful
      (.setSupply order.supplyType.equivalent order.key (sprintfD order.value)) parsed
      orderable.writable.reaches rfl code flushed

/-- With every file operation succeeding the order is carried out. -/
theorem setSupply_none_clientRequest
    {file : Text} {document : Json} (parsed : cJSON.parse file = some document)
    (orderable : Orderable order.supplyType document) :
    (setSupply cJSON .none
      (clientRequest cJSON (.modifySupplies order) username password) file).code = 0 := by
  obtain ⟨text, applied, _⟩ := Update.apply_none_of_reaches lawful
    (.setSupply order.supplyType.equivalent order.key (sprintfD order.value)) parsed
    orderable.writable.reaches rfl
  have result : setSupplyStatus cJSON .none order.supplyType.equivalent order.key
      (sprintfD order.value) file = { code := 0, buffer := text, file := text } := applied
  simp [setSupply, supplyArguments_clientRequest lawful, result]

end

/-- A denial carries its key when the memory it is built in holds no JSON value
other than an object. -/
theorem noticeMessage_holds_key
    (lawful : cJSON.Lawful) {leftover : Text} (key value : Text)
    (plain : ∀ tree, cJSON.parse leftover = some tree → ∃ members, tree = .object members) :
    ∃ reply, noticeMessage cJSON leftover key value = .ok reply ∧
      isKeyInJsonBuffer cJSON reply key = true := by
  cases parsed : cJSON.parse leftover with
  | none =>
      refine ⟨cJSON.print (.object [(key, .string value)]), ?_, ?_⟩
      · rw [noticeMessage, cjsonAddKeyValueToJsonString_unparsable parsed, encodeValue_override]
      · simp [isKeyInJsonBuffer, isKeyInJsonObject, lawful.parse_print,
          Json.reprintMembers_eq_map, Members.lookup_cons]
  | some tree =>
      obtain ⟨members, rfl⟩ := plain tree parsed
      refine ⟨cJSON.print (.object (Members.replace lowercase members key (.string value))),
        ?_, ?_⟩
      · rw [noticeMessage, cjsonAddKeyValueToJsonString_object parsed (by decide),
          encodeValue_override]
      · have present : key ∈ Members.names
            (Members.replace lowercase members key (.string value)) := by
          simp [Members.names, Members.replace]
        rw [isKeyInJsonBuffer, lawful.parse_print, Json.reprint_object]
        simp only [isKeyInJsonObject, Json.getObjectItemCaseSensitive_object]
        rw [Members.lookup_isSome_iff_mem_names, Json.names_reprintMembers]
        exact present

/-- An order that fits the buffer arrives as it was sent and is dispatched as a
change of the supplies.  It is accepted exactly when the client accepted the
credentials.  If it is denied the file stays as it is and the reply says so;
if it is carried out, the file has the amount at the supply and what printing
makes of everything else, and is sent back. -/
theorem order_means_the_same
    (lawful : cJSON.Lawful) (order : SupplyOrder) (username password : Text)
    (surroundings : Surroundings) (file beyond : Text)
    (uninterrupted : surroundings.flagHandler = false)
    (short : (clientRequest cJSON (.modifySupplies order) username password).length <
      BUFFER_SIZE) :
    let request := clientRequest cJSON (.modifySupplies order) username password
    let handled := runAdminServer cJSON surroundings request file
    (∃ bytes, sendMessage beyond request BUFFER_SIZE = [bytes] ∧
      recvTcpMessage (some bytes) = (0, request)) ∧
    getCommand cJSON surroundings.flagHandler request = OPTION2_ ∧
    (checkCredentials cJSON request = 0 ↔ clientCheckCredentials username password = 1) ∧
    (clientCheckCredentials username password ≠ 1 →
      handled.file = file ∧
        ((∀ tree, cJSON.parse surroundings.leftover = some tree →
            ∃ members, tree = .object members) →
          ∃ reply, handled.sent = some reply ∧
            isKeyInJsonBuffer cJSON reply K_ACC_DENEID = true)) ∧
    (clientCheckCredentials username password = 1 →
      (setSupply cJSON surroundings.faults request file).code = 0 →
      surroundings.faults.lost = 0 →
      ∀ document, cJSON.parse file = some document →
        Orderable order.supplyType document →
          ∃ written, cJSON.parse handled.file = some written ∧
            Json.path order.target written = some (.number (.ofInt order.value)) ∧
              (∀ other : List Text, ¬other <+: order.target → ¬order.target <+: other →
                Json.path other written = (Json.path other document).map Json.reprint) ∧
                handled.sent = some handled.file) := by
  intro request handled
  have handledEq := runAdminServer_clientRequest lawful order username password
    uninterrupted file
  refine ⟨sendMessage_clientRequest lawful order username password beyond short,
    uninterrupted ▸ getCommand_clientRequest lawful order username password,
    checkCredentials_clientRequest lawful order username password, fun rejected => ?_,
    fun accepted code flushed document parsed orderable => ?_⟩
  · rw [if_neg rejected] at handledEq
    rw [show handled = _ from handledEq]
    refine ⟨sendDeneidMessage_file, fun plain => ?_⟩
    obtain ⟨reply, notice, holds⟩ := noticeMessage_holds_key lawful K_ACC_DENEID TRUE_ plain
    refine ⟨reply, ?_, holds⟩
    rw [sendDeneidMessage, sendNotice, notice]
    rfl
  · obtain ⟨text, set, parsedText⟩ := setSupply_clientRequest lawful order username password
      parsed orderable flushed code
    have small := order.value_small
    rw [if_pos accepted, setAndSendSuplyStatus, set] at handledEq
    rw [show handled = _ from handledEq]
    refine ⟨_, parsedText, ?_, fun other notAbove notBelow => ?_, rfl⟩
    · rw [Json.path_reprint, orderable.writable.path_writeAt_self, Option.map_some,
        reprint_number_ofInt (by simp; omega)]
    · rw [Json.path_reprint,
        orderable.writable.path_writeAt_of_incomparable _ notAbove notBelow]

end

/-! ## An order for water -/

/-- Five of water. -/
def waterOrder : SupplyOrder where
  supplyType := .food
  key := "water".toList
  value := 5
  key_nonempty := by decide
  key_unspaced := by simp [isSpace]
  value_positive := by decide
  value_small := by decide

theorem orderable_overflowMembers : Orderable .food (.object overflowMembers) :=
  ⟨overflowMembers, _, _, rfl, by decide, rfl, by decide, rfl, by decide⟩

theorem clientRequest_water_short :
    (clientRequest .reference (.modifySupplies waterOrder) ADMIN ADMIN).length <
      BUFFER_SIZE := by
  decide +kernel

theorem setSupply_water :
    (setSupply .reference calm.faults
      (clientRequest .reference (.modifySupplies waterOrder) ADMIN ADMIN) overflowFile).code =
        0 :=
  setSupply_none_clientRequest CJson.reference_lawful waterOrder ADMIN ADMIN parse_overflowFile
    orderable_overflowMembers

/-- The order is carried out. -/
theorem order_means_the_same_water :
    ∃ written,
      CJson.reference.parse (runAdminServer .reference calm
        (clientRequest .reference (.modifySupplies waterOrder) ADMIN ADMIN)
          overflowFile).file = some written ∧
        Json.path waterOrder.target written = some (.number (.ofInt 5)) := by
  have means := order_means_the_same CJson.reference_lawful waterOrder ADMIN ADMIN calm
    overflowFile [] rfl clientRequest_water_short
  obtain ⟨written, parsed, found, _⟩ := means.2.2.2.2 rfl setSupply_water rfl _
    parse_overflowFile orderable_overflowMembers
  exact ⟨written, parsed, found⟩

/-- It also turns a number elsewhere into null. -/
theorem limit_changed_by_order :
    clientCheckCredentials ADMIN ADMIN = 1 ∧
      (clientRequest .reference (.modifySupplies waterOrder) ADMIN ADMIN).length <
        BUFFER_SIZE ∧
      CJson.reference.parse overflowFile = some (.object overflowMembers) ∧
      Orderable .food (.object overflowMembers) ∧
      (setSupply .reference calm.faults
        (clientRequest .reference (.modifySupplies waterOrder) ADMIN ADMIN) overflowFile).code =
          0 ∧
      Json.path [SUPPLIES, LIMIT] (.object overflowMembers) = some (.number (.infinity false)) ∧
      ∃ written,
        CJson.reference.parse (runAdminServer .reference calm
          (clientRequest .reference (.modifySupplies waterOrder) ADMIN ADMIN)
            overflowFile).file = some written ∧
          Json.path [SUPPLIES, LIMIT] written = some .null := by
  have lawful := CJson.reference_lawful
  obtain ⟨text, set, parsedText⟩ := setSupply_clientRequest lawful waterOrder ADMIN ADMIN
    parse_overflowFile orderable_overflowMembers rfl setSupply_water
  have accepted : clientCheckCredentials ADMIN ADMIN = 1 := rfl
  have handled : (runAdminServer .reference calm
      (clientRequest .reference (.modifySupplies waterOrder) ADMIN ADMIN) overflowFile).file =
        text := by
    rw [runAdminServer_clientRequest lawful _ _ _ rfl, if_pos accepted,
      setAndSendSuplyStatus, set]
    rfl
  have limit : Json.path [SUPPLIES, LIMIT]
      (Json.writeAt waterOrder.target (.number (.ofInt waterOrder.value))
        (.object overflowMembers)).reprint = some .null := by
    rw [Json.path_reprint, orderable_overflowMembers.writable.path_writeAt_of_incomparable _
      (by decide) (by decide)]
    rfl
  rw [handled]
  exact ⟨accepted, clientRequest_water_short, parse_overflowFile, orderable_overflowMembers,
    setSupply_water, rfl, _, parsedText, limit⟩

end Refuge
