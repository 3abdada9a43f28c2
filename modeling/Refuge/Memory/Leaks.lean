import Refuge.Memory.Requests
import Refuge.Network

/-!
# What the processes lose

Every order that is carried out costs its process six texts, and nothing else that
a client asks for costs anything.  A peer without credentials need only send
objects in their place to make a process hold more with every request.
-/

namespace Refuge

open Foundation

namespace Memory

/-! ## Updates of a state -/

/-- A state with both categories. -/
def Stocked (document : Json) : Prop :=
  StateShaped document ∧
    ∀ supplyType : SupplyType, (Json.path [SUPPLIES, supplyType.equivalent] document).isSome

section

variable {cJSON : CJson}

/-- An object that is taken out is copied once and printed twice. -/
theorem fieldTexts_object
    {cjsonBuffer key : Text} {members inner : List (Text × Json)}
    (parsed : cJSON.parse cjsonBuffer = some (.object members))
    (found : Members.lookup members key = some (.object inner)) :
    fieldTexts cJSON cjsonBuffer key = 3 := by
  simp [fieldTexts, getValueOfKeyFromJsonString_object parsed found, lookupTexts, memberOf,
    parsed, found, printedTexts]

/-- A section of a state is an object, which is taken out for three texts. -/
theorem exists_section
    (lawful : cJSON.Lawful) {file : Text} {document : Json}
    (parsed : cJSON.parse file = some document) {part : Part} (shaped : part.Shaped document) :
    ∃ members inner, document = .object members ∧
      Members.lookup members part.name = some (.object inner) ∧ part.Kind (.object inner) ∧
        fieldTexts cJSON file part.name = 3 ∧
          Refuge.getValueOfKeyFromJsonString cJSON file part.name =
              .ok (cJSON.print (.object inner)) ∧
            cJSON.parse (cJSON.print (.object inner)) =
              some (.object (Json.reprintMembers inner)) := by
  obtain ⟨members, rfl⟩ := shaped.isObject
  obtain ⟨_, value, found, kind⟩ := shaped
  obtain ⟨inner, rfl⟩ := kind.eq_object
  refine ⟨members, inner, rfl, found, kind, fieldTexts_object parsed found,
    getValueOfKeyFromJsonString_object parsed found, ?_⟩
  rw [lawful.parse_print, Json.reprint_object]

/-- A supply that is set in a state costs six texts. -/
theorem editTexts_setSupply
    (lawful : cJSON.Lawful) {file : Text} {document : Json}
    (parsed : cJSON.parse file = some document) (stocked : Stocked document)
    (supplyType : SupplyType) (key value : Text) :
    editTexts cJSON (.setSupply supplyType.equivalent key value) file = 6 := by
  obtain ⟨shaped, categories⟩ := stocked
  obtain ⟨members, inner, rfl, found, kind, three, got, parsedInner⟩ :=
    exists_section lawful parsed (shaped .supplies)
  obtain ⟨item, category⟩ := Option.isSome_iff_exists.mp (categories supplyType)
  rw [Json.path_cons_object, show SUPPLIES = Part.supplies.name from rfl, found, Option.bind_some,
    Json.path_cons_object] at category
  obtain ⟨child, inInner, same⟩ := Option.bind_eq_some_iff.mp category
  have isObject : Json.ObjectOf (fun _ => True) child := Json.ObjectOf.lookup kind inInner
  obtain ⟨supplies, rfl⟩ := isObject.eq_object
  have printed : Members.lookup (Json.reprintMembers inner) supplyType.equivalent =
      some (.object (Json.reprintMembers supplies)) := by
    rw [Json.lookup_reprintMembers, inInner, Option.map_some, Json.reprint_object]
  change innerTexts cJSON file Part.supplies.name supplyType.equivalent = 6
  rw [innerTexts, three, got]
  dsimp only
  rw [fieldTexts_object parsedInner printed]

/-! ## Requests of the clients -/

/-- Nothing is printed of a text. -/
theorem lookupTexts_textObject (lawful : cJSON.Lawful) (fields : List (Text × Text)) (key : Text) :
    lookupTexts cJSON (cJSON.print (textObject fields)) key = 0 := by
  have parsed : cJSON.parse (cJSON.print (textObject fields)) = some (textObject fields) := by
    rw [lawful.parse_print, reprint_textObject]
  rw [lookupTexts, memberOf, parsed, Option.bind_some, textObject,
    Json.getObjectItemCaseSensitive_object]
  cases found : Members.lookup (fields.map fun field => (field.1, Json.string field.2)) key with
  | none => rfl
  | some value =>
      obtain ⟨field, _, same⟩ := List.mem_map.mp (Members.mem_of_lookup found)
      obtain ⟨_, rfl⟩ := Prod.mk.inj same
      rfl

/-- A client's request costs six texts if it is an order, and nothing otherwise. -/
theorem adminTexts_of_isRequest
    (lawful : cJSON.Lawful) {username password : Text} {turn : Turn} {document : Json}
    (isRequest : IsRequest cJSON username password turn.recvSocketBuffer)
    (uninterrupted : turn.surroundings.flagHandler = false)
    (reads : turn.surroundings.faults.reading = false)
    (parsed : cJSON.parse turn.file = some document) (stocked : Stocked document) :
    adminTexts cJSON turn = if (orderOf cJSON turn.recvSocketBuffer).isSome then 6 else 0 := by
  obtain ⟨fields, printed⟩ := isRequest.exists_fields lawful
  have nothing (key : Text) : lookupTexts cJSON turn.recvSocketBuffer key = 0 :=
    printed ▸ lookupTexts_textObject lawful fields key
  have file : turn.file ≠ [] := lawful.ne_nil_of_parse parsed
  obtain ⟨nonempty, asks | ⟨order, same⟩⟩ := isRequest.asks_or_orders lawful
  · have different : OPTION1_ ≠ OPTION2_ := by decide
    simp [adminTexts, commandTexts, nothing, uninterrupted, asks, different, orderOf_of_status asks]
  · have command : Refuge.getCommand cJSON false turn.recvSocketBuffer = OPTION2_ :=
      same ▸ getCommand_clientRequest lawful order username password
    have arguments : supplyArguments cJSON turn.recvSocketBuffer =
        .ok (order.supplyType.equivalent, order.key, sprintfD order.value) :=
      same ▸ supplyArguments_clientRequest lawful order username password
    have read : Refuge.readFile turn.surroundings.faults turn.file = .ok turn.file := by
      rw [readFile_eq, if_neg (by simp [reads, file])]
    simp only [adminTexts, commandTexts, credentialTexts, supplyTexts, updateTexts, nothing,
      uninterrupted, command, arguments, read, orderOf,
      editTexts_setSupply lawful parsed stocked]
    split_ifs <;> simp_all

/-- Six texts for every order. -/
theorem sum_adminTexts
    {turns : List Turn}
    (each : ∀ turn ∈ turns, adminTexts cJSON turn =
      if (orderOf cJSON turn.recvSocketBuffer).isSome then 6 else 0) :
    (turns.map (adminTexts cJSON)).sum =
      6 * turns.countP fun turn => (orderOf cJSON turn.recvSocketBuffer).isSome := by
  induction turns with
  | nil => rfl
  | cons turn turns inductionHypothesis =>
      rw [List.map_cons, List.sum_cons, each turn List.mem_cons_self,
        inductionHypothesis fun other among => each other (List.mem_cons_of_mem _ among),
        List.countP_cons]
      split_ifs <;> omega

/-- As long as it waits, the process of a client's connection holds six texts for every
order it was sent and no other text, whatever allocations have failed. -/
theorem orders_lose_six
    (lawful : cJSON.Lawful) {allocates : Nat → Bool} {turns : List Turn}
    {username password : Text}
    (requests : ∀ turn ∈ turns, IsRequest cJSON username password turn.recvSocketBuffer)
    (calmly : ∀ turn ∈ turns, turn.surroundings.flagHandler = false ∧
      turn.surroundings.faults.reading = false)
    (states : ∀ turn ∈ turns, ∃ document, cJSON.parse turn.file = some document ∧
      Stocked document)
    {handled : List Handled} {store : Store Kind}
    (served : serve (fun turn => runAdminServer cJSON allocates turn.surroundings
      turn.recvSocketBuffer turn.file) turns Store.empty = .ok (handled, store))
    (waits : ∀ one ∈ handled, one.outcome = .waits) :
    ∃ trees ≤ 3 * turns.length,
      store.live.map Block.kind =
        Multiset.replicate
            (6 * turns.countP fun turn => (orderOf cJSON turn.recvSocketBuffer).isSome) .text +
          Multiset.replicate trees .tree ∧
        (Plenty allocates → trees = 0) := by
  have comes := (owns_serve (@owns_runAdminServer cJSON allocates) turns).comesTo
  rw [served] at comes
  rw [← sum_adminTexts fun turn among => ?_]
  · exact comes.1 waits
  · obtain ⟨uninterrupted, reads⟩ := calmly turn among
    obtain ⟨document, parsed, stocked⟩ := states turn among
    exact adminTexts_of_isRequest lawful (requests turn among) uninterrupted reads parsed stocked

end

/-- A state with two categories and some water. -/
def stockedState : Json :=
  .object [(SUPPLIES, .object
      [("food".toList, .object [("water".toList, .number (.ofInt 1))]),
        ("medicine".toList, .object [])]),
    (K_ALERTS, .object []), (K_EMERGENCY, .object [])]

theorem stocked_stockedState : Stocked stockedState := by
  refine ⟨fun part => ⟨by decide, ?_⟩, fun supplyType => by cases supplyType <;> rfl⟩
  cases part with
  | supplies =>
      refine ⟨_, rfl, by simp [Members.names], fun member present => ?_⟩
      rcases List.mem_pair.mp present with rfl | rfl
      · simp [Part.MemberKind, Members.names]
      · simp [Part.MemberKind, Members.names]
  | alerts => exact ⟨_, rfl, by simp [Members.names], by simp⟩
  | emergency => exact ⟨_, rfl, by simp [Members.names], by simp⟩

theorem parse_stockedState :
    CJson.reference.parse (CJson.reference.print stockedState) = some stockedState :=
  CJson.reference_lawful.parse_print_of_finite (by
    simp [stockedState, Json.FiniteMembers, Json.Finite])

/-- A turn in that state. -/
def stockedTurn (recvSocketBuffer : Text) : Turn where
  surroundings := calm
  recvSocketBuffer := recvSocketBuffer
  file := CJson.reference.print stockedState

@[simp] theorem stockedTurn_recvSocketBuffer (recvSocketBuffer : Text) :
    (stockedTurn recvSocketBuffer).recvSocketBuffer = recvSocketBuffer := rfl

@[simp] theorem stockedTurn_surroundings (recvSocketBuffer : Text) :
    (stockedTurn recvSocketBuffer).surroundings = calm := rfl

theorem parse_stockedTurn (recvSocketBuffer : Text) :
    CJson.reference.parse (stockedTurn recvSocketBuffer).file = some stockedState :=
  parse_stockedState

/-- An administrator's process, with memory. -/
def serveAdmin (turns : List Turn) : Except (Stray Misuse) (List Handled × Store Kind) :=
  serve (fun turn => runAdminServer .reference (fun _ => true) turn.surroundings
    turn.recvSocketBuffer turn.file) turns Store.empty

/-- An order and a look at the state. -/
def orderAndLook : List Turn :=
  [stockedTurn (clientRequest .reference (.modifySupplies waterOrder) ADMIN ADMIN),
    stockedTurn (clientRequest .reference .getStatus ADMIN ADMIN)]

set_option maxRecDepth 10000 in
theorem orders_lose_six_water :
    ∃ handled store, serveAdmin orderAndLook = .ok (handled, store) ∧
      store.live.map Block.kind = Multiset.replicate 6 .text := by
  have evaluated : (serveAdmin orderAndLook).toOption.map (fun reached =>
      reached.1.map Handled.outcome) = some [.waits, .waits] := by
    decide +kernel
  have once : orderAndLook.countP (fun turn =>
      (orderOf .reference turn.recvSocketBuffer).isSome) = 1 := by
    decide +kernel
  have requests : ∀ turn ∈ orderAndLook,
      IsRequest .reference ADMIN ADMIN turn.recvSocketBuffer := by
    intro turn among
    rcases List.mem_pair.mp among with rfl | rfl
    · exact .inl ⟨.modifySupplies waterOrder, stockedTurn_recvSocketBuffer _⟩
    · exact .inl ⟨.getStatus, stockedTurn_recvSocketBuffer _⟩
  have states : ∀ turn ∈ orderAndLook,
      ∃ document, CJson.reference.parse turn.file = some document ∧ Stocked document := by
    intro turn among
    refine ⟨stockedState, ?_, stocked_stockedState⟩
    rcases List.mem_pair.mp among with rfl | rfl
    · exact parse_stockedTurn _
    · exact parse_stockedTurn _
  obtain ⟨handled, store, served, outcomes⟩ := exists_served evaluated
  have waits (one : Handled) (among : one ∈ handled) : one.outcome = .waits := by
    have present : one.outcome ∈ handled.map Handled.outcome := List.mem_map_of_mem among
    rw [outcomes] at present
    simpa using present
  obtain ⟨trees, _, lost, none⟩ := orders_lose_six CJson.reference_lawful requests
    (by simp [orderAndLook, calm, FileFaults.reading, FileFaults.none]) states served waits
  refine ⟨handled, store, served, ?_⟩
  rw [lost, once, none fun _ => rfl]
  simp

/-! ## Requests without credentials -/

section

variable {cJSON : CJson}

/-- Without an interrupt and with a socket that takes the answer, a request to modify
whose host name and password are objects. -/
structure ObjectCredentials (cJSON : CJson) (turn : Turn) : Prop where
  uninterrupted : turn.surroundings.flagHandler = false
  sends : turn.surroundings.sends = true
  modify : Refuge.getCommand cJSON false turn.recvSocketBuffer = OPTION2_
  objects : ∀ key ∈ [K_HOSTNAME, K_PASSWORD], ∃ inner,
    memberOf cJSON turn.recvSocketBuffer key = some (.object inner)

/-- The turn is answered with a denial, leaves the file alone and waits for the next. -/
def Denied (cJSON : CJson) (turn : Turn) (handled : Handled) : Prop :=
  handled.outcome = .waits ∧ handled.file = turn.file ∧
    ∃ message, noticeMessage cJSON turn.surroundings.leftover K_ACC_DENEID TRUE_ = .ok message ∧
      handled.sent = some message

namespace ObjectCredentials

variable {turn : Turn}

/-- The text of an object. -/
theorem exists_text
    (credentials : ObjectCredentials cJSON turn) {key : Text}
    (listed : key ∈ [K_HOSTNAME, K_PASSWORD]) :
    ∃ inner, Refuge.getValueOfKeyFromJsonString cJSON turn.recvSocketBuffer key =
      .ok (cJSON.print (.object inner)) := by
  obtain ⟨inner, member⟩ := credentials.objects key listed
  obtain ⟨root, parsed, found⟩ := Option.bind_eq_some_iff.mp member
  refine ⟨inner, ?_⟩
  simp [Refuge.getValueOfKeyFromJsonString, Refuge.getValueOfKeyFromJsonObject, parsed, found,
    textOfValue]

/-- It is not `ubuntu`. -/
theorem refused
    (braced : ∀ members, (cJSON.print (.object members)).head? = some '\x7b')
    (credentials : ObjectCredentials cJSON turn) :
    Refuge.checkCredentials cJSON turn.recvSocketBuffer = 1 := by
  obtain ⟨name, nameText⟩ := @exists_text cJSON turn credentials K_HOSTNAME (by simp)
  obtain ⟨word, wordText⟩ := @exists_text cJSON turn credentials K_PASSWORD (by simp)
  have other : cJSON.print (.object name) ≠ ADMIN := by
    intro same
    have head := braced name
    rw [same] at head
    exact absurd head (by decide)
  rw [Refuge.checkCredentials, nameText, wordText]
  simp [other]

/-- So the request is answered with a denial. -/
theorem denied
    (lawful : cJSON.Lawful)
    (braced : ∀ members, (cJSON.print (.object members)).head? = some '\x7b')
    (credentials : ObjectCredentials cJSON turn) :
    Denied cJSON turn
      (Refuge.runAdminServer cJSON turn.surroundings turn.recvSocketBuffer turn.file) := by
  have nonempty : turn.recvSocketBuffer ≠ [] := by
    obtain ⟨inner, member⟩ := credentials.objects K_HOSTNAME (by simp)
    intro empty
    simp [memberOf, empty, lawful.parse_nil] at member
  have notClose : OPTION2_ ≠ CLOSE_CONNECTION := by decide
  have notStatus : OPTION2_ ≠ OPTION1_ := by decide
  have handled : Refuge.runAdminServer cJSON turn.surroundings turn.recvSocketBuffer turn.file =
      Refuge.sendDeneidMessage cJSON turn.surroundings turn.file := by
    simp [Refuge.runAdminServer, nonempty, credentials.uninterrupted, credentials.modify, notClose,
      notStatus, credentials.refused braced]
  obtain ⟨message, made, sent⟩ := @exists_sendNotice_eq cJSON turn.surroundings turn.file
    K_ACC_DENEID TRUE_
  rw [handled, Refuge.sendDeneidMessage, sent]
  exact ⟨by simp [Refuge.sendAndWait, credentials.sends], rfl, message, made, rfl⟩

end ObjectCredentials

end

end Memory

end Refuge
