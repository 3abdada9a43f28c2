import Refuge.Server
import Refuge.Json.Reference

/-!
# Pointers of a request

`get_command`, `check_credentials` and `set_supply` take the fields out of the
buffer through pointers.  `get_value_of_key_from_json_string` assigns its
pointer only when it returns 0, and the caller frees the pointer in any case.
`set_supply` sets its pointers to null first; the other two do not.  A turn of
`run_admin_server` or `run_normal_user_server` meets what they do.
-/

namespace Refuge

/-- What a local of type `char*` holds. -/
inductive CharPtr
  | unassigned
  | null
  /-- Memory that `get_value_of_key_from_json_string` allocated, with its text. -/
  | assigned (text : Text)
  deriving DecidableEq

/-- A use of a pointer that holds nothing to use. -/
inductive Misuse
  /-- `free_ptr` of an unassigned pointer. -/
  | frees
  /-- A text that is read through an unassigned pointer or a null pointer. -/
  | reads
  deriving DecidableEq

/-- `free_ptr`. -/
def freePtr : CharPtr → Except Misuse CharPtr
  | .unassigned => .error .frees
  | .null => .ok .null
  | .assigned _ => .ok .null

/-- The text a callee reads through a pointer. -/
def CharPtr.read : CharPtr → Except Misuse Text
  | .assigned text => .ok text
  | _ => .error .reads

/-- A value of a kind that `get_value_of_key_from_json_object` makes a text of. -/
def Json.hasText : Json → Bool
  | .string _ => true
  | .number _ => true
  | .object _ => true
  | _ => false

namespace Pointers

section

/- Whether the memory for the value of a key can be allocated. -/
variable (cJSON : CJson) (allocates : Text → Bool)

/-- `get_value_of_key_from_json_object`. -/
def getValueOfKeyFromJsonObject
    (cjsonObject : Json) (key : Text) (ptrBuffer : CharPtr) : Int × CharPtr :=
  match cjsonObject.getObjectItemCaseSensitive key with
  | none => (1, ptrBuffer)
  | some jsonValue =>
      match textOfValue cJSON jsonValue with
      | .error _ => (1, ptrBuffer)
      | .ok text => if allocates key then (0, .assigned text) else (1, ptrBuffer)

/-- `get_value_of_key_from_json_string`. -/
def getValueOfKeyFromJsonString
    (cjsonBuffer key : Text) (ptrBuffer : CharPtr) : Int × CharPtr :=
  match cJSON.parse cjsonBuffer with
  | none => (-1, ptrBuffer)
  | some cjsonObject =>
      let (code, ptrBuffer) :=
        getValueOfKeyFromJsonObject cJSON allocates cjsonObject key ptrBuffer
      if code ≠ 0 then (1, ptrBuffer) else (0, ptrBuffer)

/-- `get_command`. -/
def getCommand (flagHandler : Bool) (recvSocketBuffer : Text) : Except Misuse Int :=
  if flagHandler then pure 0
  else do
    let (code, cBuffer) :=
      getValueOfKeyFromJsonString cJSON allocates recvSocketBuffer K_COMMAND .unassigned
    if code ≠ 0 then
      let _ ← freePtr cBuffer
      pure (-1)
    else
      let r := atoi (← cBuffer.read)
      let _ ← freePtr cBuffer
      pure r

/-- `check_credentials` of the server; the password is compared only if the name
is `ubuntu`. -/
def checkCredentials (recvSocketBuffer : Text) : Except Misuse Int := do
  let (code, username) :=
    getValueOfKeyFromJsonString cJSON allocates recvSocketBuffer K_HOSTNAME .unassigned
  if code ≠ 0 then
    let _ ← freePtr username
    pure 1
  else
    let (code, password) :=
      getValueOfKeyFromJsonString cJSON allocates recvSocketBuffer K_PASSWORD .unassigned
    if code ≠ 0 then
      let _ ← freePtr password
      pure 1
    else
      let isAdmin ←
        if (← username.read) = ADMIN then (fun text => decide (text = ADMIN)) <$> password.read
        else pure false
      let _ ← freePtr password
      let _ ← freePtr username
      pure (if isAdmin then 0 else 1)

/-- `set_supply`; the buffer of the result is `send_socket_buffer`. -/
def setSupply (faults : FileFaults) (recvSocketBuffer file : Text) : Except Misuse Updated := do
  let (code, category) :=
    getValueOfKeyFromJsonString cJSON allocates recvSocketBuffer K_SUP_COMMAND_EQ .null
  if code ≠ 0 then
    let _ ← freePtr category
    pure { code := 1, buffer := [], file }
  else
    let (code, key) := getValueOfKeyFromJsonString cJSON allocates recvSocketBuffer K_KEY .null
    if code ≠ 0 then
      let _ ← freePtr key
      pure { code := 1, buffer := [], file }
    else
      let (code, value) :=
        getValueOfKeyFromJsonString cJSON allocates recvSocketBuffer K_VALUE .null
      if code ≠ 0 then
        let _ ← freePtr value
        pure { code := 1, buffer := [], file }
      else
        let result := setSupplyStatus cJSON faults (← category.read) (← key.read)
          (← value.read) file
        if result.code ≠ 0 then pure { result with code := 1 }
        else
          let _ ← freePtr category
          let _ ← freePtr key
          let _ ← freePtr value
          pure result

/-- `set_and_send_suply_status`. -/
def setAndSendSuplyStatus
    (surroundings : Surroundings) (recvSocketBuffer file : Text) : Except Misuse Handled := do
  let result ← setSupply cJSON allocates surroundings.faults recvSocketBuffer file
  if result.code ≠ 0 then pure { file := result.file, sent := none, outcome := .exits }
  else pure (sendAndWait surroundings result.file result.buffer)

/-- One turn of `run_admin_server`. -/
def runAdminServer
    (surroundings : Surroundings) (recvSocketBuffer file : Text) : Except Misuse Handled :=
  if recvSocketBuffer = [] then pure { file, sent := none, outcome := .exits }
  else do
    let command ← getCommand cJSON allocates surroundings.flagHandler recvSocketBuffer
    if command = CLOSE_CONNECTION then pure (endConn cJSON surroundings file)
    else if command = OPTION1_ then pure (sendSupplyMessage surroundings file)
    else if command = OPTION2_ then do
      let refused ← checkCredentials cJSON allocates recvSocketBuffer
      if refused ≠ 0 then pure (sendDeneidMessage cJSON surroundings file)
      else setAndSendSuplyStatus cJSON allocates surroundings recvSocketBuffer file
    else pure { file, sent := none, outcome := .waits }

/-- One turn of `run_normal_user_server`. -/
def runNormalUserServer
    (surroundings : Surroundings) (recvSocketBuffer file : Text) : Except Misuse Handled :=
  if recvSocketBuffer = [] then pure { file, sent := none, outcome := .exits }
  else do
    let command ← getCommand cJSON allocates surroundings.flagHandler recvSocketBuffer
    if command = CLOSE_CONNECTION then
      pure (endConn cJSON { surroundings with sends := false } file)
    else if command = OPTION1_ then pure (sendSupplyUdp surroundings file)
    else if command = OPTION2_ then pure (sendDeneidUdpMessage cJSON surroundings file)
    else pure { file, sent := none, outcome := .waits }

/-- A field that is there, has a text, and gets the memory for it. -/
def usable (recvSocketBuffer key : Text) : Bool :=
  allocates key && (memberOf cJSON recvSocketBuffer key).any Json.hasText

/-- No pointer is misused, each function returns one of its results, and a field
that is not usable gives the documented error: 0 for a command, 1 for the
credentials, and 1 for a supply, with the file as it was. -/
structure Handles
    (flagHandler : Bool) (faults : FileFaults) (recvSocketBuffer file : Text) : Prop where
  command : ∃ r, getCommand cJSON allocates flagHandler recvSocketBuffer = .ok r ∧
    (usable cJSON allocates recvSocketBuffer K_COMMAND = false → r = 0)
  credentials : ∃ r, checkCredentials cJSON allocates recvSocketBuffer = .ok r ∧
    (r = 0 ∨ r = 1) ∧
      (∀ key ∈ [K_HOSTNAME, K_PASSWORD],
        usable cJSON allocates recvSocketBuffer key = false → r = 1)
  supply : ∃ result, setSupply cJSON allocates faults recvSocketBuffer file = .ok result ∧
    (result.code = 0 ∨ result.code = 1) ∧
      (∀ key ∈ [K_SUP_COMMAND_EQ, K_KEY, K_VALUE],
        usable cJSON allocates recvSocketBuffer key = false →
          result.code = 1 ∧ result.file = file)

end

section

variable
  {cJSON : CJson} {allocates : Text → Bool} {flagHandler : Bool} {faults : FileFaults}
  {recvSocketBuffer file : Text}

/-- A value of another kind has no text. -/
theorem exists_textOfValue_eq (value : Json) :
    if value.hasText then ∃ text, textOfValue cJSON value = .ok text
    else textOfValue cJSON value = .error 1 := by
  cases value <;> simp [Json.hasText, textOfValue]

/-- A usable field is assigned its text. -/
theorem getValue_of_usable
    {key : Text} (use : usable cJSON allocates recvSocketBuffer key = true)
    (ptrBuffer : CharPtr) :
    ∃ text, Refuge.getValueOfKeyFromJsonString cJSON recvSocketBuffer key = .ok text ∧
      getValueOfKeyFromJsonString cJSON allocates recvSocketBuffer key ptrBuffer =
        (0, .assigned text) := by
  obtain ⟨room, held⟩ := Bool.and_eq_true_iff.mp use
  obtain ⟨item, itemFound, kind⟩ := (Option.any_eq_true _ _).mp held
  obtain ⟨root, parsed, found⟩ := Option.bind_eq_some_iff.mp itemFound
  have texted := @exists_textOfValue_eq cJSON item
  rw [if_pos kind] at texted
  obtain ⟨text, texted⟩ := texted
  refine ⟨text, ?_, ?_⟩
  · simp [Refuge.getValueOfKeyFromJsonString, Refuge.getValueOfKeyFromJsonObject, parsed, found,
      texted]
  · simp [getValueOfKeyFromJsonString, getValueOfKeyFromJsonObject, parsed, found, texted, room]

/-- The pointer to any other is left as it was. -/
theorem getValue_of_not_usable
    {key : Text} (useless : usable cJSON allocates recvSocketBuffer key = false)
    (ptrBuffer : CharPtr) :
    ∃ code, code ≠ 0 ∧
      getValueOfKeyFromJsonString cJSON allocates recvSocketBuffer key ptrBuffer =
        (code, ptrBuffer) := by
  unfold getValueOfKeyFromJsonString getValueOfKeyFromJsonObject
  cases parsed : cJSON.parse recvSocketBuffer with
  | none => exact ⟨-1, by decide, rfl⟩
  | some root =>
      refine ⟨1, by decide, ?_⟩
      cases found : root.getObjectItemCaseSensitive key with
      | none => simp [found]
      | some item =>
          have held : (memberOf cJSON recvSocketBuffer key).any Json.hasText = item.hasText := by
            simp [memberOf, parsed, found]
          rw [usable, held] at useless
          have texted := @exists_textOfValue_eq cJSON item
          cases kind : item.hasText with
          | false =>
              rw [kind, if_neg Bool.false_ne_true] at texted
              simp [found, texted]
          | true =>
              rw [kind, if_pos rfl] at texted
              obtain ⟨text, texted⟩ := texted
              have noRoom : allocates key = false := by simpa [kind] using useless
              simp [found, texted, noRoom]

/-- With a usable command, or an interrupt, `get_command` does what it does on
texts. -/
theorem getCommand_of_usable
    (use : flagHandler = true ∨ usable cJSON allocates recvSocketBuffer K_COMMAND = true) :
    getCommand cJSON allocates flagHandler recvSocketBuffer =
      .ok (Refuge.getCommand cJSON flagHandler recvSocketBuffer) := by
  unfold getCommand Refuge.getCommand
  cases flagHandler with
  | true => rfl
  | false =>
      obtain ⟨text, texted, assigned⟩ :=
        getValue_of_usable (use.resolve_left Bool.false_ne_true) .unassigned
      rw [texted, assigned]
      rfl

/-- Without, it frees an unassigned pointer. -/
theorem getCommand_of_not_usable
    (useless : usable cJSON allocates recvSocketBuffer K_COMMAND = false) :
    getCommand cJSON allocates false recvSocketBuffer = .error .frees := by
  obtain ⟨code, failed, left⟩ := getValue_of_not_usable useless .unassigned
  unfold getCommand
  rw [if_neg Bool.false_ne_true, left]
  dsimp only
  rw [if_pos failed]
  rfl

/-- With both fields usable `check_credentials` does what it does on texts. -/
theorem checkCredentials_of_usable
    (hostname : usable cJSON allocates recvSocketBuffer K_HOSTNAME = true)
    (passwordUsable : usable cJSON allocates recvSocketBuffer K_PASSWORD = true) :
    checkCredentials cJSON allocates recvSocketBuffer =
      .ok (Refuge.checkCredentials cJSON recvSocketBuffer) := by
  obtain ⟨username, usernameText, usernameAssigned⟩ := getValue_of_usable hostname .unassigned
  obtain ⟨password, passwordText, passwordAssigned⟩ :=
    getValue_of_usable passwordUsable .unassigned
  unfold checkCredentials Refuge.checkCredentials
  rw [usernameText, passwordText, usernameAssigned, passwordAssigned]
  by_cases isAdmin : username = ADMIN
  · by_cases same : password = ADMIN <;> simp [CharPtr.read, freePtr, isAdmin, same, bind,
      Except.bind, pure, Except.pure, Functor.map, Except.map]
  · simp [CharPtr.read, freePtr, isAdmin, bind, Except.bind, pure, Except.pure]

/-- Without one of them it frees an unassigned pointer. -/
theorem checkCredentials_of_not_usable
    {key : Text} (listed : key ∈ [K_HOSTNAME, K_PASSWORD])
    (useless : usable cJSON allocates recvSocketBuffer key = false) :
    checkCredentials cJSON allocates recvSocketBuffer = .error .frees := by
  unfold checkCredentials
  cases hostname : usable cJSON allocates recvSocketBuffer K_HOSTNAME with
  | false =>
      obtain ⟨code, failed, left⟩ := getValue_of_not_usable hostname .unassigned
      rw [left]
      dsimp only
      rw [if_pos failed]
      rfl
  | true =>
      obtain ⟨username, _, assigned⟩ := getValue_of_usable hostname .unassigned
      have password : usable cJSON allocates recvSocketBuffer K_PASSWORD = false := by
        rcases List.mem_pair.mp listed with rfl | rfl
        · exact absurd (hostname.symm.trans useless) (by decide)
        · exact useless
      obtain ⟨code, failed, left⟩ := getValue_of_not_usable password .unassigned
      rw [assigned, left]
      dsimp only
      rw [if_neg (by decide), if_pos failed]
      rfl

/-- With all three fields usable `set_supply` does what it does on texts. -/
theorem setSupply_of_usable
    (use : ∀ key ∈ [K_SUP_COMMAND_EQ, K_KEY, K_VALUE],
      usable cJSON allocates recvSocketBuffer key = true) :
    setSupply cJSON allocates faults recvSocketBuffer file =
      .ok (Refuge.setSupply cJSON faults recvSocketBuffer file) := by
  simp only [List.forall_mem_cons, List.not_mem_nil, IsEmpty.forall_iff, implies_true,
    and_true] at use
  obtain ⟨category, categoryText, categoryAssigned⟩ := getValue_of_usable use.1 .null
  obtain ⟨key, keyText, keyAssigned⟩ := getValue_of_usable use.2.1 .null
  obtain ⟨value, valueText, valueAssigned⟩ := getValue_of_usable use.2.2 .null
  have arguments : supplyArguments cJSON recvSocketBuffer = .ok (category, key, value) := by
    rw [supplyArguments, categoryText, keyText, valueText]
    rfl
  unfold setSupply Refuge.setSupply
  rw [categoryAssigned, keyAssigned, valueAssigned, arguments]
  simp only [CharPtr.read, freePtr, bind, Except.bind, pure, Except.pure, ne_eq, not_true,
    ↓reduceIte]
  split_ifs <;> rfl

/-- Without one of them it frees a null pointer, and returns 1. -/
theorem setSupply_of_not_usable
    {key : Text} (listed : key ∈ [K_SUP_COMMAND_EQ, K_KEY, K_VALUE])
    (useless : usable cJSON allocates recvSocketBuffer key = false) :
    setSupply cJSON allocates faults recvSocketBuffer file =
      .ok { code := 1, buffer := [], file } := by
  unfold setSupply
  cases categoryUse : usable cJSON allocates recvSocketBuffer K_SUP_COMMAND_EQ with
  | false =>
      obtain ⟨code, failed, left⟩ := getValue_of_not_usable categoryUse .null
      rw [left]
      dsimp only
      rw [if_pos failed]
      rfl
  | true =>
      obtain ⟨category, _, categoryAssigned⟩ := getValue_of_usable categoryUse .null
      rw [categoryAssigned]
      dsimp only
      rw [if_neg (by decide)]
      cases keyUse : usable cJSON allocates recvSocketBuffer K_KEY with
      | false =>
          obtain ⟨code, failed, left⟩ := getValue_of_not_usable keyUse .null
          rw [left]
          dsimp only
          rw [if_pos failed]
          rfl
      | true =>
          obtain ⟨keyText, _, keyAssigned⟩ := getValue_of_usable keyUse .null
          have valueUse : usable cJSON allocates recvSocketBuffer K_VALUE = false := by
            simp only [List.mem_cons, List.not_mem_nil, or_false] at listed
            rcases listed with rfl | rfl | rfl
            · exact absurd (categoryUse.symm.trans useless) (by decide)
            · exact absurd (keyUse.symm.trans useless) (by decide)
            · exact useless
          obtain ⟨code, failed, left⟩ := getValue_of_not_usable valueUse .null
          rw [keyAssigned, left]
          dsimp only
          rw [if_neg (by decide), if_pos failed]
          rfl

theorem setSupply_code (faults : FileFaults) (recvSocketBuffer file : Text) :
    (Refuge.setSupply cJSON faults recvSocketBuffer file).code = 0 ∨
      (Refuge.setSupply cJSON faults recvSocketBuffer file).code = 1 := by
  unfold Refuge.setSupply
  split
  · exact Or.inr rfl
  · dsimp only
    split_ifs with failed
    · exact Or.inr rfl
    · exact Or.inl (not_not.mp failed)

theorem checkCredentials_result (recvSocketBuffer : Text) :
    Refuge.checkCredentials cJSON recvSocketBuffer = 0 ∨
      Refuge.checkCredentials cJSON recvSocketBuffer = 1 := by
  unfold Refuge.checkCredentials
  split
  · exact Or.inr rfl
  · split
    · exact Or.inr rfl
    · split_ifs
      · exact Or.inl rfl
      · exact Or.inr rfl

/-- A request is handled without misusing a pointer if and only if its command is
usable or an interrupt was there first, and its credentials are usable. -/
theorem handles_iff
    (cJSON : CJson) (allocates : Text → Bool) (flagHandler : Bool) (faults : FileFaults)
    (recvSocketBuffer file : Text) :
    Handles cJSON allocates flagHandler faults recvSocketBuffer file ↔
      (flagHandler = true ∨ usable cJSON allocates recvSocketBuffer K_COMMAND = true) ∧
        usable cJSON allocates recvSocketBuffer K_HOSTNAME = true ∧
          usable cJSON allocates recvSocketBuffer K_PASSWORD = true := by
  constructor
  · rintro ⟨⟨r, command, _⟩, ⟨r', credentials, _⟩, _⟩
    have credentialUse (key : Text) (listed : key ∈ [K_HOSTNAME, K_PASSWORD]) :
        usable cJSON allocates recvSocketBuffer key = true := by
      by_contra useless
      rw [checkCredentials_of_not_usable listed (Bool.eq_false_of_not_eq_true useless)]
        at credentials
      cases credentials
    refine ⟨?_, credentialUse _ (by simp), credentialUse _ (by simp)⟩
    by_contra neither
    obtain ⟨noFlag, useless⟩ := not_or.mp neither
    obtain rfl := Bool.eq_false_of_not_eq_true noFlag
    rw [getCommand_of_not_usable (Bool.eq_false_of_not_eq_true useless)] at command
    cases command
  · rintro ⟨command, hostname, password⟩
    refine ⟨⟨_, getCommand_of_usable command, fun useless => ?_⟩,
      ⟨_, checkCredentials_of_usable hostname password, checkCredentials_result _,
        fun key listed useless => ?_⟩, ?_⟩
    · obtain rfl : flagHandler = true := by simpa [useless] using command
      rfl
    · rcases List.mem_pair.mp listed with rfl | rfl
      · exact absurd (hostname.symm.trans useless) (by decide)
      · exact absurd (password.symm.trans useless) (by decide)
    · by_cases use : ∀ key ∈ [K_SUP_COMMAND_EQ, K_KEY, K_VALUE],
          usable cJSON allocates recvSocketBuffer key = true
      · refine ⟨_, setSupply_of_usable use, setSupply_code _ _ _, fun key listed useless => ?_⟩
        exact absurd ((use key listed).symm.trans useless) (by decide)
      · simp only [not_forall] at use
        obtain ⟨key, listed, useless⟩ := use
        refine ⟨_, setSupply_of_not_usable listed (Bool.eq_false_of_not_eq_true useless),
          Or.inr rfl, fun _ _ _ => ⟨rfl, rfl⟩⟩

end

/-- An object without a command. -/
theorem not_handles_noCommand :
    ¬Handles .reference (fun _ => true) false .none
      (CJson.reference.print (.object [])) [] := by
  have parsed : CJson.reference.parse (CJson.reference.print (.object [])) =
      some (.object []) := CJson.reference_lawful.parse_print_of_finite trivial
  have useless : usable .reference (fun _ => true) (CJson.reference.print (.object []))
      K_COMMAND = false := by
    simp [usable, memberOf, parsed]
  rintro ⟨⟨r, command, _⟩, _, _⟩
  rw [getCommand_of_not_usable useless] at command
  cases command

/-! ## Turns -/

section

variable
  {cJSON : CJson} {allocates : Text → Bool} {surroundings : Surroundings}
  {recvSocketBuffer file : Text}

/-- With a usable command, or an interrupt, a turn for a datagram does what it does on
texts. -/
theorem runNormalUserServer_of_usable
    (use : surroundings.flagHandler = true ∨
      usable cJSON allocates recvSocketBuffer K_COMMAND = true) :
    runNormalUserServer cJSON allocates surroundings recvSocketBuffer file =
      .ok (Refuge.runNormalUserServer cJSON surroundings recvSocketBuffer file) := by
  unfold runNormalUserServer Refuge.runNormalUserServer
  rw [getCommand_of_usable use]
  simp only [bind, Except.bind, pure, Except.pure]
  split_ifs <;> rfl

/-- A process that serves datagrams waits for the next exactly when this one is not
empty, its command is usable and does not ask to close, and what it asks for can be
sent. -/
theorem runNormalUserServer_waits_iff (uninterrupted : surroundings.flagHandler = false) :
    (∃ handled, runNormalUserServer cJSON allocates surroundings recvSocketBuffer file =
        .ok handled ∧ handled.outcome = .waits) ↔
      recvSocketBuffer ≠ [] ∧ usable cJSON allocates recvSocketBuffer K_COMMAND = true ∧
        let command := Refuge.getCommand cJSON false recvSocketBuffer
        command ≠ CLOSE_CONNECTION ∧
          (command = OPTION1_ → surroundings.faults.reading = false ∧ file ≠ []) ∧
            (command = OPTION1_ ∨ command = OPTION2_ → surroundings.sends = true) := by
  by_cases empty : recvSocketBuffer = []
  · simp [runNormalUserServer, empty, pure, Except.pure]
  cases use : usable cJSON allocates recvSocketBuffer K_COMMAND with
  | false =>
      have strays := getCommand_of_not_usable use
      simp [runNormalUserServer, empty, uninterrupted, strays, bind, Except.bind]
  | true =>
      have onTexts := @runNormalUserServer_of_usable cJSON allocates surroundings
        recvSocketBuffer file (Or.inr use)
      have waits := @runNormalUserServer_outcome_eq_waits_iff cJSON surroundings recvSocketBuffer
        file
      rw [uninterrupted] at waits
      simpa [onTexts] using waits

/-- A supply that is set does not end in `end_conn`. -/
theorem setAndSendSuplyStatus_outcome_ne_closes
    {handled : Handled}
    (taken : setAndSendSuplyStatus cJSON allocates surroundings recvSocketBuffer file =
      .ok handled) : handled.outcome ≠ .closes := by
  unfold setAndSendSuplyStatus at taken
  cases set : setSupply cJSON allocates surroundings.faults recvSocketBuffer file with
  | error fault => simp [set, bind, Except.bind] at taken
  | ok result =>
      simp only [set, bind, Except.bind, pure, Except.pure, sendAndWait] at taken
      split_ifs at taken <;> obtain rfl := Except.ok.inj taken <;> simp

/-- The process of a connection gets to the end of `end_conn` exactly when its message
has a usable command that asks to close and the notice is taken. -/
theorem runAdminServer_closes_iff (uninterrupted : surroundings.flagHandler = false) :
    (∃ handled, runAdminServer cJSON allocates surroundings recvSocketBuffer file =
        .ok handled ∧ handled.outcome = .closes) ↔
      recvSocketBuffer ≠ [] ∧ usable cJSON allocates recvSocketBuffer K_COMMAND = true ∧
        Refuge.getCommand cJSON false recvSocketBuffer = CLOSE_CONNECTION ∧
          surroundings.sends = true := by
  by_cases empty : recvSocketBuffer = []
  · simp [runAdminServer, empty, pure, Except.pure]
  cases use : usable cJSON allocates recvSocketBuffer K_COMMAND with
  | false =>
      have strays := getCommand_of_not_usable use
      simp [runAdminServer, empty, uninterrupted, strays, bind, Except.bind]
  | true =>
      have command := @getCommand_of_usable cJSON allocates false recvSocketBuffer (Or.inr use)
      unfold runAdminServer
      rw [if_neg empty, uninterrupted, command]
      simp only [bind, Except.bind, pure, Except.pure]
      split_ifs with close status modify
      · simp [endConn_outcome, empty, close]
      · simp only [Except.ok.injEq, exists_eq_left', sendSupplyMessage, sendSupply_outcome, close]
        split_ifs <;> simp
      · refine iff_of_false ?_ fun closes => close closes.2.2.1
        rintro ⟨handled, taken, closes⟩
        cases credentials : checkCredentials cJSON allocates recvSocketBuffer with
        | error fault => simp [credentials] at taken
        | ok refused =>
            rw [credentials] at taken
            dsimp only at taken
            split_ifs at taken with denied
            · obtain rfl := Except.ok.inj taken
              rw [sendDeneidMessage_outcome] at closes
              split_ifs at closes
            · exact setAndSendSuplyStatus_outcome_ne_closes taken closes
      · simp [close]

end

end Pointers

end Refuge
