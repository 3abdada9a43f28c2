import Refuge.Commands
import Refuge.Memory.Updates

/-!
# Memory of the server's loops

The functions of `server.c` that handle a request, with what they allocate and
free.  The pointers of `get_command` and `check_credentials` are not assigned
when a field is missing, and are freed all the same.  A process that waits for
the next request holds what the requests before have lost; one that exits gives
everything back.
-/

namespace Refuge

open Foundation

namespace Memory

section

variable (cJSON : CJson) (allocates : Nat → Bool)

/-- `get_command`. -/
def getCommand (flagHandler : Bool) (recvSocketBuffer : Text) : Program Int :=
  if flagHandler then pure 0
  else do
    match ← getValueOfKeyFromJsonString cJSON allocates recvSocketBuffer K_COMMAND with
    | .error _ => stray .frees
    | .ok cBuffer => do
        free cBuffer.block
        pure (atoi cBuffer.content)

/-- `check_credentials` of the server. -/
def checkCredentials (recvSocketBuffer : Text) : Program Int := do
  match ← getValueOfKeyFromJsonString cJSON allocates recvSocketBuffer K_HOSTNAME with
  | .error _ => stray .frees
  | .ok username => do
      match ← getValueOfKeyFromJsonString cJSON allocates recvSocketBuffer K_PASSWORD with
      | .error _ => stray .frees
      | .ok password => do
          free password.block
          free username.block
          pure (if username.content = ADMIN ∧ password.content = ADMIN then 0 else 1)

/-- `set_supply`, whose pointers are null at first; what it has when it fails is not
freed. -/
def setSupply (faults : FileFaults) (recvSocketBuffer file : Text) : Program Stored := do
  match ← getValueOfKeyFromJsonString cJSON allocates recvSocketBuffer K_SUP_COMMAND_EQ with
  | .error _ => pure { code := 1, buffer := none, file }
  | .ok category => do
      match ← getValueOfKeyFromJsonString cJSON allocates recvSocketBuffer K_KEY with
      | .error _ => pure { code := 1, buffer := none, file }
      | .ok key => do
          match ← getValueOfKeyFromJsonString cJSON allocates recvSocketBuffer K_VALUE with
          | .error _ => pure { code := 1, buffer := none, file }
          | .ok value => do
              let stored ← apply cJSON allocates
                (.setSupply category.content key.content value.content) faults file
              if stored.code ≠ 0 then pure { stored with code := 1 }
              else do
                free category.block
                free key.block
                free value.block
                pure stored

/-- Put a key into new memory, send the text, and free it whether it is taken or not. -/
def sendNotice (surroundings : Surroundings) (file key value : Text) : Program Handled := do
  let sendSocketBuffer ← new allocates .text surroundings.leftover
  match ← cjsonAddKeyValueToJsonString cJSON allocates (sendSocketBuffer.map Ptr.content) key
      value OVERRIDE with
  | .error _ => do
      freePtr sendSocketBuffer
      pure { file, sent := none, outcome := .exits }
  | .ok message => do
      freePtr sendSocketBuffer
      pure (Refuge.sendAndWait surroundings file message)

/-- `send_deneid_message`. -/
def sendDeneidMessage (surroundings : Surroundings) (file : Text) : Program Handled :=
  sendNotice cJSON allocates surroundings file K_ACC_DENEID TRUE_

/-- `send_deneid_udp_message`. -/
def sendDeneidUdpMessage (surroundings : Surroundings) (file : Text) : Program Handled :=
  sendNotice cJSON allocates surroundings file K_ACC_DENEID M_ACC_DENEID

/-- `send_end_conn_message`. -/
def sendEndConnMessage (surroundings : Surroundings) (file : Text) : Program Handled :=
  sendNotice cJSON allocates surroundings file K_END TRUE_

/-- `end_conn`. -/
def endConn (surroundings : Surroundings) (file : Text) : Program Handled := do
  let handled ← sendEndConnMessage cJSON allocates surroundings file
  pure { handled with outcome := if handled.outcome = .waits then .closes else .exits }

end

/-- Send `send_socket_buffer`, and free it if the socket has taken it. -/
def sendAndWait (surroundings : Surroundings) (file : Text) (sendSocketBuffer : Ptr Text) :
    Program Handled :=
  if surroundings.sends then do
    free sendSocketBuffer.block
    pure { file, sent := some sendSocketBuffer.content, outcome := .waits }
  else pure { file, sent := some sendSocketBuffer.content, outcome := .exits }

section

variable (cJSON : CJson) (allocates : Nat → Bool)

/-- Send the file as it is. -/
def sendSupply (surroundings : Surroundings) (file : Text) : Program Handled := do
  match ← readFile allocates surroundings.faults file with
  | .error _ => pure { file, sent := none, outcome := .exits }
  | .ok sendSocketBuffer => sendAndWait surroundings file sendSocketBuffer

/-- `send_supply_message`. -/
def sendSupplyMessage (surroundings : Surroundings) (file : Text) : Program Handled :=
  sendSupply allocates surroundings file

/-- `send_supply_udp`. -/
def sendSupplyUdp (surroundings : Surroundings) (file : Text) : Program Handled :=
  sendSupply allocates surroundings file

/-- `set_and_send_suply_status`. -/
def setAndSendSuplyStatus
    (surroundings : Surroundings) (recvSocketBuffer file : Text) : Program Handled := do
  let stored ← setSupply cJSON allocates surroundings.faults recvSocketBuffer file
  if stored.code ≠ 0 then pure { file := stored.file, sent := none, outcome := .exits }
  else
    match stored.buffer with
    | none => stray .reads
    | some sendSocketBuffer => sendAndWait surroundings stored.file sendSocketBuffer

/-- One turn of `run_admin_server`. -/
def runAdminServer
    (surroundings : Surroundings) (recvSocketBuffer file : Text) : Program Handled :=
  if recvSocketBuffer = [] then pure { file, sent := none, outcome := .exits }
  else do
    let command ← getCommand cJSON allocates surroundings.flagHandler recvSocketBuffer
    if command = CLOSE_CONNECTION then endConn cJSON allocates surroundings file
    else if command = OPTION1_ then sendSupplyMessage allocates surroundings file
    else if command = OPTION2_ then do
      let refused ← checkCredentials cJSON allocates recvSocketBuffer
      if refused ≠ 0 then sendDeneidMessage cJSON allocates surroundings file
      else setAndSendSuplyStatus cJSON allocates surroundings recvSocketBuffer file
    else pure { file, sent := none, outcome := .waits }

/-- One turn of `run_normal_user_server`. -/
def runNormalUserServer
    (surroundings : Surroundings) (recvSocketBuffer file : Text) : Program Handled :=
  if recvSocketBuffer = [] then pure { file, sent := none, outcome := .exits }
  else do
    let command ← getCommand cJSON allocates surroundings.flagHandler recvSocketBuffer
    if command = CLOSE_CONNECTION then
      endConn cJSON allocates { surroundings with sends := false } file
    else if command = OPTION1_ then sendSupplyUdp allocates surroundings file
    else if command = OPTION2_ then sendDeneidUdpMessage cJSON allocates surroundings file
    else pure { file, sent := none, outcome := .waits }

end

/-- What a turn of a loop meets; others may have written the file since the last. -/
structure Turn where
  surroundings : Surroundings
  recvSocketBuffer : Text
  file : Text

/-- The loop of a process, until it no longer waits. -/
def serve (handle : Turn → Program Handled) : List Turn → Program (List Handled)
  | [] => pure []
  | turn :: turns => do
      let handled ← handle turn
      if handled.outcome = .waits then do
        let others ← serve handle turns
        pure (handled :: others)
      else pure [handled]

/-- The same loop, without its memory. -/
def handleAll (handle : Turn → Handled) : List Turn → List Handled
  | [] => []
  | turn :: turns =>
      if (handle turn).outcome = .waits then handle turn :: handleAll handle turns
      else [handle turn]

/-! ## What a turn loses -/

section

variable (cJSON : CJson)

/-- The texts that stay of a command. -/
def commandTexts (flagHandler : Bool) (recvSocketBuffer : Text) : Nat :=
  if flagHandler then 0 else lookupTexts cJSON recvSocketBuffer K_COMMAND

/-- The texts that stay of the credentials. -/
def credentialTexts (recvSocketBuffer : Text) : Nat :=
  lookupTexts cJSON recvSocketBuffer K_HOSTNAME + lookupTexts cJSON recvSocketBuffer K_PASSWORD

/-- The texts that stay of a supply that is set. -/
def supplyTexts (faults : FileFaults) (recvSocketBuffer file : Text) : Nat :=
  lookupTexts cJSON recvSocketBuffer K_SUP_COMMAND_EQ + lookupTexts cJSON recvSocketBuffer K_KEY +
    lookupTexts cJSON recvSocketBuffer K_VALUE +
      match supplyArguments cJSON recvSocketBuffer with
      | .error _ => 0
      | .ok (category, key, value) =>
          updateTexts cJSON (.setSupply category key value) faults file

/-- The texts that stay of a turn of `run_admin_server`. -/
def adminTexts (turn : Turn) : Nat :=
  commandTexts cJSON turn.surroundings.flagHandler turn.recvSocketBuffer +
    if Refuge.getCommand cJSON turn.surroundings.flagHandler turn.recvSocketBuffer = OPTION2_ then
      credentialTexts cJSON turn.recvSocketBuffer +
        if Refuge.checkCredentials cJSON turn.recvSocketBuffer = 0 then
          supplyTexts cJSON turn.surroundings.faults turn.recvSocketBuffer turn.file
        else 0
    else 0

end

/-! ## What a turn misuses -/

section

variable (cJSON : CJson) (allocates : Nat → Bool)

/-- There is no text of a field, or no memory for it. -/
def Lacks (recvSocketBuffer key : Text) : Prop :=
  Plenty allocates →
    ∀ text, Refuge.getValueOfKeyFromJsonString cJSON recvSocketBuffer key ≠ .ok text

/-- `get_command` frees its pointer without a text of the command. -/
def CommandStrays (turn : Turn) (fault : Misuse) : Prop :=
  fault = .frees ∧ turn.surroundings.flagHandler = false ∧
    Lacks cJSON allocates turn.recvSocketBuffer K_COMMAND

/-- `check_credentials` frees a pointer without a text of the host name or the password,
which a request to modify alone comes to. -/
def CredentialsStray (turn : Turn) (fault : Misuse) : Prop :=
  fault = .frees ∧
    Refuge.getCommand cJSON turn.surroundings.flagHandler turn.recvSocketBuffer = OPTION2_ ∧
      ∃ key ∈ [K_HOSTNAME, K_PASSWORD], Lacks cJSON allocates turn.recvSocketBuffer key

/-- A fault of a turn of `run_normal_user_server`. -/
def UserStrays (turn : Turn) (fault : Misuse) : Prop :=
  Scarce allocates fault ∨ CommandStrays cJSON allocates turn fault

/-- A fault of a turn of `run_admin_server`. -/
def AdminStrays (turn : Turn) (fault : Misuse) : Prop :=
  UserStrays cJSON allocates turn fault ∨ CredentialsStray cJSON allocates turn fault

end

/-- A fault stops the loop in one of its turns, after turns that wait for the next. -/
def StopsIn (allocates : Nat → Bool) (plain : Turn → Handled) (strays : Turn → Misuse → Prop)
    (turns : List Turn) (fault : Misuse) : Prop :=
  ∃ before turn after, turns = before ++ turn :: after ∧ strays turn fault ∧
    (Plenty allocates → ∀ earlier ∈ before, (plain earlier).outcome = .waits)

/-- A turn that ends waiting has lost so many texts, and at most so many trees. -/
def Turned (allocates : Nat → Bool) (plain : Handled) (texts trees : Nat)
    (handled : Handled) (left : Multiset (Block Kind)) : Prop :=
  (handled.outcome = .waits → ∃ few ≤ trees, Lost texts few left ∧ (Plenty allocates → few = 0)) ∧
    (Plenty allocates → handled = plain)

section

variable {cJSON : CJson} {allocates : Nat → Bool} {recvSocketBuffer : Text}

theorem lacks_of_error
    {key : Text} {code : Int}
    (missing : Plenty allocates →
      Refuge.getValueOfKeyFromJsonString cJSON recvSocketBuffer key = .error code) :
    Lacks cJSON allocates recvSocketBuffer key :=
  fun plenty _ got => by rw [missing plenty] at got; cases got

theorem owns_getCommand (turn : Turn) :
    Owns (UserStrays cJSON allocates turn) 0
      (getCommand cJSON allocates turn.surroundings.flagHandler turn.recvSocketBuffer)
      fun command left =>
        command = Refuge.getCommand cJSON turn.surroundings.flagHandler turn.recvSocketBuffer ∧
          Lost (commandTexts cJSON turn.surroundings.flagHandler turn.recvSocketBuffer) 0 left := by
  unfold getCommand commandTexts Refuge.getCommand
  split_ifs with flag
  · exact .pure ⟨rfl, lost_zero⟩
  · refine .call ((owns_getValueOfKeyFromJsonString _ _).allow fun _ => .inl) ?_
    rintro (code | cBuffer) left found
    · obtain ⟨_, _, _, plain⟩ := found
      refine .stray (.inr ⟨rfl, Bool.eq_false_of_not_eq_true flag, ?_⟩)
      exact lacks_of_error fun plenty => (plain plenty).2
    · obtain ⟨_, is, lost, rfl, printed⟩ := found
      refine .free lost (by simp) (.pure ⟨?_, printed⟩)
      rw [is]

theorem owns_checkCredentials
    {turn : Turn}
    (modify : Refuge.getCommand cJSON turn.surroundings.flagHandler turn.recvSocketBuffer =
      OPTION2_) :
    Owns (AdminStrays cJSON allocates turn) 0
      (checkCredentials cJSON allocates turn.recvSocketBuffer) fun refused left =>
        refused = Refuge.checkCredentials cJSON turn.recvSocketBuffer ∧
          Lost (credentialTexts cJSON turn.recvSocketBuffer) 0 left := by
  have strays {key : Text} (listed : key ∈ [K_HOSTNAME, K_PASSWORD])
      (lacks : Lacks cJSON allocates turn.recvSocketBuffer key) :
      AdminStrays cJSON allocates turn .frees := .inr ⟨rfl, modify, key, listed, lacks⟩
  refine .call ((owns_getValueOfKeyFromJsonString _ _).allow fun _ => .inl ∘ .inl) ?_
  rintro (code | username) left found
  · obtain ⟨_, _, _, plain⟩ := found
    exact .stray (strays (by simp) (lacks_of_error fun plenty => (plain plenty).2))
  obtain ⟨_, isName, lost, rfl, printed⟩ := found
  refine .call ((owns_getValueOfKeyFromJsonString _ _).allow fun _ => .inl ∘ .inl) ?_
  rintro (code | password) left found
  · obtain ⟨_, _, _, plain⟩ := found
    exact .stray (strays (by simp) (lacks_of_error fun plenty => (plain plenty).2))
  obtain ⟨_, isWord, more, rfl, also⟩ := found
  refine .free ({username.block} + lost + more) (by abel)
    (.free (lost + more) (by abel) (.pure ⟨?_, printed.add also⟩))
  simp [Refuge.checkCredentials, isName, isWord]

/-- What `set_supply` leaves when it succeeds. -/
theorem owns_setSupply (faults : FileFaults) (file : Text) :
    Owns (Scarce allocates) 0 (setSupply cJSON allocates faults recvSocketBuffer file)
      fun stored left =>
        (stored.code = 0 → ∃ buffer lost, stored.buffer = some buffer ∧
          left = {buffer.block} + lost ∧ ∃ few ≤ 3,
            Lost (supplyTexts cJSON faults recvSocketBuffer file) few lost ∧
              (Plenty allocates → few = 0)) ∧
          (Plenty allocates → Refuge.setSupply cJSON faults recvSocketBuffer file =
            ⟨stored.code, stored.buffer.elim [] Ptr.content, stored.file⟩) := by
  refine .call (owns_getValueOfKeyFromJsonString _ _) ?_
  rintro (code | category) left found
  · obtain ⟨_, _, _, plain⟩ := found
    refine .pure ⟨by simp, fun plenty => ?_⟩
    simp [Refuge.setSupply, supplyArguments, (plain plenty).2, bind, Except.bind]
  obtain ⟨_, categoryIs, lost, rfl, printed⟩ := found
  refine .call (owns_getValueOfKeyFromJsonString _ _) ?_
  rintro (code | key) left found
  · obtain ⟨_, _, _, plain⟩ := found
    refine .pure ⟨by simp, fun plenty => ?_⟩
    simp [Refuge.setSupply, supplyArguments, categoryIs, (plain plenty).2, bind, Except.bind]
  obtain ⟨_, keyIs, more, rfl, also⟩ := found
  refine .call (owns_getValueOfKeyFromJsonString _ _) ?_
  rintro (code | value) left found
  · obtain ⟨_, _, _, plain⟩ := found
    refine .pure ⟨by simp, fun plenty => ?_⟩
    simp [Refuge.setSupply, supplyArguments, categoryIs, keyIs, (plain plenty).2, bind,
      Except.bind]
  obtain ⟨_, valueIs, most, rfl, last⟩ := found
  have arguments : supplyArguments cJSON recvSocketBuffer =
      .ok (category.content, key.content, value.content) := by
    simp [supplyArguments, categoryIs, keyIs, valueIs, bind, Except.bind, pure, Except.pure]
  refine .call (owns_apply _ faults file) ?_
  rintro stored _ ⟨kept, rfl, _, texts, _, trees, few, left, succeeded, plainly⟩
  have plain (plenty : Plenty allocates) := (plainly plenty).1
  split_ifs with failed
  · refine .pure ⟨by simp, fun plenty => ?_⟩
    have same := plain plenty
    simp only [Update.apply] at same
    simp [Refuge.setSupply, arguments, same, failed]
  · rw [not_not] at failed
    obtain ⟨isSome, rfl⟩ := succeeded failed
    obtain ⟨buffer, isBuffer⟩ := Option.isSome_iff_exists.mp isSome
    refine .free ({buffer.block} + kept + {value.block} + most + {key.block} + more +
      lost) (by rw [isBuffer]; simp only [Option.elim_some]; abel) ?_
    refine .free ({buffer.block} + kept + {value.block} + most + more + lost) (by abel) ?_
    refine .free ({buffer.block} + kept + most + more + lost) (by abel) (.pure ?_)
    refine ⟨fun _ => ⟨buffer, kept + most + more + lost, isBuffer, by abel, trees, few, ?_, ?_⟩, ?_⟩
    · have all := ((left.add last).add also).add printed
      simp only [Nat.add_zero] at all
      simp only [supplyTexts, arguments]
      convert all using 1
      omega
    · exact fun plenty => (plainly plenty).2.2
    · intro plenty
      have same := plain plenty
      simp only [Update.apply] at same
      simp [Refuge.setSupply, arguments, same, failed]

section

variable {surroundings : Surroundings} {file : Text}

/-- A notice is freed whether it is taken or not. -/
theorem owns_sendNotice (key value : Text) :
    Owns (Scarce allocates) 0 (sendNotice cJSON allocates surroundings file key value)
      fun handled left => (∃ few ≤ 1, Lost 0 few left ∧ (Plenty allocates → few = 0)) ∧
        (Plenty allocates →
          handled = Refuge.sendNotice cJSON surroundings file key value) := by
  have freed (buffer : Option (Ptr Text)) {left : Multiset (Block Kind)}
      {later : Unit → Program Handled}
      {post : Handled → Multiset (Block Kind) → Prop}
      (second : Owns (Scarce allocates) left (later ()) post) :
      Owns (Scarce allocates) (left + buffer.elim 0 fun pointer => {pointer.block})
        (freePtr buffer >>= later) post := by
    cases buffer with
    | none => simpa [freePtr] using second
    | some pointer => exact .free _ (add_comm _ _) second
  have added (buffer : Option (Ptr Text))
      (same : Plenty allocates → buffer.map Ptr.content = some surroundings.leftover) :
      Owns (Scarce allocates) (buffer.elim 0 fun pointer => {pointer.block})
        (cjsonAddKeyValueToJsonString cJSON allocates (buffer.map Ptr.content) key value
          OVERRIDE >>= fun result =>
            match result with
            | .error _ => do
                freePtr buffer
                pure { file, sent := none, outcome := .exits }
            | .ok message => do
                freePtr buffer
                pure (Refuge.sendAndWait surroundings file message))
        fun handled left => (∃ few ≤ 1, Lost 0 few left ∧ (Plenty allocates → few = 0)) ∧
          (Plenty allocates →
            handled = Refuge.sendNotice cJSON surroundings file key value) := by
    refine .call (owns_cjsonAddKeyValueToJsonString _ key value OVERRIDE) ?_
    rintro (code | message) left ⟨few, atMost, lost, plainly⟩
    · refine freed buffer (.pure ⟨⟨few, atMost, lost, fun plenty => (plainly plenty).1⟩, ?_⟩)
      intro plenty
      have plain := (plainly plenty).2
      rw [same plenty, Option.elim_some] at plain
      simp [Refuge.sendNotice, noticeMessage, ← plain]
    · refine freed buffer (.pure ⟨⟨few, atMost, lost, fun plenty => (plainly plenty).1⟩, ?_⟩)
      intro plenty
      have plain := (plainly plenty).2
      rw [same plenty, Option.elim_some] at plain
      simp [Refuge.sendNotice, noticeMessage, ← plain]
  refine owns_new (fun scarce => added none fun plenty => absurd plenty scarce) ?_
  intro pointer _ content
  rw [add_zero]
  exact added (some pointer) fun _ => by simp [content]

/-- A notice that is not the last costs a tree at most. -/
theorem owns_sendNotice_turned (key value : Text) :
    Owns (Scarce allocates) 0 (sendNotice cJSON allocates surroundings file key value)
      (Turned allocates (Refuge.sendNotice cJSON surroundings file key value) 0 1) :=
  (owns_sendNotice key value).mono fun _ _ ⟨lost, plain⟩ => ⟨fun _ => lost, plain⟩

/-- A turn that closes does not wait, and what it holds does not matter. -/
theorem owns_endConn {texts trees : Nat} {left : Multiset (Block Kind)} :
    Owns (Scarce allocates) left (endConn cJSON allocates surroundings file)
      (Turned allocates (Refuge.endConn cJSON surroundings file) texts trees) := by
  refine .call (owns_sendNotice _ _) ?_
  rintro handled left ⟨_, plain⟩
  refine .pure ⟨fun waits => ?_, fun plenty => ?_⟩
  · dsimp only at waits
    split_ifs at waits
  · rw [plain plenty]
    rfl

/-- A message that is taken is freed. -/
theorem owns_sendAndWait
    {plain : Handled} {texts trees : Nat} {lost : Multiset (Block Kind)} (buffer : Ptr Text)
    (holds : ∃ few ≤ trees, Lost texts few lost ∧ (Plenty allocates → few = 0))
    (same : Plenty allocates → plain = Refuge.sendAndWait surroundings file buffer.content) :
    Owns (Scarce allocates) ({buffer.block} + lost) (sendAndWait surroundings file buffer)
      (Turned allocates plain texts trees) := by
  unfold sendAndWait
  split_ifs with sends
  · refine .free _ rfl (.pure ⟨fun _ => holds, fun plenty => ?_⟩)
    simp [same plenty, Refuge.sendAndWait, sends]
  · refine .pure ⟨by simp, fun plenty => ?_⟩
    simp [same plenty, Refuge.sendAndWait, sends]

theorem owns_sendSupply :
    Owns (Scarce allocates) 0 (sendSupply allocates surroundings file)
      (Turned allocates (Refuge.sendSupply surroundings file) 0 0) := by
  refine .call (owns_readFile _ _) ?_
  rintro (code | buffer) left read
  · obtain ⟨_, _, _, plain⟩ := read
    refine .pure ⟨by simp, fun plenty => ?_⟩
    simp [Refuge.sendSupply, (plain plenty).2]
  · obtain ⟨_, is, lost, rfl, nothing⟩ := read
    rw [add_zero]
    exact owns_sendAndWait buffer ⟨0, le_rfl, nothing, fun _ => rfl⟩ fun _ => by
      simp [Refuge.sendSupply, is]

theorem owns_setAndSendSuplyStatus :
    Owns (Scarce allocates) 0
      (setAndSendSuplyStatus cJSON allocates surroundings recvSocketBuffer file)
      (Turned allocates (Refuge.setAndSendSuplyStatus cJSON surroundings recvSocketBuffer file)
        (supplyTexts cJSON surroundings.faults recvSocketBuffer file) 3) := by
  refine .call (owns_setSupply _ _) ?_
  rintro stored left ⟨succeeded, plain⟩
  split_ifs with failed
  · refine .pure ⟨by simp, fun plenty => ?_⟩
    simp [Refuge.setAndSendSuplyStatus, plain plenty, failed]
  · rw [not_not] at failed
    obtain ⟨buffer, lost, isBuffer, rfl, holds⟩ := succeeded failed
    rw [isBuffer, add_zero]
    refine owns_sendAndWait buffer holds fun plenty => ?_
    simp [Refuge.setAndSendSuplyStatus, plain plenty, failed, isBuffer]

/-- What was lost before a turn stays lost. -/
theorem owns_turn_after
    {allowed : Misuse → Prop} {program : Program Handled} {plain : Handled}
    {texts more trees most : Nat} {left : Multiset (Block Kind)} (lost : Lost more 0 left)
    (owns : Owns allowed 0 program (Turned allocates plain texts trees)) (atMost : trees ≤ most) :
    Owns allowed left program (Turned allocates plain (more + texts) most) := by
  have framed := owns.frame left
  rw [zero_add] at framed
  refine framed.mono ?_
  rintro handled _ ⟨own, ⟨waiting, same⟩, rfl⟩
  refine ⟨fun waits => ?_, same⟩
  obtain ⟨few, atMostFew, own, none⟩ := waiting waits
  refine ⟨few, atMostFew.trans atMost, ?_, none⟩
  rw [Nat.add_comm more]
  exact own.add lost

theorem owns_idle {allowed : Misuse → Prop} (file : Text) :
    Owns allowed 0 (pure { file, sent := none, outcome := .waits })
      (Turned allocates { file, sent := none, outcome := .waits } 0 0) :=
  .pure ⟨fun _ => ⟨0, le_rfl, lost_zero, fun _ => rfl⟩, fun _ => rfl⟩

end

/-- One turn of `run_admin_server`. -/
theorem owns_runAdminServer (turn : Turn) :
    Owns (AdminStrays cJSON allocates turn) 0
      (runAdminServer cJSON allocates turn.surroundings turn.recvSocketBuffer turn.file)
      (Turned allocates
        (Refuge.runAdminServer cJSON turn.surroundings turn.recvSocketBuffer turn.file)
        (adminTexts cJSON turn) 3) := by
  unfold runAdminServer Refuge.runAdminServer
  by_cases empty : turn.recvSocketBuffer = []
  · rw [if_pos empty, if_pos empty]
    exact .pure ⟨by simp, fun _ => rfl⟩
  rw [if_neg empty, if_neg empty]
  refine .call ((owns_getCommand turn).allow fun _ => .inl) ?_
  rintro command left ⟨rfl, lost⟩
  rw [add_zero]
  dsimp only
  have scarce {fault : Misuse} (is : Scarce allocates fault) :
      AdminStrays cJSON allocates turn fault := .inl (.inl is)
  have nothing (other : Refuge.getCommand cJSON turn.surroundings.flagHandler
      turn.recvSocketBuffer ≠ OPTION2_) : adminTexts cJSON turn =
        commandTexts cJSON turn.surroundings.flagHandler turn.recvSocketBuffer + 0 := by
    rw [adminTexts, if_neg other]
  split_ifs with close status modify denied
  · exact owns_endConn.allow fun _ => scarce
  · rw [nothing (by rw [status]; decide)]
    exact owns_turn_after lost (owns_sendSupply.allow fun _ => scarce) (by decide)
  · rw [adminTexts, if_pos modify, if_neg denied, ← Nat.add_assoc,
      Nat.add_comm (commandTexts _ _ _)]
    refine .call (owns_checkCredentials modify) ?_
    rintro refused more ⟨rfl, also⟩
    rw [if_pos denied]
    exact owns_turn_after (also.add lost) ((owns_sendNotice_turned _ _).allow fun _ => scarce)
      (by decide)
  · rw [adminTexts, if_pos modify, if_pos (not_not.mp denied), ← Nat.add_assoc,
      Nat.add_comm (commandTexts _ _ _)]
    refine .call (owns_checkCredentials modify) ?_
    rintro refused more ⟨rfl, also⟩
    rw [if_neg denied]
    exact owns_turn_after (also.add lost) (owns_setAndSendSuplyStatus.allow fun _ => scarce)
      le_rfl
  · rw [nothing modify]
    exact owns_turn_after lost (owns_idle turn.file) (by decide)

/-- The text of a command that is an object asks to close. -/
theorem commandTexts_eq_zero
    (braced : ∀ members, (cJSON.print (.object members)).head? = some '\x7b') {flagHandler : Bool}
    (opens : Refuge.getCommand cJSON flagHandler recvSocketBuffer ≠ CLOSE_CONNECTION) :
    commandTexts cJSON flagHandler recvSocketBuffer = 0 := by
  unfold commandTexts lookupTexts memberOf
  unfold Refuge.getCommand Refuge.getValueOfKeyFromJsonString
    Refuge.getValueOfKeyFromJsonObject at opens
  cases flagHandler with
  | true => rfl
  | false =>
      cases tree : cJSON.parse recvSocketBuffer with
      | none => rfl
      | some root =>
          rw [Option.bind_some, if_neg (by decide)]
          cases item : root.getObjectItemCaseSensitive K_COMMAND with
          | none => rfl
          | some value =>
              cases value with
              | object members =>
                  simp [tree, item, textOfValue, atoi_of_brace (braced members),
                    CLOSE_CONNECTION] at opens
              | _ => rfl

/-- One turn of `run_normal_user_server`. -/
theorem owns_runNormalUserServer
    (braced : ∀ members, (cJSON.print (.object members)).head? = some '\x7b') (turn : Turn) :
    Owns (UserStrays cJSON allocates turn) 0
      (runNormalUserServer cJSON allocates turn.surroundings turn.recvSocketBuffer turn.file)
      (Turned allocates
        (Refuge.runNormalUserServer cJSON turn.surroundings turn.recvSocketBuffer turn.file)
        0 1) := by
  unfold runNormalUserServer Refuge.runNormalUserServer
  split_ifs with empty
  · exact .pure ⟨by simp, fun _ => rfl⟩
  refine .call (owns_getCommand turn) ?_
  rintro command left ⟨rfl, lost⟩
  rw [add_zero]
  dsimp only
  split_ifs with close status modify
  · exact owns_endConn.allow fun _ => .inl
  all_goals rw [commandTexts_eq_zero braced close] at lost
  · exact owns_turn_after lost (owns_sendSupply.allow fun _ => .inl) (by decide)
  · exact owns_turn_after lost ((owns_sendNotice_turned _ _).allow fun _ => .inl) le_rfl
  · exact owns_turn_after lost (owns_idle turn.file) (by decide)

/-! ## Whole runs -/

/-- The loop of a process, for any way to handle a turn. -/
theorem owns_serve
    {handle : Turn → Program Handled} {strays : Turn → Misuse → Prop} {plain : Turn → Handled}
    {texts : Turn → Nat} {trees : Nat}
    (each : ∀ turn, Owns (strays turn) 0 (handle turn)
      (Turned allocates (plain turn) (texts turn) trees))
    (turns : List Turn) :
    Owns (StopsIn allocates plain strays turns) 0 (serve handle turns)
      fun handled left =>
        ((∀ one ∈ handled, one.outcome = .waits) →
          ∃ few ≤ trees * turns.length, Lost (turns.map texts).sum few left ∧
            (Plenty allocates → few = 0)) ∧
          (Plenty allocates → handled = handleAll plain turns) := by
  induction turns with
  | nil => exact .pure ⟨fun _ => ⟨0, le_rfl, lost_zero, fun _ => rfl⟩, fun _ => rfl⟩
  | cons turn turns inductionHypothesis =>
      refine .call ((each turn).allow fun fault is =>
        ⟨[], turn, turns, rfl, is, fun _ _ among => absurd among List.not_mem_nil⟩) ?_
      rintro handled left ⟨waiting, same⟩
      rw [add_zero]
      split_ifs with waits
      · obtain ⟨few, atMost, lost, none⟩ := waiting waits
        have later : Owns (StopsIn allocates plain strays (turn :: turns)) 0
            (serve handle turns) _ :=
          inductionHypothesis.allow fun fault ⟨before, other, after, split, is, earlierWait⟩ =>
            ⟨turn :: before, other, after, by rw [split]; rfl, is, fun plenty =>
              List.forall_mem_cons.mpr ⟨same plenty ▸ waits, earlierWait plenty⟩⟩
        refine .call later ?_
        rintro others more ⟨othersWait, othersSame⟩
        refine .pure ⟨fun all => ?_, fun plenty => ?_⟩
        · obtain ⟨also, atMostAlso, lostAlso, noneAlso⟩ :=
            othersWait fun one among => all one (List.mem_cons_of_mem _ among)
          refine ⟨also + few, ?_, ?_, fun plenty => by rw [none plenty, noneAlso plenty]⟩
          · rw [List.length_cons, Nat.mul_succ]
            omega
          · rw [List.map_cons, List.sum_cons, Nat.add_comm]
            exact lostAlso.add lost
        · rw [handleAll, ← same plenty, if_pos waits, othersSame plenty]
      · refine .pure ⟨fun all => absurd (all handled List.mem_cons_self) waits, fun plenty => ?_⟩
        rw [handleAll, ← same plenty, if_neg waits]

/-- Whatever allocations fail and whatever is requested, a connection's process frees no
block that it does not hold, and stops at a misused pointer only in a turn that finds no
memory or no text of its command, or is to modify and finds none of its host name or its
password.  As long as it waits it holds no file, the texts that its turns have lost and no
others, and at most three trees a turn.  If there is memory it holds no tree and does what it
does without regard to memory. -/
theorem admin_server_memory (cJSON : CJson) (allocates : Nat → Bool) (turns : List Turn) :
    ComesTo
      (StopsIn allocates (fun turn => Refuge.runAdminServer cJSON turn.surroundings
        turn.recvSocketBuffer turn.file) (AdminStrays cJSON allocates) turns)
      (fun handled live =>
        ((∀ one ∈ handled, one.outcome = .waits) →
          ∃ trees ≤ 3 * turns.length,
            live.map Block.kind =
              Multiset.replicate (turns.map (adminTexts cJSON)).sum .text +
                Multiset.replicate trees .tree ∧
              (Plenty allocates → trees = 0)) ∧
          (Plenty allocates → handled = handleAll (fun turn => Refuge.runAdminServer cJSON
            turn.surroundings turn.recvSocketBuffer turn.file) turns))
      (serve (fun turn => runAdminServer cJSON allocates turn.surroundings
        turn.recvSocketBuffer turn.file) turns Store.empty) :=
  (owns_serve (@owns_runAdminServer cJSON allocates) turns).comesTo

/-- A process that serves datagrams holds no text and no file as long as it waits. -/
theorem normal_user_server_memory (cJSON : CJson) (allocates : Nat → Bool) (turns : List Turn)
    (braced : ∀ members, (cJSON.print (.object members)).head? = some '\x7b') :
    ComesTo
      (fun _ => Plenty allocates → ∃ turn ∈ turns, ∀ text,
        Refuge.getValueOfKeyFromJsonString cJSON turn.recvSocketBuffer K_COMMAND ≠ .ok text)
      (fun handled live =>
        ((∀ one ∈ handled, one.outcome = .waits) →
          ∃ trees ≤ turns.length, live.map Block.kind = Multiset.replicate trees .tree ∧
            (Plenty allocates → trees = 0)) ∧
          (Plenty allocates → handled = handleAll (fun turn => Refuge.runNormalUserServer cJSON
            turn.surroundings turn.recvSocketBuffer turn.file) turns))
      (serve (fun turn => runNormalUserServer cJSON allocates turn.surroundings
        turn.recvSocketBuffer turn.file) turns Store.empty) := by
  refine (owns_serve (@owns_runNormalUserServer cJSON allocates braced) turns).comesTo.imp ?_ ?_
  · rintro fault ⟨before, turn, after, rfl, strays, _⟩ plenty
    have lacks := (strays.resolve_left fun scarce => scarce.2 plenty).2.2
    exact ⟨turn, by simp, lacks plenty⟩
  · rintro handled live ⟨waiting, same⟩
    refine ⟨fun waits => ?_, same⟩
    obtain ⟨trees, few, lost, none⟩ := waiting waits
    exact ⟨trees, by omega, by simpa [Lost] using lost, none⟩

end

theorem exists_served
    {handle : Turn → Program Handled} {turns : List Turn} {outcomes : List Outcome}
    (evaluated : (serve handle turns Store.empty).toOption.map (fun reached =>
      reached.1.map Handled.outcome) = some outcomes) :
    ∃ handled store, serve handle turns Store.empty = .ok (handled, store) ∧
      handled.map Handled.outcome = outcomes := by
  cases served : serve handle turns Store.empty with
  | error stop => simp [served, Except.toOption] at evaluated
  | ok reached =>
      exact ⟨reached.1, reached.2, rfl, by simpa [served, Except.toOption] using evaluated⟩

/-- A request for the state, with memory for its reply. -/
def statusTurn : Turn where
  surroundings := calm
  recvSocketBuffer := statusNumeral
  file := "\x7b\x7d".toList

/-- A user's process, with memory. -/
def serveUser (turns : List Turn) : Except (Stray Misuse) (List Handled × Store Kind) :=
  serve (fun turn => runNormalUserServer .reference (fun _ => true) turn.surroundings
    turn.recvSocketBuffer turn.file) turns Store.empty

theorem normal_user_server_memory_status :
    ∃ handled store, serveUser [statusTurn, statusTurn] = .ok (handled, store) ∧
      handled.length = 2 ∧ store.live = 0 := by
  have evaluated : (serveUser [statusTurn, statusTurn]).toOption.map (fun reached =>
      reached.1.map Handled.outcome) = some [.waits, .waits] := by
    decide +kernel
  obtain ⟨handled, store, served, outcomes⟩ := exists_served evaluated
  have waits (one : Handled) (among : one ∈ handled) : one.outcome = .waits := by
    have present : one.outcome ∈ handled.map Handled.outcome := List.mem_map_of_mem among
    rw [outcomes] at present
    simpa using present
  have length := congrArg List.length outcomes
  rw [List.length_map] at length
  refine ⟨handled, store, served, length, ?_⟩
  -- The turns are forgotten so that nothing serves them again.
  generalize [statusTurn, statusTurn] = turns at served
  have memory := normal_user_server_memory .reference (fun _ => true) turns CJson.reference_braced
  change serve _ turns Store.empty = _ at served
  rw [served] at memory
  obtain ⟨trees, _, lost, none⟩ := memory.1 waits
  rw [none fun _ => rfl] at lost
  exact Multiset.map_eq_zero.mp lost

end Memory

end Refuge
