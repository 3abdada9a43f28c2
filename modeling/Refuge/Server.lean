import Refuge.Updates

/-!
# Handling a request

What the server does with one received buffer: `run_admin_server` on a TCP
connection and `run_normal_user_server` on a datagram, each one turn of its
loop.  A turn may change the state file, sends at most one message, and then
waits for the next buffer, exits, or closes the connection with `end_conn`.
-/

namespace Refuge

def ADMIN : Text := "ubuntu".toList
def K_COMMAND : Text := "command".toList
def K_SUP_COMMAND_EQ : Text := "suply_type_equivalent".toList
def K_ACC_DENEID : Text := "deneid_command".toList
def K_HOSTNAME : Text := "hostname".toList
def K_PASSWORD : Text := "password".toList
def K_END : Text := "end_connection".toList
def K_VALUE : Text := "value".toList
def K_KEY : Text := "key".toList
def TRUE_ : Text := "1".toList
def CLOSE_CONNECTION : Int := 0
def OPTION1_ : Int := 1
def OPTION2_ : Int := 2

def M_ACC_DENEID : Text :=
  ("You should be connected to the server using TCP and be an admin to modify " ++
    "the supplies.").toList

/-- What a turn meets besides the buffer and the file. -/
structure Surroundings where
  /-- The file operations that fail. -/
  faults : FileFaults
  /-- What the memory allocated for a message holds, up to its first NUL. -/
  leftover : Text
  /-- Whether a message that is sent is taken by the socket. -/
  sends : Bool
  /-- Whether an interrupt has set `flag_handler`. -/
  flagHandler : Bool
  deriving DecidableEq

/-- Nothing fails, and allocated memory is empty. -/
def calm : Surroundings where
  faults := .none
  leftover := []
  sends := true
  flagHandler := false

/-- How a turn of the loop ends. -/
inductive Outcome
  /-- The loop goes on. -/
  | waits
  /-- The process exits with a failure. -/
  | exits
  /-- The process runs `end_conn`. -/
  | closes
  deriving DecidableEq

/-- The result of a turn: the file, the message handed to the socket, and the
outcome. -/
structure Handled where
  file : Text
  sent : Option Text
  outcome : Outcome
  deriving DecidableEq

section

variable (cJSON : CJson)

/-- `get_command`. -/
def getCommand (flagHandler : Bool) (recvSocketBuffer : Text) : Int :=
  if flagHandler then 0
  else
    match getValueOfKeyFromJsonString cJSON recvSocketBuffer K_COMMAND with
    | .error _ => -1
    | .ok buffer => atoi buffer

/-- `check_credentials` of the server: 0 if both are `ubuntu`. -/
def checkCredentials (recvSocketBuffer : Text) : Int :=
  match getValueOfKeyFromJsonString cJSON recvSocketBuffer K_HOSTNAME with
  | .error _ => 1
  | .ok username =>
      match getValueOfKeyFromJsonString cJSON recvSocketBuffer K_PASSWORD with
      | .error _ => 1
      | .ok password => if username = ADMIN ∧ password = ADMIN then 0 else 1

/-- The arguments `set_supply` takes from the buffer. -/
def supplyArguments (recvSocketBuffer : Text) : Except Int (Text × Text × Text) := do
  let category ← getValueOfKeyFromJsonString cJSON recvSocketBuffer K_SUP_COMMAND_EQ
  let key ← getValueOfKeyFromJsonString cJSON recvSocketBuffer K_KEY
  let value ← getValueOfKeyFromJsonString cJSON recvSocketBuffer K_VALUE
  pure (category, key, value)

/-- `set_supply`; the buffer of the result is `send_socket_buffer`. -/
def setSupply (faults : FileFaults) (recvSocketBuffer file : Text) : Updated :=
  match supplyArguments cJSON recvSocketBuffer with
  | .error _ => { code := 1, buffer := [], file }
  | .ok (category, key, value) =>
      let result := setSupplyStatus cJSON faults category key value file
      if result.code ≠ 0 then { result with code := 1 } else result

/-- The text of a notice: a key put into memory that was just allocated. -/
def noticeMessage (leftover key value : Text) : Except Int Text :=
  cjsonAddKeyValueToJsonString cJSON leftover key value OVERRIDE

/-- Send a message and go on, or exit if it is not taken. -/
def sendAndWait (surroundings : Surroundings) (file message : Text) : Handled :=
  { file, sent := some message, outcome := if surroundings.sends then .waits else .exits }

/-- Send a notice. -/
def sendNotice (surroundings : Surroundings) (file key value : Text) : Handled :=
  match noticeMessage cJSON surroundings.leftover key value with
  | .error _ => { file, sent := none, outcome := .exits }
  | .ok message => sendAndWait surroundings file message

/-- `send_deneid_message`. -/
def sendDeneidMessage (surroundings : Surroundings) (file : Text) : Handled :=
  sendNotice cJSON surroundings file K_ACC_DENEID TRUE_

/-- `send_deneid_udp_message`. -/
def sendDeneidUdpMessage (surroundings : Surroundings) (file : Text) : Handled :=
  sendNotice cJSON surroundings file K_ACC_DENEID M_ACC_DENEID

/-- `send_end_conn_message`. -/
def sendEndConnMessage (surroundings : Surroundings) (file : Text) : Handled :=
  sendNotice cJSON surroundings file K_END TRUE_

/-- `end_conn`, to the end of `send_end_conn_message`. -/
def endConn (surroundings : Surroundings) (file : Text) : Handled :=
  let handled := sendEndConnMessage cJSON surroundings file
  { handled with outcome := if handled.outcome = .waits then .closes else .exits }

/-- Send the file as it is. -/
def sendSupply (surroundings : Surroundings) (file : Text) : Handled :=
  match readFile surroundings.faults file with
  | .error _ => { file, sent := none, outcome := .exits }
  | .ok message => sendAndWait surroundings file message

/-- `send_supply_message`. -/
def sendSupplyMessage (surroundings : Surroundings) (file : Text) : Handled :=
  sendSupply surroundings file

/-- `send_supply_udp`. -/
def sendSupplyUdp (surroundings : Surroundings) (file : Text) : Handled :=
  sendSupply surroundings file

/-- `set_and_send_suply_status`. -/
def setAndSendSuplyStatus
    (surroundings : Surroundings) (recvSocketBuffer file : Text) : Handled :=
  let result := setSupply cJSON surroundings.faults recvSocketBuffer file
  if result.code ≠ 0 then { file := result.file, sent := none, outcome := .exits }
  else sendAndWait surroundings result.file result.buffer

/-- One turn of `run_admin_server`; an empty buffer is a receive error. -/
def runAdminServer
    (surroundings : Surroundings) (recvSocketBuffer file : Text) : Handled :=
  if recvSocketBuffer = [] then { file, sent := none, outcome := .exits }
  else
    let command := getCommand cJSON surroundings.flagHandler recvSocketBuffer
    if command = CLOSE_CONNECTION then endConn cJSON surroundings file
    else if command = OPTION1_ then sendSupplyMessage surroundings file
    else if command = OPTION2_ then
      if checkCredentials cJSON recvSocketBuffer ≠ 0 then sendDeneidMessage cJSON surroundings file
      else setAndSendSuplyStatus cJSON surroundings recvSocketBuffer file
    else { file, sent := none, outcome := .waits }

/-- One turn of `run_normal_user_server`. -/
def runNormalUserServer
    (surroundings : Surroundings) (recvSocketBuffer file : Text) : Handled :=
  if recvSocketBuffer = [] then { file, sent := none, outcome := .exits }
  else
    let command := getCommand cJSON surroundings.flagHandler recvSocketBuffer
    -- `end_conn` sends on the socket, which is not connected to any client.
    if command = CLOSE_CONNECTION then endConn cJSON { surroundings with sends := false } file
    else if command = OPTION1_ then sendSupplyUdp surroundings file
    else if command = OPTION2_ then sendDeneidUdpMessage cJSON surroundings file
    else { file, sent := none, outcome := .waits }

end

section

variable {cJSON : CJson} {surroundings : Surroundings} {recvSocketBuffer file : Text}

@[simp] theorem sendAndWait_file (message : Text) :
    (sendAndWait surroundings file message).file = file := rfl

@[simp] theorem sendNotice_file (key value : Text) :
    (sendNotice cJSON surroundings file key value).file = file := by
  unfold sendNotice
  split <;> rfl

@[simp] theorem sendDeneidMessage_file :
    (sendDeneidMessage cJSON surroundings file).file = file := sendNotice_file _ _

@[simp] theorem sendDeneidUdpMessage_file :
    (sendDeneidUdpMessage cJSON surroundings file).file = file := sendNotice_file _ _

@[simp] theorem endConn_file : (endConn cJSON surroundings file).file = file :=
  sendNotice_file _ _

@[simp] theorem sendSupply_file : (sendSupply surroundings file).file = file := by
  unfold sendSupply
  split <;> rfl

@[simp] theorem sendSupplyMessage_file : (sendSupplyMessage surroundings file).file = file :=
  sendSupply_file

@[simp] theorem sendSupplyUdp_file : (sendSupplyUdp surroundings file).file = file :=
  sendSupply_file

/-- A datagram never changes the file. -/
@[simp] theorem runNormalUserServer_file :
    (runNormalUserServer cJSON surroundings recvSocketBuffer file).file = file := by
  dsimp only [runNormalUserServer]
  split_ifs <;> simp

/-- A message the server acts on as an administrator's: the command converts to
2 and both credentials are `ubuntu`. -/
def Authorised (cJSON : CJson) (recvSocketBuffer : Text) : Prop :=
  (∃ command, getValueOfKeyFromJsonString cJSON recvSocketBuffer K_COMMAND = .ok command ∧
    atoi command = 2) ∧
    getValueOfKeyFromJsonString cJSON recvSocketBuffer K_HOSTNAME = .ok ADMIN ∧
      getValueOfKeyFromJsonString cJSON recvSocketBuffer K_PASSWORD = .ok ADMIN

/-- The server's credential check. -/
theorem checkCredentials_eq_zero_iff :
    checkCredentials cJSON recvSocketBuffer = 0 ↔
      getValueOfKeyFromJsonString cJSON recvSocketBuffer K_HOSTNAME = .ok ADMIN ∧
        getValueOfKeyFromJsonString cJSON recvSocketBuffer K_PASSWORD = .ok ADMIN := by
  unfold checkCredentials
  cases getValueOfKeyFromJsonString cJSON recvSocketBuffer K_HOSTNAME <;>
    cases getValueOfKeyFromJsonString cJSON recvSocketBuffer K_PASSWORD <;>
      simp

/-- A command of 2 is one that is there and converts to it. -/
theorem command_of_getCommand_eq_two {flagHandler : Bool}
    (two : getCommand cJSON flagHandler recvSocketBuffer = 2) :
    ∃ command, getValueOfKeyFromJsonString cJSON recvSocketBuffer K_COMMAND = .ok command ∧
      atoi command = 2 := by
  unfold getCommand at two
  split_ifs at two
  · exact absurd two (by decide)
  · split at two
    · exact absurd two (by decide)
    · rename_i command found
      exact ⟨command, found, two⟩

/-- A notice can always be made. -/
theorem exists_noticeMessage (leftover key value : Text) :
    ∃ message, noticeMessage cJSON leftover key value = .ok message :=
  ⟨_, cjsonAddKeyValueToJsonString_override leftover key
    (show OVERRIDE &&& OVERRIDE ≠ 0 by decide) (encodeValue_override value)⟩

/-- So it is sent, whatever its key and its text. -/
theorem exists_sendNotice_eq (surroundings : Surroundings) (file key value : Text) :
    ∃ message, noticeMessage cJSON surroundings.leftover key value = .ok message ∧
      sendNotice cJSON surroundings file key value = sendAndWait surroundings file message := by
  obtain ⟨message, made⟩ := @exists_noticeMessage cJSON surroundings.leftover key value
  exact ⟨message, made, by rw [sendNotice, made]⟩

theorem sendNotice_outcome (key value : Text) :
    (sendNotice cJSON surroundings file key value).outcome =
      if surroundings.sends then .waits else .exits := by
  obtain ⟨message, _, sent⟩ := @exists_sendNotice_eq cJSON surroundings file key value
  rw [sent]
  rfl

theorem sendDeneidMessage_outcome :
    (sendDeneidMessage cJSON surroundings file).outcome =
      if surroundings.sends then .waits else .exits :=
  sendNotice_outcome _ _

theorem sendDeneidUdpMessage_outcome :
    (sendDeneidUdpMessage cJSON surroundings file).outcome =
      if surroundings.sends then .waits else .exits :=
  sendNotice_outcome _ _

theorem endConn_outcome :
    (endConn cJSON surroundings file).outcome =
      if surroundings.sends then .closes else .exits := by
  have sent := @sendNotice_outcome cJSON surroundings file K_END TRUE_
  cases taken : surroundings.sends <;> simp [endConn, sendEndConnMessage, sent, taken]

theorem sendSupply_outcome :
    (sendSupply surroundings file).outcome =
      if surroundings.faults.reading = false ∧ file ≠ [] ∧ surroundings.sends then .waits
      else .exits := by
  rw [sendSupply, readFile_eq]
  by_cases unread : surroundings.faults.reading ∨ file = []
  · rw [if_pos unread, if_neg]
    rintro ⟨reads, nonempty, _⟩
    rcases unread with failed | empty
    · exact absurd failed (by simp [reads])
    · exact nonempty empty
  · rw [if_neg unread]
    simp only [not_or, Bool.not_eq_true] at unread
    simp [sendAndWait, unread]

/-- A datagram's process goes on exactly when the datagram is not empty, does
not ask to close, and what it asks for can be sent. -/
theorem runNormalUserServer_outcome_eq_waits_iff :
    (runNormalUserServer cJSON surroundings recvSocketBuffer file).outcome = .waits ↔
      recvSocketBuffer ≠ [] ∧
        let command := getCommand cJSON surroundings.flagHandler recvSocketBuffer
        command ≠ CLOSE_CONNECTION ∧
          (command = OPTION1_ → surroundings.faults.reading = false ∧ file ≠ []) ∧
            (command = OPTION1_ ∨ command = OPTION2_ → surroundings.sends = true) := by
  have notBoth : OPTION1_ ≠ OPTION2_ := by decide
  have statusOpen : OPTION1_ ≠ CLOSE_CONNECTION := by decide
  have modifyOpen : OPTION2_ ≠ CLOSE_CONNECTION := by decide
  dsimp only [runNormalUserServer]
  split_ifs with empty close status modify
  · simp [empty]
  · simp [endConn_outcome, close]
  · simp [sendSupplyUdp, sendSupply_outcome, empty, status, notBoth, statusOpen, and_assoc]
  · simp [sendDeneidUdpMessage_outcome, empty, modify, modifyOpen, Ne.symm notBoth]
  · simp [empty, close, status, modify]

/-- A TCP message leaves the file alone, unless it is an administrator's and
`set_supply_status` runs with its category, key and value. -/
theorem runAdminServer_file_cases :
    (runAdminServer cJSON surroundings recvSocketBuffer file).file = file ∨
      Authorised cJSON recvSocketBuffer ∧
        ∃ category key value,
          supplyArguments cJSON recvSocketBuffer = .ok (category, key, value) ∧
            (runAdminServer cJSON surroundings recvSocketBuffer file).file =
              (setSupplyStatus cJSON surroundings.faults category key value file).file := by
  dsimp only [runAdminServer]
  split_ifs with empty close status modify denied
  · exact .inl rfl
  · exact .inl endConn_file
  · exact .inl sendSupplyMessage_file
  · exact .inl sendDeneidMessage_file
  · rw [not_not] at denied
    have command := command_of_getCommand_eq_two modify
    have credentials := checkCredentials_eq_zero_iff.mp denied
    unfold setAndSendSuplyStatus setSupply
    cases arguments : supplyArguments cJSON recvSocketBuffer with
    | error code => exact .inl rfl
    | ok texts =>
        refine .inr ⟨⟨command, credentials⟩, texts.1, texts.2.1, texts.2.2, rfl, ?_⟩
        dsimp only
        split_ifs <;> rfl
  · exact .inl rfl

end

end Refuge
