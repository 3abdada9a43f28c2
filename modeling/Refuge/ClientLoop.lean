import Refuge.ClientRequest
import Refuge.Foundation.Run

/-!
# The loop of the client

An administrator's client sends a request, receives a reply and examines it;
after a status request it goes on polling, each poll in a call of
`recv_and_check_message` inside the last one, until SIGINT clears
`flag_get_supply`.  The handler is installed without SA_RESTART, so a SIGINT
also makes a blocked `recv` fail, and the code of `recv_tcp_message` is not
looked at: the client goes on as if it had a reply, and the real one stays in
the socket.
-/

namespace Refuge

open Foundation

/-- Where the client is. -/
inductive ClientPhase
  /-- At the top of the loop of `main`. -/
  | choosing
  /-- Before `send_message_to_server`. -/
  | sending
  /-- In `recv_and_check_message`, before `recv`. -/
  | calling
  /-- In `recv`. -/
  | blocked
  /-- `recv` has returned. -/
  | examining
  /-- At the condition of the polling loop. -/
  | looping
  | ended
  deriving DecidableEq

/-- The state of the client. -/
structure Client where
  flagGetSupply : Bool
  skipOption : Bool
  sendSocketBuffer : Text
  recvSocketBuffer : Text
  /-- The calls of `recv_and_check_message` that have not returned. -/
  calls : Nat
  phase : ClientPhase

/-- The client and its connection: the requests sent, the replies the server
has made to them in order, how many of these `recv` has returned, and the
texts the client has examined. -/
structure Session where
  client : Client
  requests : List Text
  replies : List Text
  received : Nat
  examined : List Text

/-- What can happen in a session. -/
inductive SessionEvent
  /-- The user chooses, or ends the client. -/
  | choose (choice : Option Choice)
  /-- The client goes on. -/
  | proceed
  /-- SIGINT arrives. -/
  | interrupt
  /-- The server replies to the next request. -/
  | answer (reply : Text)

/-- A reply that one `recv` can return whole. -/
def Receivable (reply : Text) : Prop :=
  reply ≠ [] ∧ NUL ∉ reply ∧ reply.length ≤ BUFFER_SIZE

instance (reply : Text) : Decidable (Receivable reply) :=
  inferInstanceAs (Decidable (_ ∧ _ ∧ _))

namespace Client

/-- `sign_handler` for SIGINT. -/
def signHandler (client : Client) : Client :=
  { client with flagGetSupply := false, skipOption := true }

@[simp] theorem signHandler_phase (client : Client) :
    client.signHandler.phase = client.phase := rfl

/-- The end of `main`'s turn: the request is ready. -/
def ready (client : Client) (request : Text) : Client :=
  { client with sendSocketBuffer := request, skipOption := true, phase := .sending }

end Client

namespace Session

section

variable (cJSON : CJson) (username password : Text)

/-- The client goes on: one step of `main`, `send_message_to_server` or
`recv_and_check_message`. -/
def proceed (session : Session) : Option Session :=
  let client := session.client
  match client.phase with
  | .choosing =>
      if client.skipOption then none
      else
        some
          { session with
            client := client.ready (getOptions cJSON .getStatus []) }
  | .sending =>
      some
        { session with
          client := { client with calls := client.calls + 1, phase := .calling }
          -- An empty buffer is not sent.
          requests :=
            if client.sendSocketBuffer = [] then session.requests
            else session.requests ++ [client.sendSocketBuffer] }
  | .calling =>
      some { session with client := { client with recvSocketBuffer := [], phase := .blocked } }
  | .blocked =>
      session.replies[session.received]?.map fun reply =>
        { session with
          client :=
            { client with
              recvSocketBuffer := (recvTcpMessage (some reply)).2
              phase := .examining }
          received := session.received + 1 }
  | .examining =>
      some
        { session with
          client :=
            { client with
              phase :=
                if isKeyInJsonBuffer cJSON client.recvSocketBuffer K_END then .ended
                else .looping }
          examined := session.examined ++ [client.recvSocketBuffer] }
  | .looping =>
      if client.flagGetSupply then
        some { session with client := { client with phase := .sending } }
      else
        -- The call returns to the loop of the call around it, or to `main`.
        some
          { session with
            client :=
              { client with
                calls := client.calls - 1
                phase := if client.calls ≤ 1 then .choosing else .looping } }
  | .ended => none

/-- One event of a session. -/
def step (session : Session) : SessionEvent → Option Session
  | .proceed => session.proceed cJSON
  | .choose choice =>
      let client := session.client
      match client.phase, client.skipOption, choice with
      | .choosing, true, none => some { session with client := { client with phase := .ended } }
      | .choosing, true, some .getStatus =>
          some
            { session with
              client :=
                { client.ready (clientRequest cJSON .getStatus username password) with
                  flagGetSupply := true } }
      | .choosing, true, some (.modifySupplies order) =>
          some
            { session with
              client :=
                client.ready (clientRequest cJSON (.modifySupplies order) username password) }
      | _, _, _ => none
  | .interrupt =>
      let client := session.client.signHandler
      match client.phase with
      | .ended => none
      | .blocked =>
          if session.received < session.replies.length then some { session with client }
          else
            -- The blocked `recv` returns -1.
            some
              { session with
                client :=
                  { client with
                    recvSocketBuffer := (recvTcpMessage none).2
                    phase := .examining } }
      | _ => some { session with client }
  | .answer reply =>
      if session.replies.length < session.requests.length ∧ Receivable reply then
        some { session with replies := session.replies ++ [reply] }
      else none

end

/-- The client has connected as an administrator and sent nothing yet. -/
def Fresh (session : Session) : Prop :=
  session.client.phase = .choosing ∧ session.requests = [] ∧ session.replies = [] ∧
    session.received = 0 ∧ session.examined = []

/-- No SIGINT arrives while `recv` is blocked. -/
def Unbroken (session : Session) : SessionEvent → Prop
  | .interrupt => session.client.phase = .blocked → session.received < session.replies.length
  | _ => True

/-- When a request is sent, every earlier one has been replied to and its reply
has been received. -/
def SendsPaired (session : Session) : SessionEvent → Prop
  | .proceed => session.client.phase = .sending →
      session.replies.length = session.requests.length ∧
        session.received = session.replies.length
  | _ => True

/-- Where the requests, the replies and the texts examined are at a point of
the client. -/
def Paired (session : Session) : Prop :=
  match session.client.phase with
  | .choosing | .sending | .looping =>
      session.received = session.requests.length ∧
        session.examined = session.replies.take session.received
  | .calling | .blocked =>
      session.received + 1 = session.requests.length ∧
        session.examined = session.replies.take session.received
  | .examining =>
      session.received = session.requests.length ∧
        session.examined ++ [session.client.recvSocketBuffer] =
          session.replies.take session.received
  | .ended => session.examined <+: session.replies

/-- The invariant of unbroken sessions. -/
structure InStep (session : Session) : Prop where
  answered : session.replies.length ≤ session.requests.length
  available : session.received ≤ session.replies.length
  sendable : ∀ reply ∈ session.replies, Receivable reply
  request : session.client.phase ≠ .choosing → session.client.phase ≠ .ended →
    session.client.sendSocketBuffer ≠ []
  paired : session.Paired

section

variable {cJSON : CJson} {username password : Text}

theorem addText_ne_nil (lawful : cJSON.Lawful) (buffer key value : Text) :
    addText cJSON buffer key value ≠ [] := by
  rw [addText, cjsonAddKeyValueToJsonString_override buffer key (by decide)
    (encodeValue_override value)]
  exact lawful.print_ne_nil _

/-- A reply that can be received is received as it is. -/
theorem recvTcpMessage_of_receivable {reply : Text} (receivable : Receivable reply) :
    recvTcpMessage (some reply) = (0, reply) := by
  have text := Framing.untilStop_append_replicate receivable.2.1 0
  rw [List.replicate_zero, List.append_nil] at text
  simp only [recvTcpMessage, text, receivable.1, ↓reduceIte]

/-- The client going on keeps the invariant. -/
theorem InStep.proceed
    (lawful : cJSON.Lawful) {session next : Session} (inStep : InStep session)
    (stepped : session.proceed cJSON = some next) : InStep next := by
  obtain ⟨answered, available, sendable, request, paired⟩ := inStep
  unfold Session.proceed at stepped
  unfold Paired at paired
  cases phase : session.client.phase with
  | choosing =>
      simp only [phase] at stepped paired
      split_ifs at stepped
      obtain rfl := Option.some.inj stepped
      exact ⟨answered, available, sendable, fun _ _ => addText_ne_nil lawful _ _ _, paired⟩
  | sending =>
      have nonempty := request (by simp [phase]) (by simp [phase])
      simp only [phase, if_neg nonempty] at stepped paired
      obtain rfl := Option.some.inj stepped
      refine ⟨answered.trans ?_, available, sendable, fun _ _ => nonempty, ?_, paired.2⟩
      · exact (List.prefix_append _ _).length_le
      · rw [List.length_append, paired.1]
        rfl
  | calling =>
      simp only [phase] at stepped paired
      obtain rfl := Option.some.inj stepped
      exact ⟨answered, available, sendable,
        fun _ _ => request (by simp [phase]) (by simp [phase]), paired⟩
  | blocked =>
      simp only [phase] at stepped paired
      obtain ⟨reply, found, rfl⟩ := Option.map_eq_some_iff.mp stepped
      obtain ⟨bound, replyEq⟩ := List.getElem?_eq_some_iff.mp found
      have receivable : Receivable reply := sendable reply (replyEq ▸ List.getElem_mem bound)
      refine ⟨answered, bound, sendable,
        fun _ _ => request (by simp [phase]) (by simp [phase]), paired.1, ?_⟩
      change session.examined ++ [(recvTcpMessage (some reply)).2] = _
      rw [recvTcpMessage_of_receivable receivable, paired.2, List.take_add_one, found]
      rfl
  | examining =>
      simp only [phase] at stepped paired
      obtain rfl := Option.some.inj stepped
      refine ⟨answered, available, sendable,
        fun _ _ => request (by simp [phase]) (by simp [phase]), ?_⟩
      unfold Paired
      dsimp only
      split_ifs
      · exact paired.2 ▸ List.take_prefix _ _
      · exact paired
  | looping =>
      have nonempty := request (by simp [phase]) (by simp [phase])
      simp only [phase] at stepped paired
      -- Polls again, returns to `main`, or returns to the call around it.
      split_ifs at stepped <;> obtain rfl := Option.some.inj stepped
      · exact ⟨answered, available, sendable, fun _ _ => nonempty, paired⟩
      · exact ⟨answered, available, sendable, fun _ _ => nonempty, paired⟩
      · exact ⟨answered, available, sendable, fun _ _ => nonempty, paired⟩
  | ended => simp [phase] at stepped

theorem clientRequest_ne_nil
    (lawful : cJSON.Lawful) (choice : Choice) (username password : Text) :
    clientRequest cJSON choice username password ≠ [] :=
  addText_ne_nil lawful _ _ _

/-- A new state of the client that is at the same point of it keeps the
invariant. -/
theorem InStep.setClient
    {session : Session} (inStep : InStep session) {client : Client}
    (phase : client.phase = session.client.phase)
    (sendBuffer : client.sendSocketBuffer = session.client.sendSocketBuffer)
    (recvBuffer : client.recvSocketBuffer = session.client.recvSocketBuffer) :
    InStep { session with client } where
  answered := inStep.answered
  available := inStep.available
  sendable := inStep.sendable
  request := by
    change client.phase ≠ _ → client.phase ≠ _ → client.sendSocketBuffer ≠ []
    rw [phase, sendBuffer]
    exact inStep.request
  paired := by
    have paired := inStep.paired
    unfold Paired at paired ⊢
    dsimp only
    rwa [phase, recvBuffer]

/-- The server replying keeps the invariant. -/
theorem InStep.answer
    {session : Session} (inStep : InStep session) {reply : Text}
    (unanswered : session.replies.length < session.requests.length)
    (receivable : Receivable reply) :
    InStep { session with replies := session.replies ++ [reply] } where
  answered := by
    rw [List.length_append]
    exact unanswered
  available := inStep.available.trans (List.prefix_append _ _).length_le
  sendable := by
    intro other present
    rcases List.mem_append.mp present with earlier | now
    · exact inStep.sendable other earlier
    · exact List.mem_singleton.mp now ▸ receivable
  request := inStep.request
  paired := by
    have paired := inStep.paired
    have sameTake : (session.replies ++ [reply]).take session.received =
        session.replies.take session.received :=
      List.take_append_of_le_length inStep.available
    unfold Paired at paired ⊢
    cases phase : session.client.phase <;> simp only [phase, sameTake] at paired ⊢
    case ended => exact paired.trans (List.prefix_append _ _)
    all_goals exact paired

/-- The step lemma: as long as no SIGINT arrives while `recv` is blocked, the
replies stay paired with the requests. -/
theorem InStep.step
    (lawful : cJSON.Lawful) {session next : Session} {event : SessionEvent}
    (inStep : InStep session) (unbroken : Unbroken session event)
    (stepped : session.step cJSON username password event = some next) : InStep next := by
  cases event with
  | proceed => exact inStep.proceed lawful stepped
  | answer reply =>
      simp only [Session.step] at stepped
      split_ifs at stepped with possible
      exact Option.some.inj stepped ▸ inStep.answer possible.1 possible.2
  | interrupt =>
      simp only [Session.step, Client.signHandler_phase] at stepped
      cases phase : session.client.phase with
      | ended => simp [phase] at stepped
      | blocked =>
          simp only [phase, if_pos (unbroken phase)] at stepped
          exact Option.some.inj stepped ▸ inStep.setClient rfl rfl rfl
      | _ =>
          simp only [phase] at stepped
          exact Option.some.inj stepped ▸ inStep.setClient rfl rfl rfl
  | choose choice =>
      obtain ⟨answered, available, sendable, _, paired⟩ := inStep
      simp only [Session.step] at stepped
      split at stepped
      case h_1 phase _ =>
        simp only [Paired, phase] at paired
        obtain rfl := Option.some.inj stepped
        exact ⟨answered, available, sendable, by simp, paired.2 ▸ List.take_prefix _ _⟩
      case h_2 phase _ | h_3 phase _ =>
        simp only [Paired, phase] at paired
        obtain rfl := Option.some.inj stepped
        exact ⟨answered, available, sendable,
          fun _ _ => clientRequest_ne_nil lawful _ _ _, paired⟩
      case h_4 => simp at stepped

/-- An invariant session sends only when every reply has been received. -/
theorem InStep.sendsPaired
    {session : Session} (inStep : InStep session) (event : SessionEvent) :
    SendsPaired session event := by
  cases event with
  | proceed =>
      intro phase
      have paired := inStep.paired
      simp only [Paired, phase] at paired
      have answered := inStep.answered
      have available := inStep.available
      omega
  | _ => trivial

theorem Fresh.inStep {session : Session} (fresh : session.Fresh) : InStep session := by
  obtain ⟨phase, noRequests, noReplies, noneReceived, noneExamined⟩ := fresh
  refine ⟨by simp [noReplies], by simp [noneReceived], by simp [noReplies], ?_, ?_⟩
  · exact fun notChoosing => absurd phase notChoosing
  · simp [Paired, phase, noRequests, noneReceived, noneExamined]

/-- In every session in which no SIGINT arrives while `recv` is blocked, a
request is sent only when the replies to all earlier ones have been received,
and the texts examined are the replies, one by one and in order. -/
theorem replies_stay_paired
    (lawful : cJSON.Lawful) {session final : Session} {events : List SessionEvent}
    (fresh : session.Fresh)
    (unbroken : Along (Session.step cJSON username password) Unbroken session events)
    (reached : run (Session.step cJSON username password) session events = some final) :
    Along (Session.step cJSON username password) SendsPaired session events ∧
      final.examined <+: final.replies := by
  have preserved (before : Session) (event : SessionEvent) (after : Session)
      (inStep : InStep before) (noBreak : Unbroken before event)
      (stepped : before.step cJSON username password event = some after) : InStep after :=
    inStep.step lawful noBreak stepped
  refine ⟨Along.of_invariant preserved (fun _ event inStep _ => inStep.sendsPaired event)
    fresh.inStep unbroken, ?_⟩
  have inStep := run_invariant preserved fresh.inStep unbroken reached
  have paired := inStep.paired
  have isPrefix := List.take_prefix final.received final.replies
  unfold Paired at paired
  cases phase : final.client.phase <;> simp only [phase] at paired
  case ended => exact paired
  case examining => exact (List.prefix_append _ _).trans (paired.2 ▸ isPrefix)
  all_goals exact paired.2 ▸ isPrefix

end

/-! ## An interrupted poll -/

/-- An administrator's client that has just connected. -/
def connected : Session where
  client :=
    { flagGetSupply := false
      skipOption := true
      sendSocketBuffer := []
      recvSocketBuffer := []
      calls := 0
      phase := .choosing }
  requests := []
  replies := []
  received := 0
  examined := []

theorem fresh_connected : connected.Fresh := ⟨rfl, rfl, rfl, rfl, rfl⟩

/-- SIGINT arrives while `recv` waits for the state, and the user goes on. -/
def interruptedPoll : List SessionEvent :=
  [.choose (some .getStatus), .proceed, .proceed, .interrupt, .answer "{}".toList, .proceed,
    .proceed, .choose (some .getStatus)]

/-- The next request is about to be sent while the reply to the first one is
unread; what was examined in its place is an empty text. -/
theorem reply_left_unread :
    connected.Fresh ∧
      ∃ session,
        run (Session.step .reference ADMIN ADMIN) connected interruptedPoll = some session ∧
          session.client.phase = .sending ∧ session.replies = ["{}".toList] ∧
            session.received = 0 ∧ session.examined = [[]] := by
  have lawful := CJson.reference_lawful
  have sent := clientRequest_ne_nil lawful .getStatus ADMIN ADMIN
  have notEnd : isKeyInJsonBuffer .reference [] K_END = false := by
    rw [isKeyInJsonBuffer, lawful.parse_nil]
  have receivable : Receivable ['{', '}'] := by decide
  refine ⟨fresh_connected, ?_⟩
  simp [interruptedPoll, Session.step, Session.proceed, connected, Client.ready,
    Client.signHandler, recvTcpMessage, sent, notEnd, receivable]

/-- The same poll with the reply there before SIGINT. -/
def answeredPoll : List SessionEvent :=
  [.choose (some .getStatus), .proceed, .proceed, .answer "{}".toList, .interrupt, .proceed,
    .proceed, .proceed, .choose (some .getStatus), .proceed]

/-- Its reply is examined, and the next request is sent after it. -/
theorem replies_stay_paired_answered :
    Along (Session.step .reference ADMIN ADMIN) SendsPaired connected answeredPoll := by
  have lawful := CJson.reference_lawful
  have sent := clientRequest_ne_nil lawful .getStatus ADMIN ADMIN
  have notEnd : isKeyInJsonBuffer .reference ['{', '}'] K_END = false := by decide
  have receivable : Receivable ['{', '}'] := by decide
  have received := recvTcpMessage_of_receivable receivable
  have reached : ∃ final,
      run (Session.step .reference ADMIN ADMIN) connected answeredPoll = some final := by
    simp [answeredPoll, Session.step, Session.proceed, connected, Client.ready,
      Client.signHandler, sent, notEnd, receivable, received]
  have unbroken : Along (Session.step .reference ADMIN ADMIN) Unbroken connected
      answeredPoll := by
    simp [answeredPoll, Along, Unbroken, Session.step, Session.proceed, connected, Client.ready,
      Client.signHandler, sent, receivable]
  obtain ⟨final, reached⟩ := reached
  exact (replies_stay_paired lawful fresh_connected unbroken reached).1

end Session

end Refuge
