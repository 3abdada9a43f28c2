import Refuge.Network.Views
import Refuge.Stream

/-!
# The network with its bytes

The messages of the network are bytes on TCP connections: a client writes the whole
of its buffer, a connection process the length of its message, and one `recv` takes
some of the bytes that have arrived.  A connection never carries two messages at a
time as long as no `recv` of a client is interrupted, so that a message is received as
it was sent if a `recv` takes what has arrived of it, however much that is.
-/

namespace Refuge

open Foundation

/-- The clients and their connection processes, with the bytes between them. -/
structure Wire (Id Other : Type) where
  client : Id → Client
  turn : Id → Turn
  system : System (Id ⊕ Other)
  /-- The bytes on their way to each connection process, -/
  toServer : Id → List Char
  /-- and to each client. -/
  toClient : Id → List Char

/-- What can happen. -/
inductive WireEvent (Id Other : Type)
  /-- The user or the client does something, or SIGINT arrives. -/
  | client (id : Id) (event : SessionEvent)
  /-- The `recv` of a client returns so many bytes. -/
  | receive (id : Id) (size : Nat)
  /-- The `recv` of a connection process returns so many bytes, and it handles them. -/
  | take (id : Id) (leftover : Text) (size : Nat)
  /-- A process takes a step of its update. -/
  | act (event : (Id ⊕ Other) × Action)
  /-- A connection process sends its message. -/
  | reply (id : Id)

/-- A client as its code sees it, with what it can receive next. -/
def Client.facing (client : Client) (bytes : List Char) : Session where
  client := client
  requests := []
  replies := if bytes = [] then [] else [bytes]
  received := 0
  examined := []

/-- The requests a client writes, each with the size of its buffer. -/
def requestBytes (requests : List Text) : List Char :=
  Message.sent [] (requests.map fun text => { text, padded := true })

namespace Wire

section

variable {Id Other : Type} [DecidableEq Id] [DecidableEq Other]

/-- The network as the code of the connection processes sees it. -/
def network (wire : Wire Id Other) : Network Id Other where
  session := fun id => (wire.client id).facing (wire.toClient id)
  turn := wire.turn
  received := fun _ => 0
  system := wire.system

/-- What a connection process has done. -/
def adopt (wire : Wire Id Other) (network : Network Id Other) : Wire Id Other :=
  { wire with turn := network.turn, system := network.system }

/-- What a client has done. -/
def follow (wire : Wire Id Other) (id : Id) (session : Session) : Wire Id Other :=
  { wire with
    client := Function.update wire.client id session.client
    toServer := Function.update wire.toServer id
      (wire.toServer id ++ requestBytes session.requests) }

/-- What a connection process has received is no longer on its way. -/
def consume (wire : Wire Id Other) (id : Id) (size : Nat) : Wire Id Other :=
  { wire with
    toServer := Function.update wire.toServer id ((wire.toServer id).drop size) }

variable (cJSON : CJson) (role : Other → Role) (username password : Id → Text)

/-- The client takes a step with these bytes to receive. -/
def clientStep (wire : Wire Id Other) (id : Id) (bytes : List Char) (event : SessionEvent) :
    Option (Wire Id Other) :=
  (((wire.client id).facing bytes).step cJSON (username id) (password id) event).map
    (wire.follow id)

/- The bytes in memory after a local buffer. -/
variable (beyond : List Char)

/-- One event. -/
def step (wire : Wire Id Other) : WireEvent Id Other → Option (Wire Id Other)
  | .client _ (.answer _) => none
  | .client id .proceed =>
      if (wire.client id).phase = .blocked then none
      else wire.clientStep cJSON username password id (wire.toClient id) .proceed
  | .client id event =>
      wire.clientStep cJSON username password id (wire.toClient id) event
  | .receive id size =>
      if (wire.client id).phase = .blocked ∧ 1 ≤ size ∧ size ≤ BUFFER_SIZE ∧
          size ≤ (wire.toClient id).length then
        let bytes := (wire.toClient id).take size
        (wire.clientStep cJSON username password id bytes .proceed).map fun next =>
          { next with
            toClient := Function.update wire.toClient id ((wire.toClient id).drop size) }
      else none
  | .take id leftover size =>
      match wire.turn id with
      | .receiving =>
          if 1 ≤ size ∧ size ≤ BUFFER_SIZE ∧ size ≤ (wire.toServer id).length then
            let recvSocketBuffer := (recvTcpMessage (some ((wire.toServer id).take size))).2
            ((wire.consume id size).network.handle cJSON role id leftover recvSocketBuffer).map
              (wire.consume id size).adopt
          else none
      | _ => none
  | .act event =>
      (wire.network.step cJSON role username password (.act event)).map wire.adopt
  | .reply id =>
      match wire.turn id with
      | .replying sent outcome =>
          let bytes := Message.sent beyond
            (sent.toList.map fun text => { text, padded := false })
          some
            { wire with
              toClient := Function.update wire.toClient id (wire.toClient id ++ bytes)
              turn := Function.update wire.turn id
                (if outcome = .waits then .receiving else .ended)
              system := Network.post cJSON role wire.system id }
      | _ => none

/-- What has arrived of a message is received, as far as the buffer holds it; a request
fits the client's buffer and a reply the one it is received in; and no SIGINT arrives
while a client's `recv` waits. -/
def Whole (wire : Wire Id Other) : WireEvent Id Other → Prop
  | .client id event =>
      Session.Unbroken ((wire.client id).facing (wire.toClient id)) event ∧
        ((wire.client id).phase = .sending →
          (wire.client id).sendSocketBuffer.length < BUFFER_SIZE)
  | .receive id size => size = min (wire.toClient id).length BUFFER_SIZE
  | .take id _ size => size = min (wire.toServer id).length BUFFER_SIZE
  | .act _ => True
  | .reply id => ∀ message outcome, wire.turn id = .replying (some message) outcome →
      Receivable message

instance (wire : Wire Id Other) : ∀ event, Decidable (wire.Whole event)
  | .client _ (.choose _) | .client _ .proceed | .client _ (.answer _) =>
      inferInstanceAs (Decidable (True ∧ _))
  | .client _ .interrupt => inferInstanceAs (Decidable ((_ → _) ∧ _))
  | .receive .. | .take .. => inferInstanceAs (Decidable (_ = _))
  | .act _ => isTrue trivial
  | .reply id =>
      match turn : wire.turn id with
      | .replying (some message) outcome =>
          decidable_of_iff (Receivable message)
            ⟨fun receivable other _ same => by
              rw [turn] at same
              cases same
              exact receivable, fun all => all message outcome turn⟩
      | .replying none _ | .receiving | .updating | .ended =>
          isTrue fun _ _ same => by
            rw [turn] at same
            cases same

/-- No write is stale. -/
def Undisturbed (wire : Wire Id Other) : WireEvent Id Other → Prop
  | .act event => Refuge.Undisturbed cJSON wire.system event
  | _ => True

end

end Wire

/-- The event of the network that an event with bytes is. -/
def WireEvent.message {Id Other : Type} : WireEvent Id Other → NetworkEvent Id Other
  | .client id event => .client id event
  | .receive id _ => .client id .proceed
  | .take id leftover _ => .take id leftover
  | .act event => .act event
  | .reply id => .reply id


/-- The network with nothing on its way. -/
def Network.wired {Id Other : Type} (network : Network Id Other) : Wire Id Other where
  client := fun id => (network.session id).client
  turn := network.turn
  system := network.system
  toServer := fun _ => []
  toClient := fun _ => []

/-! ## One client -/

namespace Session

/-- A session from here on. -/
def fromHere (session : Session) : Session where
  client := session.client
  requests := []
  replies := session.replies.drop session.received
  received := 0
  examined := []

/-- A session that has gone on from here. -/
def onward (session next : Session) : Session where
  client := next.client
  requests := session.requests ++ next.requests
  replies := session.replies
  received := session.received + next.received
  examined := session.examined ++ next.examined

section

variable {cJSON : CJson} {username password : Text} {session next : Session}
  {event : SessionEvent}

/-- What a client does depends on the replies it has not received, and on no others. -/
theorem step_fromHere (notAnswer : ∀ reply, event ≠ .answer reply) :
    session.step cJSON username password event =
      (session.fromHere.step cJSON username password event).map session.onward := by
  cases event with
  | answer reply => exact absurd rfl (notAnswer reply)
  | proceed =>
      simp only [Session.step, Session.proceed, fromHere]
      cases phase : session.client.phase with
      | blocked =>
          simp only [List.getElem?_drop, Nat.add_zero, Option.map_map]
          congr 1
          funext reply
          simp [onward]
      | choosing => by_cases skips : session.client.skipOption <;> simp [skips, onward]
      | sending => by_cases empty : session.client.sendSocketBuffer = [] <;> simp [empty, onward]
      | examining =>
          by_cases ends : isKeyInJsonBuffer cJSON session.client.recvSocketBuffer K_END <;>
            simp [ends, onward]
      | looping =>
          by_cases polls : session.client.flagGetSupply
          · simp [polls, onward]
          · by_cases outermost : session.client.calls ≤ 1 <;> simp [polls, outermost, onward]
      | _ => simp [onward]
  | choose choice =>
      simp only [Session.step, fromHere]
      split <;> simp [onward]
  | interrupt =>
      simp only [Session.step, fromHere]
      cases phase : session.client.signHandler.phase with
      | blocked =>
          have same : (0 < (session.replies.drop session.received).length) =
              (session.received < session.replies.length) := by
            rw [List.length_drop]
            exact propext (by omega)
          simp only [same]
          split_ifs <;> simp [onward]
      | _ => simp [onward]

/-- Only `recv` takes a reply. -/
theorem received_of_step
    (stepped : session.step cJSON username password event = some next)
    (elsewhere : event = .proceed → session.client.phase ≠ .blocked) :
    next.received = session.received := by
  cases event with
  | answer reply =>
      simp only [Session.step] at stepped
      split_ifs at stepped
      exact Option.some.inj stepped ▸ rfl
  | choose choice =>
      simp only [Session.step] at stepped
      split at stepped
      case h_4 => simp at stepped
      all_goals exact Option.some.inj stepped ▸ rfl
  | interrupt =>
      simp only [Session.step, Client.signHandler_phase] at stepped
      cases phase : session.client.phase with
      | ended => simp [phase] at stepped
      | blocked =>
          simp only [phase] at stepped
          split_ifs at stepped <;> exact Option.some.inj stepped ▸ rfl
      | _ =>
          simp only [phase] at stepped
          exact Option.some.inj stepped ▸ rfl
  | proceed =>
      have notBlocked := elsewhere rfl
      simp only [Session.step, Session.proceed] at stepped
      cases phase : session.client.phase with
      | choosing | looping =>
          simp only [phase] at stepped
          split_ifs at stepped <;> exact Option.some.inj stepped ▸ rfl
      | blocked => exact absurd phase notBlocked
      | ended => simp [phase] at stepped
      | _ =>
          simp only [phase] at stepped
          exact Option.some.inj stepped ▸ rfl

/-- As long as the client goes on, at most one request has no reply that is received, -/
theorem InStep.requests_le (inStep : session.InStep) (going : session.client.phase ≠ .ended) :
    session.requests.length ≤ session.received + 1 := by
  have paired := inStep.paired
  unfold Paired at paired
  cases phase : session.client.phase <;> simp only [phase] at paired
  case ended => exact absurd phase going
  case calling | blocked => exact paired.1.ge
  all_goals exact paired.1.ge.trans (Nat.le_succ _)

/-- so that at most one reply is there to be received. -/
theorem InStep.unread (inStep : session.InStep) (going : session.client.phase ≠ .ended) :
    session.replies.drop session.received = [] ∨
      ∃ reply, session.replies.drop session.received = [reply] ∧ Receivable reply := by
  cases unread : session.replies.drop session.received with
  | nil => exact .inl rfl
  | cons reply others =>
      have few := congrArg List.length unread
      have := inStep.requests_le going
      have := inStep.answered
      rw [List.length_drop, List.length_cons] at few
      obtain rfl : others = [] := List.length_eq_zero_iff.mp (by omega)
      exact .inr ⟨reply, rfl, inStep.sendable reply
        (List.mem_of_mem_drop (unread ▸ List.mem_singleton_self reply))⟩

/-- What a client faces are its session's bytes. -/
theorem InStep.facing_eq (inStep : session.InStep) (going : session.client.phase ≠ .ended) :
    session.client.facing (session.replies.drop session.received).flatten =
      session.fromHere := by
  rcases inStep.unread going with none | ⟨reply, one, receivable⟩
  · simp [Client.facing, fromHere, none]
  · simp [Client.facing, fromHere, one, receivable.1]

theorem going_of_step
    (notAnswer : ∀ reply, event ≠ .answer reply)
    (stepped : session.step cJSON username password event = some next) :
    session.client.phase ≠ .ended := by
  intro phase
  cases event with
  | answer reply => exact notAnswer reply rfl
  | _ => simp [Session.step, Session.proceed, phase] at stepped

end

end Session

/-! ## Messages and their bytes -/

namespace Wire

/-- A request with the zeros after it fills the client's buffer. -/
theorem requestBytes_cons
    {request : Text} {requests : List Text} (nonempty : request ≠ []) (clean : NUL ∉ request)
    (fits : request.length < BUFFER_SIZE) :
    requestBytes (request :: requests) =
      request ++ List.replicate (BUFFER_SIZE - request.length) NUL ++ requestBytes requests := by
  rw [requestBytes, Message.sent, List.map_cons, List.flatMap_cons]
  dsimp only [Message.bSize]
  rw [if_pos rfl, sendMessage_eq [] nonempty clean fits.le le_rfl, List.flatten_singleton]
  rfl

theorem requestBytes_append (first second : List Text) :
    requestBytes (first ++ second) = requestBytes first ++ requestBytes second := by
  rw [requestBytes, List.map_append, Message.sent, List.flatMap_append]
  rfl

/-- A reply is sent as it is. -/
theorem sent_reply (beyond : List Char) {reply : Text} (receivable : Receivable reply) :
    Message.sent beyond [{ text := reply, padded := false }] = reply := by
  have sent := sendMessage_eq beyond receivable.1 receivable.2.1 le_rfl receivable.2.2
  simpa [Message.sent, Message.bSize] using congrArg List.flatten sent

section

variable {Id Other : Type} [DecidableEq Id] [DecidableEq Other] {cJSON : CJson}
  {role : Other → Role} {username password : Id → Text} {beyond : List Char}

/-- The bytes are those of the messages that are not received yet. -/
structure Carries (wire : Wire Id Other) (network : Network Id Other) : Prop where
  client : ∀ id, wire.client id = (network.session id).client
  turn : wire.turn = network.turn
  system : wire.system = network.system
  toServer : ∀ id, wire.toServer id =
    requestBytes ((network.session id).requests.drop (network.received id))
  toClient : ∀ id, wire.toClient id =
    ((network.session id).replies.drop (network.session id).received).flatten

/-- The bytes are those of a network in which the replies stay paired. -/
structure Matches (cJSON : CJson) (username password : Id → Text) (wire : Wire Id Other)
    (network : Network Id Other) : Prop where
  carries : wire.Carries network
  inStep : ∀ id, (network.session id).InStep
  accounts : ∃ history, network.Accounts cJSON username password history
  fits : ∀ id, ∀ request ∈ (network.session id).requests,
    request ≠ [] ∧ NUL ∉ request ∧ request.length < BUFFER_SIZE

/-- What a connection process does with a request depends on the other processes and
the file, not on the clients. -/
theorem handle_matched
    {wire : Wire Id Other} {network after : Network Id Other} (turn : wire.turn = network.turn)
    (system : wire.system = network.system) {id : Id} {leftover request : Text}
    (handles : wire.network.handle cJSON role id leftover request = some after) :
    ∃ next, network.handle cJSON role id leftover request = some next ∧
      after.turn = next.turn ∧ after.system = next.system ∧ next.session = network.session ∧
        next.received = Function.update network.received id (network.received id + 1) := by
  simp only [Network.handle, Wire.network, Network.setTurn, turn, system] at handles ⊢
  cases order : orderOf cJSON request with
  | some update =>
      simp only [order] at handles ⊢
      obtain ⟨reached, begun, rfl⟩ := Option.map_eq_some_iff.mp handles
      exact ⟨_, Option.map_eq_some_iff.mpr ⟨reached, begun, rfl⟩, rfl, rfl, rfl, rfl⟩
  | none =>
      simp only [order] at handles ⊢
      obtain rfl := Option.some.inj handles
      exact ⟨_, rfl, rfl, rfl, rfl, rfl⟩

/-- Neither does a step of an update. -/
theorem act_matched
    {wire : Wire Id Other} {network after : Network Id Other} (turn : wire.turn = network.turn)
    (system : wire.system = network.system) {event : (Id ⊕ Other) × Action}
    (acts : wire.network.step cJSON role username password (.act event) = some after) :
    ∃ next, network.step cJSON role username password (.act event) = some next ∧
      after.turn = next.turn ∧ after.system = next.system ∧ next.session = network.session ∧
        next.received = network.received := by
  obtain ⟨pid, action⟩ := event
  obtain ⟨reached, taken, moved⟩ := Network.act_of_step acts
  change wire.system.step _ _ _ = _ at taken
  rw [system] at taken
  obtain ⟨id, rfl, updating, rfl⟩ | ⟨⟨other, rfl⟩, rfl⟩ := moved
  · change wire.turn id = .updating at updating
    rw [turn] at updating
    refine ⟨{ network.setTurn id (Network.afterAction cJSON
      (network.system.process (.inl id)).phase (reached.process (.inl id)).phase action) with
        system := reached }, ?_, ?_, rfl, rfl, rfl⟩
    · simp only [Network.step, updating]
      exact Option.map_eq_some_iff.mpr ⟨reached, taken, rfl⟩
    · simp [Network.setTurn, Wire.network, turn, system]
  · exact ⟨_, Option.map_eq_some_iff.mpr ⟨reached, taken, rfl⟩, turn, rfl, rfl, rfl⟩

namespace Matches

variable {wire : Wire Id Other} {network : Network Id Other} {id : Id}

/-- A client and what it faces are a session from here on. -/
theorem facing_eq (matched : Matches cJSON username password wire network)
    (going : (wire.client id).phase ≠ .ended) :
    (wire.client id).facing (wire.toClient id) = (network.session id).fromHere := by
  rw [matched.carries.client] at going ⊢
  rw [matched.carries.toClient, (matched.inStep id).facing_eq going]

/-- The `recv` of a client waits while its session's does. -/
theorem unbroken (matched : Matches cJSON username password wire network) {event : SessionEvent}
    (faced : Session.Unbroken ((wire.client id).facing (wire.toClient id)) event) :
    Session.Unbroken (network.session id) event := by
  cases event with
  | interrupt =>
      intro blocked
      have going : (wire.client id).phase ≠ .ended := by simp [matched.carries.client, blocked]
      rw [matched.facing_eq going] at faced
      have some : 0 < ((network.session id).replies.drop (network.session id).received).length :=
        faced blocked
      rw [List.length_drop] at some
      omega
  | _ => trivial

/-- A step of a client is one of its session. -/
theorem client
    (lawful : cJSON.Lawful) (matched : Matches cJSON username password wire network)
    {event : SessionEvent} (notAnswer : ∀ reply, event ≠ .answer reply)
    (unbroken : Session.Unbroken (network.session id) event)
    (fits : (wire.client id).phase = .sending →
      (wire.client id).sendSocketBuffer.length < BUFFER_SIZE)
    {session : Session}
    (stepped : (network.session id).fromHere.step cJSON (username id) (password id) event =
      some session)
    {bytes : List Char}
    (unread : bytes = ((network.session id).replies.drop
      ((network.session id).received + session.received)).flatten) :
    ∃ after, network.step cJSON role username password (.client id event) = some after ∧
      Matches cJSON username password
        { wire.follow id session with toClient := Function.update wire.toClient id bytes }
        after := by
  have taken : (network.session id).step cJSON (username id) (password id) event =
      some ((network.session id).onward session) := by
    rw [Session.step_fromHere notAnswer, stepped]
    rfl
  have steps : network.step cJSON role username password (.client id event) =
      some (network.setSession id ((network.session id).onward session)) := by
    cases event with
    | answer reply => exact absurd rfl (notAnswer reply)
    | _ =>
        rw [Network.step, taken]
        · rfl
        · exact notAnswer
  obtain ⟨history, accounts⟩ := matched.accounts
  refine ⟨_, steps, ?_, fun other => ?_, ⟨_, accounts.step lawful steps⟩, fun other => ?_⟩
  · obtain ⟨client, turn, system, toServer, toClient⟩ := matched.carries
    refine ⟨fun other => ?_, turn, system, fun other => ?_, fun other => ?_⟩
    · by_cases same : other = id
      · subst same
        simp [follow, Network.setSession, Session.onward]
      · simp [follow, Network.setSession, same, client]
    · by_cases same : other = id
      · subst same
        simp only [follow, Network.setSession, Session.onward, Function.update_self]
        rw [List.drop_append_of_le_length (accounts.served other).bounded, requestBytes_append,
          toServer]
      · simp [follow, Network.setSession, same, toServer]
    · by_cases same : other = id
      · subst same
        simp [Network.setSession, Session.onward, unread]
      · simp [Network.setSession, same, toClient]
  · by_cases same : other = id
    · subst same
      simpa [Network.setSession] using (matched.inStep other).step lawful unbroken taken
    · simpa [Network.setSession, same] using matched.inStep other
  · by_cases same : other = id
    · subst same
      simp only [Network.setSession, Function.update_self]
      rcases Session.step_requests taken with kept | ⟨sending, added⟩
      · rw [kept]
        exact matched.fits other
      · rw [added]
        intro request present
        rcases List.mem_append.mp present with earlier | now
        · exact matched.fits other request earlier
        · have short := fits (by rw [matched.carries.client, sending])
          have isRequest := (accounts.served other).stock.next (by simp [sending])
            (by simp [sending])
          rw [matched.carries.client] at short
          obtain ⟨fields, printed⟩ := isRequest.exists_fields lawful
          rw [List.mem_singleton.mp now]
          refine ⟨?_, ?_, short⟩
          · rw [printed]
            exact lawful.print_ne_nil _
          · rw [printed]
            exact lawful.print_no_nul _
    · simpa [Network.setSession, same] using matched.fits other

/-- What a connection process receives is the next request. -/
theorem take
    (lawful : cJSON.Lawful) (matched : Matches cJSON username password wire network)
    {leftover : Text} {size : Nat} (receiving : wire.turn id = .receiving) (some : 1 ≤ size)
    (arrived : size = min (wire.toServer id).length BUFFER_SIZE) {after : Network Id Other}
    (handles : (wire.consume id size).network.handle cJSON role id leftover
      (recvTcpMessage (Option.some ((wire.toServer id).take size))).2 = Option.some after) :
    ∃ next, network.step cJSON role username password (.take id leftover) = Option.some next ∧
      Matches cJSON username password ((wire.consume id size).adopt after) next := by
  obtain ⟨client, turn, system, toServer, toClient⟩ := matched.carries
  cases waiting : (network.session id).requests.drop (network.received id) with
  | nil =>
      have empty : wire.toServer id = [] := by
        rw [toServer, waiting]
        rfl
      simp only [empty, List.length_nil, Nat.zero_min] at arrived
      omega
  | cons request others =>
      have found : (network.session id).requests[network.received id]? = Option.some request := by
        rw [← List.head?_drop, waiting, List.head?_cons]
      have later : (network.session id).requests.drop (network.received id + 1) = others := by
        rw [← List.tail_drop, waiting, List.tail_cons]
      obtain ⟨nonempty, clean, fits⟩ := matched.fits id request (List.mem_of_getElem? found)
      have bytes := toServer id
      rw [waiting, requestBytes_cons nonempty clean fits] at bytes
      have whole : (request ++ List.replicate (BUFFER_SIZE - request.length) NUL).length =
          BUFFER_SIZE := by
        rw [List.length_append, List.length_replicate]
        omega
      obtain rfl : size = BUFFER_SIZE := by
        rw [arrived, bytes, List.length_append, whole]
        omega
      have taken : (wire.toServer id).take BUFFER_SIZE =
          request ++ List.replicate (BUFFER_SIZE - request.length) NUL := by
        rw [bytes, List.take_left' whole]
      have rest : (wire.toServer id).drop BUFFER_SIZE = requestBytes others := by
        rw [bytes, List.drop_left' whole]
      have received : (recvTcpMessage (Option.some ((wire.toServer id).take BUFFER_SIZE))).2 =
          request := by
        rw [taken]
        exact Framing.untilStop_append_replicate clean _
      rw [received] at handles
      obtain ⟨next, handled, sameTurn, sameSystem, sessions, counts⟩ :=
        handle_matched (show (wire.consume id BUFFER_SIZE).turn = network.turn from turn) system
          handles
      rw [turn] at receiving
      have steps : network.step cJSON role username password (.take id leftover) =
          Option.some next := by
        simp only [Network.step, receiving, found]
        exact handled
      obtain ⟨history, accounts⟩ := matched.accounts
      refine ⟨next, steps, ⟨fun other => ?_, sameTurn, sameSystem, fun other => ?_,
        fun other => ?_⟩, fun other => ?_, ⟨_, accounts.step lawful steps⟩, fun other => ?_⟩
      · rw [sessions]
        exact client other
      · rw [sessions, counts]
        by_cases same : other = id
        · subst same
          simp only [adopt, consume, Function.update_self]
          rw [rest, later]
        · simp [adopt, consume, same, toServer]
      · rw [sessions]
        exact toClient other
      · rw [sessions]
        exact matched.inStep other
      · rw [sessions]
        exact matched.fits other

/-- A step of an update leaves the connections alone. -/
theorem act
    (lawful : cJSON.Lawful) (matched : Matches cJSON username password wire network)
    {event : (Id ⊕ Other) × Action} {after : Network Id Other}
    (acts : wire.network.step cJSON role username password (.act event) = some after) :
    ∃ next, network.step cJSON role username password (.act event) = some next ∧
      Matches cJSON username password (wire.adopt after) next := by
  obtain ⟨client, turn, system, toServer, toClient⟩ := matched.carries
  obtain ⟨next, steps, sameTurn, sameSystem, sessions, counts⟩ := act_matched turn system acts
  obtain ⟨history, accounts⟩ := matched.accounts
  refine ⟨next, steps, ⟨fun id => ?_, sameTurn, sameSystem, fun id => ?_, fun id => ?_⟩,
    fun id => ?_, ⟨_, accounts.step lawful steps⟩, fun id => ?_⟩
  · rw [sessions]
    exact client id
  · rw [sessions, counts]
    exact toServer id
  · rw [sessions]
    exact toClient id
  · rw [sessions]
    exact matched.inStep id
  · rw [sessions]
    exact matched.fits id

/-- A reply adds its bytes to those that are not received. -/
theorem reply
    (lawful : cJSON.Lawful) (matched : Matches cJSON username password wire network)
    {sent : Option Text} {outcome : Outcome} (replying : wire.turn id = .replying sent outcome)
    (receivable : ∀ message, sent = some message → Receivable message) :
    ∃ next, network.step cJSON role username password (.reply id) = some next ∧
      Matches cJSON username password
        { wire with
          toClient := Function.update wire.toClient id
            (wire.toClient id ++ Message.sent beyond
              (sent.toList.map fun text => { text, padded := false }))
          turn := Function.update wire.turn id (if outcome = .waits then .receiving else .ended)
          system := Network.post cJSON role wire.system id } next := by
  obtain ⟨client, turn, system, toServer, toClient⟩ := matched.carries
  obtain ⟨history, accounts⟩ := matched.accounts
  have served := accounts.served id
  rw [turn] at replying
  have atTurn := served.atTurn
  rw [replying] at atTurn
  have unanswered : (network.session id).replies.length < (network.session id).requests.length :=
    Nat.lt_of_lt_of_le (Nat.lt_of_succ_le atTurn.1.le) served.bounded
  have sends : (network.session id).afterMessage cJSON (username id) (password id) sent =
      some { network.session id with
        replies := (network.session id).replies ++ sent.toList } := by
    cases sent with
    | none => simp [Session.afterMessage]
    | some message =>
        simp only [Session.afterMessage, Session.step]
        rw [if_pos ⟨unanswered, receivable message rfl⟩]
        rfl
  have written : Message.sent beyond (sent.toList.map fun text => { text, padded := false }) =
      sent.toList.flatten := by
    cases sent with
    | none => rfl
    | some message =>
        simpa using sent_reply beyond (receivable message rfl)
  have steps : network.step cJSON role username password (.reply id) =
      some { (network.setSession id { network.session id with
        replies := (network.session id).replies ++ sent.toList }).setTurn id
          (if outcome = .waits then .receiving else .ended) with
        system := Network.post cJSON role network.system id } := by
    simp only [Network.step, replying, sends]
    rfl
  refine ⟨_, steps, ⟨fun other => ?_, ?_, ?_, fun other => ?_, fun other => ?_⟩, fun other => ?_,
    ⟨_, accounts.step lawful steps⟩, fun other => ?_⟩
  · by_cases same : other = id
    · subst same
      simp [Network.setSession, Network.setTurn, client]
    · simp [Network.setSession, Network.setTurn, same, client]
  · simp [Network.setSession, Network.setTurn, turn]
  · simp [system]
  · by_cases same : other = id
    · subst same
      simp [Network.setSession, Network.setTurn, toServer]
    · simp [Network.setSession, Network.setTurn, same, toServer]
  · by_cases same : other = id
    · subst same
      simp only [Network.setSession, Network.setTurn, Function.update_self]
      rw [List.drop_append_of_le_length (matched.inStep other).available, List.flatten_append,
        written, toClient]
    · simp [Network.setSession, Network.setTurn, same, toClient]
  · by_cases same : other = id
    · subst same
      simpa [Network.setSession, Network.setTurn] using
        Network.inStep_afterMessage lawful (matched.inStep other) sends
    · simpa [Network.setSession, Network.setTurn, same] using matched.inStep other
  · by_cases same : other = id
    · subst same
      simpa [Network.setSession, Network.setTurn] using matched.fits other
    · simpa [Network.setSession, Network.setTurn, same] using matched.fits other

/-- The step lemma: every event with bytes is one of the network. -/
theorem step
    (lawful : cJSON.Lawful) (matched : Matches cJSON username password wire network)
    {event : WireEvent Id Other} (whole : wire.Whole event) {next : Wire Id Other}
    (stepped : wire.step cJSON role username password beyond event = some next) :
    ∃ after, network.step cJSON role username password event.message = some after ∧
      Matches cJSON username password next after := by
  cases event with
  | client id event =>
      have notAnswer : ∀ reply, event ≠ .answer reply := by
        rintro reply rfl
        simp [Wire.step] at stepped
      have elsewhere : event = .proceed → (wire.client id).phase ≠ .blocked := by
        rintro rfl blocked
        simp [Wire.step, blocked] at stepped
      have taken : wire.clientStep cJSON username password id (wire.toClient id) event =
          some next := by
        cases event with
        | proceed => simpa [Wire.step, elsewhere rfl] using stepped
        | answer reply => exact absurd rfl (notAnswer reply)
        | _ => exact stepped
      obtain ⟨session, moved, rfl⟩ := Option.map_eq_some_iff.mp taken
      have none : session.received = 0 := Session.received_of_step moved elsewhere
      obtain ⟨faced, fits⟩ := whole
      have unbroken := matched.unbroken faced
      have going : (wire.client id).phase ≠ .ended := Session.going_of_step notAnswer moved
      rw [matched.facing_eq going] at moved
      have unread : wire.toClient id = ((network.session id).replies.drop
          ((network.session id).received + session.received)).flatten := by
        rw [none, Nat.add_zero]
        exact matched.carries.toClient id
      obtain ⟨after, steps, matches'⟩ := matched.client lawful notAnswer unbroken fits moved unread
      rw [Function.update_eq_self] at matches'
      exact ⟨after, steps, matches'⟩
  | receive id size =>
      simp only [Wire.step] at stepped
      split_ifs at stepped with received
      obtain ⟨blocked, some, _, _⟩ := received
      have going : (wire.client id).phase ≠ .ended := by simp [blocked]
      have inStep := matched.inStep id
      have unread := matched.carries.toClient id
      have all : (wire.toClient id).length ≤ BUFFER_SIZE := by
        rw [unread]
        rcases inStep.unread (matched.carries.client id ▸ going) with none | ⟨reply, one, fits⟩
        · simp [none]
        · simpa [one] using fits.2.2
      obtain rfl : size = (wire.toClient id).length := whole.trans (min_eq_left all)
      rw [List.take_length, List.drop_length, Option.map_eq_some_iff] at stepped
      obtain ⟨_, taken, rfl⟩ := stepped
      obtain ⟨session, moved, rfl⟩ := Option.map_eq_some_iff.mp taken
      rw [matched.facing_eq going] at moved
      have one : session.received = 1 := by
        have received := moved
        rw [matched.carries.client] at blocked
        simp only [Session.step, Session.proceed, Session.fromHere, blocked] at received
        obtain ⟨_, _, rfl⟩ := Option.map_eq_some_iff.mp received
        rfl
      have nothing : [] = ((network.session id).replies.drop
          ((network.session id).received + session.received)).flatten := by
        have few := inStep.requests_le (matched.carries.client id ▸ going)
        rw [one, List.drop_of_length_le (inStep.answered.trans few)]
        rfl
      have unbroken : Session.Unbroken (network.session id) .proceed := True.intro
      exact matched.client lawful (by simp) unbroken (by simp [blocked]) moved nothing
  | take id leftover size =>
      simp only [Wire.step] at stepped
      split at stepped
      case h_1 receiving =>
        split_ifs at stepped with sized
        obtain ⟨after, handles, rfl⟩ := Option.map_eq_some_iff.mp stepped
        exact matched.take lawful receiving sized.1 whole handles
      case h_2 => simp at stepped
  | act event =>
      obtain ⟨after, acts, rfl⟩ := Option.map_eq_some_iff.mp stepped
      exact matched.act lawful acts
  | reply id =>
      simp only [Wire.step] at stepped
      split at stepped
      case h_1 sent outcome replying =>
        obtain rfl := Option.some.inj stepped
        exact matched.reply lawful replying fun message is =>
          whole message outcome (is ▸ replying)
      case h_2 => simp at stepped

/-- So is every event of a run without stale writes. -/
theorem orderly
    (matched : Matches cJSON username password wire network) {event : WireEvent Id Other}
    (whole : wire.Whole event) (undisturbed : wire.Undisturbed cJSON event) :
    network.Orderly cJSON event.message := by
  cases event with
  | client id event => exact matched.unbroken whole.1
  | receive id size => exact True.intro
  | act event =>
      change Refuge.Undisturbed cJSON wire.system event at undisturbed
      rwa [matched.carries.system] at undisturbed
  | _ => trivial

/-- As long as a client goes on, one message is on its way to it or from it, or none. -/
theorem few
    (matched : Matches cJSON username password wire network)
    (going : (wire.client id).phase ≠ .ended) :
    (wire.toServer id).length + (wire.toClient id).length ≤ BUFFER_SIZE ∧
      (wire.toServer id = [] ∨ wire.toClient id = []) := by
  obtain ⟨client, turn, system, toServer, toClient⟩ := matched.carries
  rw [client] at going
  obtain ⟨history, accounts⟩ := matched.accounts
  have served := accounts.served id
  have inStep := matched.inStep id
  have requests := inStep.requests_le going
  have replied : (network.session id).replies.length ≤ network.received id :=
    served.atTurn.replies_le.trans (Nat.sub_le _ _)
  rw [toServer, toClient]
  rcases inStep.unread going with none | ⟨reply, one, fits⟩
  · rw [none]
    refine ⟨?_, .inr rfl⟩
    cases waiting : (network.session id).requests.drop (network.received id) with
    | nil => exact Nat.zero_le _
    | cons request others =>
        have count := congrArg List.length waiting
        have available := inStep.available
        rw [List.length_drop, List.length_cons] at count
        obtain rfl : others = [] := List.length_eq_zero_iff.mp (by omega)
        obtain ⟨nonempty, clean, fits⟩ := matched.fits id request
          (List.mem_of_mem_drop (waiting ▸ List.mem_singleton_self request))
        rw [requestBytes_cons nonempty clean fits]
        simp [requestBytes, Message.sent]
        omega
  · have count := congrArg List.length one
    rw [List.length_drop, List.length_singleton] at count
    have nothing : (network.session id).requests.drop (network.received id) = [] :=
      List.drop_eq_nil_iff.mpr (by omega)
    rw [nothing, one]
    refine ⟨?_, .inl rfl⟩
    simpa [requestBytes, Message.sent] using fits.2.2

end Matches

theorem matches_wired
    {network : Network Id Other} (fresh : network.Fresh) :
    Matches cJSON username password network.wired network := by
  have accounts : network.Accounts cJSON username password [] := Network.Fresh.accounts fresh
  obtain ⟨sessions, _, received, _⟩ := fresh
  refine ⟨⟨fun _ => rfl, rfl, rfl, fun id => ?_, fun id => ?_⟩, fun id => (sessions id).inStep,
    ⟨[], accounts⟩, fun id => ?_⟩
  · rw [(sessions id).2.1, List.drop_nil]
    rfl
  · rw [(sessions id).2.2.1, List.drop_nil]
    rfl
  · simp [(sessions id).2.1]

/-- As long as each `recv` takes what has arrived, a run of the clients and their connection
processes with bytes is a run of the network with messages: the same clients and processes,
file and completed updates at its end, and on every connection the bytes of the messages that
are not received.  No connection carries two messages at a time. -/
theorem bytes_carry_messages
    (lawful : cJSON.Lawful) {network : Network Id Other} (fresh : network.Fresh)
    {events : List (WireEvent Id Other)} {final : Wire Id Other}
    (whole : Along (Wire.step cJSON role username password beyond) Whole network.wired events)
    (reached : run (Wire.step cJSON role username password beyond) network.wired events =
      some final) :
    ∃ after,
      run (Network.step cJSON role username password) network
          (events.map WireEvent.message) = some after ∧
        final.Carries after ∧
          (∀ id, (final.client id).phase ≠ .ended →
            (final.toServer id).length + (final.toClient id).length ≤ BUFFER_SIZE ∧
              (final.toServer id = [] ∨ final.toClient id = [])) ∧
            (Along (Wire.step cJSON role username password beyond) (Wire.Undisturbed cJSON)
                network.wired events →
              Along (Network.step cJSON role username password) (Network.Orderly cJSON) network
                (events.map WireEvent.message)) := by
  have start : Matches cJSON username password network.wired network := matches_wired fresh
  obtain ⟨after, ran, matched⟩ := run_simulates
    (fun _ _ _ _ matched whole stepped => matched.step lawful whole stepped) start whole reached
  refine ⟨after, ran, matched.carries, fun id going => matched.few going, fun undisturbed => ?_⟩
  exact Along.of_simulates
    (fun _ _ _ _ matched both stepped => matched.step lawful both.1 stepped)
    (fun _ _ _ matched both => matched.orderly both.1 both.2) start (whole.and undisturbed) reached

end

/-- An administrator's client that has just connected, and the alert module. -/
def oneAdmin : Wire Unit Unit :=
  Network.oneAdmin.wired

/-- The steps with bytes of that network. -/
def adminStep : Wire Unit Unit → WireEvent Unit Unit → Option (Wire Unit Unit) :=
  Wire.step .reference (fun _ => .alert) (fun _ => ADMIN) (fun _ => ADMIN) []

/-- An order is sent and carried out, and its reply is received. -/
def orderReceived : List (WireEvent Unit Unit) :=
  [.client () (.choose (some (.modifySupplies waterOrder))), .client () .proceed,
    .take () [] 1024, .act (.inl (), .read), .act (.inl (), .write), .reply (),
    .client () .proceed, .receive () 101, .client () .proceed]

set_option maxRecDepth 10000 in
theorem bytes_carry_messages_order :
    ∃ final after, run adminStep oneAdmin orderReceived = some final ∧
      run Network.adminStep Network.oneAdmin (orderReceived.map WireEvent.message) = some after ∧
        final.Carries after ∧ (after.session ()).examined.length = 1 := by
  have goes : (run adminStep oneAdmin orderReceived).isSome := by decide +kernel
  have whole : Along adminStep Whole oneAdmin orderReceived := by decide +kernel
  have examined : (run Network.adminStep Network.oneAdmin
      (orderReceived.map WireEvent.message)).map (fun after => (after.session ()).examined.length) =
        some 1 := by decide +kernel
  obtain ⟨final, reached⟩ := Option.isSome_iff_exists.mp goes
  obtain ⟨after, ran, carries, _⟩ :=
    bytes_carry_messages CJson.reference_lawful Network.fresh_oneAdmin whole reached
  have ran : run Network.adminStep Network.oneAdmin (orderReceived.map WireEvent.message) =
    some after := ran
  rw [ran] at examined
  exact ⟨final, after, reached, ran, carries, Option.some.inj examined⟩

end Wire

end Refuge
