import Refuge.ClientLoop
import Refuge.Dialogue
import Refuge.Processes
import Refuge.Foundation.History

/-!
# Administrators, their connections and the shared file

Any number of administrators' clients run their loops, each against the
connection process that was forked for it, while the alert module and the
emergency processes update the same file.  Everything interleaves: the clients
go on, the connection processes handle one request after the other, and an
order takes its file operations one by one like every other update.
-/

namespace Refuge

open Foundation

/-- Where a connection process is in its loop. -/
inductive Turn
  /-- In `recv_tcp_message`. -/
  | receiving
  /-- In `set_supply`. -/
  | updating
  /-- The request is handled, up to sending the message. -/
  | replying (sent : Option Text) (outcome : Outcome)
  | ended

/-- The clients, their connection processes, how many requests each of these has
received, and the processes that share the file. -/
structure Network (Id Other : Type) where
  session : Id → Session
  turn : Id → Turn
  received : Id → Nat
  system : System (Id ⊕ Other)

/-- What can happen. -/
inductive NetworkEvent (Id Other : Type)
  /-- The user or the client does something, or SIGINT arrives. -/
  | client (id : Id) (event : SessionEvent)
  /-- A connection process receives a request; `leftover` is what the memory
  allocated for a message holds. -/
  | take (id : Id) (leftover : Text)
  /-- A process takes a step of its update. -/
  | act (event : (Id ⊕ Other) × Action)
  /-- A connection process sends its message. -/
  | reply (id : Id)

/-- The update a request makes: `set_supply` once the credentials are checked. -/
def orderOf (cJSON : CJson) (recvSocketBuffer : Text) : Option Update :=
  if recvSocketBuffer ≠ [] ∧ getCommand cJSON false recvSocketBuffer = OPTION2_ ∧
      checkCredentials cJSON recvSocketBuffer = 0 then
    match supplyArguments cJSON recvSocketBuffer with
    | .error _ => none
    | .ok (category, key, value) => some (.setSupply category key value)
  else none

/-- The connection processes are the administrators'. -/
def roleIn {Id Other : Type} (role : Other → Role) : Id ⊕ Other → Role :=
  Sum.elim (fun _ => .admin) role

/-- What the client has once a message is sent to it, if one is. -/
def Session.afterMessage (cJSON : CJson) (username password : Text) (session : Session) :
    Option Text → Option Session
  | some message => session.step cJSON username password (.answer message)
  | none => some session

namespace Network

section

variable {Id Other : Type} [DecidableEq Id] [DecidableEq Other]

/-- Replace the session of one client. -/
def setSession (network : Network Id Other) (id : Id) (session : Session) : Network Id Other :=
  { network with session := Function.update network.session id session }

/-- Move one connection process. -/
def setTurn (network : Network Id Other) (id : Id) (turn : Turn) : Network Id Other :=
  { network with turn := Function.update network.turn id turn }

variable (cJSON : CJson) (role : Other → Role)

/-- A connection process begins to handle a request. -/
def handle (network : Network Id Other) (id : Id) (leftover request : Text) :
    Option (Network Id Other) :=
  let network :=
    { network with
      received := Function.update network.received id (network.received id + 1) }
  match orderOf cJSON request with
  | some update =>
      (network.system.step cJSON (roleIn role) (.inl id, .start update)).map fun system =>
        { network.setTurn id .updating with system }
  | none =>
      -- The file is left alone and read at most once.
      let handled := runAdminServer cJSON { calm with leftover } request network.system.file
      some (network.setTurn id (.replying handled.sent handled.outcome))

/-- Where a connection process is after a step of its update. -/
def afterAction (before after : Phase) : Action → Turn
  | .write =>
      match before, after with
      | .read update buffer _, .returned 0 => .replying (update.edit cJSON buffer).toOption .waits
      | _, _ => .updating
  | .finish => .ended
  | _ => .updating

/-- `sem_post` after an order. -/
def post (system : System (Id ⊕ Other)) (id : Id) : System (Id ⊕ Other) :=
  (system.step cJSON (roleIn role) (.inl id, .finish)).getD system

variable (username password : Id → Text)

/-- One event of the network. -/
def step (network : Network Id Other) : NetworkEvent Id Other → Option (Network Id Other)
  | .client _ (.answer _) => none
  | .client id event =>
      ((network.session id).step cJSON (username id) (password id) event).map
        (network.setSession id)
  | .take id leftover =>
      match network.turn id, (network.session id).requests[network.received id]? with
      | .receiving, some request => network.handle cJSON role id leftover request
      | _, _ => none
  | .act (.inl id, action) =>
      match network.turn id with
      | .updating =>
          (network.system.step cJSON (roleIn role) (.inl id, action)).map fun system =>
            { network.setTurn id
                (afterAction cJSON (network.system.process (.inl id)).phase
                  (system.process (.inl id)).phase action) with
              system }
      | _ => none
  | .act (.inr other, action) =>
      (network.system.step cJSON (roleIn role) (.inr other, action)).map fun system =>
        { network with system }
  | .reply id =>
      match network.turn id with
      | .replying sent outcome =>
          ((network.session id).afterMessage cJSON (username id) (password id) sent).map
            fun session =>
              { (network.setSession id session).setTurn id
                  (if outcome = .waits then .receiving else .ended) with
                system := post cJSON role network.system id }
      | _ => none

end

/-- The clients have connected, and nothing has been sent or updated. -/
def Fresh {Id Other : Type} (network : Network Id Other) : Prop :=
  (∀ id, (network.session id).Fresh) ∧ (∀ id, network.turn id = .receiving) ∧
    (∀ id, network.received id = 0) ∧ network.system.Fresh

/-- No SIGINT arrives while a client is blocked in `recv`, and no write is stale. -/
def Orderly {Id Other : Type} (cJSON : CJson) (network : Network Id Other) :
    NetworkEvent Id Other → Prop
  | .client id event => Session.Unbroken (network.session id) event
  | .act event => Undisturbed cJSON network.system event
  | _ => True

end Network

/-! ## What a process's step does to its phase -/

section

variable {Pid : Type} [DecidableEq Pid] {cJSON : CJson} {role : Pid → Role}

/-- What a step makes of the phase of its process, the file and the completed updates. -/
inductive Moves (cJSON : CJson) (role : Role) (file : Text) (completed : List Update) :
    Phase → Action → Phase → Text → List Update → Prop
  | start (update : Update) :
      Moves cJSON role file completed .idle (.start update) (.started update) file completed
  | readFailed (update : Update) :
      Moves cJSON role file completed (.started update) .read (.returned 1) file completed
  | read (update : Update) :
      Moves cJSON role file completed (.started update) .read
        (.read update file completed.length) file completed
  | editFailed (update : Update) (buffer : Text) (seen : Nat) :
      Moves cJSON role file completed (.read update buffer seen) .write (.returned 1) file
        completed
  | written (update : Update) (buffer : Text) (seen : Nat) (text : Text)
      (edited : update.edit cJSON buffer = .ok text) :
      Moves cJSON role file completed (.read update buffer seen) .write (.returned 0)
        (if text = [] then file else text) (completed ++ [update])
  | finished (code : Int) :
      Moves cJSON role file completed (.returned code) .finish
        (if role = .admin ∧ code ≠ 0 then .ended else .idle) file completed

theorem writeFile_none_eq (file text : Text) :
    writeFile .none file text = (0, if text = [] then file else text) := by
  cases text with
  | nil => rfl
  | cons byte rest => simp

/-- A step moves one process and leaves the others as they are. -/
theorem System.step_moves
    {system next : System Pid} {pid : Pid} {action : Action}
    (stepped : system.step cJSON role (pid, action) = some next) :
    Moves cJSON (role pid) system.file system.completed (system.process pid).phase action
        (next.process pid).phase next.file next.completed ∧
      ∀ other, other ≠ pid → next.process other = system.process other := by
  cases action with
  | start update =>
      simp only [System.step] at stepped
      cases phase : (system.process pid).phase with
      | idle =>
          simp only [phase] at stepped
          split_ifs at stepped <;> obtain rfl := Option.some.inj stepped
          all_goals
            refine ⟨?_, fun other different => ?_⟩
            · simpa [System.setProcess_process] using .start update
            · rw [System.setProcess_process, if_neg different]
      | _ => simp [phase] at stepped
  | read =>
      simp only [System.step] at stepped
      cases phase : (system.process pid).phase with
      | started update =>
          simp only [phase] at stepped
          cases read : readFile .none system.file with
          | error code =>
              simp only [read] at stepped
              obtain rfl := Option.some.inj stepped
              refine ⟨?_, fun other different => ?_⟩
              · simpa [System.setProcess_process] using .readFailed update
              · rw [System.setProcess_process, if_neg different]
          | ok buffer =>
              simp only [read] at stepped
              obtain rfl := Option.some.inj stepped
              obtain ⟨rfl, _⟩ := readFile_eq_ok read
              refine ⟨?_, fun other different => ?_⟩
              · simpa [System.setProcess_process] using .read update
              · rw [System.setProcess_process, if_neg different]
      | _ => simp [phase] at stepped
  | write =>
      simp only [System.step] at stepped
      cases phase : (system.process pid).phase with
      | read update buffer seen =>
          simp only [phase] at stepped
          cases edited : update.edit cJSON buffer with
          | error code =>
              simp only [edited] at stepped
              obtain rfl := Option.some.inj stepped
              refine ⟨?_, fun other different => ?_⟩
              · simpa [System.setProcess_process] using .editFailed update buffer seen
              · rw [System.setProcess_process, if_neg different]
          | ok text =>
              simp only [edited, writeFile_none_eq] at stepped
              obtain rfl := Option.some.inj stepped
              refine ⟨?_, fun other different => ?_⟩
              · simpa [System.setProcess] using .written update buffer seen text edited
              · change (system.setProcess pid _).process other = _
                rw [System.setProcess_process, if_neg different]
      | _ => simp [phase] at stepped
  | finish =>
      simp only [System.step] at stepped
      cases phase : (system.process pid).phase with
      | returned code =>
          simp only [phase] at stepped
          have finished := @Moves.finished cJSON (role pid) system.file system.completed code
          split_ifs at stepped with isAdmin zero <;> obtain rfl := Option.some.inj stepped
          all_goals
            refine ⟨?_, fun other different => ?_⟩
            · simpa [System.setProcess_process, *] using finished
            · rw [System.setProcess_process, if_neg different]
      | _ => simp [phase] at stepped
end

/-! ## The requests of a client -/

/-- A request the client makes: of a choice, or of the polling loop. -/
def IsRequest (cJSON : CJson) (username password request : Text) : Prop :=
  (∃ choice, request = clientRequest cJSON choice username password) ∨
    request = getOptions cJSON .getStatus []

section

variable {cJSON : CJson} {username password request : Text}

theorem getCommand_textObject
    (lawful : cJSON.Lawful) {fields : List (Text × Text)}
    (found : Members.lookup fields K_COMMAND = some OPTION1) :
    getCommand cJSON false (cJSON.print (textObject fields)) = OPTION1_ := by
  rw [getCommand, if_neg (by decide), getValueOfKeyFromJsonString_textObject lawful found]
  decide

/-- A request is an object of texts. -/
theorem IsRequest.exists_fields
    (lawful : cJSON.Lawful) (isRequest : IsRequest cJSON username password request) :
    ∃ fields, request = cJSON.print (textObject fields) := by
  rcases isRequest with ⟨choice | order, rfl⟩ | rfl
  · exact ⟨statusFields username password,
      foldl_addText lawful (by simp [statusFields]) Buffered.nodup_names_statusFields⟩
  · exact ⟨_, clientRequest_modifySupplies lawful order username password⟩
  · have distinct : (Members.names pollFields).Nodup := by decide
    exact ⟨pollFields, foldl_addText lawful (by simp [pollFields]) distinct⟩

/-- The client asks for the state or makes an order. -/
theorem IsRequest.asks_or_orders
    (lawful : cJSON.Lawful) (isRequest : IsRequest cJSON username password request) :
    request ≠ [] ∧ (getCommand cJSON false request = OPTION1_ ∨
      ∃ order, request = clientRequest cJSON (.modifySupplies order) username password) := by
  rcases isRequest with ⟨choice | order, rfl⟩ | rfl
  · have content : clientRequest cJSON .getStatus username password =
        cJSON.print (textObject (statusFields username password)) :=
      foldl_addText lawful (by simp [statusFields]) Buffered.nodup_names_statusFields
    rw [content]
    exact ⟨lawful.print_ne_nil _, .inl (getCommand_textObject lawful rfl)⟩
  · exact ⟨Session.clientRequest_ne_nil lawful _ _ _, .inr ⟨order, rfl⟩⟩
  · have distinct : (Members.names pollFields).Nodup := by decide
    have content : getOptions cJSON .getStatus [] = cJSON.print (textObject pollFields) :=
      foldl_addText lawful (by simp [pollFields]) distinct
    rw [content]
    exact ⟨lawful.print_ne_nil _, .inl (getCommand_textObject lawful rfl)⟩

/-- An order sets a supply. -/
theorem exists_of_orderOf {update : Update} (isOrder : orderOf cJSON request = some update) :
    ∃ category key value, update = .setSupply category key value := by
  unfold orderOf at isOrder
  split_ifs at isOrder
  split at isOrder
  · cases isOrder
  · exact ⟨_, _, _, (Option.some.inj isOrder).symm⟩

/-- A request for the state is no order. -/
theorem orderOf_of_status (asks : getCommand cJSON false request = OPTION1_) :
    orderOf cJSON request = none := by
  have different : OPTION1_ ≠ OPTION2_ := by decide
  simp [orderOf, asks, different]

/-- An order is one with the administrator's credentials. -/
theorem orderOf_clientRequest (lawful : cJSON.Lawful) (order : SupplyOrder) :
    orderOf cJSON (clientRequest cJSON (.modifySupplies order) username password) =
      if clientCheckCredentials username password = 1 then
        some (.setSupply order.supplyType.equivalent order.key (sprintfD order.value))
      else none := by
  simp only [orderOf, Session.clientRequest_ne_nil lawful, getCommand_clientRequest lawful,
    checkCredentials_clientRequest lawful, supplyArguments_clientRequest lawful, ne_eq,
    not_false_eq_true, true_and]

/-- A request that makes no order leaves the file alone. -/
theorem runAdminServer_file_of_orderOf
    {surroundings : Surroundings} {file : Text} (uninterrupted : surroundings.flagHandler = false)
    (noOrder : orderOf cJSON request = none) :
    (runAdminServer cJSON surroundings request file).file = file := by
  dsimp only [runAdminServer]
  split_ifs with empty close status modify denied
  · rfl
  · exact endConn_file
  · exact sendSupplyMessage_file
  · exact sendDeneidMessage_file
  · rw [uninterrupted] at modify
    rw [not_not] at denied
    rw [orderOf, if_pos ⟨empty, modify, denied⟩] at noOrder
    unfold setAndSendSuplyStatus setSupply
    cases arguments : supplyArguments cJSON request with
    | error code => rfl
    | ok texts => simp [arguments] at noOrder
  · rfl

end

namespace Session

section

variable {cJSON : CJson} {username password : Text}

/-- A client's step sends at most one request, and only when it is about to. -/
theorem step_requests
    {session next : Session} {event : SessionEvent}
    (stepped : session.step cJSON username password event = some next) :
    next.requests = session.requests ∨
      session.client.phase = .sending ∧
        next.requests = session.requests ++ [session.client.sendSocketBuffer] := by
  cases event with
  | answer reply =>
      simp only [Session.step] at stepped
      split_ifs at stepped
      exact .inl (Option.some.inj stepped ▸ rfl)
  | choose choice =>
      simp only [Session.step] at stepped
      split at stepped
      case h_4 => simp at stepped
      all_goals exact .inl (Option.some.inj stepped ▸ rfl)
  | interrupt =>
      simp only [Session.step, Client.signHandler_phase] at stepped
      cases phase : session.client.phase with
      | ended => simp [phase] at stepped
      | blocked =>
          simp only [phase] at stepped
          split_ifs at stepped <;> exact .inl (Option.some.inj stepped ▸ rfl)
      | _ =>
          simp only [phase] at stepped
          exact .inl (Option.some.inj stepped ▸ rfl)
  | proceed =>
      simp only [Session.step, Session.proceed] at stepped
      cases phase : session.client.phase with
      | sending =>
          simp only [phase] at stepped
          obtain rfl := Option.some.inj stepped
          by_cases empty : session.client.sendSocketBuffer = []
          · exact .inl (if_pos empty)
          · exact .inr ⟨rfl, if_neg empty⟩
      | choosing | looping =>
          simp only [phase] at stepped
          split_ifs at stepped <;> exact .inl (Option.some.inj stepped ▸ rfl)
      | blocked =>
          simp only [phase] at stepped
          obtain ⟨reply, _, rfl⟩ := Option.map_eq_some_iff.mp stepped
          exact .inl rfl
      | ended => simp [phase] at stepped
      | _ =>
          simp only [phase] at stepped
          exact .inl (Option.some.inj stepped ▸ rfl)

/-- The requests sent and the one to be sent next are the client's own. -/
structure Stock (cJSON : CJson) (username password : Text) (session : Session) : Prop where
  sent : ∀ request ∈ session.requests, IsRequest cJSON username password request
  next : session.client.phase ≠ .choosing → session.client.phase ≠ .ended →
    IsRequest cJSON username password session.client.sendSocketBuffer

theorem Fresh.stock {session : Session} (fresh : session.Fresh) :
    Stock cJSON username password session where
  sent := by simp [fresh.2.1]
  next := fun notChoosing => absurd fresh.1 notChoosing

/-- The step lemma: a client only ever sends its own requests, and only the
server adds replies. -/
theorem Stock.step
    {session next : Session} {event : SessionEvent}
    (stock : Stock cJSON username password session)
    (stepped : session.step cJSON username password event = some next) :
    Stock cJSON username password next ∧ session.requests <+: next.requests ∧
      ((∀ reply, event ≠ .answer reply) → next.replies = session.replies) := by
  obtain ⟨sent, buffered⟩ := stock
  cases event with
  | answer reply =>
      simp only [Session.step] at stepped
      split_ifs at stepped
      obtain rfl := Option.some.inj stepped
      exact ⟨⟨sent, buffered⟩, List.prefix_rfl, fun other => absurd rfl (other reply)⟩
  | interrupt =>
      simp only [Session.step, Client.signHandler_phase] at stepped
      cases phase : session.client.phase with
      | ended => simp [phase] at stepped
      | blocked =>
          simp only [phase] at stepped
          have same := buffered (by simp [phase]) (by simp [phase])
          split_ifs at stepped <;> obtain rfl := Option.some.inj stepped <;>
            exact ⟨⟨sent, fun _ _ => same⟩, List.prefix_rfl, fun _ => rfl⟩
      | _ =>
          simp only [phase] at stepped
          obtain rfl := Option.some.inj stepped
          exact ⟨⟨sent, buffered⟩, List.prefix_rfl, fun _ => rfl⟩
  | choose choice =>
      simp only [Session.step] at stepped
      split at stepped
      case h_1 =>
        obtain rfl := Option.some.inj stepped
        exact ⟨⟨sent, fun _ notEnded => absurd rfl notEnded⟩, List.prefix_rfl, fun _ => rfl⟩
      case h_2 | h_3 =>
        obtain rfl := Option.some.inj stepped
        exact ⟨⟨sent, fun _ _ => .inl ⟨_, rfl⟩⟩, List.prefix_rfl, fun _ => rfl⟩
      case h_4 => simp at stepped
  | proceed =>
      simp only [Session.step, Session.proceed] at stepped
      cases phase : session.client.phase with
      | choosing =>
          simp only [phase] at stepped
          split_ifs at stepped
          obtain rfl := Option.some.inj stepped
          exact ⟨⟨sent, fun _ _ => .inr rfl⟩, List.prefix_rfl, fun _ => rfl⟩
      | sending =>
          simp only [phase] at stepped
          obtain rfl := Option.some.inj stepped
          have same := buffered (by simp [phase]) (by simp [phase])
          refine ⟨⟨fun request present => ?_, fun _ _ => same⟩, ?_, fun _ => rfl⟩
          · split_ifs at present with empty
            · exact sent request present
            · rcases List.mem_append.mp present with earlier | now
              · exact sent request earlier
              · exact List.mem_singleton.mp now ▸ same
          · dsimp only
            split_ifs
            · exact List.prefix_rfl
            · exact List.prefix_append _ _
      | blocked =>
          simp only [phase] at stepped
          obtain ⟨reply, _, rfl⟩ := Option.map_eq_some_iff.mp stepped
          have same := buffered (by simp [phase]) (by simp [phase])
          exact ⟨⟨sent, fun _ _ => same⟩, List.prefix_rfl, fun _ => rfl⟩
      | ended => simp [phase] at stepped
      | calling | examining =>
          simp only [phase] at stepped
          obtain rfl := Option.some.inj stepped
          have same := buffered (by simp [phase]) (by simp [phase])
          exact ⟨⟨sent, fun _ _ => same⟩, List.prefix_rfl, fun _ => rfl⟩
      | looping =>
          simp only [phase] at stepped
          have same := buffered (by simp [phase]) (by simp [phase])
          split_ifs at stepped <;> obtain rfl := Option.some.inj stepped <;>
            exact ⟨⟨sent, fun _ _ => same⟩, List.prefix_rfl, fun _ => rfl⟩

end

end Session

section

variable {cJSON : CJson} {username password request : Text}

/-- A client's request that makes no order asks for the state or is denied. -/
theorem runAdminServer_of_noOrder
    (lawful : cJSON.Lawful) (isRequest : IsRequest cJSON username password request)
    (noOrder : orderOf cJSON request = none) (leftover file : Text) :
    (getCommand cJSON false request = OPTION1_ ∧
      runAdminServer cJSON { calm with leftover } request file =
        if file = [] then { file, sent := none, outcome := .exits }
        else { file, sent := some file, outcome := .waits }) ∨
    ∃ message, getCommand cJSON false request = OPTION2_ ∧
      checkCredentials cJSON request ≠ 0 ∧
        noticeMessage cJSON leftover K_ACC_DENEID TRUE_ = .ok message ∧
          runAdminServer cJSON { calm with leftover } request file =
            { file, sent := some message, outcome := .waits } := by
  obtain ⟨nonempty, asks | ⟨order, rfl⟩⟩ := isRequest.asks_or_orders lawful
  · have notClose : OPTION1_ ≠ CLOSE_CONNECTION := by decide
    refine .inl ⟨asks, ?_⟩
    rw [runAdminServer, if_neg nonempty]
    simp only [calm, asks, notClose, ↓reduceIte]
    rw [sendSupplyMessage, sendSupply, readFile_eq]
    by_cases empty : file = []
    · rw [if_pos (.inr empty), if_pos empty]
    · rw [if_neg (by simp [FileFaults.reading, FileFaults.none, empty]), if_neg empty]
      rfl
  · obtain ⟨message, made⟩ := @exists_noticeMessage cJSON leftover K_ACC_DENEID TRUE_
    have denied : clientCheckCredentials username password ≠ 1 := by
      intro admitted
      rw [orderOf_clientRequest lawful, if_pos admitted] at noOrder
      cases noOrder
    refine .inr ⟨message, getCommand_clientRequest lawful order username password,
      fun admitted => denied ((checkCredentials_clientRequest lawful _ _ _).mp admitted), made, ?_⟩
    rw [runAdminServer_clientRequest lawful order username password rfl, if_neg denied,
      sendDeneidMessage, sendNotice, made]
    rfl

/-- It is answered, or the process exits. -/
theorem answers_of_noOrder
    (lawful : cJSON.Lawful) (isRequest : IsRequest cJSON username password request)
    (noOrder : orderOf cJSON request = none) (leftover file : Text)
    (silent : (runAdminServer cJSON { calm with leftover } request file).sent = none) :
    (runAdminServer cJSON { calm with leftover } request file).outcome ≠ .waits := by
  rcases runAdminServer_of_noOrder lawful isRequest noOrder leftover file with
    ⟨_, handled⟩ | ⟨message, _, _, _, handled⟩
  · rw [handled] at silent ⊢
    split_ifs at silent ⊢
    simp
  · rw [handled] at silent
    simp at silent

end

end Refuge
