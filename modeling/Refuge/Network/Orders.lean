import Refuge.Network

/-!
# Orders across the network

Whatever interleaves, a connection process carries out the orders of its client
one after the other, each once: an order is completed before its reply is sent,
and the next request is received after that.
-/

namespace Refuge

open Foundation

section

variable {cJSON : CJson}

/-- What the server does with an order that can be carried out. -/
theorem runAdminServer_of_orderOf
    {request file text : Text} {update : Update} (isOrder : orderOf cJSON request = some update)
    (nonempty : file ≠ []) (edits : update.edit cJSON file = .ok text) (leftover : Text) :
    runAdminServer cJSON { calm with leftover } request file =
      { file := if text = [] then file else text, sent := some text, outcome := .waits } := by
  unfold orderOf at isOrder
  split_ifs at isOrder with admitted
  obtain ⟨received, modify, credentials⟩ := admitted
  split at isOrder
  · cases isOrder
  · rename_i category key value arguments
    obtain rfl := Option.some.inj isOrder
    have notClose : OPTION2_ ≠ CLOSE_CONNECTION := by decide
    have notStatus : OPTION2_ ≠ OPTION1_ := by decide
    have updated : setSupplyStatus cJSON .none category key value file =
        { code := 0, buffer := text, file := if text = [] then file else text } := by
      have edited : setSupplyText cJSON category key value file = .ok text := edits
      rw [setSupplyStatus, updateFile, readFile_none nonempty]
      simp only [edited, writeFile_none_eq]
    rw [runAdminServer, if_neg received]
    simp only [calm, modify, notClose, notStatus, credentials, ↓reduceIte, ne_eq, not_true_eq_false]
    rw [setAndSendSuplyStatus, setSupply, arguments]
    simp only [updated]
    rfl

end

/-! ## What a connection process has handled -/

/-- The updates one process has completed, in order. -/
def madeBy {Pid : Type} [DecidableEq Pid] (pid : Pid) (history : List (Pid × Update)) :
    List Update :=
  history.filterMap fun event => if event.1 = pid then some event.2 else none

/-- 1 while an order is begun and not completed. -/
def Phase.pending : Phase → Nat
  | .idle => 0
  | .returned code => if code = 0 then 0 else 1
  | _ => 1

/-- Where an order is between `sem_wait` and its completion. -/
def Phase.Carrying (update : Update) (phase : Phase) : Prop :=
  phase = .started update ∨ (∃ buffer seen, phase = .read update buffer seen) ∨
    phase = .returned 1

/-- How far a connection process is, at a point of its loop, with the `received`
requests it has received of a session. -/
def Turn.At (cJSON : CJson) (session : Session) (received : Nat) (phase : Phase) :
    Turn → Prop
  | .receiving => phase = .idle ∧ session.replies.length = received
  | .updating =>
      session.replies.length + 1 = received ∧
        ∃ request update, session.requests[session.replies.length]? = some request ∧
          orderOf cJSON request = some update ∧ phase.Carrying update
  | .replying sent outcome =>
      session.replies.length + 1 = received ∧ (phase = .idle ∨ phase = .returned 0) ∧
        (sent = none → outcome ≠ .waits)
  | .ended =>
      phase = .idle ∧ session.replies.length ≤ received ∧
          received ≤ session.replies.length + 1 ∨
        phase = .ended ∧ session.replies.length + 1 = received

theorem Phase.Carrying.pending {update : Update} {phase : Phase}
    (carrying : phase.Carrying update) : phase.pending = 1 := by
  rcases carrying with rfl | ⟨_, _, rfl⟩ | rfl <;> rfl

/-- Every request that was replied to is handled, -/
theorem Turn.At.replies_le
    {cJSON : CJson} {session : Session} {received : Nat} {phase : Phase} {turn : Turn}
    (atTurn : turn.At cJSON session received phase) :
    session.replies.length ≤ received - phase.pending := by
  cases turn with
  | receiving =>
      obtain ⟨rfl, count⟩ := atTurn
      exact count.le
  | updating =>
      obtain ⟨count, _, _, _, _, carrying⟩ := atTurn
      rw [carrying.pending]
      omega
  | replying sent outcome =>
      obtain ⟨count, rfl | rfl, _⟩ := atTurn <;> exact count ▸ Nat.le_succ _
  | ended =>
      rcases atTurn with ⟨rfl, replied, _⟩ | ⟨rfl, count⟩
      · exact replied
      · exact count ▸ Nat.le_refl _

/-- and at most one more. -/
theorem Turn.At.le_replies
    {cJSON : CJson} {session : Session} {received : Nat} {phase : Phase} {turn : Turn}
    (atTurn : turn.At cJSON session received phase) :
    received - phase.pending ≤ session.replies.length + 1 := by
  refine (Nat.sub_le _ _).trans ?_
  cases turn with
  | receiving => exact atTurn.2.ge.trans (Nat.le_succ _)
  | updating => exact atTurn.1.ge
  | replying sent outcome => exact atTurn.1.ge
  | ended =>
      rcases atTurn with ⟨_, _, bound⟩ | ⟨_, count⟩
      · exact bound
      · exact count.ge

/-- The requests that are handled, and whose order is completed if they make one. -/
def handledRequests (session : Session) (received : Nat) (phase : Phase) : List Text :=
  session.requests.take (received - phase.pending)

/-- What one connection process has done for its client: the orders it has
completed are those of the requests it has handled. -/
structure Served (cJSON : CJson) (username password : Text) (session : Session)
    (turn : Turn) (received : Nat) (phase : Phase) (orders : List Update) : Prop where
  stock : session.Stock cJSON username password
  bounded : received ≤ session.requests.length
  atTurn : turn.At cJSON session received phase
  carriedOut : orders = (handledRequests session received phase).filterMap (orderOf cJSON)

section

variable {Pid : Type} [DecidableEq Pid]

theorem madeBy_append (pid : Pid) (first second : List (Pid × Update)) :
    madeBy pid (first ++ second) = madeBy pid first ++ madeBy pid second :=
  List.filterMap_append

theorem madeBy_map_self (pid : Pid) (updates : List Update) :
    madeBy pid (updates.map fun update => (pid, update)) = updates := by
  simp [madeBy, List.filterMap_map]

theorem madeBy_map_of_ne {pid other : Pid} (different : other ≠ pid) (updates : List Update) :
    madeBy pid (updates.map fun update => (other, update)) = [] := by
  simp [madeBy, List.filterMap_map, different]

end

section

variable {cJSON : CJson} {role : Role} {file fileNext : Text}
  {completed completedNext : List Update} {before after : Phase}

theorem Moves.of_start
    {update : Update}
    (moves : Moves cJSON role file completed before (.start update) after fileNext completedNext) :
    after = .started update ∧ fileNext = file ∧ completedNext = completed := by
  cases moves with
  | start => exact ⟨rfl, rfl, rfl⟩

/-- No completed update is forgotten. -/
theorem Moves.append_drop
    {action : Action}
    (moves : Moves cJSON role file completed before action after fileNext completedNext) :
    completed ++ completedNext.drop completed.length = completedNext := by
  cases moves with
  | written => rw [List.drop_left]
  | _ => rw [List.drop_length, List.append_nil]

end

namespace Served

variable {cJSON : CJson} {username password : Text} {session next : Session} {turn : Turn}
  {received : Nat} {phase : Phase} {orders : List Update}

/-- More requests do not change the ones handled. -/
theorem handledRequests_append
    (longer : session.requests <+: next.requests) (bounded : received ≤ session.requests.length) :
    handledRequests next received phase = handledRequests session received phase := by
  obtain ⟨more, append⟩ := longer
  rw [handledRequests, handledRequests, ← append]
  exact List.take_append_of_le_length (by omega)

/-- The client does something. -/
theorem client
    (served : Served cJSON username password session turn received phase orders)
    {event : SessionEvent} (notAnswer : ∀ reply, event ≠ .answer reply)
    (stepped : session.step cJSON username password event = some next) :
    Served cJSON username password next turn received phase orders := by
  obtain ⟨stock, bounded, atTurn, carriedOut⟩ := served
  obtain ⟨stockNext, longer, sameReplies⟩ := stock.step stepped
  refine ⟨stockNext, bounded.trans longer.length_le, ?_, ?_⟩
  · unfold Turn.At at atTurn ⊢
    rw [sameReplies notAnswer]
    cases turn with
    | updating =>
        obtain ⟨count, request, update, found, isOrder, carrying⟩ := atTurn
        obtain ⟨more, append⟩ := longer
        refine ⟨count, request, update, ?_, isOrder, carrying⟩
        rw [← append, List.getElem?_append_left (List.getElem?_eq_some_iff.mp found).1, found]
    | _ => exact atTurn
  · rw [handledRequests_append longer bounded, carriedOut]

/-- The process begins an order. -/
theorem takeOrder
    (served : Served cJSON username password session .receiving received phase orders)
    {request : Text} (found : session.requests[received]? = some request)
    {update : Update} (isOrder : orderOf cJSON request = some update) :
    Served cJSON username password session .updating (received + 1) (.started update) orders := by
  obtain ⟨stock, bounded, ⟨idle, replied⟩, carriedOut⟩ := served
  refine ⟨stock, (List.getElem?_eq_some_iff.mp found).1, ⟨by rw [replied], request, update, ?_,
    isOrder, .inl rfl⟩, ?_⟩
  · rw [replied, found]
  · rw [carriedOut, idle]
    rfl

/-- The process handles a request that makes no order. -/
theorem takeOther
    (served : Served cJSON username password session .receiving received phase orders)
    {request : Text} (found : session.requests[received]? = some request)
    (noOrder : orderOf cJSON request = none)
    {sent : Option Text} {outcome : Outcome} (answers : sent = none → outcome ≠ .waits) :
    Served cJSON username password session (.replying sent outcome) (received + 1) phase
      orders := by
  obtain ⟨stock, bounded, ⟨idle, replied⟩, carriedOut⟩ := served
  refine ⟨stock, (List.getElem?_eq_some_iff.mp found).1, ⟨by rw [replied], .inl idle, answers⟩,
    ?_⟩
  rw [carriedOut, idle]
  simp [handledRequests, Phase.pending, List.take_add_one, found, noOrder]

/-- The process takes a step of its order. -/
theorem act
    (served : Served cJSON username password session .updating received phase orders)
    {file fileNext : Text} {completed completedNext : List Update} {action : Action}
    {phaseNext : Phase}
    (moves : Moves cJSON .admin file completed phase action phaseNext fileNext completedNext) :
    Served cJSON username password session (Network.afterAction cJSON phase phaseNext action)
      received phaseNext (orders ++ completedNext.drop completed.length) := by
  obtain ⟨stock, bounded, ⟨count, request, update, found, isOrder, carrying⟩, carriedOut⟩ :=
    served
  have still {next : Phase} (begun : next.pending = 1) (before : phase.pending = 1) :
      orders ++ completed.drop completed.length =
        (handledRequests session received next).filterMap (orderOf cJSON) := by
    rw [List.drop_length, List.append_nil, carriedOut, handledRequests, handledRequests, begun,
      before]
  cases moves with
  | start => simp [Phase.Carrying] at carrying
  | readFailed other =>
      exact ⟨stock, bounded, ⟨count, request, update, found, isOrder, .inr (.inr rfl)⟩,
        still rfl rfl⟩
  | read other =>
      obtain rfl : other = update := by simpa [Phase.Carrying] using carrying
      exact ⟨stock, bounded, ⟨count, request, other, found, isOrder, .inr (.inl ⟨_, _, rfl⟩)⟩,
        still rfl rfl⟩
  | editFailed other buffer seen =>
      exact ⟨stock, bounded, ⟨count, request, update, found, isOrder, .inr (.inr rfl)⟩,
        still rfl rfl⟩
  | written other buffer seen text edited =>
      obtain rfl : other = update := by simpa [Phase.Carrying] using carrying
      refine ⟨stock, bounded, ⟨count, .inr rfl, ?_⟩, ?_⟩
      · simp [edited, Except.toOption]
      · rw [List.drop_left, carriedOut, ← count]
        simp [handledRequests, Phase.pending, List.take_add_one, found, isOrder]
  | finished code =>
      obtain rfl : code = 1 := by simpa [Phase.Carrying] using carrying
      exact ⟨stock, bounded, .inr ⟨rfl, count⟩, still rfl rfl⟩

/-- The process sends its message. -/
theorem reply
    {sent : Option Text} {outcome : Outcome}
    (served : Served cJSON username password session (.replying sent outcome) received phase
      orders)
    (stepped : session.afterMessage cJSON username password sent = some next) :
    Served cJSON username password next (if outcome = .waits then .receiving else .ended)
      received .idle orders := by
  obtain ⟨stock, bounded, ⟨count, phases, answers⟩, carriedOut⟩ := served
  have handled (session : Session) :
      handledRequests session received phase = handledRequests session received .idle := by
    rcases phases with rfl | rfl <;> rfl
  cases sent with
  | none =>
      obtain rfl := Option.some.inj stepped
      rw [if_neg (answers rfl)]
      exact ⟨stock, bounded, .inl ⟨rfl, by omega, by omega⟩, by rw [carriedOut, handled]⟩
  | some message =>
      rw [Session.afterMessage] at stepped
      obtain ⟨stockNext, longer, _⟩ := stock.step stepped
      simp only [Session.step] at stepped
      split_ifs at stepped
      obtain rfl := Option.some.inj stepped
      have replies : (session.replies ++ [message]).length = received := by
        rw [List.length_append, ← count]
        rfl
      refine ⟨stockNext, bounded, ?_, ?_⟩
      · split_ifs
        · exact ⟨rfl, replies⟩
        · exact .inl ⟨rfl, replies.le, replies.ge.trans (Nat.le_succ _)⟩
      · rw [carriedOut, handled]
        rfl

end Served

namespace Network

section

variable {Id Other : Type} [DecidableEq Id] [DecidableEq Other] {cJSON : CJson}
  {role : Other → Role} {username password : Id → Text}

/-- An order that nothing comes between is one turn of `run_admin_server`. -/
theorem order_alone
    {network : Network Id Other} {id : Id} {request text leftover : Text} {update : Update}
    (receiving : network.turn id = .receiving)
    (found : (network.session id).requests[network.received id]? = some request)
    (isOrder : orderOf cJSON request = some update)
    (idle : network.system.process (.inl id) = { mutexState := 1, phase := .idle })
    (nonempty : network.system.file ≠ [])
    (edits : update.edit cJSON network.system.file = .ok text) :
    ∃ next,
      run (Network.step cJSON role username password) network
          [.take id leftover, .act (.inl id, .read), .act (.inl id, .write)] = some next ∧
        let handled := runAdminServer cJSON { calm with leftover } request network.system.file
        next.turn id = .replying handled.sent handled.outcome ∧
          next.system.file = handled.file := by
  have isAdmin : roleIn role (.inl id : Id ⊕ Other) = .admin := rfl
  have makes : Role.admin.makes update = true := by
    obtain ⟨category, key, value, rfl⟩ := exists_of_orderOf isOrder
    rfl
  rw [runAdminServer_of_orderOf isOrder nonempty edits]
  simp [Network.step, receiving, found, handle, isOrder, System.step, idle, isAdmin, makes, setTurn,
    System.setProcess, nonempty, edits, afterAction, writeFile_none_eq, Except.toOption]

/-- `sem_post` after a message: the process is idle again, and nothing else has changed. -/
theorem post_spec
    {system : System (Id ⊕ Other)} {id : Id}
    (sent : (system.process (.inl id)).phase = .idle ∨
      (system.process (.inl id)).phase = .returned 0) :
    (post cJSON role system id).completed = system.completed ∧
      (post cJSON role system id).file = system.file ∧
        ((post cJSON role system id).process (.inl id)).phase = .idle ∧
          ∀ other, other ≠ .inl id →
            (post cJSON role system id).process other = system.process other := by
  rcases sent with idle | returned
  · have refused : system.step cJSON (roleIn role) (.inl id, .finish) = none := by
      simp [System.step, idle]
    rw [post, refused]
    exact ⟨rfl, rfl, idle, fun _ _ => rfl⟩
  · have isAdmin : roleIn role (.inl id : Id ⊕ Other) = .admin := rfl
    have taken : system.step cJSON (roleIn role) (.inl id, .finish) =
        some (system.setProcess (.inl id)
          { mutexState := (system.process (.inl id)).mutexState + 1, phase := .idle }) := by
      simp [System.step, returned, isAdmin]
    rw [post, taken]
    refine ⟨rfl, rfl, ?_, fun other different => ?_⟩
    · rw [Option.getD_some, System.setProcess_process, if_pos rfl]
    · rw [Option.getD_some, System.setProcess_process, if_neg different]

/-- The updates an event completes, with the process that made them. -/
def recorded (before after : Network Id Other) :
    NetworkEvent Id Other → List ((Id ⊕ Other) × Update)
  | .act event =>
      (after.system.completed.drop before.system.completed.length).map fun update =>
        (event.1, update)
  | .client .. | .take .. | .reply _ => []

/-- The updates a run completes, in order, each with the process that made it. -/
def history (cJSON : CJson) (role : Other → Role) (username password : Id → Text)
    (network : Network Id Other) (events : List (NetworkEvent Id Other)) :
    List ((Id ⊕ Other) × Update) :=
  recordedAlong (Network.step cJSON role username password) recorded network events

/-- The history of the completed updates accounts for what every connection
process has done for its client. -/
structure Accounts (cJSON : CJson) (username password : Id → Text) (network : Network Id Other)
    (history : List ((Id ⊕ Other) × Update)) : Prop where
  complete : history.map Prod.snd = network.system.completed
  served : ∀ id, Served cJSON (username id) (password id) (network.session id)
    (network.turn id) (network.received id) (network.system.process (.inl id)).phase
    (madeBy (.inl id) history)

/-- The client's events are all but the server's replies. -/
theorem client_of_step
    {network next : Network Id Other} {id : Id} {event : SessionEvent}
    (stepped : network.step cJSON role username password (.client id event) = some next) :
    (∀ reply, event ≠ .answer reply) ∧
      ∃ session,
        (network.session id).step cJSON (username id) (password id) event = some session ∧
          next = network.setSession id session := by
  cases event with
  | answer reply => simp [Network.step] at stepped
  | _ =>
      obtain ⟨session, taken, rfl⟩ := Option.map_eq_some_iff.mp stepped
      exact ⟨nofun, session, taken, rfl⟩

theorem take_of_step
    {network next : Network Id Other} {id : Id} {leftover : Text}
    (stepped : network.step cJSON role username password (.take id leftover) = some next) :
    ∃ request, network.turn id = .receiving ∧
      (network.session id).requests[network.received id]? = some request ∧
        network.handle cJSON role id leftover request = some next := by
  simp only [Network.step] at stepped
  split at stepped
  case h_1 request receiving found => exact ⟨request, receiving, found, stepped⟩
  case h_2 => simp at stepped

/-- A step of an update is one of the system; a connection process is in `set_supply`. -/
theorem act_of_step
    {network next : Network Id Other} {pid : Id ⊕ Other} {action : Action}
    (stepped : network.step cJSON role username password (.act (pid, action)) = some next) :
    ∃ system, network.system.step cJSON (roleIn role) (pid, action) = some system ∧
      ((∃ id, pid = .inl id ∧ network.turn id = .updating ∧
        next = { network.setTurn id
            (afterAction cJSON (network.system.process pid).phase (system.process pid).phase
              action) with system }) ∨
      ((∃ other, pid = .inr other) ∧ next = { network with system })) := by
  cases pid with
  | inl id =>
      simp only [Network.step] at stepped
      split at stepped
      case h_1 updating =>
        obtain ⟨system, taken, rfl⟩ := Option.map_eq_some_iff.mp stepped
        exact ⟨system, taken, .inl ⟨id, rfl, updating, rfl⟩⟩
      case h_2 => simp at stepped
  | inr other =>
      obtain ⟨system, taken, rfl⟩ := Option.map_eq_some_iff.mp stepped
      exact ⟨system, taken, .inr ⟨⟨other, rfl⟩, rfl⟩⟩

theorem reply_of_step
    {network next : Network Id Other} {id : Id}
    (stepped : network.step cJSON role username password (.reply id) = some next) :
    ∃ sent outcome session, network.turn id = .replying sent outcome ∧
      (network.session id).afterMessage cJSON (username id) (password id) sent = some session ∧
      next =
        { (network.setSession id session).setTurn id
            (if outcome = .waits then .receiving else .ended) with
          system := post cJSON role network.system id } := by
  simp only [Network.step] at stepped
  split at stepped
  case h_1 sent outcome replying =>
    obtain ⟨session, sends, rfl⟩ := Option.map_eq_some_iff.mp stepped
    exact ⟨sent, outcome, session, replying, sends, rfl⟩
  case h_2 => simp at stepped

/-- The step lemma: with what an event completes, the history goes on accounting
for everything. -/
theorem Accounts.step
    (lawful : cJSON.Lawful)
    {network next : Network Id Other} {history : List ((Id ⊕ Other) × Update)}
    (accounts : Accounts cJSON username password network history)
    {event : NetworkEvent Id Other}
    (stepped : network.step cJSON role username password event = some next) :
    Accounts cJSON username password next (history ++ recorded network next event) := by
  obtain ⟨complete, served⟩ := accounts
  cases event with
  | client id event =>
      rw [recorded, List.append_nil]
      obtain ⟨notAnswer, session, taken, rfl⟩ := client_of_step stepped
      refine ⟨complete, fun other => ?_⟩
      by_cases same : other = id
      · subst same
        simpa [setSession] using (served other).client notAnswer taken
      · simpa [setSession, same] using served other
  | take id leftover =>
      rw [recorded, List.append_nil]
      obtain ⟨request, receiving, found, handles⟩ := take_of_step stepped
      have servedHere := served id
      rw [receiving] at servedHere
      simp only [handle] at handles
      cases order : orderOf cJSON request with
      | some update =>
          simp only [order] at handles
          obtain ⟨system, begun, rfl⟩ := Option.map_eq_some_iff.mp handles
          obtain ⟨moves, frame⟩ := System.step_moves begun
          obtain ⟨started, _, sameCompleted⟩ := moves.of_start
          refine ⟨complete.trans sameCompleted.symm, fun other => ?_⟩
          by_cases same : other = id
          · subst same
            simpa [setTurn, started] using servedHere.takeOrder found order
          · have unmoved := frame (.inl other) (by simpa using same)
            simpa [setTurn, same, unmoved] using served other
      | none =>
          simp only [order] at handles
          obtain rfl := Option.some.inj handles
          refine ⟨complete, fun other => ?_⟩
          by_cases same : other = id
          · subst same
            have answers := answers_of_noOrder lawful
              (servedHere.stock.sent request (List.mem_of_getElem? found)) order leftover
              network.system.file
            simpa [setTurn] using servedHere.takeOther found order answers
          · simpa [setTurn, same] using served other
  | act event =>
      obtain ⟨pid, action⟩ := event
      obtain ⟨system, taken, moved⟩ := act_of_step stepped
      obtain ⟨moves, frame⟩ := System.step_moves taken
      have isSystem : next.system = system := by
        rcases moved with ⟨_, _, _, rfl⟩ | ⟨_, rfl⟩ <;> rfl
      refine ⟨?_, fun id => ?_⟩
      · rw [List.map_append, complete, isSystem, recorded, isSystem, List.map_map]
        simpa [Function.comp_def] using moves.append_drop
      · rw [madeBy_append, recorded, isSystem]
        have servedHere := served id
        by_cases same : pid = .inl id
        · subst same
          obtain ⟨_, here, updating, rfl⟩ | ⟨⟨other, different⟩, _⟩ := moved
          · obtain rfl := Sum.inl.inj here
            rw [updating] at servedHere
            rw [madeBy_map_self]
            simpa [setTurn] using servedHere.act moves
          · cases different
        · rw [madeBy_map_of_ne same, List.append_nil, frame _ (Ne.symm same)]
          obtain ⟨elsewhere, rfl, _, rfl⟩ | ⟨_, rfl⟩ := moved
          · have different : id ≠ elsewhere := fun equal => same (equal ▸ rfl)
            simpa [setTurn, different] using servedHere
          · exact servedHere
  | reply id =>
      rw [recorded, List.append_nil]
      obtain ⟨sent, outcome, session, replying, sends, rfl⟩ := reply_of_step stepped
      have servedHere := served id
      rw [replying] at servedHere
      obtain ⟨sameCompleted, _, idle, frame⟩ :=
        @post_spec Id Other _ _ cJSON role network.system id servedHere.atTurn.2.1
      refine ⟨complete.trans sameCompleted.symm, fun other => ?_⟩
      by_cases same : other = id
      · subst same
        simpa [setSession, setTurn, idle] using servedHere.reply sends
      · have unmoved := frame (.inl other) (by simpa using same)
        simpa [setSession, setTurn, same, unmoved] using served other

theorem Fresh.accounts
    {network : Network Id Other} (fresh : network.Fresh) :
    Accounts cJSON username password network [] := by
  obtain ⟨sessions, turns, received, processes, nothing⟩ := fresh
  refine ⟨nothing.symm, fun id => ⟨(sessions id).stock, ?_, ?_, ?_⟩⟩
  · rw [received]
    exact Nat.zero_le _
  · rw [turns, received, processes]
    exact ⟨rfl, by rw [(sessions id).2.2.1]; rfl⟩
  · simp [madeBy, handledRequests, received]

/-- In every run of the clients, their connection processes and the other
writers, stale writes and interrupts included, the updates that each connection
process has completed are the orders of the requests its client has had replies
to, each carried out once and in the order they were sent, and of at most one
more. -/
theorem orders_carried_out_once
    (lawful : cJSON.Lawful) {network final : Network Id Other}
    {events : List (NetworkEvent Id Other)} (fresh : network.Fresh)
    (reached : run (Network.step cJSON role username password) network events = some final) :
    let history := history cJSON role username password network events
    history.map Prod.snd = final.system.completed ∧
      ∀ id, ∃ handled, (final.session id).replies.length ≤ handled ∧
        handled ≤ (final.session id).replies.length + 1 ∧
          handled ≤ (final.session id).requests.length ∧
            madeBy (.inl id) history =
              ((final.session id).requests.take handled).filterMap (orderOf cJSON) := by
  have accounts : Accounts cJSON username password final
      (history cJSON role username password network events) :=
    run_invariant_recorded (fun _ _ _ _ accounts stepped => accounts.step lawful stepped)
      fresh.accounts reached
  obtain ⟨complete, served⟩ := accounts
  refine ⟨complete, fun id => ⟨_, ?_, ?_, ?_, (served id).carriedOut⟩⟩
  · exact (served id).atTurn.replies_le
  · exact (served id).atTurn.le_replies
  · exact (Nat.sub_le _ _).trans (served id).bounded

end

/-! ## An order and a look at it -/

/-- An administrator's client that has just connected, and the alert module. -/
def oneAdmin : Network Unit Unit where
  session := fun _ => Session.connected
  turn := fun _ => .receiving
  received := fun _ => 0
  system :=
    { file := CJson.reference.print northState
      process := fun _ => { mutexState := 1, phase := .idle }
      completed := [] }

theorem fresh_oneAdmin : oneAdmin.Fresh :=
  ⟨fun _ => Session.fresh_connected, fun _ => rfl, fun _ => rfl, fun _ => rfl, rfl⟩

/-- The steps of that network. -/
def adminStep : Network Unit Unit → NetworkEvent Unit Unit → Option (Network Unit Unit) :=
  Network.step .reference (fun _ => .alert) (fun _ => ADMIN) (fun _ => ADMIN)

/-- An order is sent and its file is read, -/
def untilWrite : List (NetworkEvent Unit Unit) :=
  [.client () (.choose (some (.modifySupplies waterOrder))), .client () .proceed,
    .take () [], .act (.inl (), .read)]

/-- it is written and confirmed, and the client asks for the state. -/
def fromWrite : List (NetworkEvent Unit Unit) :=
  [.act (.inl (), .write), .reply (), .client () .proceed, .client () .proceed,
    .client () .proceed, .client () .proceed, .client () (.choose (some .getStatus)),
    .client () .proceed, .take () [], .reply ()]

set_option maxRecDepth 10000 in
/-- What is sent and completed in that run. -/
theorem exists_run_order :
    ∃ final, run adminStep oneAdmin (untilWrite ++ fromWrite) = some final ∧
      final.system.completed = [setWater] ∧ (final.session ()).replies.length = 2 ∧
        (final.session ()).requests.map (orderOf .reference) = [some setWater, none] ∧
          (final.session ()).requests.map (getCommand .reference false) =
            [OPTION2_, OPTION1_] := by
  have reached : (run adminStep oneAdmin (untilWrite ++ fromWrite)).map (fun final =>
      (final.system.completed, (final.session ()).replies.length,
        (final.session ()).requests.map (orderOf .reference),
        (final.session ()).requests.map (getCommand .reference false))) =
      some ([setWater], 2, [some setWater, none], [OPTION2_, OPTION1_]) := by
    decide +kernel
  obtain ⟨final, run, same⟩ := Option.map_eq_some_iff.mp reached
  simp only [Prod.mk.injEq] at same
  exact ⟨final, run, same⟩

/-- What that run completes, with the processes that make it. -/
def adminHistory : List ((Unit ⊕ Unit) × Update) :=
  history .reference (fun _ => .alert) (fun _ => ADMIN) (fun _ => ADMIN) oneAdmin
    (untilWrite ++ fromWrite)

/-- The order is completed once, by the process of its client. -/
theorem orders_carried_out_once_order :
    adminHistory.map Prod.snd = [setWater] ∧ madeBy (.inl ()) adminHistory = [setWater] := by
  obtain ⟨final, reached, completed, replies, orders, _⟩ := exists_run_order
  obtain ⟨complete, clients⟩ :=
    orders_carried_out_once CJson.reference_lawful fresh_oneAdmin reached
  obtain ⟨handled, least, _, most, made⟩ := clients ()
  have requests := congrArg List.length orders
  rw [List.length_map] at requests
  have both : handled = (final.session ()).requests.length :=
    le_antisymm most (requests.trans_le (replies.ge.trans least))
  refine ⟨complete.trans completed, ?_⟩
  have ordered := congrArg (List.filterMap id) orders
  rw [List.filterMap_map] at ordered
  rw [both, List.take_length] at made
  exact made.trans ordered

end Network

end Refuge
