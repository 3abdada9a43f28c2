import Refuge.Network.Orders

/-!
# What administrators see

In runs without stale writes and without interrupted receptions every reply is a
look at one history of completed updates: the reply to a request for the state
shows what had been completed when the file was read, and the reply to an order
what had been completed up to that order.  The looks respect the order of each
client's requests and the order in which replies arrive and requests are sent.
-/

namespace Refuge

open Foundation

/-- What a reply tells a client that sent a request, after a history. -/
inductive Answers {Pid : Type} (cJSON : CJson) (initial : Json) (pid : Pid)
    (history : List (Pid × Update)) : Text × Text → Prop
  /-- A request for the state is shown all that has happened, -/
  | state {request reply : Text} (document : Json)
      (asks : getCommand cJSON false request = OPTION1_)
      (parsed : cJSON.parse reply = some document)
      (shows : Shows initial (history.map Prod.snd) document) :
      Answers cJSON initial pid history (request, reply)
  /-- an order all that has happened up to itself, -/
  | order {request reply : Text} (document : Json) (update : Update)
      (past : List (Pid × Update))
      (isOrder : orderOf cJSON request = some update)
      (last : history = past ++ [(pid, update)])
      (parsed : cJSON.parse reply = some document)
      (shows : Shows initial (history.map Prod.snd) document) :
      Answers cJSON initial pid history (request, reply)
  /-- and without the credentials nothing is shown. -/
  | denied {request reply : Text} (leftover : Text)
      (orders : getCommand cJSON false request = OPTION2_)
      (refused : checkCredentials cJSON request ≠ 0)
      (made : noticeMessage cJSON leftover K_ACC_DENEID TRUE_ = .ok reply) :
      Answers cJSON initial pid history (request, reply)

section

variable {Pid : Type} {cJSON : CJson} {initial : Json} {pid : Pid}
  {history : List (Pid × Update)} {request reply : Text}

/-- The reply to a request for the state shows the history. -/
theorem Answers.exists_shown
    (answers : Answers cJSON initial pid history (request, reply))
    (asks : getCommand cJSON false request = OPTION1_) :
    ∃ shown, cJSON.parse reply = some shown ∧ Shows initial (history.map Prod.snd) shown := by
  have different : OPTION1_ ≠ OPTION2_ := by decide
  cases answers with
  | state document _ parsed shows => exact ⟨document, parsed, shows⟩
  | order document _ _ _ _ parsed shows => exact ⟨document, parsed, shows⟩
  | denied _ orders => exact absurd (asks.symm.trans orders) different

end

/-- The message that is handed to the socket next. -/
def Turn.outbox : Turn → List Text
  | .replying sent _ => sent.toList
  | _ => []

/-- The looks of one client: one for every request that is handled, in order,
with the replies sent and the one to be sent. -/
structure Viewed {Pid : Type} (cJSON : CJson) (initial : Json) (pid : Pid) (session : Session)
    (turn : Turn) (received : Nat) (phase : Phase) (history : List (Pid × Update))
    (looks : List (Look (Text × Text))) : Prop where
  recorded : Looks (Answers cJSON initial pid) history looks
  asked : looks.map (fun look => look.view.1) = handledRequests session received phase
  told : looks.map (fun look => look.view.2) = session.replies ++ turn.outbox

namespace Viewed

variable {Pid : Type} {cJSON : CJson} {initial : Json} {pid : Pid} {username password : Text}
  {session next : Session} {turn : Turn} {received : Nat} {phase : Phase}
  {history : List (Pid × Update)} {looks : List (Look (Text × Text))}

/-- Other processes complete updates. -/
theorem grow
    (viewed : Viewed cJSON initial pid session turn received phase history looks)
    (more : List (Pid × Update)) :
    Viewed cJSON initial pid session turn received phase (history ++ more) looks :=
  ⟨viewed.recorded.grow more, viewed.asked, viewed.told⟩

/-- The client does something. -/
theorem client
    (viewed : Viewed cJSON initial pid session turn received phase history looks)
    (longer : session.requests <+: next.requests) (bounded : received ≤ session.requests.length)
    (sameReplies : next.replies = session.replies) :
    Viewed cJSON initial pid next turn received phase history looks where
  recorded := viewed.recorded
  asked := by rw [Served.handledRequests_append longer bounded, viewed.asked]
  told := by rw [sameReplies, viewed.told]

/-- The process begins an order. -/
theorem takeOrder
    (viewed : Viewed cJSON initial pid session .receiving received .idle history looks)
    (update : Update) :
    Viewed cJSON initial pid session .updating (received + 1) (.started update) history looks :=
  ⟨viewed.recorded, viewed.asked, viewed.told⟩

/-- The process handles a request with a message. -/
theorem takeOther
    (viewed : Viewed cJSON initial pid session .receiving received .idle history looks)
    {request message : Text} (found : session.requests[received]? = some request)
    (answers : Answers cJSON initial pid history (request, message)) (outcome : Outcome) :
    Viewed cJSON initial pid session (.replying (some message) outcome) (received + 1) .idle
      history (looks ++ [⟨history.length, (request, message)⟩]) where
  recorded := viewed.recorded.look answers
  asked := by
    rw [List.map_append, viewed.asked]
    simp [handledRequests, Phase.pending, List.take_add_one, found]
  told := by
    rw [List.map_append, viewed.told]
    simp [Turn.outbox]

theorem edit_ne_nil
    (lawful : cJSON.Lawful) {update : Update} {text edited : Text}
    (edits : update.edit cJSON text = .ok edited) : edited ≠ [] := by
  rw [Update.edit_eq_updateMember] at edits
  obtain ⟨_, _, _, _, _, _, _, _, rfl⟩ := exists_of_updateMember_eq_ok edits
  exact lawful.print_ne_nil _

/-- The process takes a step of its order. -/
theorem act
    (lawful : cJSON.Lawful)
    (viewed : Viewed cJSON initial pid session .updating received phase history looks)
    (atTurn : Turn.updating.At cJSON session received phase)
    {file fileNext : Text} {completed completedNext : List Update} {action : Action}
    {phaseNext : Phase} {document : Json}
    (moves : Moves cJSON .admin file completed phase action phaseNext fileNext completedNext)
    (complete : history.map Prod.snd = completed)
    (parsed : cJSON.parse fileNext = some document)
    (shows : Shows initial completedNext document) :
    let grown := history ++
      (completedNext.drop completed.length).map fun update => (pid, update)
    ∃ more, Viewed cJSON initial pid session (Network.afterAction cJSON phase phaseNext action)
        received phaseNext grown (looks ++ more) ∧
      ∀ look ∈ more, look.mark = grown.length := by
  obtain ⟨count, request, update, found, isOrder, carrying⟩ := atTurn
  have still {next : Phase} (begun : next.pending = 1) :
      ∃ more, Viewed cJSON initial pid session .updating received next
          (history ++ (completed.drop completed.length).map fun update => (pid, update))
          (looks ++ more) ∧
        ∀ look ∈ more, look.mark = (history ++ (completed.drop completed.length).map
          fun update => (pid, update)).length := by
    refine ⟨[], ?_, by simp⟩
    rw [List.drop_length, List.map_nil, List.append_nil, List.append_nil]
    refine ⟨viewed.recorded, ?_, viewed.told⟩
    rw [viewed.asked, handledRequests, handledRequests, begun, carrying.pending]
  cases moves with
  | start => simp [Phase.Carrying] at carrying
  | readFailed => exact still rfl
  | read => exact still rfl
  | editFailed => exact still rfl
  | finished code =>
      obtain rfl : code = 1 := by simpa [Phase.Carrying] using carrying
      obtain ⟨more, seen, marks⟩ := @still .ended rfl
      exact ⟨more, ⟨seen.recorded, seen.asked, seen.told⟩, marks⟩
  | written other buffer seen text edited =>
      obtain rfl : other = update := by simpa [Phase.Carrying] using carrying
      rw [if_neg (edit_ne_nil lawful edited)] at parsed
      have grown : history ++ ((completed ++ [other]).drop completed.length).map
          (fun update => (pid, update)) = history ++ [(pid, other)] := by
        rw [List.drop_left]
        rfl
      have answers : Answers cJSON initial pid (history ++ [(pid, other)]) (request, text) := by
        refine .order _ other history isOrder rfl parsed ?_
        rwa [List.map_append, complete]
      intro whole
      rw [show whole = history ++ [(pid, other)] from grown]
      refine ⟨[⟨_, (request, text)⟩], ⟨(viewed.recorded.grow _).look answers, ?_, ?_⟩, by simp⟩
      · rw [List.map_append, viewed.asked, ← count]
        simp [handledRequests, Phase.pending, List.take_add_one, found]
      · rw [List.map_append, viewed.told]
        simp [Network.afterAction, Turn.outbox, edited, Except.toOption]

/-- The process sends its message. -/
theorem reply
    {sent : Option Text} {outcome : Outcome}
    (viewed : Viewed cJSON initial pid session (.replying sent outcome) received phase history
      looks)
    (phases : phase = .idle ∨ phase = .returned 0)
    (stepped : session.afterMessage cJSON username password sent = some next) :
    Viewed cJSON initial pid next (if outcome = .waits then .receiving else .ended) received
      .idle history looks := by
  have handled (session : Session) :
      handledRequests session received phase = handledRequests session received .idle := by
    rcases phases with rfl | rfl <;> rfl
  have quiet : (if outcome = .waits then Turn.receiving else .ended).outbox = [] := by
    split_ifs <;> rfl
  refine ⟨viewed.recorded, ?_, ?_⟩
  · rw [viewed.asked, handled]
    cases sent with
    | none =>
        obtain rfl := Option.some.inj stepped
        rfl
    | some message =>
        simp only [Session.afterMessage, Session.step] at stepped
        split_ifs at stepped
        obtain rfl := Option.some.inj stepped
        rfl
  · rw [viewed.told, quiet, List.append_nil]
    cases sent with
    | none =>
        obtain rfl := Option.some.inj stepped
        exact List.append_nil _
    | some message =>
        simp only [Session.afterMessage, Session.step] at stepped
        split_ifs at stepped
        obtain rfl := Option.some.inj stepped
        rfl

end Viewed

/-- The texts a client has examined are the first replies. -/
theorem Session.InStep.examined {session : Session} (inStep : session.InStep) :
    session.examined <+: session.replies := by
  have paired := inStep.paired
  have isPrefix := List.take_prefix session.received session.replies
  unfold Session.Paired at paired
  cases phase : session.client.phase <;> simp only [phase] at paired
  case ended => exact paired
  case examining => exact (List.prefix_append _ _).trans (paired.2 ▸ isPrefix)
  all_goals exact paired.2 ▸ isPrefix

namespace Network

section

variable {Id Other : Type} [DecidableEq Id] [DecidableEq Other] {cJSON : CJson}
  {role : Other → Role} {username password : Id → Text} {initial : Json}

/-- Every client has been shown the history of the completed updates. -/
structure Coherent (cJSON : CJson) (username password : Id → Text) (initial : Json)
    (network : Network Id Other) (history : List ((Id ⊕ Other) × Update))
    (looks : Id → List (Look (Text × Text))) : Prop where
  accounts : Accounts cJSON username password network history
  consistent : Consistent cJSON initial network.system
  inStep : ∀ id, (network.session id).InStep
  viewed : ∀ id, Viewed cJSON initial (.inl id) (network.session id) (network.turn id)
    (network.received id) (network.system.process (.inl id)).phase history (looks id)

theorem undisturbed_of_ne_write
    {Pid : Type} {system : System Pid} {event : Pid × Action} (other : event.2 ≠ .write) :
    Undisturbed cJSON system event :=
  fun _ _ _ _ _ writes => absurd writes other

theorem consistent_post
    (lawful : cJSON.Lawful) {system : System (Id ⊕ Other)}
    (consistent : Consistent cJSON initial system) (id : Id) :
    Consistent cJSON initial (post cJSON role system id) := by
  rw [post]
  cases taken : system.step cJSON (roleIn role) (.inl id, .finish) with
  | none => exact consistent
  | some next => exact consistent.step lawful (undisturbed_of_ne_write (by simp)) taken

/-- What is shown in a consistent state. -/
theorem Coherent.shows
    {network : Network Id Other} {history : List ((Id ⊕ Other) × Update)}
    {looks : Id → List (Look (Text × Text))}
    (coherent : Coherent cJSON username password initial network history looks) :
    ∃ document, cJSON.parse network.system.file = some document ∧
      Shows initial (history.map Prod.snd) document := by
  obtain ⟨document, parsed, shows, _⟩ := coherent.consistent
  exact ⟨document, parsed, coherent.accounts.complete ▸ shows⟩

/-- Sending a message keeps a session in step. -/
theorem inStep_afterMessage
    {username password : Text} {session next : Session} {sent : Option Text}
    (lawful : cJSON.Lawful) (inStep : session.InStep)
    (sends : session.afterMessage cJSON username password sent = some next) : next.InStep := by
  cases sent with
  | none => exact Option.some.inj sends ▸ inStep
  | some message =>
      have unbroken : session.Unbroken (.answer message) := True.intro
      rw [Session.afterMessage] at sends
      exact inStep.step lawful unbroken sends

/-- A request that makes no order is answered with what there is to see. -/
theorem exists_answer
    {Pid : Type} (lawful : cJSON.Lawful) {username password request file : Text}
    {document : Json} {history : List (Pid × Update)}
    (isRequest : IsRequest cJSON username password request)
    (noOrder : orderOf cJSON request = none) (pid : Pid)
    (parsed : cJSON.parse file = some document)
    (shows : Shows initial (history.map Prod.snd) document) (leftover : Text) :
    ∃ message,
      runAdminServer cJSON { calm with leftover } request file =
          { file, sent := some message, outcome := .waits } ∧
        Answers cJSON initial pid history (request, message) := by
  rcases runAdminServer_of_noOrder lawful isRequest noOrder leftover file with
    ⟨asks, handled⟩ | ⟨message, orders, refused, made, handled⟩
  · rw [if_neg (lawful.ne_nil_of_parse parsed)] at handled
    exact ⟨file, handled, .state _ asks parsed shows⟩
  · exact ⟨message, handled, .denied _ orders refused made⟩

/-- The step lemma: an orderly step adds looks at all that has been completed. -/
theorem Coherent.step
    (lawful : cJSON.Lawful) {network next : Network Id Other}
    {history : List ((Id ⊕ Other) × Update)} {looks : Id → List (Look (Text × Text))}
    (coherent : Coherent cJSON username password initial network history looks)
    {event : NetworkEvent Id Other} (orderly : Orderly cJSON network event)
    (stepped : network.step cJSON role username password event = some next) :
    ∃ more : Id → List (Look (Text × Text)),
      Coherent cJSON username password initial next (history ++ recorded network next event)
          (fun id => looks id ++ more id) ∧
        ∀ id, ∀ look ∈ more id, history.length ≤ look.mark := by
  have accountsNext := coherent.accounts.step lawful stepped
  have shown := coherent.shows
  obtain ⟨accounts, consistent, inStep, viewed⟩ := coherent
  cases event with
  | client id event =>
      obtain ⟨notAnswer, session, taken, rfl⟩ := client_of_step stepped
      rw [recorded, List.append_nil] at accountsNext ⊢
      refine ⟨fun _ => [], ⟨by simpa using accountsNext, consistent, fun other => ?_,
        fun other => ?_⟩, by simp⟩
      · by_cases same : other = id
        · subst same
          simpa [setSession] using (inStep other).step lawful orderly taken
        · simpa [setSession, same] using inStep other
      · by_cases same : other = id
        · subst same
          obtain ⟨_, longer, sameReplies⟩ := (accounts.served other).stock.step taken
          simpa [setSession] using (viewed other).client longer (accounts.served other).bounded
            (sameReplies notAnswer)
        · simpa [setSession, same] using viewed other
  | take id leftover =>
      obtain ⟨request, receiving, found, handles⟩ := take_of_step stepped
      rw [recorded, List.append_nil] at accountsNext ⊢
      have servedHere := accounts.served id
      have viewedHere := viewed id
      rw [receiving] at servedHere viewedHere
      have idle := servedHere.atTurn.1
      rw [idle] at viewedHere
      simp only [handle] at handles
      cases order : orderOf cJSON request with
      | some update =>
          simp only [order] at handles
          obtain ⟨system, begun, rfl⟩ := Option.map_eq_some_iff.mp handles
          obtain ⟨moves, frame⟩ := System.step_moves begun
          obtain ⟨started, _, _⟩ := moves.of_start
          refine ⟨fun _ => [], ⟨accountsNext,
            consistent.step lawful (undisturbed_of_ne_write (by simp)) begun, inStep,
            fun other => ?_⟩, by simp⟩
          by_cases same : other = id
          · subst same
            simpa [setTurn, started] using viewedHere.takeOrder update
          · have unmoved := frame (.inl other) (by simpa using same)
            simpa [setTurn, same, unmoved] using viewed other
      | none =>
          simp only [order] at handles
          obtain rfl := Option.some.inj handles
          obtain ⟨document, parsed, shows⟩ := shown
          have isRequest := servedHere.stock.sent request (List.mem_of_getElem? found)
          obtain ⟨message, handled, answers⟩ := exists_answer lawful isRequest order
            (.inl id : Id ⊕ Other) parsed shows leftover
          refine ⟨Function.update (fun _ => []) id [⟨history.length, (request, message)⟩],
            ⟨accountsNext, consistent, inStep, fun other => ?_⟩, fun other look present => ?_⟩
          · by_cases same : other = id
            · subst same
              simpa [setTurn, handled, idle] using viewedHere.takeOther found answers .waits
            · simpa [setTurn, same] using viewed other
          · by_cases same : other = id
            · subst same
              rw [Function.update_self] at present
              obtain rfl := List.mem_singleton.mp present
              exact le_rfl
            · simp [same] at present
  | act event =>
      obtain ⟨pid, action⟩ := event
      obtain ⟨system, taken, moved⟩ := act_of_step stepped
      obtain ⟨moves, frame⟩ := System.step_moves taken
      have consistentNext := consistent.step lawful orderly taken
      obtain ⟨here, rfl, updating, rfl⟩ | ⟨⟨other, rfl⟩, rfl⟩ := moved
      · have servedHere := accounts.served here
        have viewedHere := viewed here
        rw [updating] at servedHere viewedHere
        obtain ⟨document, parsed, shows, _⟩ := id consistentNext
        obtain ⟨more, viewedNext, marks⟩ := viewedHere.act lawful servedHere.atTurn moves
          accounts.complete parsed shows
        refine ⟨Function.update (fun _ => []) here more, ⟨accountsNext, consistentNext, inStep,
          fun id => ?_⟩, fun id look present => ?_⟩
        · by_cases same : id = here
          · subst same
            simpa [setTurn, recorded] using viewedNext
          · have unmoved := frame (.inl id) (by simpa using same)
            simpa [setTurn, same, unmoved] using (viewed id).grow _
        · by_cases same : id = here
          · subst same
            rw [Function.update_self] at present
            rw [marks look present]
            exact (List.prefix_append _ _).length_le
          · simp [same] at present
      · refine ⟨fun _ => [], ⟨by simpa using accountsNext, consistentNext, inStep,
          fun id => ?_⟩, by simp⟩
        have unmoved := frame (.inl id) (by simp)
        simpa [unmoved] using (viewed id).grow _
  | reply id =>
      obtain ⟨sent, outcome, session, replying, sends, rfl⟩ := reply_of_step stepped
      rw [recorded, List.append_nil] at accountsNext ⊢
      have servedHere := accounts.served id
      have viewedHere := viewed id
      rw [replying] at servedHere viewedHere
      obtain ⟨_, _, idle, frame⟩ :=
        @post_spec Id Other _ _ cJSON role network.system id servedHere.atTurn.2.1
      refine ⟨fun _ => [], ⟨by simpa using accountsNext, consistent_post lawful consistent id,
        fun other => ?_, fun other => ?_⟩, by simp⟩
      · by_cases same : other = id
        · subst same
          simpa [setSession, setTurn] using inStep_afterMessage lawful (inStep other) sends
        · simpa [setSession, setTurn, same] using inStep other
      · by_cases same : other = id
        · subst same
          simpa [setSession, setTurn, idle] using
            viewedHere.reply servedHere.atTurn.2.1 sends
        · have unmoved := frame (.inl other) (by simpa using same)
          simpa [setSession, setTurn, same, unmoved] using viewed other

theorem Fresh.coherent
    {network : Network Id Other} (fresh : network.Fresh)
    (parsed : cJSON.parse network.system.file = some initial)
    (shaped : StateShaped initial) (finite : initial.Finite) :
    Coherent cJSON username password initial network [] fun _ => [] := by
  have accounts := @Fresh.accounts _ _ _ _ cJSON username password network fresh
  obtain ⟨sessions, turns, received, processes, nothing⟩ := fresh
  refine ⟨accounts, ⟨initial, parsed, ?_, fun pid => ?_⟩, fun id => (sessions id).inStep,
    fun id => ⟨Looks.nil, ?_, ?_⟩⟩
  · rw [nothing]
    exact ⟨shaped, finite, fun _ _ small found => ⟨by simpa using small, by simpa using found⟩,
      by simp⟩
  · intro update buffer seen reading
    rw [processes pid] at reading
    simp at reading
  · simp [handledRequests, received]
  · rw [turns, (sessions id).2.2.1]
    rfl

section

variable {network final : Network Id Other} {events : List (NetworkEvent Id Other)}
  {document : Json}

/-- An orderly run ends with a record of it, and every state on the way had a part
of that record. -/
theorem exists_coherent
    (lawful : cJSON.Lawful) (fresh : network.Fresh)
    (parsed : cJSON.parse network.system.file = some document)
    (shaped : StateShaped document) (finite : document.Finite)
    (orderly : Along (Network.step cJSON role username password) (Orderly cJSON) network events)
    (reached : run (Network.step cJSON role username password) network events = some final) :
    ∃ record : Record ((Id ⊕ Other) × Update) Id (Text × Text),
      Coherent cJSON username password document final record.history record.looks ∧
        ∀ first second middle, events = first ++ second →
          run (Network.step cJSON role username password) network first = some middle →
            ∃ part : Record ((Id ⊕ Other) × Update) Id (Text × Text),
              Coherent cJSON username password document middle part.history part.looks ∧
                part.Grows record := by
  have preserved (before : Network Id Other) (event : NetworkEvent Id Other)
      (after : Network Id Other)
      (record : Record ((Id ⊕ Other) × Update) Id (Text × Text))
      (coherent : Coherent cJSON username password document before record.history record.looks)
      (inOrder : Orderly cJSON before event)
      (stepped : before.step cJSON role username password event = some after) :
      ∃ more : Record ((Id ⊕ Other) × Update) Id (Text × Text),
        Coherent cJSON username password document after more.history more.looks ∧
          record.Grows more := by
    obtain ⟨more, coherentNext, marks⟩ := coherent.step lawful inOrder stepped
    exact ⟨⟨_, _⟩, coherentNext, (List.prefix_append _ _).length_le,
      fun id => ⟨more id, rfl, marks id⟩⟩
  have initially : Coherent cJSON username password document network
      (⟨[], fun _ => []⟩ : Record ((Id ⊕ Other) × Update) Id (Text × Text)).history
      fun _ => [] := fresh.coherent parsed shaped finite
  obtain ⟨record, coherent, _, parts⟩ :=
    exists_record Record.Grows.refl Record.Grows.trans preserved initially orderly reached
  exact ⟨record, coherent, parts⟩

/-- A state on the way divides the looks of the end. -/
theorem Coherent.dated
    {middle : Network Id Other} {part record : Record ((Id ⊕ Other) × Update) Id (Text × Text)}
    (coherent : Coherent cJSON username password document middle part.history part.looks)
    (grows : part.Grows record) (id : Id) :
    Dated middle.system.completed.length (middle.session id).requests.length
      (middle.session id).replies.length (record.looks id) := by
  obtain ⟨recorded, asked, told⟩ := coherent.viewed id
  have completed := congrArg List.length coherent.accounts.complete
  have answered := congrArg List.length asked
  have known := congrArg List.length told
  rw [List.length_map] at completed answered known
  rw [← completed]
  refine grows.dated recorded ?_ ?_
  · exact answered ▸ (List.take_prefix _ _).length_le
  · exact known ▸ (List.prefix_append _ _).length_le

/-- What the clients have been shown. -/
theorem Coherent.views
    {history : List ((Id ⊕ Other) × Update)} {looks : Id → List (Look (Text × Text))}
    (coherent : Coherent cJSON username password document network history looks) (id : Id) :
    Looks (Answers cJSON document (.inl id)) history (looks id) ∧
      (looks id).map (fun look => look.view.1) <+: (network.session id).requests ∧
        (network.session id).replies <+: (looks id).map (fun look => look.view.2) ∧
          (network.session id).examined <+: (network.session id).replies := by
  have viewed := coherent.viewed id
  refine ⟨viewed.recorded, ?_, ?_, (coherent.inStep id).examined⟩
  · rw [viewed.asked]
    exact List.take_prefix _ _
  · rw [viewed.told]
    exact List.prefix_append _ _

/-- A reply that was sent is in a look at the request it answers. -/
theorem Coherent.exists_look
    {history : List ((Id ⊕ Other) × Update)} {looks : Id → List (Look (Text × Text))}
    (coherent : Coherent cJSON username password document network history looks)
    {id : Id} {index : Nat} {request reply : Text}
    (requestAt : (network.session id).requests[index]? = some request)
    (replyAt : (network.session id).replies[index]? = some reply) :
    ∃ mark, (looks id)[index]? = some ⟨mark, (request, reply)⟩ := by
  obtain ⟨_, asked, told⟩ := coherent.viewed id
  have replied := congrArg (·[index]?) told
  simp only [List.getElem?_map] at replied
  rw [List.getElem?_append_left (List.getElem?_eq_some_iff.mp replyAt).1, replyAt] at replied
  obtain ⟨⟨mark, sent, answer⟩, found, rfl⟩ := Option.map_eq_some_iff.mp replied
  have answered := congrArg (·[index]?) asked
  simp only [List.getElem?_map, found, Option.map_some] at answered
  rw [handledRequests, List.getElem?_take] at answered
  split_ifs at answered
  obtain rfl := Option.some.inj (answered.trans requestAt)
  exact ⟨mark, found⟩

/-- Counters never go back, for all clients together: what a client is shown after
a moment is at least what any client had been shown by then, and no more than has
been counted. -/
theorem counters_never_go_back
    (lawful : cJSON.Lawful) (fresh : network.Fresh)
    (parsed : cJSON.parse network.system.file = some document)
    (shaped : StateShaped document) (finite : document.Finite)
    (orderly : Along (Network.step cJSON role username password) (Orderly cJSON) network events)
    (reached : run (Network.step cJSON role username password) network events = some final)
    {before after : List (NetworkEvent Id Other)} {middle : Network Id Other}
    (moment : events = before ++ after)
    (reachedMiddle : run (Network.step cJSON role username password) network before =
      some middle)
    {earlyId lateId : Id} {first second : Nat} {early late earlyReply lateReply : Text}
    (earlyAt : (final.session earlyId).requests[first]? = some early)
    (earlyReplyAt : (final.session earlyId).replies[first]? = some earlyReply)
    (lateAt : (final.session lateId).requests[second]? = some late)
    (lateReplyAt : (final.session lateId).replies[second]? = some lateReply)
    (sentBefore : first < (middle.session earlyId).replies.length)
    (askedAfter : (middle.session lateId).requests.length ≤ second)
    (earlyAsks : getCommand cJSON false early = OPTION1_)
    (lateAsks : getCommand cJSON false late = OPTION1_)
    {entry : Text} {count : Nat} (small : count < 2 ^ 31)
    (initially : Json.path [K_ALERTS, entry] document = some (.number (.ofInt count))) :
    ∃ earlyShown lateShown earlier later,
      cJSON.parse earlyReply = some earlyShown ∧ cJSON.parse lateReply = some lateShown ∧
        Json.path [K_ALERTS, entry] earlyShown =
            some (.number (.ofInt (count + earlier : Nat))) ∧
          Json.path [K_ALERTS, entry] lateShown =
              some (.number (.ofInt (count + later : Nat))) ∧
            earlier ≤ later ∧ later ≤ final.system.completed.count (.addEntry entry) := by
  obtain ⟨⟨history, looks⟩, coherent, parts⟩ :=
    exists_coherent lawful fresh parsed shaped finite orderly reached
  obtain ⟨part, coherentMiddle, grows⟩ := parts before after middle moment reachedMiddle
  obtain ⟨earlyMark, earlyLook⟩ := coherent.exists_look earlyAt earlyReplyAt
  obtain ⟨lateMark, lateLook⟩ := coherent.exists_look lateAt lateReplyAt
  have marks : earlyMark ≤ lateMark :=
    ((coherentMiddle.dated grows earlyId).le_moment earlyLook sentBefore).trans
      ((coherentMiddle.dated grows lateId).moment_le lateLook askedAfter)
  obtain ⟨earlyShown, earlyParsed, earlyShows⟩ :=
    ((coherent.viewed earlyId).recorded.shown _ (List.mem_of_getElem? earlyLook)).exists_shown
      earlyAsks
  obtain ⟨lateShown, lateParsed, lateShows⟩ :=
    ((coherent.viewed lateId).recorded.shown _ (List.mem_of_getElem? lateLook)).exists_shown
      lateAsks
  refine ⟨earlyShown, lateShown, _, _, earlyParsed, lateParsed,
    (earlyShows.counts entry count small initially).2,
    (lateShows.counts entry count small initially).2, ?_, ?_⟩
  · exact ((List.take_sublist_take_left marks).map Prod.snd).count_le _
  · rw [← coherent.accounts.complete]
    exact ((List.take_sublist _ _).map Prod.snd).count_le _

end

end

/-! ## What the client sees of its order -/

/-- Whether an event is neither SIGINT nor a write. -/
def isQuiet : NetworkEvent Unit Unit → Bool
  | .client _ .interrupt => false
  | .act (_, .write) => false
  | _ => true

theorem orderly_of_isQuiet
    {network : Network Unit Unit} {event : NetworkEvent Unit Unit}
    (quiet : isQuiet event = true) : Orderly cJSON network event := by
  cases event with
  | client id event =>
      cases event with
      | interrupt => cases quiet
      | _ => trivial
  | act event =>
      obtain ⟨pid, action⟩ := event
      apply undisturbed_of_ne_write
      rintro rfl
      cases quiet
  | _ => trivial

theorem along_of_all_isQuiet
    {events : List (NetworkEvent Unit Unit)} (quiet : events.all isQuiet = true)
    (network : Network Unit Unit) : Along adminStep (Orderly .reference) network events :=
  Along.of_forall_mem
    (fun _ present _ => orderly_of_isQuiet (List.all_eq_true.mp quiet _ present)) network

/-- What a process has read and not written. -/
def Phase.reading : Phase → Option (Update × Text × Nat)
  | .read update buffer seen => some (update, buffer, seen)
  | _ => none

set_option maxRecDepth 10000 in
/-- No step of the run is stale. -/
theorem orderly_order :
    Along adminStep (Orderly .reference) oneAdmin (untilWrite ++ fromWrite) := by
  refine (along_of_all_isQuiet rfl oneAdmin).append fun middle reached =>
    ⟨?_, fun next _ => along_of_all_isQuiet rfl next⟩
  have read : (run adminStep oneAdmin untilWrite).map (fun middle =>
      (Phase.reading (middle.system.process (.inl ())).phase, middle.system.completed)) =
      some (some (setWater, CJson.reference.print northState, 0), []) := by
    decide +kernel
  rw [reached, Option.map_some, Option.some.injEq, Prod.mk.injEq] at read
  intro update buffer seen text document _ phase _ parsedBuffer
  rw [phase] at read
  obtain ⟨rfl, rfl, rfl⟩ : update = setWater ∧ buffer = CJson.reference.print northState ∧
      seen = 0 := by simpa [Phase.reading] using read.1
  have parsed := CJson.reference_lawful.parse_print_of_finite finite_northState
  obtain rfl := Option.some.inj (parsed.symm.trans parsedBuffer)
  exact ⟨by simp [read.2], hitsAlong_setWater, fun isCount => nomatch isCount⟩

/-- The client receives the state and polls again. -/
def pollAgain : List (NetworkEvent Unit Unit) :=
  [.client () .proceed, .client () .proceed, .client () .proceed, .client () .proceed,
    .client () .proceed, .take () [], .reply ()]

set_option maxRecDepth 10000 in
/-- The counter it is shown then is not below the one it was shown before. -/
theorem counters_never_go_back_poll :
    ∃ (final : Network Unit Unit) (earlyReply lateReply : Text) (earlyShown lateShown : Json)
      (earlier later : Nat),
      run adminStep oneAdmin (untilWrite ++ fromWrite ++ pollAgain) = some final ∧
        (final.session ()).replies[1]? = some earlyReply ∧
          (final.session ()).replies[2]? = some lateReply ∧
            CJson.reference.parse earlyReply = some earlyShown ∧
              CJson.reference.parse lateReply = some lateShown ∧
                Json.path [K_ALERTS, "NORTH".toList] earlyShown =
                    some (.number (.ofInt (0 + earlier : Nat))) ∧
                  Json.path [K_ALERTS, "NORTH".toList] lateShown =
                      some (.number (.ofInt (0 + later : Nat))) ∧
                    earlier ≤ later := by
  obtain ⟨middle, reachedMiddle, _, repliesMiddle, orders, _⟩ := exists_run_order
  have requestsMiddle := congrArg List.length orders
  rw [List.length_map] at requestsMiddle
  have evaluated : (run adminStep oneAdmin (untilWrite ++ fromWrite ++ pollAgain)).map
      (fun final => ((final.session ()).replies.length,
        (final.session ()).requests.map (getCommand .reference false))) =
      some (3, [OPTION2_, OPTION1_, OPTION1_]) := by
    decide +kernel
  obtain ⟨final, reached, same⟩ := Option.map_eq_some_iff.mp evaluated
  obtain ⟨replies, commands⟩ := Prod.mk.inj same
  have requests := congrArg List.length commands
  rw [List.length_map] at requests
  obtain ⟨ordering, early, late, sent⟩ := List.length_eq_three.mp requests
  obtain ⟨confirmation, earlyReply, lateReply, told⟩ := List.length_eq_three.mp replies
  simp only [sent, List.map_cons, List.map_nil, List.cons.injEq, and_true] at commands
  obtain ⟨earlyShown, lateShown, earlier, later, earlyParsed, lateParsed, earlyPath, latePath,
      order, _⟩ :=
    @counters_never_go_back Unit Unit _ _ .reference _ _ _ oneAdmin final _ northState
      CJson.reference_lawful fresh_oneAdmin
      (CJson.reference_lawful.parse_print_of_finite finite_northState) stateShaped_northState
      finite_northState (orderly_order.append fun next _ => along_of_all_isQuiet rfl next) reached
      _ _ middle rfl reachedMiddle () () 1 2 early late earlyReply lateReply (by rw [sent]; rfl)
      (by rw [told]; rfl) (by rw [sent]; rfl) (by rw [told]; rfl) (by rw [repliesMiddle]; decide)
      requestsMiddle.le
      commands.2.1 commands.2.2 "NORTH".toList 0 (by decide) path_northState
  exact ⟨final, earlyReply, lateReply, earlyShown, lateShown, earlier, later, reached,
    by rw [told]; rfl, by rw [told]; rfl, earlyParsed, lateParsed, earlyPath, latePath, order⟩

end Network

end Refuge
