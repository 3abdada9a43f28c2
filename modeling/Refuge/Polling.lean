import Refuge.ClientLoop

/-!
# Polling, and the way back to the menu

Each poll is made in a call of `recv_and_check_message` inside the last one, so
a client that polls goes one call deeper with every request.  SIGINT clears the
flag; from then on every call returns to the one around it, and the last to
`main`.
-/

namespace Refuge

open Foundation

/-- SIGINT arrives. -/
def SessionEvent.isInterrupt : SessionEvent → Bool
  | .interrupt => true
  | .proceed | .choose _ | .answer _ => false

namespace Session

section

variable {cJSON : CJson} {username password : Text} {session next final : Session}

/-- The client polls, `base` requests having been sent when it left the menu. -/
structure Polls (base : Nat) (session : Session) : Prop where
  away : session.client.phase ≠ .choosing
  flag : session.client.flagGetSupply = true
  request : session.client.sendSocketBuffer ≠ []
  nested : session.client.calls + base = session.requests.length

/-- A client that polls and has not been told to end goes on polling, one call deeper
for every request. -/
theorem Polls.step
    {base : Nat} {event : SessionEvent}
    (polls : session.client.phase = .ended ∨ Polls base session)
    (uninterrupted : event ≠ .interrupt)
    (stepped : session.step cJSON username password event = some next) :
    next.client.phase = .ended ∨ Polls base next := by
  cases event with
  | interrupt => exact absurd rfl uninterrupted
  | answer reply =>
      simp only [Session.step] at stepped
      split_ifs at stepped
      obtain rfl := Option.some.inj stepped
      rcases polls with ended | ⟨away, flag, request, nested⟩
      · exact .inl ended
      · exact .inr ⟨away, flag, request, nested⟩
  | choose choice =>
      simp only [Session.step] at stepped
      split at stepped
      case h_4 => simp at stepped
      case h_1 | h_2 | h_3 =>
        rcases polls with ended | polls
        · simp_all
        · exact absurd ‹_› polls.away
  | proceed =>
      rcases polls with ended | ⟨away, flag, request, nested⟩
      · simp [Session.step, Session.proceed, ended] at stepped
      simp only [Session.step, Session.proceed] at stepped
      cases phase : session.client.phase with
      | choosing => exact absurd phase away
      | sending =>
          simp only [phase, if_neg request] at stepped
          obtain rfl := Option.some.inj stepped
          refine .inr ⟨by simp, flag, request, ?_⟩
          rw [List.length_append, ← nested]
          exact Nat.add_right_comm _ _ _
      | calling =>
          simp only [phase] at stepped
          obtain rfl := Option.some.inj stepped
          exact .inr ⟨by simp, flag, request, nested⟩
      | blocked =>
          simp only [phase] at stepped
          obtain ⟨reply, _, rfl⟩ := Option.map_eq_some_iff.mp stepped
          exact .inr ⟨by simp, flag, request, nested⟩
      | examining =>
          simp only [phase] at stepped
          obtain rfl := Option.some.inj stepped
          by_cases told : isKeyInJsonBuffer cJSON session.client.recvSocketBuffer K_END
          · exact .inl (if_pos told)
          · exact .inr ⟨by simp [told], flag, request, nested⟩
      | looping =>
          simp only [phase, if_pos flag] at stepped
          obtain rfl := Option.some.inj stepped
          exact .inr ⟨by simp, flag, request, nested⟩
      | ended => simp [phase] at stepped

/-- A client that has chosen to see the state and gets no SIGINT never comes back to
the menu: until the server ends it, it is as many calls deep as it has sent requests
since. -/
theorem polls_nest
    (lawful : cJSON.Lawful) {menu : Session} {events : List SessionEvent}
    (atMenu : menu.client.calls = 0)
    (chosen : menu.step cJSON username password (.choose (some .getStatus)) = some session)
    (uninterrupted : ∀ event ∈ events, event ≠ .interrupt)
    (reached : run (Session.step cJSON username password) session events = some final) :
    final.client.phase = .ended ∨
      final.client.phase ≠ .choosing ∧
        final.client.calls = final.requests.length - menu.requests.length := by
  have initially : Polls menu.requests.length session := by
    simp only [Session.step] at chosen
    split at chosen
    case h_2 =>
      obtain rfl := Option.some.inj chosen
      refine ⟨by simp [Client.ready], rfl, clientRequest_ne_nil lawful _ _ _, ?_⟩
      simp [Client.ready, atMenu]
    all_goals simp_all
  have along : Along (Session.step cJSON username password) (fun _ event => event ≠ .interrupt)
      session events :=
    Along.of_forall_mem (fun event present _ => uninterrupted event present) session
  rcases run_invariant (fun _ _ _ => Polls.step) (.inr initially) along reached with
    ended | polls
  · exact .inl ended
  · exact .inr ⟨polls.away, by rw [← polls.nested]; omega⟩

/-! ## Back to the menu -/

/-- The client is in a call exactly when it is not in `main`. -/
def Nested (session : Session) : Prop :=
  match session.client.phase with
  | .choosing => session.client.calls = 0
  | .calling | .blocked | .examining | .looping => 0 < session.client.calls
  | _ => True

theorem Nested.step
    {event : SessionEvent} (nested : Nested session)
    (stepped : session.step cJSON username password event = some next) : Nested next := by
  unfold Nested at nested
  cases event with
  | answer reply =>
      simp only [Session.step] at stepped
      split_ifs at stepped
      exact Option.some.inj stepped ▸ nested
  | choose choice =>
      simp only [Session.step] at stepped
      split at stepped
      case h_4 => simp at stepped
      all_goals
        obtain rfl := Option.some.inj stepped
        trivial
  | interrupt =>
      simp only [Session.step, Client.signHandler_phase] at stepped
      cases phase : session.client.phase with
      | ended => simp [phase] at stepped
      | blocked =>
          simp only [phase] at stepped nested
          split_ifs at stepped <;> obtain rfl := Option.some.inj stepped <;>
            simpa [Nested, Client.signHandler, phase] using nested
      | sending =>
          simp only [phase] at stepped
          obtain rfl := Option.some.inj stepped
          simp [Nested, phase]
      | _ =>
          simp only [phase] at stepped nested
          obtain rfl := Option.some.inj stepped
          simpa [Nested, Client.signHandler, phase] using nested
  | proceed =>
      simp only [Session.step, Session.proceed] at stepped
      cases phase : session.client.phase with
      | choosing =>
          simp only [phase] at stepped
          split_ifs at stepped
          exact Option.some.inj stepped ▸ trivial
      | sending =>
          simp only [phase] at stepped
          exact Option.some.inj stepped ▸ Nat.succ_pos _
      | calling =>
          simp only [phase] at stepped nested
          exact Option.some.inj stepped ▸ nested
      | blocked =>
          simp only [phase] at stepped nested
          obtain ⟨reply, _, rfl⟩ := Option.map_eq_some_iff.mp stepped
          exact nested
      | examining =>
          simp only [phase] at stepped nested
          obtain rfl := Option.some.inj stepped
          unfold Nested
          dsimp only
          split_ifs
          · trivial
          · exact nested
      | looping =>
          simp only [phase] at stepped nested
          split_ifs at stepped with flag last <;> obtain rfl := Option.some.inj stepped
          · trivial
          · exact Nat.sub_eq_zero_of_le last
          · exact Nat.sub_pos_of_lt (by omega)
      | ended => simp [phase] at stepped

/-- With the flag cleared the calls return one after the other. -/
theorem run_returns
    {count : Nat} (looping : session.client.phase = .looping)
    (cleared : session.client.flagGetSupply = false)
    (nested : session.client.calls = count + 1) :
    run (Session.step cJSON username password) session (List.replicate (count + 1) .proceed) =
      some { session with client := { session.client with calls := 0, phase := .choosing } } := by
  induction count generalizing session with
  | zero =>
      simp [List.replicate, Session.step, Session.proceed, looping, cleared, nested]
  | succ count inductionHypothesis =>
      rw [List.replicate_succ, run_cons]
      have returned : session.step cJSON username password .proceed =
          some { session with client := { session.client with calls := count + 1 } } := by
        simp [Session.step, Session.proceed, looping, cleared, nested]
      rw [returned, Option.bind_some]
      exact inductionHypothesis looping cleared rfl

/-- What is done without the server and the user: the client goes on, and SIGINT
arrives where `recv` has nothing to return. -/
def Alone (session : Session) : SessionEvent → Prop
  | .proceed => True
  | .interrupt => session.client.phase = .blocked ∧ session.replies.length ≤ session.received
  | .choose _ | .answer _ => False

/-- The client comes back to the menu, or ends, by so many steps of its own and
SIGINTs, so many SIGINTs, and sending no more than so many requests. -/
def Returns (cJSON : CJson) (username password : Text) (steps interrupts sent : Nat)
    (session : Session) : Prop :=
  ∃ events final, run (Session.step cJSON username password) session events = some final ∧
    Along (Session.step cJSON username password) Alone session events ∧
      events.length ≤ steps ∧ events.countP SessionEvent.isInterrupt ≤ interrupts ∧
        final.requests.length ≤ session.requests.length + sent ∧
          (final.client.phase = .ended ∨
            final.client.phase = .choosing ∧ final.client.calls = 0)

/-- A step of the client before. -/
theorem Returns.of_proceed
    {steps interrupts sent more : Nat}
    (stepped : session.step cJSON username password .proceed = some next)
    (requests : next.requests.length + sent ≤ session.requests.length + more)
    (returns : Returns cJSON username password steps interrupts sent next) :
    Returns cJSON username password (steps + 1) interrupts more session := by
  obtain ⟨events, final, reached, alone, length, few, sends, back⟩ := returns
  refine ⟨.proceed :: events, final, ?_, .cons trivial stepped alone, Nat.succ_le_succ length,
    ?_, sends.trans requests, back⟩
  · rw [run_cons, stepped]
    exact reached
  · simpa [List.countP_cons, SessionEvent.isInterrupt] using few

/-- A SIGINT before. -/
theorem Returns.of_interrupt
    {steps interrupts sent : Nat}
    (blocked : session.client.phase = .blocked)
    (nothing : session.replies.length ≤ session.received)
    (stepped : session.step cJSON username password .interrupt = some next)
    (requests : next.requests = session.requests)
    (returns : Returns cJSON username password steps interrupts sent next) :
    Returns cJSON username password (steps + 1) (interrupts + 1) sent session := by
  obtain ⟨events, final, reached, alone, length, few, sends, back⟩ := returns
  refine ⟨.interrupt :: events, final, ?_, .cons ⟨blocked, nothing⟩ stepped alone,
    Nat.succ_le_succ length, ?_, requests ▸ sends, back⟩
  · rw [run_cons, stepped]
    exact reached
  · simpa [List.countP_cons, SessionEvent.isInterrupt] using few

theorem Returns.weaken
    {few steps fewInterrupts interrupts fewSent sent : Nat} (fewer : few ≤ steps)
    (fewerInterrupts : fewInterrupts ≤ interrupts) (fewerSent : fewSent ≤ sent)
    (returns : Returns cJSON username password few fewInterrupts fewSent session) :
    Returns cJSON username password steps interrupts sent session := by
  obtain ⟨events, final, reached, alone, length, count, sends, back⟩ := returns
  exact ⟨events, final, reached, alone, length.trans fewer, count.trans fewerInterrupts,
    sends.trans (Nat.add_le_add_left fewerSent _), back⟩

theorem returns_of_looping
    (looping : session.client.phase = .looping)
    (cleared : session.client.flagGetSupply = false) (inCall : 0 < session.client.calls) :
    Returns cJSON username password session.client.calls 0 0 session := by
  obtain ⟨count, nested⟩ := Nat.exists_eq_succ_of_ne_zero inCall.ne'
  refine ⟨_, _, run_returns looping cleared nested, .of_forall_mem ?_ _, ?_, ?_, le_rfl,
    .inr ⟨rfl, rfl⟩⟩
  · intro event present state
    rw [List.eq_of_mem_replicate present]
    trivial
  · rw [List.length_replicate, nested]
  · rw [List.countP_replicate]
    rfl

theorem returns_of_ended {steps : Nat} (ended : session.client.phase = .ended) :
    Returns cJSON username password steps 0 0 session :=
  ⟨[], session, rfl, trivial, Nat.zero_le _, le_rfl, le_rfl, .inl ended⟩

theorem returns_of_examining
    (examining : session.client.phase = .examining)
    (cleared : session.client.flagGetSupply = false) (inCall : 0 < session.client.calls) :
    Returns cJSON username password (session.client.calls + 1) 0 0 session := by
  have stepped : session.step cJSON username password .proceed = some
      { session with
        client :=
          { session.client with
            phase :=
              if isKeyInJsonBuffer cJSON session.client.recvSocketBuffer K_END then .ended
              else .looping }
        examined := session.examined ++ [session.client.recvSocketBuffer] } := by
    simp [Session.step, Session.proceed, examining]
  by_cases told : isKeyInJsonBuffer cJSON session.client.recvSocketBuffer K_END
  · exact .of_proceed stepped le_rfl (returns_of_ended (if_pos told))
  · exact .of_proceed stepped le_rfl (returns_of_looping (if_neg told) cleared inCall)

/-- A blocked `recv` returns by its reply or by another SIGINT. -/
theorem returns_of_blocked
    (blocked : session.client.phase = .blocked)
    (cleared : session.client.flagGetSupply = false) (inCall : 0 < session.client.calls) :
    Returns cJSON username password (session.client.calls + 2) 1 0 session := by
  by_cases waiting : session.received < session.replies.length
  · have stepped : session.step cJSON username password .proceed = some
        { session with
          client :=
            { session.client with
              recvSocketBuffer := (recvTcpMessage (some session.replies[session.received])).2
              phase := .examining }
          received := session.received + 1 } := by
      simp [Session.step, Session.proceed, blocked, waiting]
    exact .of_proceed stepped le_rfl
      (.weaken le_rfl (Nat.zero_le _) le_rfl (returns_of_examining rfl cleared inCall))
  · have stepped : session.step cJSON username password .interrupt = some
        { session with
          client :=
            { session.client.signHandler with
              recvSocketBuffer := (recvTcpMessage none).2
              phase := .examining } } := by
      simp [Session.step, blocked, waiting]
    exact .of_interrupt blocked (Nat.le_of_not_lt waiting) stepped rfl
      (returns_of_examining rfl rfl inCall)

theorem returns_of_calling
    (calling : session.client.phase = .calling)
    (cleared : session.client.flagGetSupply = false) (inCall : 0 < session.client.calls) :
    Returns cJSON username password (session.client.calls + 3) 1 0 session := by
  have stepped : session.step cJSON username password .proceed = some
      { session with
        client := { session.client with recvSocketBuffer := [], phase := .blocked } } := by
    simp [Session.step, Session.proceed, calling]
  exact .of_proceed stepped le_rfl (returns_of_blocked rfl cleared inCall)

theorem returns_of_sending
    (sending : session.client.phase = .sending)
    (cleared : session.client.flagGetSupply = false) :
    Returns cJSON username password (session.client.calls + 5) 1 1 session := by
  have stepped : session.step cJSON username password .proceed = some
      { session with
        client := { session.client with calls := session.client.calls + 1, phase := .calling }
        requests :=
          if session.client.sendSocketBuffer = [] then session.requests
          else session.requests ++ [session.client.sendSocketBuffer] } := by
    simp [Session.step, Session.proceed, sending]
  refine .of_proceed stepped ?_ (returns_of_calling rfl cleared (Nat.succ_pos _))
  dsimp only
  split_ifs
  · exact Nat.le_succ _
  · exact (List.length_append).le

/-- From every state a client can be in away from the menu, SIGINT brings it back
without any help of the server: in at most five steps more than it is calls deep,
with at most one more SIGINT, where `recv` has nothing to return, and one more request
on the way. -/
theorem interrupt_returns
    {before : Session} {events : List SessionEvent}
    (fresh : session.Fresh) (atMenu : session.client.calls = 0)
    (reached : run (Session.step cJSON username password) session events = some before)
    (away : before.client.phase ≠ .choosing) (running : before.client.phase ≠ .ended) :
    ∃ after, before.step cJSON username password .interrupt = some after ∧
      Returns cJSON username password (before.client.calls + 5) 1 1 after ∧
        after.requests = before.requests := by
  have initially : Nested session := by
    unfold Nested
    rw [fresh.1]
    exact atMenu
  have nested : Nested before :=
    run_preserved (fun _ _ _ nested stepped => nested.step stepped) initially reached
  have interrupted (notBlocked : before.client.phase ≠ .blocked) :
      before.step cJSON username password .interrupt =
        some { before with client := before.client.signHandler } := by
    simp only [Session.step, Client.signHandler_phase]
  unfold Nested at nested
  cases phase : before.client.phase with
  | choosing => exact absurd phase away
  | ended => exact absurd phase running
  | sending =>
      exact ⟨_, interrupted (by simp [phase]), returns_of_sending phase rfl, rfl⟩
  | calling =>
      rw [phase] at nested
      exact ⟨_, interrupted (by simp [phase]),
        .weaken (Nat.add_le_add_left (by decide) _) (by decide) (by decide)
          (returns_of_calling phase rfl nested), rfl⟩
  | blocked =>
      rw [phase] at nested
      by_cases waiting : before.received < before.replies.length
      · refine ⟨{ before with client := before.client.signHandler }, ?_,
          .weaken (Nat.add_le_add_left (by decide) _) (by decide) (by decide)
          (returns_of_blocked phase rfl nested), rfl⟩
        simp [Session.step, phase, waiting]
      · refine ⟨{ before with
            client :=
              { before.client.signHandler with
                recvSocketBuffer := (recvTcpMessage none).2
                phase := .examining } }, ?_,
          .weaken (Nat.add_le_add_left (by decide) _) (by decide) (by decide)
          (returns_of_examining rfl rfl nested), rfl⟩
        simp [Session.step, phase, waiting]
  | examining =>
      rw [phase] at nested
      exact ⟨_, interrupted (by simp [phase]),
        .weaken (Nat.add_le_add_left (by decide) _) (by decide) (by decide)
          (returns_of_examining phase rfl nested), rfl⟩
  | looping =>
      rw [phase] at nested
      exact ⟨_, interrupted (by simp [phase]),
        .weaken (Nat.le_add_right _ _) (by decide) (by decide)
          (returns_of_looping phase rfl nested), rfl⟩

end

/-- A client two requests into its polling. -/
def polling : List SessionEvent :=
  [.choose (some .getStatus), .proceed, .proceed, .answer "{}".toList, .proceed, .proceed,
    .proceed, .proceed]

/-- Its events after it has chosen. -/
private theorem exists_run_polling :
    ∃ chosen final,
      connected.step .reference ADMIN ADMIN (.choose (some .getStatus)) = some chosen ∧
        run (Session.step .reference ADMIN ADMIN) chosen polling.tail = some final ∧
          final.client.phase = .calling ∧ final.client.calls = 2 := by
  have evaluated : (run (Session.step .reference ADMIN ADMIN) connected polling).map
      (fun final => (final.client.phase, final.client.calls)) = some (.calling, 2) := by
    decide +kernel
  obtain ⟨final, reached, same⟩ := Option.map_eq_some_iff.mp evaluated
  obtain ⟨phase, calls⟩ := Prod.mk.inj same
  obtain ⟨chosen, stepped, rest⟩ := Option.bind_eq_some_iff.mp reached
  exact ⟨chosen, final, stepped, rest, phase, calls⟩

/-- It has sent two requests and is two calls deep. -/
theorem polls_nest_polling :
    ∃ chosen final,
      connected.step .reference ADMIN ADMIN (.choose (some .getStatus)) = some chosen ∧
        run (Session.step .reference ADMIN ADMIN) chosen polling.tail = some final ∧
          final.requests.length = 2 := by
  obtain ⟨chosen, final, stepped, rest, phase, calls⟩ := exists_run_polling
  refine ⟨chosen, final, stepped, rest, ?_⟩
  rcases polls_nest CJson.reference_lawful rfl stepped (by simp [polling]) rest with
    ended | ⟨_, depth⟩
  · rw [phase] at ended
    cases ended
  · rw [calls] at depth
    exact depth.symm

/-- SIGINT brings it back. -/
theorem interrupt_returns_polling :
    ∃ before after, run (Session.step .reference ADMIN ADMIN) connected polling = some before ∧
      before.step .reference ADMIN ADMIN .interrupt = some after ∧
        Returns .reference ADMIN ADMIN 7 1 1 after := by
  obtain ⟨chosen, before, stepped, rest, phase, calls⟩ := exists_run_polling
  have reached : run (Session.step .reference ADMIN ADMIN) connected polling = some before := by
    rw [polling, run_cons, stepped]
    exact rest
  obtain ⟨after, interrupted, returns, _⟩ :=
    interrupt_returns fresh_connected rfl reached (by simp [phase]) (by simp [phase])
  rw [calls] at returns
  exact ⟨before, after, reached, interrupted, returns⟩

end Session

end Refuge
