import Refuge.Network.Orders

/-!
# No connection process waits for another

The semaphore that guards the updates is not shared, so a connection process can always
go on by itself, and few of its own steps settle a request whatever the others do in
between: it replies, or it exits because its update fails.
-/

namespace Refuge

open Foundation

/-- A step of the connection process of a client. -/
def NetworkEvent.isOf {Id Other : Type} [DecidableEq Id] (id : Id) : NetworkEvent Id Other → Bool
  | .take other _ | .reply other => other = id
  | .act (.inl other, _) => other = id
  | .act (.inr _, _) | .client .. => false

/-- The steps an update may still take in its connection process. -/
def Phase.rank : Phase → Nat
  | .started _ => 3
  | .read .. => 2
  | .returned _ => 1
  | .idle | .ended => 0

/-- The steps a connection process may still take to settle a request. -/
def Turn.rank (phase : Phase) : Turn → Nat
  | .receiving => 4
  | .updating => phase.rank
  | .replying .. => 1
  | .ended => 0

namespace Network

section

variable {Id Other : Type} [DecidableEq Id] [DecidableEq Other] {cJSON : CJson}
  {role : Other → Role} {username password : Id → Text} {network next final : Network Id Other}

/-- The steps the connection process of a client may still take. -/
def rank (network : Network Id Other) (id : Id) : Nat :=
  (network.turn id).rank (network.system.process (.inl id)).phase

/-- Every process of the network keeps its own semaphore. -/
def KeepsOwn (role : Other → Role) (network : Network Id Other) : Prop :=
  ∀ pid, HoldsOwn (roleIn role pid) (network.system.process pid)

theorem KeepsOwn.step
    {event : NetworkEvent Id Other} (keeps : network.KeepsOwn role)
    (stepped : network.step cJSON role username password event = some next) :
    next.KeepsOwn role := by
  cases event with
  | client id event =>
      obtain ⟨_, session, _, rfl⟩ := client_of_step stepped
      exact keeps
  | take id leftover =>
      obtain ⟨request, _, _, handles⟩ := take_of_step stepped
      simp only [handle] at handles
      cases order : orderOf cJSON request with
      | some update =>
          simp only [order] at handles
          obtain ⟨system, begun, rfl⟩ := Option.map_eq_some_iff.mp handles
          exact HoldsOwn.step keeps begun
      | none =>
          simp only [order] at handles
          obtain rfl := Option.some.inj handles
          exact keeps
  | act event =>
      obtain ⟨system, taken, ⟨_, _, _, rfl⟩ | ⟨_, rfl⟩⟩ := act_of_step stepped
      · exact HoldsOwn.step keeps taken
      · exact HoldsOwn.step keeps taken
  | reply id =>
      obtain ⟨sent, outcome, session, _, _, rfl⟩ := reply_of_step stepped
      change ∀ pid, HoldsOwn (roleIn role pid) ((post cJSON role network.system id).process pid)
      rw [post]
      cases taken : network.system.step cJSON (roleIn role) (.inl id, .finish) with
      | none => exact keeps
      | some system => exact HoldsOwn.step keeps taken

variable {history : List ((Id ⊕ Other) × Update)}

/-- What the others do leaves a connection process where it is, and its replies. -/
theorem rank_of_others
    (accounts : Accounts cJSON username password network history)
    {event : NetworkEvent Id Other} {id : Id} (others : event.isOf id = false)
    (stepped : network.step cJSON role username password event = some next) :
    next.turn id = network.turn id ∧ next.rank id = network.rank id ∧
      (next.session id).replies = (network.session id).replies := by
  cases event with
  | client other event =>
      obtain ⟨notAnswer, session, taken, rfl⟩ := client_of_step stepped
      refine ⟨rfl, rfl, ?_⟩
      by_cases same : id = other
      · subst same
        simpa [setSession] using ((accounts.served id).stock.step taken).2.2 notAnswer
      · simp [setSession, same]
  | take other leftover =>
      have different : id ≠ other := by simpa [NetworkEvent.isOf, eq_comm] using others
      obtain ⟨request, _, _, handles⟩ := take_of_step stepped
      simp only [handle] at handles
      cases order : orderOf cJSON request with
      | some update =>
          simp only [order] at handles
          obtain ⟨system, begun, rfl⟩ := Option.map_eq_some_iff.mp handles
          have unmoved := (System.step_moves begun).2 (.inl id) (by simpa using different)
          simp [rank, setTurn, different, unmoved]
      | none =>
          simp only [order] at handles
          obtain rfl := Option.some.inj handles
          simp [rank, setTurn, different]
  | act event =>
      obtain ⟨pid, action⟩ := event
      have different : .inl id ≠ pid := by
        rintro rfl
        simp [NetworkEvent.isOf] at others
      obtain ⟨system, taken, ⟨other, rfl, _, rfl⟩ | ⟨_, rfl⟩⟩ := act_of_step stepped
      · have unmoved := (System.step_moves taken).2 (.inl id) different
        have elsewhere : id ≠ other := fun same => different (same ▸ rfl)
        simp [rank, setTurn, elsewhere, unmoved]
      · have unmoved := (System.step_moves taken).2 (.inl id) different
        simp [rank, unmoved]
  | reply other =>
      have different : id ≠ other := by simpa [NetworkEvent.isOf, eq_comm] using others
      obtain ⟨sent, outcome, session, replying, _, rfl⟩ := reply_of_step stepped
      have atTurn := (accounts.served other).atTurn
      rw [replying] at atTurn
      have unmoved := (@post_spec Id Other _ _ cJSON role network.system other atTurn.2.1).2.2.2
        (.inl id) (by simpa using different)
      simp [rank, setSession, setTurn, different, unmoved]

/-- A step of a connection process settles its request or brings it closer. -/
theorem rank_of_own
    (accounts : Accounts cJSON username password network history)
    {event : NetworkEvent Id Other} {id : Id} (own : event.isOf id = true)
    (stepped : network.step cJSON role username password event = some next) :
    (network.session id).replies.length < (next.session id).replies.length ∨
      next.turn id = .ended ∨
        next.rank id < network.rank id ∧
          (next.session id).replies = (network.session id).replies := by
  have atTurn := (accounts.served id).atTurn
  cases event with
  | client other event => simp [NetworkEvent.isOf] at own
  | take other leftover =>
      obtain rfl : other = id := by simpa [NetworkEvent.isOf] using own
      obtain ⟨request, receiving, _, handles⟩ := take_of_step stepped
      simp only [handle] at handles
      cases order : orderOf cJSON request with
      | some update =>
          simp only [order] at handles
          obtain ⟨system, begun, rfl⟩ := Option.map_eq_some_iff.mp handles
          have started := (System.step_moves begun).1.of_start.1
          exact .inr (.inr (by simp [rank, setTurn, receiving, Turn.rank, started, Phase.rank]))
      | none =>
          simp only [order] at handles
          obtain rfl := Option.some.inj handles
          exact .inr (.inr (by simp [rank, setTurn, receiving, Turn.rank]))
  | act event =>
      obtain ⟨pid, action⟩ := event
      obtain rfl : pid = .inl id := by
        cases pid <;> simp_all [NetworkEvent.isOf]
      obtain ⟨system, taken, ⟨other, same, updating, rfl⟩ | ⟨⟨_, other⟩, _⟩⟩ := act_of_step stepped
      · obtain rfl := Sum.inl.inj same
        rw [updating] at atTurn
        obtain ⟨_, _, update, _, _, carrying⟩ := atTurn
        have moves := (System.step_moves taken).1
        generalize phaseNext : (system.process (.inl id)).phase = after at moves ⊢
        generalize phaseNow : (network.system.process (.inl id)).phase = before at moves carrying
        generalize system.file = fileNext at moves
        generalize system.completed = completedNext at moves
        cases moves with
        | start => simp [Phase.Carrying] at carrying
        | readFailed | read | editFailed =>
            refine .inr (.inr ?_)
            simp [rank, setTurn, updating, Turn.rank, phaseNow, phaseNext, afterAction, Phase.rank]
        | written =>
            refine .inr (.inr ?_)
            simp [rank, setTurn, updating, Turn.rank, phaseNow, afterAction, Phase.rank]
        | finished code => exact .inr (.inl (by simp [setTurn, afterAction]))
      · cases other
  | reply other =>
      obtain rfl : other = id := by simpa [NetworkEvent.isOf] using own
      obtain ⟨sent, outcome, session, replying, sends, rfl⟩ := reply_of_step stepped
      rw [replying] at atTurn
      cases sent with
      | none =>
          have exits := atTurn.2.2 rfl
          exact .inr (.inl (by simp [setTurn, exits]))
      | some message =>
          simp only [Session.afterMessage, Session.step] at sends
          split_ifs at sends
          obtain rfl := Option.some.inj sends
          exact .inl (by simp [setSession, setTurn])

omit [DecidableEq Id] [DecidableEq Other] in
theorem rank_le_four (network : Network Id Other) (id : Id) : network.rank id ≤ 4 := by
  unfold rank Turn.rank
  cases network.turn id with
  | updating => cases (network.system.process (.inl id)).phase <;> simp [Phase.rank]
  | _ => simp

theorem rank_pos
    (accounts : Accounts cJSON username password network history) {id : Id}
    (going : network.turn id ≠ .ended) : 0 < network.rank id := by
  have atTurn := (accounts.served id).atTurn
  unfold rank
  cases turn : network.turn id with
  | updating =>
      rw [turn] at atTurn
      obtain ⟨_, _, _, _, _, started | ⟨_, _, read⟩ | returned⟩ := atTurn
      · simp [Turn.rank, started, Phase.rank]
      · simp [Turn.rank, read, Phase.rank]
      · simp [Turn.rank, returned, Phase.rank]
  | ended => exact absurd turn going
  | _ => simp [Turn.rank]

/-- The connection process of a client has sent more replies than these, or exited. -/
def Settled (count : Nat) (id : Id) (network : Network Id Other) : Prop :=
  count < (network.session id).replies.length ∨ network.turn id = .ended

theorem step_of_ended
    {event : NetworkEvent Id Other} {id : Id} (ended : network.turn id = .ended)
    (own : event.isOf id = true) :
    network.step cJSON role username password event = none := by
  cases event with
  | client other event => simp [NetworkEvent.isOf] at own
  | take other leftover =>
      obtain rfl : other = id := by simpa [NetworkEvent.isOf] using own
      simp [Network.step, ended]
  | act event =>
      obtain ⟨other | other, action⟩ := event
      · obtain rfl : other = id := by simpa [NetworkEvent.isOf] using own
        simp [Network.step, ended]
      · simp [NetworkEvent.isOf] at own
  | reply other =>
      obtain rfl : other = id := by simpa [NetworkEvent.isOf] using own
      simp [Network.step, ended]

theorem Settled.step
    (accounts : Accounts cJSON username password network history)
    {event : NetworkEvent Id Other} {id : Id} {count : Nat} (settled : network.Settled count id)
    (stepped : network.step cJSON role username password event = some next) :
    next.Settled count id := by
  cases own : event.isOf id with
  | false =>
      obtain ⟨sameTurn, _, sameReplies⟩ := rank_of_others accounts own stepped
      rwa [Settled, sameTurn, sameReplies]
  | true =>
      rcases settled with some | ended
      · rcases rank_of_own accounts own stepped with more | ended | ⟨_, same⟩
        · exact .inl (some.trans more)
        · exact .inr ended
        · exact .inl (same ▸ some)
      · rw [step_of_ended ended own] at stepped
        cases stepped

theorem Settled.run
    (lawful : cJSON.Lawful) (accounts : Accounts cJSON username password network history)
    {events : List (NetworkEvent Id Other)} {id : Id} {count : Nat}
    (settled : network.Settled count id)
    (reached : Foundation.run (Network.step cJSON role username password) network events =
      some final) :
    final.Settled count id := by
  have preserved (before : Network Id Other) (event : NetworkEvent Id Other)
      (after : Network Id Other)
      (both : (∃ history, Accounts cJSON username password before history) ∧
        before.Settled count id)
      (stepped : before.step cJSON role username password event = some after) :
      (∃ history, Accounts cJSON username password after history) ∧ after.Settled count id := by
    obtain ⟨⟨history, accounts⟩, settled⟩ := both
    exact ⟨⟨_, accounts.step lawful stepped⟩, settled.step accounts stepped⟩
  exact (run_preserved preserved ⟨⟨history, accounts⟩, settled⟩ reached).2

/-- The run lemma: a connection process takes no more steps than it may take until it has
settled its request, whatever the others do in between. -/
theorem settled_or_le
    (lawful : cJSON.Lawful) (accounts : Accounts cJSON username password network history)
    {events : List (NetworkEvent Id Other)} {id : Id} {count : Nat}
    (counted : (network.session id).replies.length = count)
    (reached : run (Network.step cJSON role username password) network events = some final) :
    final.Settled count id ∨
      events.countP (NetworkEvent.isOf id) + final.rank id ≤ network.rank id := by
  induction events generalizing network history with
  | nil =>
      obtain rfl := Option.some.inj reached
      exact .inr (by simp)
  | cons event events inductionHypothesis =>
      obtain ⟨next, stepped, continued⟩ := Option.bind_eq_some_iff.mp reached
      have accountsNext := accounts.step lawful stepped
      rw [List.countP_cons]
      cases own : event.isOf id with
      | false =>
          obtain ⟨_, sameRank, sameReplies⟩ := rank_of_others accounts own stepped
          rw [← sameReplies] at counted
          rw [← sameRank]
          simpa using inductionHypothesis accountsNext counted continued
      | true =>
          rcases rank_of_own accounts own stepped with more | ended | ⟨closer, same⟩
          · exact .inl (Settled.run lawful accountsNext (.inl (counted ▸ more)) continued)
          · exact .inl (Settled.run lawful accountsNext (.inr ended) continued)
          · rw [← same] at counted
            rcases inductionHypothesis accountsNext counted continued with settled | few
            · exact .inl settled
            · refine .inr ?_
              rw [if_pos rfl]
              omega

/-- A connection process that has a request to settle can go on by itself, if its message
can be received. -/
theorem exists_own_step
    (accounts : Accounts cJSON username password network history)
    (keeps : network.KeepsOwn role) {id : Id}
    (unanswered : (network.session id).replies.length < (network.session id).requests.length)
    (going : network.turn id ≠ .ended)
    (receivable : ∀ message outcome, network.turn id = .replying (some message) outcome →
      Receivable message) :
    ∃ event next, event.isOf id = true ∧
      network.step cJSON role username password event = some next := by
  have atTurn := (accounts.served id).atTurn
  have own := keeps (.inl id)
  cases turn : network.turn id with
  | receiving =>
      rw [turn] at atTurn
      obtain ⟨idle, replied⟩ := atTurn
      obtain ⟨request, found⟩ : ∃ request,
          (network.session id).requests[network.received id]? = some request := by
        rw [← replied]
        exact ⟨_, List.getElem?_eq_getElem unanswered⟩
      have isAdmin : roleIn role (.inl id : Id ⊕ Other) = .admin := rfl
      rw [HoldsOwn, idle] at own
      refine ⟨.take id [], ?_⟩
      simp only [NetworkEvent.isOf, decide_true, Network.step, turn, found, handle, true_and]
      cases order : orderOf cJSON request with
      | none => exact ⟨_, rfl⟩
      | some update =>
          have makes : Role.admin.makes update = true := by
            obtain ⟨category, key, value, rfl⟩ := exists_of_orderOf order
            rfl
          simp [System.step, idle, isAdmin, makes, own, Phase.busy]
  | updating =>
      rw [turn] at atTurn
      obtain ⟨_, _, update, _, _, carrying⟩ := atTurn
      rcases carrying with started | ⟨buffer, seen, read⟩ | returned
      · refine ⟨.act (.inl id, .read), ?_⟩
        simp only [NetworkEvent.isOf, decide_true, Network.step, turn, System.step, started,
          true_and]
        cases readFile .none network.system.file <;> simp
      · refine ⟨.act (.inl id, .write), ?_⟩
        simp only [NetworkEvent.isOf, decide_true, Network.step, turn, System.step, read,
          true_and]
        cases update.edit cJSON buffer <;> simp
      · refine ⟨.act (.inl id, .finish), ?_⟩
        have isAdmin : roleIn role (.inl id : Id ⊕ Other) = .admin := rfl
        simp [NetworkEvent.isOf, Network.step, turn, System.step, returned, isAdmin]
  | replying sent outcome =>
      refine ⟨.reply id, ?_⟩
      cases sent with
      | none => simp [NetworkEvent.isOf, Network.step, turn, Session.afterMessage]
      | some message =>
          have fits := receivable message outcome turn
          simp [NetworkEvent.isOf, Network.step, turn, Session.afterMessage, Session.step,
            unanswered, fits]
  | ended => exact absurd turn going

theorem accounts_of_run
    (lawful : cJSON.Lawful) (accounts : Accounts cJSON username password network history)
    (keeps : network.KeepsOwn role) {events : List (NetworkEvent Id Other)}
    (reached : run (Network.step cJSON role username password) network events = some final) :
    ∃ history, Accounts cJSON username password final history ∧ final.KeepsOwn role := by
  have preserved (before : Network Id Other) (event : NetworkEvent Id Other)
      (after : Network Id Other)
      (both : ∃ history, Accounts cJSON username password before history ∧ before.KeepsOwn role)
      (stepped : before.step cJSON role username password event = some after) :
      ∃ history, Accounts cJSON username password after history ∧ after.KeepsOwn role := by
    obtain ⟨history, accounts, keeps⟩ := both
    exact ⟨_, accounts.step lawful stepped, keeps.step stepped⟩
  exact run_preserved preserved ⟨history, accounts, keeps⟩ reached

/-- No connection process waits for another.  In every state that can be reached, stale
writes and interrupts included, the process of a client with an unanswered request can take
a step by itself, if it has not exited and its message can be received; and once it has
taken four steps, in whatever run of all the others, it has replied or exited. -/
theorem requests_settle_in_four
    (lawful : cJSON.Lawful) {before after : List (NetworkEvent Id Other)}
    {middle : Network Id Other} (fresh : network.Fresh)
    (reached : run (Network.step cJSON role username password) network before = some middle)
    {id : Id}
    (unanswered : (middle.session id).replies.length < (middle.session id).requests.length)
    (going : middle.turn id ≠ .ended) :
    ((∀ message outcome, middle.turn id = .replying (some message) outcome →
        Receivable message) →
      ∃ event next, event.isOf id = true ∧
        middle.step cJSON role username password event = some next) ∧
      (run (Network.step cJSON role username password) middle after = some final →
        4 ≤ after.countP (NetworkEvent.isOf id) →
          (middle.session id).replies.length < (final.session id).replies.length ∨
            final.turn id = .ended) := by
  have initially : network.KeepsOwn role := fun pid => by
    rw [fresh.2.2.2.1 pid]
    simp [HoldsOwn, Phase.busy]
  obtain ⟨history, accounts, keeps⟩ := accounts_of_run lawful fresh.accounts initially reached
  refine ⟨exists_own_step accounts keeps unanswered going, fun continued four => ?_⟩
  rcases settled_or_le lawful accounts rfl continued with settled | few
  · exact settled
  · obtain ⟨_, accountsFinal, _⟩ := accounts_of_run lawful accounts keeps continued
    by_contra unsettled
    have some := rank_pos accountsFinal fun ended => unsettled (.inr ended)
    have most := rank_le_four middle id
    omega

end

/-- An order is sent, -/
def orderSent : List (NetworkEvent Unit Unit) :=
  [.client () (.choose (some (.modifySupplies waterOrder))), .client () .proceed]

/-- and carried out while an alert begins. -/
def orderSettled : List (NetworkEvent Unit Unit) :=
  [.take () [], .act (.inr (), .start (.addEntry "NORTH".toList)), .act (.inl (), .read),
    .act (.inl (), .write), .reply ()]

/-- Its process can go on, and after its four steps it has replied or exited. -/
theorem requests_settle_in_four_order :
    ∃ middle final, run adminStep oneAdmin orderSent = some middle ∧
      run adminStep middle orderSettled = some final ∧
        (∃ event next, event.isOf () = true ∧ adminStep middle event = some next) ∧
          ((middle.session ()).replies.length < (final.session ()).replies.length ∨
            final.turn () = .ended) := by
  have sent : (run adminStep oneAdmin orderSent).map (fun middle =>
      ((middle.session ()).replies.length, (middle.session ()).requests.length,
        middle.rank ())) = some (0, 1, 4) := by
    decide +kernel
  have settled : (run adminStep oneAdmin (orderSent ++ orderSettled)).isSome := by
    decide +kernel
  obtain ⟨middle, reached, same⟩ := Option.map_eq_some_iff.mp sent
  simp only [Prod.mk.injEq] at same
  obtain ⟨replies, requests, rank⟩ := same
  obtain ⟨final, whole⟩ := Option.isSome_iff_exists.mp settled
  have continued : run adminStep middle orderSettled = some final := by
    rwa [run_append, reached] at whole
  have settles := @requests_settle_in_four Unit Unit _ _ _ _ _ _ _ final
    CJson.reference_lawful orderSent orderSettled middle fresh_oneAdmin reached ()
    (by omega) (fun ended => by simp [Network.rank, ended, Turn.rank] at rank)
  refine ⟨middle, final, reached, continued, settles.1 fun message outcome replying => ?_,
    settles.2 continued (by decide)⟩
  simp [Network.rank, replying, Turn.rank] at rank

end Network

end Refuge
