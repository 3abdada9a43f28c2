import Refuge.Network.Orders

/-!
# Orders as their users choose them

What a user chooses at the menu is what becomes of the file: the orders completed for
a client are those its user chose, in the order they were chosen.  The client sends
the request of an order once, as it only polls with requests for the state.
-/

namespace Refuge

open Foundation

section

variable (cJSON : CJson)

/-- The order a choice makes with these credentials. -/
def Choice.order (username password : Text) : Choice → Option Update
  | .getStatus => none
  | .modifySupplies order =>
      if clientCheckCredentials username password = 1 then
        some (.setSupply order.supplyType.equivalent order.key (sprintfD order.value))
      else none

/-- What the user of a client chooses in a session event. -/
def SessionEvent.chosen : SessionEvent → Option Choice
  | .choose choice => choice
  | .proceed | .interrupt | .answer _ => none

/-- The order a client is about to send. -/
def Client.outgoing (client : Client) : List Update :=
  if client.phase = .sending then (orderOf cJSON client.sendSocketBuffer).toList else []

/-- The orders sent, and the one about to be sent, are these. -/
structure Session.Orders (session : Session) (orders : List Update) : Prop where
  sent : session.requests.filterMap (orderOf cJSON) ++ session.client.outgoing cJSON = orders
  polls : session.client.flagGetSupply = true →
    session.client.phase ≠ .choosing ∧ orderOf cJSON session.client.sendSocketBuffer = none

end

section

variable {cJSON : CJson} {username password : Text} {session next : Session}
  {orders : List Update} {event : SessionEvent}

theorem orderOf_choice (lawful : cJSON.Lawful) (choice : Choice) :
    orderOf cJSON (clientRequest cJSON choice username password) =
      choice.order username password := by
  cases choice with
  | getStatus =>
      have content : clientRequest cJSON .getStatus username password =
          cJSON.print (textObject (statusFields username password)) :=
        foldl_addText lawful (by simp [statusFields]) Buffered.nodup_names_statusFields
      rw [content]
      exact orderOf_of_status (getCommand_textObject lawful rfl)
  | modifySupplies order => exact orderOf_clientRequest lawful order

theorem orderOf_poll (lawful : cJSON.Lawful) :
    orderOf cJSON (getOptions cJSON .getStatus []) = none := by
  have distinct : (Members.names pollFields).Nodup := by decide
  have content : getOptions cJSON .getStatus [] = cJSON.print (textObject pollFields) :=
    foldl_addText lawful (by simp [pollFields]) distinct
  rw [content]
  exact orderOf_of_status (getCommand_textObject lawful rfl)

namespace Session

/-- The step lemma: a client orders what its user chooses, and nothing else. -/
theorem Orders.step
    (lawful : cJSON.Lawful) (ordered : session.Orders cJSON orders)
    (stepped : session.step cJSON username password event = some next) :
    next.Orders cJSON
      (orders ++ (event.chosen.bind (Choice.order username password)).toList) := by
  obtain ⟨sent, polls⟩ := ordered
  cases event with
  | answer reply =>
      simp only [Session.step] at stepped
      split_ifs at stepped
      obtain rfl := Option.some.inj stepped
      exact ⟨by simpa [SessionEvent.chosen] using sent, polls⟩
  | choose choice =>
      have unflagged (phase : session.client.phase = .choosing) :
          session.client.flagGetSupply ≠ true := fun flag => (polls flag).1 phase
      simp only [Session.step] at stepped
      split at stepped
      case h_1 phase _ =>
        obtain rfl := Option.some.inj stepped
        refine ⟨?_, fun flag => absurd flag (unflagged phase)⟩
        simpa [Client.outgoing, phase, SessionEvent.chosen] using sent
      case h_2 phase _ =>
        obtain rfl := Option.some.inj stepped
        refine ⟨?_, fun _ => ⟨by simp [Client.ready], orderOf_choice lawful .getStatus⟩⟩
        simpa [Client.outgoing, Client.ready, phase, SessionEvent.chosen, Choice.order,
          orderOf_choice lawful] using sent
      case h_3 phase _ =>
        obtain rfl := Option.some.inj stepped
        refine ⟨?_, fun flag => absurd flag (unflagged phase)⟩
        simpa [Client.outgoing, Client.ready, phase, SessionEvent.chosen,
          orderOf_choice lawful] using sent
      case h_4 => simp at stepped
  | interrupt =>
      simp only [Session.step, Client.signHandler_phase] at stepped
      cases phase : session.client.phase with
      | ended => simp [phase] at stepped
      | blocked =>
          simp only [phase] at stepped
          split_ifs at stepped <;> obtain rfl := Option.some.inj stepped <;>
            exact ⟨by simpa [Client.outgoing, Client.signHandler, phase, SessionEvent.chosen]
              using sent, by simp [Client.signHandler]⟩
      | _ =>
          simp only [phase] at stepped
          obtain rfl := Option.some.inj stepped
          exact ⟨by simpa [Client.outgoing, Client.signHandler, phase, SessionEvent.chosen]
            using sent, by simp [Client.signHandler]⟩
  | proceed =>
      simp only [Session.step, Session.proceed] at stepped
      simp only [SessionEvent.chosen, Option.bind_none, Option.toList_none, List.append_nil]
      cases phase : session.client.phase with
      | choosing =>
          simp only [phase] at stepped
          split_ifs at stepped
          obtain rfl := Option.some.inj stepped
          refine ⟨?_, fun flag => absurd phase (polls flag).1⟩
          simpa [Client.outgoing, Client.ready, phase, orderOf_poll lawful] using sent
      | sending =>
          simp only [phase] at stepped
          obtain rfl := Option.some.inj stepped
          refine ⟨?_, fun flag => ⟨by simp, (polls flag).2⟩⟩
          have one : [session.client.sendSocketBuffer].filterMap (orderOf cJSON) =
              (orderOf cJSON session.client.sendSocketBuffer).toList := by
            cases order : orderOf cJSON session.client.sendSocketBuffer <;> simp [order]
          by_cases empty : session.client.sendSocketBuffer = []
          · simpa [Client.outgoing, phase, empty, orderOf] using sent
          · simpa [Client.outgoing, phase, empty, List.filterMap_append, one] using sent
      | looping =>
          simp only [phase] at stepped
          split at stepped
          case isTrue flag =>
            obtain rfl := Option.some.inj stepped
            refine ⟨?_, fun flag => ⟨by simp, (polls flag).2⟩⟩
            simpa [Client.outgoing, phase, (polls flag).2] using sent
          case isFalse flag =>
            obtain rfl := Option.some.inj stepped
            refine ⟨?_, fun polling => absurd polling flag⟩
            by_cases outermost : session.client.calls ≤ 1
            · simpa [Client.outgoing, phase, outermost] using sent
            · simpa [Client.outgoing, phase, outermost] using sent
      | blocked =>
          simp only [phase] at stepped
          obtain ⟨reply, _, rfl⟩ := Option.map_eq_some_iff.mp stepped
          exact ⟨by simpa [Client.outgoing, phase] using sent,
            fun flag => ⟨by simp, (polls flag).2⟩⟩
      | examining =>
          simp only [phase] at stepped
          obtain rfl := Option.some.inj stepped
          by_cases told : isKeyInJsonBuffer cJSON session.client.recvSocketBuffer K_END
          · exact ⟨by simpa [Client.outgoing, phase, told] using sent,
              fun flag => ⟨by simp [told], (polls flag).2⟩⟩
          · exact ⟨by simpa [Client.outgoing, phase, told] using sent,
              fun flag => ⟨by simp [told], (polls flag).2⟩⟩
      | calling =>
          simp only [phase] at stepped
          obtain rfl := Option.some.inj stepped
          exact ⟨by simpa [Client.outgoing, phase] using sent,
            fun flag => ⟨by simp, (polls flag).2⟩⟩
      | ended => simp [phase] at stepped

end Session

end

namespace Network

section

variable {Id Other : Type} [DecidableEq Id] [DecidableEq Other] {cJSON : CJson}
  {role : Other → Role} {username password : Id → Text} {network next final : Network Id Other}

end

end Network

end Refuge
