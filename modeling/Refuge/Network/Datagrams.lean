import Refuge.Network.Views
import Refuge.Service

/-!
# Normal users, on datagrams

A normal user runs the same loop over UDP.  Its datagrams and the replies of the
listener may be lost or overtake others; nothing is sent again, so a user whose
datagram is lost waits.  Everything a user does see is a look at the history the
administrators see.
-/

namespace Refuge

open Foundation

/-- The administrators' network, the normal users, the datagrams that are under way
from and to each of them, and whether the listeners are running. -/
structure Site (Id Other User : Type) where
  network : Network Id Other
  user : User → Session
  asking : User → List Text
  answering : User → List Text
  listening : IpVersion → Bool

/-- What can happen at a site. -/
inductive SiteEvent (Id Other User : Type)
  | network (event : NetworkEvent Id Other)
  /-- A user or its client does something, or SIGINT arrives. -/
  | user (user : User) (event : SessionEvent)
  /-- A listener receives a datagram and sends its message. -/
  | serve (user : User) (request leftover : Text)
  /-- A reply arrives at its user. -/
  | arrive (user : User) (reply : Text)
  | loseRequest (user : User) (request : Text)
  | loseReply (user : User) (reply : Text)

namespace Site

section

variable {Id Other User : Type} [DecidableEq Id] [DecidableEq Other] [DecidableEq User]
  (cJSON : CJson) (role : Other → Role) (username password : Id → Text)
  (version : User → IpVersion) (userName userPassword : User → Text)

/-- One event of a site. -/
def step (site : Site Id Other User) : SiteEvent Id Other User → Option (Site Id Other User)
  | .network event =>
      (site.network.step cJSON role username password event).map fun network =>
        { site with network }
  | .user _ (.answer _) => none
  | .user user event =>
      ((site.user user).step cJSON (userName user) (userPassword user) event).map fun session =>
        { site with
          user := Function.update site.user user session
          -- What the client has sent is under way.
          asking := Function.update site.asking user
            (site.asking user ++ session.requests.drop (site.user user).requests.length) }
  | .serve user request leftover =>
      if request ∈ site.asking user ∧ site.listening (version user) then
        let handled :=
          runNormalUserServer cJSON { calm with leftover } request site.network.system.file
        some
          { site with
            asking := Function.update site.asking user ((site.asking user).erase request)
            answering := Function.update site.answering user
              (site.answering user ++ handled.sent.toList)
            listening := Function.update site.listening (version user)
              (handled.outcome = .waits) }
      else none
  | .arrive user reply =>
      if reply ∈ site.answering user then
        ((site.user user).step cJSON (userName user) (userPassword user) (.answer reply)).map
          fun session =>
            { site with
              user := Function.update site.user user session
              answering := Function.update site.answering user
                ((site.answering user).erase reply) }
      else none
  | .loseRequest user request =>
      some
        { site with
          asking := Function.update site.asking user ((site.asking user).erase request) }
  | .loseReply user reply =>
      some
        { site with
          answering := Function.update site.answering user
            ((site.answering user).erase reply) }

end

/-- Nothing has been sent or updated. -/
def Fresh {Id Other User : Type} (site : Site Id Other User) : Prop :=
  site.network.Fresh ∧ (∀ user, (site.user user).Fresh) ∧ (∀ user, site.asking user = []) ∧
    ∀ user, site.answering user = []

/-- No SIGINT arrives while a client is blocked in `recv`, and no write is stale. -/
def Orderly {Id Other User : Type} (cJSON : CJson) (site : Site Id Other User) :
    SiteEvent Id Other User → Prop
  | .network event => site.network.Orderly cJSON event
  | .user user event => Session.Unbroken (site.user user) event
  | _ => True

end Site

/-- What a reply tells a normal user that sent a request, after a history. -/
inductive TellsUser {Pid : Type} (cJSON : CJson) (initial : Json)
    (history : List (Pid × Update)) : Text × Text → Prop
  | state {request reply : Text} (document : Json)
      (asks : getCommand cJSON false request = OPTION1_)
      (parsed : cJSON.parse reply = some document)
      (shows : Shows initial (history.map Prod.snd) document) :
      TellsUser cJSON initial history (request, reply)
  | denied {request reply : Text} (leftover : Text)
      (orders : getCommand cJSON false request = OPTION2_)
      (made : noticeMessage cJSON leftover K_ACC_DENEID M_ACC_DENEID = .ok reply) :
      TellsUser cJSON initial history (request, reply)

section

variable {cJSON : CJson} {username password request : Text}

/-- A listener answers a client's request with the file or a denial. -/
theorem exists_userReply
    (lawful : cJSON.Lawful) {initial document : Json} {Pid : Type}
    {history : List (Pid × Update)} {file : Text}
    (isRequest : IsRequest cJSON username password request)
    (parsed : cJSON.parse file = some document)
    (shows : Shows initial (history.map Prod.snd) document) (leftover : Text) :
    ∃ reply,
      runNormalUserServer cJSON { calm with leftover } request file =
          { file, sent := some reply, outcome := .waits } ∧
        TellsUser cJSON initial history (request, reply) := by
  have nonempty := lawful.ne_nil_of_parse parsed
  obtain ⟨received, asks | ⟨order, rfl⟩⟩ := isRequest.asks_or_orders lawful
  · have notClose : OPTION1_ ≠ CLOSE_CONNECTION := by decide
    refine ⟨file, ?_, .state document asks parsed shows⟩
    rw [runNormalUserServer, if_neg received]
    simp only [calm, asks, notClose, ↓reduceIte]
    rw [sendSupplyUdp, sendSupply, readFile_none nonempty]
    rfl
  · have orders := getCommand_clientRequest lawful order username password
    have notClose : OPTION2_ ≠ CLOSE_CONNECTION := by decide
    have notStatus : OPTION2_ ≠ OPTION1_ := by decide
    obtain ⟨reply, made⟩ := @exists_noticeMessage cJSON leftover K_ACC_DENEID M_ACC_DENEID
    refine ⟨reply, ?_, .denied leftover orders made⟩
    rw [runNormalUserServer, if_neg received]
    simp only [calm, orders, notClose, notStatus, ↓reduceIte]
    rw [sendDeneidUdpMessage, sendNotice, made]
    rfl

end

/-! ## One user -/

/-- Of one user: at most one request is without a reply, and it is under way, or has
been looked up and its reply is under way, or one of the two was lost. -/
structure Attended {Pid : Type} (cJSON : CJson) (username password : Text) (initial : Json)
    (history : List (Pid × Update)) (session : Session) (asking answering : List Text)
    (looks : List (Look (Text × Text))) : Prop where
  stock : session.Stock cJSON username password
  inStep : session.InStep
  recorded : Looks (TellsUser cJSON initial) history looks
  asked : looks.map (fun look => look.view.1) <+: session.requests
  told : session.replies <+: looks.map (fun look => look.view.2)
  few : asking.length + answering.length + session.replies.length ≤ session.requests.length
  one : session.requests.length ≤ session.replies.length + 1
  waiting : ∀ request ∈ asking, session.requests[session.replies.length]? = some request ∧
    looks.length = session.replies.length
  answered : ∀ reply ∈ answering,
    looks.map (fun look => look.view.2) = session.replies ++ [reply]

namespace Attended

variable {Pid : Type} {cJSON : CJson} {username password : Text} {initial : Json}
  {history : List (Pid × Update)} {session next : Session} {asking answering : List Text}
  {looks : List (Look (Text × Text))}

/-- The history grows. -/
theorem grow
    (attended : Attended cJSON username password initial history session asking answering looks)
    (more : List (Pid × Update)) :
    Attended cJSON username password initial (history ++ more) session asking answering looks :=
  { attended with recorded := attended.recorded.grow more }

/-- A datagram is lost. -/
theorem lose
    (attended : Attended cJSON username password initial history session asking answering looks)
    {fewerAsking fewerAnswering : List Text}
    (sublistAsking : fewerAsking.Sublist asking)
    (sublistAnswering : fewerAnswering.Sublist answering) :
    Attended cJSON username password initial history session fewerAsking fewerAnswering looks :=
  { attended with
    few := by
      have asked := sublistAsking.length_le
      have answered := sublistAnswering.length_le
      have few := attended.few
      omega
    waiting := fun request present => attended.waiting request (sublistAsking.subset present)
    answered := fun reply present => attended.answered reply (sublistAnswering.subset present) }

/-- A user without an unanswered request has had a reply to every look. -/
theorem length_looks
    (attended : Attended cJSON username password initial history session asking answering looks)
    (replied : session.replies.length = session.requests.length) :
    looks.length = session.replies.length := by
  have asked := attended.asked.length_le
  have told := attended.told.length_le
  rw [List.length_map] at asked told
  omega

/-- The client does something. -/
theorem client
    (lawful : cJSON.Lawful)
    (attended : Attended cJSON username password initial history session asking answering looks)
    {event : SessionEvent} (notAnswer : ∀ reply, event ≠ .answer reply)
    (unbroken : session.Unbroken event)
    (stepped : session.step cJSON username password event = some next) :
    Attended cJSON username password initial history next
      (asking ++ next.requests.drop session.requests.length) answering looks := by
  obtain ⟨stockNext, longer, sameReplies⟩ := attended.stock.step stepped
  have inStepNext := attended.inStep.step lawful unbroken stepped
  have replies := sameReplies notAnswer
  rcases Session.step_requests stepped with same | ⟨sending, sends⟩
  · rw [same, List.drop_length, List.append_nil]
    exact ⟨stockNext, inStepNext, attended.recorded, same ▸ attended.asked,
      replies ▸ attended.told, by rw [same, replies]; exact attended.few,
      by rw [same, replies]; exact attended.one, by rw [same, replies]; exact attended.waiting,
      by rw [replies]; exact attended.answered⟩
  · have paired := attended.inStep.paired
    simp only [Session.Paired, sending] at paired
    have available := attended.inStep.available
    have few := attended.few
    have replied : session.replies.length = session.requests.length := by omega
    obtain rfl : asking = [] := List.length_eq_zero_iff.mp (by omega)
    obtain rfl : answering = [] := List.length_eq_zero_iff.mp (by simp at few; omega)
    rw [sends, List.drop_left, List.nil_append]
    refine ⟨stockNext, inStepNext, attended.recorded, ?_, replies ▸ attended.told, ?_, ?_, ?_,
      by simp⟩
    · rw [sends]
      exact attended.asked.trans (List.prefix_append _ _)
    · rw [sends, replies, replied]
      simp
      omega
    · rw [sends, replies, replied]
      simp
    · intro request present
      obtain rfl := List.mem_singleton.mp present
      rw [sends, replies, replied]
      exact ⟨by simp, replied ▸ attended.length_looks replied⟩

/-- A request that is under way is the only datagram. -/
theorem alone_of_asking
    (attended : Attended cJSON username password initial history session asking answering looks)
    {request : Text} (present : request ∈ asking) :
    asking.erase request = [] ∧ answering = [] := by
  have few := attended.few
  have one := attended.one
  have positive := List.length_pos_of_mem present
  have erased := List.length_erase_of_mem present
  constructor <;> refine List.length_eq_zero_iff.mp ?_ <;> omega

/-- So is a reply. -/
theorem alone_of_answering
    (attended : Attended cJSON username password initial history session asking answering looks)
    {reply : Text} (present : reply ∈ answering) :
    asking = [] ∧ answering.erase reply = [] := by
  have few := attended.few
  have one := attended.one
  have positive := List.length_pos_of_mem present
  have erased := List.length_erase_of_mem present
  constructor <;> refine List.length_eq_zero_iff.mp ?_ <;> omega

/-- A listener looks at the history for the user. -/
theorem serve
    (attended : Attended cJSON username password initial history session asking answering looks)
    {request reply : Text} (present : request ∈ asking)
    (tells : TellsUser cJSON initial history (request, reply)) :
    Attended cJSON username password initial history session (asking.erase request)
      (answering ++ [reply]) (looks ++ [⟨history.length, (request, reply)⟩]) := by
  obtain ⟨noMore, rfl⟩ := attended.alone_of_asking present
  obtain ⟨requestAt, sameLength⟩ := attended.waiting request present
  have told : looks.map (fun look => look.view.2) = session.replies :=
    (attended.told.eq_of_length (by rw [List.length_map, sameLength])).symm
  rw [noMore]
  refine
    { stock := attended.stock
      inStep := attended.inStep
      recorded := attended.recorded.look tells
      asked := ?_
      told := ?_
      few := ?_
      one := attended.one
      waiting := by simp
      answered := ?_ }
  · obtain ⟨rest, whole⟩ := attended.asked
    rw [← whole, List.getElem?_append_right (by rw [List.length_map, sameLength]),
      List.length_map, sameLength, Nat.sub_self, ← List.head?_eq_getElem?] at requestAt
    obtain ⟨after, rfl⟩ := List.head?_eq_some_iff.mp requestAt
    exact ⟨after, by rw [← whole, List.map_append]; simp⟩
  · rw [List.map_append, told]
    exact List.prefix_append _ _
  · have bound := (List.getElem?_eq_some_iff.mp requestAt).1
    simp
    omega
  · intro other isReply
    obtain rfl := List.mem_singleton.mp isReply
    rw [List.map_append, told]
    rfl

/-- A reply arrives. -/
theorem arrive
    (lawful : cJSON.Lawful)
    (attended : Attended cJSON username password initial history session asking answering looks)
    {reply : Text} (present : reply ∈ answering)
    (stepped : session.step cJSON username password (.answer reply) = some next) :
    Attended cJSON username password initial history next asking (answering.erase reply)
      looks := by
  obtain ⟨rfl, noMore⟩ := attended.alone_of_answering present
  obtain ⟨stockNext, _, _⟩ := attended.stock.step stepped
  have unbroken : session.Unbroken (.answer reply) := True.intro
  have inStepNext := attended.inStep.step lawful unbroken stepped
  have told := attended.answered reply present
  rw [noMore]
  simp only [Session.step] at stepped
  split_ifs at stepped with unanswered
  obtain rfl := Option.some.inj stepped
  refine
    { stock := stockNext
      inStep := inStepNext
      recorded := attended.recorded
      asked := attended.asked
      told := told ▸ List.prefix_rfl
      few := ?_
      one := ?_
      waiting := by simp
      answered := by simp }
  · simp only [List.length_append, List.length_nil, List.length_singleton]
    omega
  · exact attended.one.trans (by simp)

end Attended

/-! ## The whole site -/

namespace Site

section

variable {Id Other User : Type} [DecidableEq Id] [DecidableEq Other] {cJSON : CJson}
  {role : Other → Role} {username password : Id → Text} {version : User → IpVersion}
  {userName userPassword : User → Text} {initial : Json}

/-- Administrators and users have been shown one history. -/
structure Coherent (cJSON : CJson) (username password : Id → Text)
    (userName userPassword : User → Text) (initial : Json) (site : Site Id Other User)
    (record : Record ((Id ⊕ Other) × Update) (Id ⊕ User) (Text × Text)) : Prop where
  network : site.network.Coherent cJSON username password initial record.history
    fun id => record.looks (.inl id)
  attended : ∀ user, Attended cJSON (userName user) (userPassword user) initial record.history
    (site.user user) (site.asking user) (site.answering user) (record.looks (.inr user))

theorem Fresh.coherent
    {site : Site Id Other User} (fresh : site.Fresh)
    (parsed : cJSON.parse site.network.system.file = some initial)
    (shaped : StateShaped initial) (finite : initial.Finite) :
    Coherent cJSON username password userName userPassword initial site ⟨[], fun _ => []⟩ := by
  obtain ⟨network, users, asking, answering⟩ := fresh
  refine ⟨network.coherent parsed shaped finite, fun user => ?_⟩
  obtain ⟨_, requests, replies, _⟩ := users user
  exact
    { stock := (users user).stock
      inStep := (users user).inStep
      recorded := Looks.nil
      asked := List.nil_prefix
      told := replies ▸ List.prefix_rfl
      few := by simp [asking user, answering user, replies]
      one := by simp [requests]
      waiting := by simp [asking user]
      answered := by simp [answering user] }

/-- A state on the way divides the looks of a user at the end. -/
theorem Coherent.dated
    {middle : Site Id Other User}
    {part record : Record ((Id ⊕ Other) × Update) (Id ⊕ User) (Text × Text)}
    (coherent : Coherent cJSON username password userName userPassword initial middle part)
    (grows : part.Grows record) (user : User) :
    Dated middle.network.system.completed.length (middle.user user).requests.length
      (middle.user user).replies.length (record.looks (.inr user)) := by
  have attended := coherent.attended user
  have completed := congrArg List.length coherent.network.accounts.complete
  have asked := attended.asked.length_le
  have told := attended.told.length_le
  rw [List.length_map] at completed asked told
  rw [← completed]
  exact grows.dated attended.recorded asked told

variable [DecidableEq User]

/-- A user's events are all but the arrivals. -/
theorem user_of_step
    {site next : Site Id Other User} {user : User} {event : SessionEvent}
    (stepped : site.step cJSON role username password version userName userPassword
      (.user user event) = some next) :
    (∀ reply, event ≠ .answer reply) ∧
      ∃ session,
        (site.user user).step cJSON (userName user) (userPassword user) event = some session ∧
          next =
            { site with
              user := Function.update site.user user session
              asking := Function.update site.asking user
                (site.asking user ++ session.requests.drop (site.user user).requests.length) } := by
  cases event with
  | answer reply => simp [Site.step] at stepped
  | _ =>
      obtain ⟨session, taken, rfl⟩ := Option.map_eq_some_iff.mp stepped
      exact ⟨nofun, session, taken, rfl⟩

/-- What happens to one user leaves the others alone. -/
theorem Coherent.of_user
    {site next : Site Id Other User}
    {record : Record ((Id ⊕ Other) × Update) (Id ⊕ User) (Text × Text)}
    (coherent : Coherent cJSON username password userName userPassword initial site record)
    (user : User) (more : List (Look (Text × Text)))
    (here : Attended cJSON (userName user) (userPassword user) initial record.history
      (next.user user) (next.asking user) (next.answering user)
      (record.looks (.inr user) ++ more))
    (marks : ∀ look ∈ more, record.history.length ≤ look.mark)
    (sameNetwork : next.network = site.network)
    (elsewhere : ∀ other, other ≠ user → next.user other = site.user other ∧
      next.asking other = site.asking other ∧ next.answering other = site.answering other) :
    ∃ grown, Coherent cJSON username password userName userPassword initial next grown ∧
      record.Grows grown := by
  refine ⟨_, ⟨?_, fun other => ?_⟩, Record.Grows.observe record (.inr user) marks⟩
  · rw [sameNetwork]
    simpa using coherent.network
  · by_cases same : other = user
    · subst same
      simpa using here
    · obtain ⟨sameUser, sameAsking, sameAnswering⟩ := elsewhere other same
      rw [sameUser, sameAsking, sameAnswering]
      simpa [same] using coherent.attended other

/-- The step lemma: an orderly step adds looks at all that has been completed. -/
theorem Coherent.step
    (lawful : cJSON.Lawful) {site next : Site Id Other User}
    {record : Record ((Id ⊕ Other) × Update) (Id ⊕ User) (Text × Text)}
    (coherent : Coherent cJSON username password userName userPassword initial site record)
    {event : SiteEvent Id Other User} (orderly : site.Orderly cJSON event)
    (stepped : site.step cJSON role username password version userName userPassword event =
      some next) :
    ∃ more : Record ((Id ⊕ Other) × Update) (Id ⊕ User) (Text × Text),
      Coherent cJSON username password userName userPassword initial next more ∧
        record.Grows more := by
  cases event with
  | network event =>
      obtain ⟨network, taken, rfl⟩ := Option.map_eq_some_iff.mp stepped
      obtain ⟨more, coherentNext, marks⟩ := coherent.network.step lawful orderly taken
      refine ⟨⟨_, Sum.elim (fun id => record.looks (.inl id) ++ more id)
        fun user => record.looks (.inr user)⟩, ⟨coherentNext, fun user => ?_⟩, ?_⟩
      · exact (coherent.attended user).grow _
      · refine ⟨(List.prefix_append _ _).length_le, fun observer => ?_⟩
        cases observer with
        | inl id => exact ⟨more id, rfl, marks id⟩
        | inr user => exact ⟨[], (List.append_nil _).symm, by simp⟩
  | user user event =>
      obtain ⟨notAnswer, session, taken, rfl⟩ := user_of_step stepped
      have here := (coherent.attended user).client lawful notAnswer orderly taken
      exact coherent.of_user user [] (by simpa using here) (by simp) rfl
        fun other different => by simp [different]
  | serve user request leftover =>
      simp only [Site.step] at stepped
      split_ifs at stepped with served
      obtain ⟨document, parsed, shows⟩ := coherent.network.shows
      have attended := coherent.attended user
      have isRequest := attended.stock.sent request
        (List.mem_of_getElem? (attended.waiting request served.1).1)
      obtain ⟨reply, handled, tells⟩ := exists_userReply lawful isRequest parsed shows leftover
      rw [handled] at stepped
      obtain rfl := Option.some.inj stepped
      exact coherent.of_user user _ (by simpa using attended.serve served.1 tells) (by simp) rfl
        fun other different => by simp [different]
  | arrive user reply =>
      simp only [Site.step] at stepped
      split_ifs at stepped with present
      obtain ⟨session, taken, rfl⟩ := Option.map_eq_some_iff.mp stepped
      have here := (coherent.attended user).arrive lawful present taken
      exact coherent.of_user user [] (by simpa using here) (by simp) rfl
        fun other different => by simp [different]
  | loseRequest user request =>
      obtain rfl := Option.some.inj stepped
      have here := (coherent.attended user).lose (@List.erase_sublist _ _ request _)
        (List.Sublist.refl _)
      exact coherent.of_user user [] (by simpa using here) (by simp) rfl
        fun other different => by simp [different]
  | loseReply user reply =>
      obtain rfl := Option.some.inj stepped
      have here := (coherent.attended user).lose (List.Sublist.refl _)
        (@List.erase_sublist _ _ reply _)
      exact coherent.of_user user [] (by simpa using here) (by simp) rfl
        fun other different => by simp [different]

/-- In every run of a site without stale writes and without interrupted receptions,
with datagrams lost or overtaking others, all the replies to administrators and to
normal users are looks at one history of the completed updates.  The looks of each
answer its requests in order and never go back; and whatever moment of the run is
taken, a reply that had arrived by then shows no more than had been completed, and
the reply to a request that had not been sent by then shows at least that. -/
theorem everyone_sees_one_history
    (lawful : cJSON.Lawful) {site final : Site Id Other User}
    {events : List (SiteEvent Id Other User)} {document : Json} (fresh : site.Fresh)
    (parsed : cJSON.parse site.network.system.file = some document)
    (shaped : StateShaped document) (finite : document.Finite)
    (orderly : Along (Site.step cJSON role username password version userName userPassword)
      (Orderly cJSON) site events)
    (reached : run (Site.step cJSON role username password version userName userPassword) site
      events = some final) :
    ∃ (history : List ((Id ⊕ Other) × Update)) (looks : Id ⊕ User → List (Look (Text × Text))),
      history.map Prod.snd = final.network.system.completed ∧
        (∀ id, Looks (Answers cJSON document (.inl id)) history (looks (.inl id)) ∧
          (looks (.inl id)).map (fun look => look.view.1) <+:
              (final.network.session id).requests ∧
            (final.network.session id).replies <+:
                (looks (.inl id)).map (fun look => look.view.2) ∧
              (final.network.session id).examined <+: (final.network.session id).replies) ∧
          (∀ user, Looks (TellsUser cJSON document) history (looks (.inr user)) ∧
            (looks (.inr user)).map (fun look => look.view.1) <+: (final.user user).requests ∧
              (final.user user).replies <+: (looks (.inr user)).map (fun look => look.view.2) ∧
                (final.user user).examined <+: (final.user user).replies) ∧
            ∀ first second middle, events = first ++ second →
              run (Site.step cJSON role username password version userName userPassword) site
                  first = some middle →
                (∀ id, Dated middle.network.system.completed.length
                  (middle.network.session id).requests.length
                  (middle.network.session id).replies.length (looks (.inl id))) ∧
                  ∀ user, Dated middle.network.system.completed.length
                    (middle.user user).requests.length (middle.user user).replies.length
                    (looks (.inr user)) := by
  have preserved (before : Site Id Other User) (event : SiteEvent Id Other User)
      (after : Site Id Other User)
      (record : Record ((Id ⊕ Other) × Update) (Id ⊕ User) (Text × Text))
      (coherent : Coherent cJSON username password userName userPassword document before record)
      (inOrder : Orderly cJSON before event)
      (stepped : before.step cJSON role username password version userName userPassword event =
        some after) :
      ∃ more : Record ((Id ⊕ Other) × Update) (Id ⊕ User) (Text × Text),
        Coherent cJSON username password userName userPassword document after more ∧
          record.Grows more := coherent.step lawful inOrder stepped
  obtain ⟨⟨history, looks⟩, coherent, _, parts⟩ :=
    exists_record Record.Grows.refl Record.Grows.trans preserved
      (fresh.coherent parsed shaped finite) orderly reached
  refine ⟨history, looks, coherent.network.accounts.complete, fun id => ?_, fun user => ?_, ?_⟩
  · exact coherent.network.views id
  · have attended := coherent.attended user
    exact ⟨attended.recorded, attended.asked, attended.told, attended.inStep.examined⟩
  · intro first second middle split reachedMiddle
    obtain ⟨part, coherentMiddle, grows⟩ := parts first second middle split reachedMiddle
    exact ⟨fun id => coherentMiddle.network.dated (grows.comp Sum.inl) id,
      fun user => coherentMiddle.dated grows user⟩

/-- The network takes its own steps only. -/
theorem network_of_step
    {site next : Site Id Other User} {event : SiteEvent Id Other User}
    (other : ∀ inner, event ≠ .network inner)
    (stepped : site.step cJSON role username password version userName userPassword event =
      some next) :
    next.network = site.network := by
  cases event with
  | network inner => exact absurd rfl (other inner)
  | user user event =>
      obtain ⟨_, _, _, rfl⟩ := user_of_step stepped
      rfl
  | serve user request leftover =>
      simp only [Site.step] at stepped
      split_ifs at stepped
      exact Option.some.inj stepped ▸ rfl
  | arrive user reply =>
      simp only [Site.step] at stepped
      split_ifs at stepped
      obtain ⟨_, _, rfl⟩ := Option.map_eq_some_iff.mp stepped
      rfl
  | _ => exact Option.some.inj stepped ▸ rfl

/-- The steps of the network at a site. -/
theorem along_network
    {site : Site Id Other User} {events : List (NetworkEvent Id Other)}
    (orderly : Along (Network.step cJSON role username password) (Network.Orderly cJSON)
      site.network events) :
    Along (Site.step cJSON role username password version userName userPassword)
      (Orderly cJSON) site (events.map .network) := by
  induction events generalizing site with
  | nil => trivial
  | cons event events inductionHypothesis =>
      refine ⟨orderly.1, fun next stepped => ?_⟩
      obtain ⟨network, taken, rfl⟩ := Option.map_eq_some_iff.mp stepped
      exact inductionHypothesis (orderly.2 network taken)

end

/-! ## A reply that is overtaken -/

/-- A normal user's client that has just connected, beside the administrator. -/
def oneUser : Site Unit Unit Unit where
  network := Network.oneAdmin
  user := fun _ =>
    { Session.connected with
      client := { Session.connected.client with flagGetSupply := true, skipOption := false } }
  asking := fun _ => []
  answering := fun _ => []
  listening := fun _ => true

theorem fresh_oneUser : oneUser.Fresh :=
  ⟨Network.fresh_oneAdmin, fun _ => ⟨rfl, rfl, rfl, rfl, rfl⟩, fun _ => rfl, fun _ => rfl⟩

/-- The steps of that site. -/
def userStep : Site Unit Unit Unit → SiteEvent Unit Unit Unit → Option (Site Unit Unit Unit) :=
  Site.step .reference (fun _ => .alert) (fun _ => ADMIN) (fun _ => ADMIN) (fun _ => .ipv4)
    (fun _ => []) fun _ => []

/-- The user's request is answered, -/
def untilServed : List (SiteEvent Unit Unit Unit) :=
  [.user () .proceed, .user () .proceed, .serve () (getOptions .reference .getStatus []) []]

/-- and the reply arrives after an order is carried out. -/
def overtaken : List (SiteEvent Unit Unit Unit) :=
  untilServed ++ ((Network.untilWrite ++ Network.fromWrite).map .network ++
    [.arrive () (CJson.reference.print northState), .user () .proceed, .user () .proceed,
      .user () .proceed])

/-- Events that are in order in every state. -/
theorem along_quiet
    {events : List (SiteEvent Unit Unit Unit)}
    (quiet : ∀ event ∈ events, ∀ site, Orderly .reference site event)
    (site : Site Unit Unit Unit) : Along userStep (Orderly .reference) site events :=
  Along.of_forall_mem quiet site

theorem orderly_overtaken : Along userStep (Orderly .reference) oneUser overtaken := by
  refine (along_quiet (by simp [untilServed, Orderly, Session.Unbroken]) _).append
    fun served reachedServed => ?_
  have untouched : served.network = Network.oneAdmin := by
    have along : Along userStep (fun _ event => ∀ inner, event ≠ .network inner) oneUser
        untilServed := Along.of_forall_mem (by simp [untilServed]) _
    exact run_invariant (fun _ _ _ same other stepped => (network_of_step other stepped).trans same)
      rfl along reachedServed
  refine (along_network (untouched ▸ Network.orderly_order)).append fun ordered _ => ?_
  exact along_quiet (by simp [Orderly, Session.Unbroken]) _

set_option maxRecDepth 10000 in
/-- The user and the administrator have seen one history. -/
theorem everyone_sees_one_history_overtaken :
    ∃ (final : Site Unit Unit Unit) (history : List ((Unit ⊕ Unit) × Update))
      (looks : Unit ⊕ Unit → List (Look (Text × Text))),
      run userStep oneUser overtaken = some final ∧ history.map Prod.snd = [setWater] ∧
        (final.user ()).examined = [CJson.reference.print northState] ∧
          Looks (Answers .reference northState (.inl ())) history (looks (.inl ())) ∧
            Looks (TellsUser .reference northState) history (looks (.inr ())) := by
  have evaluated : (run userStep oneUser overtaken).map (fun final =>
      (final.network.system.completed, (final.user ()).examined)) =
      some ([setWater], [CJson.reference.print northState]) := by
    decide +kernel
  obtain ⟨final, reached, same⟩ := Option.map_eq_some_iff.mp evaluated
  obtain ⟨completed, examined⟩ := Prod.mk.inj same
  obtain ⟨history, looks, complete, admins, users, _⟩ :=
    everyone_sees_one_history CJson.reference_lawful fresh_oneUser
      (CJson.reference_lawful.parse_print_of_finite finite_northState) stateShaped_northState
      finite_northState orderly_overtaken reached
  exact ⟨final, history, looks, reached, complete.trans completed, examined, (admins ()).1,
    (users ()).1⟩

end Site

end Refuge
