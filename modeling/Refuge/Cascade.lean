import Refuge.Notices
import Refuge.Service

/-!
# The cascade of an emergency

An emergency process that fires sends SIGINT to the process of its connection,
and each `end_conn` sends SIGTSTP to the parent of its process.  Every process
has copies of its own of `newsockfd` and `pipe_fd`, as they were when it was
forked: an acceptor has closed its `newsockfd` and never made a pipe.  What is
sent is an `end_connection` message if the memory it is built in holds no other
JSON value.  No other timer fires, and no signal comes from a terminal.
-/

namespace Refuge

open Foundation

/-- A client, by its acceptor and its place among that acceptor's connections. -/
structure TcpClient where
  version : IpVersion
  number : Nat
  deriving DecidableEq

/-- The process of a client's connection. -/
def TcpClient.proc (client : TcpClient) : Proc :=
  .connection client.version client.number

/-- The number of processes above. -/
def Proc.depth : Proc → Nat
  | .main => 0
  | .connection _ _ => 2
  | _ => 1

/-- The parent is one nearer to `main`. -/
theorem Proc.depth_of_mem_parent
    {proc parent : Proc} (isParent : parent ∈ proc.parent) : parent.depth + 1 = proc.depth := by
  cases proc <;> simp_all [Proc.parent] <;> subst isParent <;> rfl

@[simp] theorem TcpClient.proc_inj
    {client other : TcpClient} : client.proc = other.proc ↔ client = other := by
  cases client
  cases other
  simp [TcpClient.proc]

@[simp] theorem TcpClient.proc_ne_acceptor
    (client : TcpClient) (version : IpVersion) : client.proc ≠ .acceptor version :=
  Proc.noConfusion

/-- What a descriptor stands for in a process. -/
inductive Descriptor
  | closed
  /-- Descriptor 0, which is no socket. -/
  | standardInput
  | socket (client : TcpClient)
  /-- The read end of the pipe to a connection's process. -/
  | pipe (client : TcpClient)
  deriving DecidableEq

/-- What `read` finds at `pipe_fd[0]`. -/
inductive ReadResult
  | bytes
  | endOfFile
  /-- `EAGAIN` or `EWOULDBLOCK`. -/
  | wouldBlock
  | error
  deriving DecidableEq

/-- The signals the handler takes. -/
inductive Signal
  | sigint
  | sigtstp
  deriving DecidableEq

/-- The processes with their copies of `newsockfd` and `pipe_fd[0]` and what the
memory that each allocates for a notice holds, the connections accepted, the
pipes that are written, the signals in flight, the client whose emergency process
fired, and what the clients were sent. -/
structure Cascade where
  running : Proc → Bool
  newsockfd : Proc → Descriptor
  pipeFd : Proc → Descriptor
  leftover : Proc → Text
  accepted : IpVersion → Nat
  written : TcpClient → Bool
  queue : Bool
  signals : List (Proc × Signal)
  fired : Option TcpClient
  received : TcpClient → List Text

/-- What happens. -/
inductive CascadeEvent
  | accept (version : IpVersion)
  /-- The emergency process of a client's connection fires. -/
  | fire (client : TcpClient)
  /-- A signal in flight reaches its process; `found` is what it would read from
  the standard input. -/
  | deliver (target : Proc) (signal : Signal) (found : ReadResult)

namespace Cascade

/-- The server after its start, with or without a standard input. -/
def start (input : Bool) (leftover : Proc → Text) : Cascade where
  running := fun proc =>
    match proc with
    | .connection _ _ => false
    | _ => true
  newsockfd := fun _ => .standardInput
  pipeFd := fun _ => if input then .standardInput else .closed
  leftover := leftover
  accepted := fun _ => 0
  written := fun _ => false
  queue := true
  signals := []
  fired := none
  received := fun _ => []

/-- The client's connection was accepted. -/
def Connected (cascade : Cascade) (client : TcpClient) : Prop :=
  client.number < cascade.accepted client.version

instance (cascade : Cascade) (client : TcpClient) : Decidable (cascade.Connected client) :=
  inferInstanceAs (Decidable (_ < _))

/-- A process ends. -/
def exit (cascade : Cascade) (proc : Proc) : Cascade :=
  { cascade with running := Function.update cascade.running proc false }

/-- A turn of an acceptor's loop: the process it forks inherits `newsockfd` and
makes a pipe, and the acceptor closes its copy. -/
def accept (cascade : Cascade) (version : IpVersion) : Cascade :=
  let client : TcpClient := { version, number := cascade.accepted version }
  { cascade with
    running := Function.update cascade.running client.proc true
    newsockfd :=
      Function.update (Function.update cascade.newsockfd client.proc (.socket client))
        (.acceptor version) .closed
    pipeFd := Function.update cascade.pipeFd client.proc (.pipe client)
    accepted := Function.update cascade.accepted version (cascade.accepted version + 1) }

/-- `run_emergency_handler` after its wait. -/
def runEmergencyHandler (cascade : Cascade) (client : TcpClient) : Cascade :=
  { cascade with
    written := Function.update cascade.written client true
    signals := cascade.signals ++ [(client.proc, .sigint)]
    fired := some client }

/-- What a process reads from its `pipe_fd[0]`. -/
def readPipe (cascade : Cascade) (proc : Proc) (found : ReadResult) : ReadResult :=
  match cascade.pipeFd proc with
  | .pipe client => if cascade.written client then .bytes else .wouldBlock
  | .standardInput => found
  | _ => .error

variable (cJSON : CJson)

/-- `send_end_conn_message`; nothing if the process exits in it. -/
def sendEndConnMessage (cascade : Cascade) (proc : Proc) : Option Cascade :=
  match noticeMessage cJSON (cascade.leftover proc) K_END TRUE_, cascade.newsockfd proc with
  | .ok message, .socket client =>
      some
        { cascade with
          received :=
            Function.update cascade.received client (cascade.received client ++ [message]) }
  | _, _ => none

/-- `end_conn`. -/
def endConn (cascade : Cascade) (proc : Proc) (found : ReadResult) : Cascade :=
  -- `fcntl` fails on a closed descriptor.
  if cascade.pipeFd proc = .closed then cascade.exit proc
  else
    match cascade.sendEndConnMessage cJSON proc with
    | none => cascade.exit proc
    | some sent =>
        if cascade.readPipe proc found = .error then sent.exit proc
        else
          { sent.exit proc with
            queue := false
            signals := sent.signals ++ proc.parent.toList.map fun parent => (parent, .sigtstp) }

/-- `sign_handler`; `end_conn` does not return from either signal. -/
def signHandler (cascade : Cascade) (proc : Proc) (signal : Signal) (found : ReadResult) :
    Cascade :=
  match signal with
  | .sigint => cascade.endConn cJSON proc found
  | .sigtstp => (cascade.endConn cJSON proc found).exit proc

/-- A signal in flight reaches its process, or is dropped if that has ended. -/
def deliver (cascade : Cascade) (target : Proc) (signal : Signal) (found : ReadResult) :
    Cascade :=
  let remaining := { cascade with signals := cascade.signals.erase (target, signal) }
  if cascade.running target then remaining.signHandler cJSON target signal found
  else remaining

/-- One event. -/
def step (cascade : Cascade) : CascadeEvent → Option Cascade
  | .accept version =>
      if cascade.running (.acceptor version) then some (cascade.accept version) else none
  | .fire client =>
      if cascade.fired = none ∧ cascade.Connected client then
        some (cascade.runEmergencyHandler client)
      else none
  | .deliver target signal found =>
      if (target, signal) ∈ cascade.signals then
        some (cascade.deliver cJSON target signal found)
      else none

/-- The client was sent a message with the key `end_connection`, by which it knows
that the connection has ended. -/
def Notified (cascade : Cascade) (client : TcpClient) : Prop :=
  ∃ message ∈ cascade.received client, isKeyInJsonBuffer cJSON message K_END = true

/-- Every connected client was sent an `end_connection` message. -/
def ReachesAll (cascade : Cascade) : Prop :=
  ∀ client, cascade.Connected client → cascade.Notified cJSON client

variable {cJSON}

@[simp] theorem exit_running
    (cascade : Cascade) (proc other : Proc) :
    (cascade.exit proc).running other =
      if other = proc then false else cascade.running other := by
  simp [exit, Function.update_apply]

/-- Handling either signal is `end_conn`. -/
theorem signHandler_eq_endConn
    (cascade : Cascade) (proc : Proc) (signal : Signal) (found : ReadResult) :
    cascade.signHandler cJSON proc signal found =
      cascade.endConn cJSON proc found := by
  have ended : (cascade.endConn cJSON proc found).running proc = false := by
    unfold endConn
    split
    · simp
    · split
      · simp
      · split <;> simp [exit]
  cases signal with
  | sigint => rfl
  | sigtstp =>
      have same := Function.update_eq_self proc (cascade.endConn cJSON proc found).running
      rw [ended] at same
      simp [signHandler, exit, same]

/-- `end_conn` of a process whose `newsockfd` is no socket only ends it. -/
theorem endConn_of_not_socket
    {cascade : Cascade} {proc : Proc} (found : ReadResult)
    (notSocket : ∀ client, cascade.newsockfd proc ≠ .socket client) :
    cascade.endConn cJSON proc found = cascade.exit proc := by
  have unsent : cascade.sendEndConnMessage cJSON proc = none := by
    unfold sendEndConnMessage
    split
    · next socket => exact absurd socket (notSocket _)
    · rfl
  simp [endConn, unsent]

/-- `end_conn` of a connection's process that reads its pipe notifies the client
and signals the parent. -/
theorem endConn_of_socket
    {cascade : Cascade} {proc : Proc} {client : TcpClient} (found : ReadResult)
    (socket : cascade.newsockfd proc = .socket client)
    (pipe : cascade.pipeFd proc = .pipe client) (written : cascade.written client = true) :
    ∃ message, noticeMessage cJSON (cascade.leftover proc) K_END TRUE_ = .ok message ∧
      cascade.endConn cJSON proc found =
        { cascade.exit proc with
          received :=
            Function.update cascade.received client (cascade.received client ++ [message])
          queue := false
          signals :=
            cascade.signals ++ proc.parent.toList.map fun parent => (parent, .sigtstp) } := by
  obtain ⟨message, made⟩ := @exists_noticeMessage cJSON (cascade.leftover proc) K_END TRUE_
  refine ⟨message, made, ?_⟩
  simp [endConn, sendEndConnMessage, readPipe, made, socket, pipe, written, exit]

/-- The descriptors and the memory of the processes, the connections accepted and
the client that fired are the same in two states. -/
structure SameClients (cascade other : Cascade) : Prop where
  newsockfd : cascade.newsockfd = other.newsockfd
  pipeFd : cascade.pipeFd = other.pipeFd
  leftover : cascade.leftover = other.leftover
  accepted : cascade.accepted = other.accepted
  fired : cascade.fired = other.fired

theorem SameClients.refl (cascade : Cascade) : cascade.SameClients cascade :=
  ⟨rfl, rfl, rfl, rfl, rfl⟩

theorem SameClients.trans
    {first second third : Cascade} (same : first.SameClients second)
    (also : second.SameClients third) : first.SameClients third :=
  ⟨same.newsockfd.trans also.newsockfd, same.pipeFd.trans also.pipeFd,
    same.leftover.trans also.leftover, same.accepted.trans also.accepted,
    same.fired.trans also.fired⟩

/-- `send_end_conn_message` changes what one client has received. -/
theorem exists_eq_of_sendEndConnMessage
    {cascade sent : Cascade} {proc : Proc}
    (sends : cascade.sendEndConnMessage cJSON proc = some sent) :
    ∃ received, sent = { cascade with received } := by
  unfold sendEndConnMessage at sends
  split at sends
  · exact ⟨_, (Option.some.inj sends).symm⟩
  · exact absurd sends (Option.some_ne_none sent).symm

/-- `end_conn` changes neither descriptors nor connections, and signals nobody or
the parent. -/
theorem endConn_cases
    (cascade : Cascade) (proc : Proc) (found : ReadResult) :
    (cascade.endConn cJSON proc found).SameClients cascade ∧
      ((cascade.endConn cJSON proc found).signals = cascade.signals ∨
        (cascade.endConn cJSON proc found).signals =
          cascade.signals ++ proc.parent.toList.map fun parent => (parent, .sigtstp)) := by
  unfold endConn
  split
  · exact ⟨⟨rfl, rfl, rfl, rfl, rfl⟩, Or.inl rfl⟩
  · split
    · exact ⟨⟨rfl, rfl, rfl, rfl, rfl⟩, Or.inl rfl⟩
    · next sent sends =>
        obtain ⟨received, rfl⟩ := exists_eq_of_sendEndConnMessage sends
        split
        · exact ⟨⟨rfl, rfl, rfl, rfl, rfl⟩, Or.inl rfl⟩
        · exact ⟨⟨rfl, rfl, rfl, rfl, rfl⟩, Or.inr rfl⟩

theorem sameClients_deliver
    (cascade : Cascade) (target : Proc) (signal : Signal) (found : ReadResult) :
    (cascade.deliver cJSON target signal found).SameClients cascade := by
  have erased : { cascade with signals := cascade.signals.erase (target, signal) }.SameClients
      cascade := ⟨rfl, rfl, rfl, rfl, rfl⟩
  simp only [deliver, signHandler_eq_endConn]
  split
  · exact (endConn_cases _ target found).1.trans erased
  · exact erased

/-- Every connection's process has the socket of its client and the pipe made
for it, and no other process has a client's socket. -/
structure Forked (cascade : Cascade) : Prop where
  socket : ∀ client, cascade.Connected client →
    cascade.newsockfd client.proc = .socket client ∧
      cascade.pipeFd client.proc = .pipe client
  proc_eq : ∀ proc client, cascade.newsockfd proc = .socket client → proc = client.proc

/-- One connection's emergency process fired: signals are in flight to its
process and to acceptors only, no other client was sent anything, and its own
will be or was sent a notice built in the memory of that process. -/
structure FiredBy (cJSON : CJson) (cascade : Cascade) (origin : TcpClient) : Prop where
  connected : cascade.Connected origin
  written : cascade.written origin = true
  signals : ∀ target signal, (target, signal) ∈ cascade.signals →
    target = origin.proc ∨ ∃ version, target = .acceptor version
  received : ∀ client, ∀ message ∈ cascade.received client, client = origin ∧
    noticeMessage cJSON (cascade.leftover origin.proc) K_END TRUE_ = .ok message
  notifies : cascade.running origin.proc = true ∧
      (origin.proc, Signal.sigint) ∈ cascade.signals ∨
    cascade.received origin ≠ []

/-- The invariant; no process has other memory than at first. -/
structure Consistent (cJSON : CJson) (leftover : Proc → Text) (cascade : Cascade) : Prop where
  forked : cascade.Forked
  memory : cascade.leftover = leftover
  quiet : cascade.fired = none → cascade.signals = [] ∧
    ∀ client, cascade.received client = [] ∧
      (cascade.Connected client → cascade.running client.proc = true)
  fired : ∀ origin, cascade.fired = some origin → cascade.FiredBy cJSON origin

theorem consistent_start (input : Bool) (leftover : Proc → Text) :
    (start input leftover).Consistent cJSON leftover where
  forked :=
    { socket := fun _ connected => absurd connected (Nat.not_lt_zero _)
      proc_eq := fun _ _ socket => Descriptor.noConfusion socket }
  memory := rfl
  quiet := fun _ => ⟨rfl, fun _ => ⟨rfl, fun connected => absurd connected (Nat.not_lt_zero _)⟩⟩
  fired := fun origin fired => absurd fired (Option.some_ne_none origin).symm

/-- Accepting a connection keeps the others. -/
theorem connected_accept_iff
    (cascade : Cascade) (version : IpVersion) (client : TcpClient) :
    (cascade.accept version).Connected client ↔
      cascade.Connected client ∨
        client = { version, number := cascade.accepted version } := by
  obtain ⟨other, number⟩ := client
  by_cases same : other = version
  · subst same
    simp [Connected, accept]
    omega
  · simp [Connected, accept, same]

/-- Accepting a connection keeps the descriptors right. -/
theorem Forked.accept
    {cascade : Cascade} (forked : cascade.Forked) (version : IpVersion) :
    (cascade.accept version).Forked := by
  let fresh : TcpClient := { version, number := cascade.accepted version }
  have newsockfd (proc : Proc) : (cascade.accept version).newsockfd proc =
      if proc = .acceptor version then .closed
      else if proc = fresh.proc then .socket fresh
      else cascade.newsockfd proc := by
    simp [Cascade.accept, Function.update_apply, fresh]
  have pipeFd (proc : Proc) : (cascade.accept version).pipeFd proc =
      if proc = fresh.proc then .pipe fresh else cascade.pipeFd proc := by
    simp [Cascade.accept, Function.update_apply, fresh]
  constructor
  · intro client connected
    rw [newsockfd, pipeFd, if_neg (client.proc_ne_acceptor version)]
    by_cases new : client = fresh
    · simp [new]
    · have old : cascade.Connected client :=
        ((connected_accept_iff cascade version client).mp connected).resolve_right new
      simpa [new] using forked.socket client old
  · intro proc client socket
    rw [newsockfd] at socket
    split_ifs at socket with acceptor new
    · rw [new, Descriptor.socket.inj socket]
    · exact forked.proc_eq proc client socket

/-- Accepting a connection keeps what a fired emergency process has led to. -/
theorem FiredBy.accept
    {cascade : Cascade} {origin : TcpClient} (fired : cascade.FiredBy cJSON origin)
    (version : IpVersion) :
    (cascade.accept version).FiredBy cJSON origin where
  connected := (connected_accept_iff cascade version origin).mpr (Or.inl fired.connected)
  written := fired.written
  signals := fired.signals
  received := fired.received
  notifies := fired.notifies.imp_left fun ⟨running, sigint⟩ => by
    refine ⟨?_, sigint⟩
    simp only [Cascade.accept, Function.update_apply]
    split
    · rfl
    · exact running

/-- A signal that is not the one its connection's process is to handle may be
taken out of flight. -/
theorem FiredBy.erase
    {cascade : Cascade} {origin : TcpClient} (fired : cascade.FiredBy cJSON origin)
    {target : Proc} (signal : Signal)
    (other : cascade.running origin.proc = true → target ≠ origin.proc) :
    { cascade with signals := cascade.signals.erase (target, signal) }.FiredBy cJSON origin where
  connected := fired.connected
  written := fired.written
  signals := fun later sent present => fired.signals later sent (List.mem_of_mem_erase present)
  received := fired.received
  notifies := fired.notifies.imp_left fun ⟨running, sigint⟩ => by
    refine ⟨running, (List.mem_erase_of_ne ?_).mpr sigint⟩
    intro same
    exact other running (Prod.mk.inj same).1.symm

/-- A process other than its connection's may end. -/
theorem FiredBy.exit
    {cascade : Cascade} {origin : TcpClient} (fired : cascade.FiredBy cJSON origin)
    {proc : Proc} (other : proc ≠ origin.proc) :
    (cascade.exit proc).FiredBy cJSON origin where
  connected := fired.connected
  written := fired.written
  signals := fired.signals
  received := fired.received
  notifies := fired.notifies.imp_left fun ⟨running, sigint⟩ => by
    refine ⟨?_, sigint⟩
    rw [exit_running, if_neg other.symm]
    exact running

/-- The process of its connection notifies its client and signals its acceptor,
whatever is still in flight. -/
theorem FiredBy.endConn
    {cascade : Cascade} {origin : TcpClient} (forked : cascade.Forked)
    (fired : cascade.FiredBy cJSON origin) {later : List (Proc × Signal)}
    (fewer : later ⊆ cascade.signals) (found : ReadResult) :
    ({ cascade with signals := later }.endConn cJSON origin.proc found).FiredBy cJSON origin := by
  obtain ⟨socket, pipe⟩ := forked.socket origin fired.connected
  obtain ⟨message, made, ended⟩ := @endConn_of_socket cJSON { cascade with signals := later }
    origin.proc origin found socket pipe fired.written
  rw [ended]
  refine ⟨fired.connected, fired.written, fun target signal present => ?_,
    fun client other sent => ?_, Or.inr (by simp)⟩
  · rcases List.mem_append.mp present with before | toParent
    · exact fired.signals target signal (fewer before)
    · have acceptor : target = .acceptor origin.version ∧ signal = .sigtstp := by
        simpa [TcpClient.proc, Proc.parent] using toParent
      exact Or.inr ⟨origin.version, acceptor.1⟩
  · by_cases same : client = origin
    · subst same
      simp only [Function.update_self, List.mem_append, List.mem_singleton] at sent
      rcases sent with before | rfl
      · exact fired.received client other before
      · exact ⟨rfl, made⟩
    · simp only [Function.update_of_ne same] at sent
      exact fired.received client other sent

/-- A signal reaches its process. -/
theorem FiredBy.deliver
    {cascade : Cascade} {origin : TcpClient} (forked : cascade.Forked)
    (fired : cascade.FiredBy cJSON origin) {target : Proc} {signal : Signal}
    (inFlight : (target, signal) ∈ cascade.signals) (found : ReadResult) :
    (cascade.deliver cJSON target signal found).FiredBy cJSON origin := by
  simp only [Cascade.deliver, signHandler_eq_endConn]
  split_ifs with running
  · rcases fired.signals target signal inFlight with rfl | ⟨version, rfl⟩
    · exact fired.endConn forked List.erase_subset found
    · have other : Proc.acceptor version ≠ origin.proc := (origin.proc_ne_acceptor version).symm
      rw [endConn_of_not_socket]
      · exact (fired.erase signal fun _ => other).exit other
      · intro client socket
        exact client.proc_ne_acceptor version (forked.proc_eq _ client socket).symm
  · refine fired.erase signal fun alive same => ?_
    rw [same] at running
    exact running alive

/-- The step lemma. -/
theorem Consistent.step
    {cascade next : Cascade} {event : CascadeEvent} {leftover : Proc → Text}
    (consistent : cascade.Consistent cJSON leftover)
    (stepped : cascade.step cJSON event = some next) : next.Consistent cJSON leftover := by
  obtain ⟨forked, memory, quiet, fired⟩ := consistent
  cases event with
  | accept version =>
      simp only [Cascade.step] at stepped
      split_ifs at stepped
      obtain rfl := Option.some.inj stepped
      refine ⟨forked.accept version, memory, fun calm => ?_,
        fun origin first => (fired origin first).accept _⟩
      obtain ⟨noSignals, clients⟩ := quiet calm
      refine ⟨noSignals, fun client => ⟨(clients client).1, fun connected => ?_⟩⟩
      simp only [Cascade.accept, Function.update_apply]
      split
      · rfl
      · next old =>
          refine (clients client).2 ?_
          refine ((connected_accept_iff cascade version client).mp connected).resolve_right ?_
          exact fun new => old (congrArg TcpClient.proc new)
  | fire client =>
      simp only [Cascade.step] at stepped
      split_ifs at stepped with first
      obtain rfl := Option.some.inj stepped
      obtain ⟨noSignals, clients⟩ := quiet first.1
      refine ⟨⟨forked.socket, forked.proc_eq⟩, memory,
        fun none => absurd none (Option.some_ne_none client), fun origin same => ?_⟩
      obtain rfl := Option.some.inj same
      refine ⟨first.2, Function.update_self _ _ _, fun target signal present => ?_,
        fun other message sent => absurd sent ((clients other).1 ▸ List.not_mem_nil),
        Or.inl ⟨(clients client).2 first.2, List.mem_append_right _ List.mem_cons_self⟩⟩
      simp only [runEmergencyHandler, noSignals, List.nil_append, List.mem_singleton] at present
      exact Or.inl (Prod.mk.inj present).1
  | deliver target signal found =>
      simp only [Cascade.step] at stepped
      split_ifs at stepped with inFlight
      obtain rfl := Option.some.inj stepped
      have someFired : ∃ origin, cascade.fired = some origin := by
        refine Option.ne_none_iff_exists'.mp fun none => ?_
        rw [(quiet none).1] at inFlight
        exact List.not_mem_nil inFlight
      obtain ⟨origin, originFired⟩ := someFired
      have later := (fired origin originFired).deliver forked inFlight found
      obtain ⟨newsockfd, pipeFd, leftovers, accepted, same⟩ :=
        @sameClients_deliver cJSON cascade target signal found
      rw [originFired] at same
      refine ⟨⟨fun client connected => ?_, fun proc client socket => ?_⟩, leftovers.trans memory,
        fun none => ?_, fun other otherFired => ?_⟩
      · rw [newsockfd, pipeFd]
        rw [Connected, accepted] at connected
        exact forked.socket client connected
      · rw [newsockfd] at socket
        exact forked.proc_eq proc client socket
      · exact absurd (same.symm.trans none) (Option.some_ne_none origin)
      · obtain rfl := Option.some.inj (same.symm.trans otherFired)
        exact later

/-- What a run from the start leaves is consistent. -/
theorem consistent_of_run
    {input : Bool} {leftover : Proc → Text} {events : List CascadeEvent} {final : Cascade}
    (reached : run (step cJSON) (start input leftover) events = some final) :
    final.Consistent cJSON leftover :=
  run_preserved (fun _ _ _ consistent stepped => consistent.step stepped)
    (consistent_start input leftover) reached

/-- Once the cascade is over at most the client whose emergency process fired is
notified, and it is if the memory of its connection's process was plain. -/
theorem notified_iff
    (lawful : cJSON.Lawful) {input : Bool} {leftover : Proc → Text} {events : List CascadeEvent}
    {final : Cascade} {origin : TcpClient}
    (reached : run (step cJSON) (start input leftover) events = some final)
    (fired : final.fired = some origin) (settled : final.signals = []) (client : TcpClient) :
    final.Notified cJSON client ↔ client = origin ∧ Plain cJSON (leftover origin.proc) := by
  have consistent := consistent_of_run reached
  have firedBy := consistent.fired origin fired
  have made (other : TcpClient) (message : Text) (sent : message ∈ final.received other) :
      other = origin ∧ (isKeyInJsonBuffer cJSON message K_END = true ↔
        Plain cJSON (leftover origin.proc)) := by
    obtain ⟨same, notice⟩ := firedBy.received other message sent
    rw [consistent.memory] at notice
    exact ⟨same, isKeyInJsonBuffer_noticeMessage_iff lawful notice⟩
  constructor
  · rintro ⟨message, sent, holds⟩
    obtain ⟨same, plain⟩ := made client message sent
    exact ⟨same, plain.mp holds⟩
  · rintro ⟨rfl, plain⟩
    have notified : final.received client ≠ [] := by
      refine firedBy.notifies.resolve_left fun pending => ?_
      rw [settled] at pending
      exact List.not_mem_nil pending.2
    obtain ⟨message, sent⟩ := List.exists_mem_of_ne_nil _ notified
    exact ⟨message, sent, (made client message sent).2.mpr plain⟩

/-- The emergency reaches every connected client exactly when no other client
than that of the connection it fired in is connected and the memory of that
connection's process was plain. -/
theorem reachesAll_iff
    (lawful : cJSON.Lawful) {input : Bool} {leftover : Proc → Text} {events : List CascadeEvent}
    {final : Cascade} {origin : TcpClient}
    (reached : run (step cJSON) (start input leftover) events = some final)
    (fired : final.fired = some origin) (settled : final.signals = []) :
    final.ReachesAll cJSON ↔
      (∀ client, final.Connected client → client = origin) ∧
        Plain cJSON (leftover origin.proc) := by
  have notified := notified_iff lawful reached fired settled
  have connected : final.Connected origin := ((consistent_of_run reached).fired origin fired).connected
  constructor
  · intro all
    have each (client : TcpClient) (isConnected : final.Connected client) :=
      (notified client).mp (all client isConnected)
    exact ⟨fun client isConnected => (each client isConnected).1, (each origin connected).2⟩
  · rintro ⟨alone, plain⟩ client isConnected
    exact (notified client).mpr ⟨alone client isConnected, plain⟩

/-- The server as a whole, without the descriptors. -/
def service (cascade : Cascade) (arrived : Proc → List Char) (file : Text) : Service where
  running := cascade.running
  accepted := cascade.accepted
  arrived := arrived
  queue := cascade.queue
  signals := (cascade.signals.filter fun signal => signal.2 = .sigtstp).map Prod.fst
  file := file

/-- With the descriptors its processes have, `end_conn` does what the server as
a whole has it do. -/
theorem service_endConn
    {cascade : Cascade} (forked : cascade.Forked) {proc : Proc} (found : ReadResult)
    (arrived : Proc → List Char) (file : Text)
    (written : ∀ client : TcpClient, proc = client.proc →
      cascade.Connected client ∧ cascade.written client = true) :
    (cascade.endConn cJSON proc found).service arrived file =
      (cascade.service arrived file).endConn proc true true := by
  by_cases socket : ∃ client : TcpClient, proc = client.proc
  · obtain ⟨client, rfl⟩ := socket
    obtain ⟨connected, written⟩ := written client rfl
    obtain ⟨socket, pipe⟩ := forked.socket client connected
    obtain ⟨message, _, ended⟩ := @endConn_of_socket cJSON _ _ _ found socket pipe written
    rw [ended]
    simp [service, Service.endConn, TcpClient.proc, Proc.connected, Proc.parent, exit,
      Service.exit]
  · have notSocket (client : TcpClient) : cascade.newsockfd proc ≠ .socket client := by
      intro isSocket
      exact socket ⟨client, forked.proc_eq proc client isSocket⟩
    have unconnected : proc.connected = false := by
      cases proc with
      | connection version number => exact absurd ⟨⟨version, number⟩, rfl⟩ socket
      | _ => rfl
    rw [endConn_of_not_socket found notSocket]
    simp [Service.endConn, unconnected, service, exit, Service.exit]

/-! ## The end of the cascade -/

/-- How far a signal can still climb: the processes from its target to `main`. -/
def height (signals : List (Proc × Signal)) : Nat :=
  (signals.map fun signal => signal.1.depth + 1).sum

theorem height_append (first second : List (Proc × Signal)) :
    height (first ++ second) = height first + height second := by
  simp [height]

theorem height_erase
    {signals : List (Proc × Signal)} {target : Proc} {signal : Signal}
    (inFlight : (target, signal) ∈ signals) :
    height (signals.erase (target, signal)) + (target.depth + 1) = height signals := by
  have permuted := (List.perm_cons_erase inFlight).map fun signal => signal.1.depth + 1
  have sums := permuted.sum_eq
  rw [List.map_cons, List.sum_cons] at sums
  dsimp only at sums
  unfold height
  omega

/-- `end_conn` signals at most the parent. -/
theorem height_endConn_le
    (cascade : Cascade) (proc : Proc) (found : ReadResult) :
    height (cascade.endConn cJSON proc found).signals ≤
      height cascade.signals + proc.depth := by
  have parentOnly : height (proc.parent.toList.map fun parent => (parent, .sigtstp)) ≤
      proc.depth := by
    cases isParent : proc.parent with
    | none => simp [height]
    | some parent => simpa [height] using (Proc.depth_of_mem_parent isParent).le
  rcases (@endConn_cases cJSON cascade proc found).2 with same | more
  · rw [same]
    exact Nat.le_add_right _ _
  · rw [more, height_append]
    exact Nat.add_le_add_left parentOnly _

/-- Every delivery brings the cascade nearer to its end. -/
theorem height_deliver_lt
    {cascade : Cascade} {target : Proc} {signal : Signal}
    (inFlight : (target, signal) ∈ cascade.signals) (found : ReadResult) :
    height (cascade.deliver cJSON target signal found).signals <
      height cascade.signals := by
  have erased := height_erase inFlight
  simp only [deliver, signHandler_eq_endConn]
  split
  · have parentOnly := @height_endConn_le cJSON
      { cascade with signals := cascade.signals.erase (target, signal) } target found
    dsimp only at parentOnly
    omega
  · dsimp only
    omega

/-- The signals in flight can all be delivered. -/
theorem exists_settled (cJSON : CJson) (cascade : Cascade) :
    ∃ deliveries final, run (step cJSON) cascade deliveries = some final ∧
      final.signals = [] ∧ final.SameClients cascade := by
  induction bound : height cascade.signals using Nat.strong_induction_on generalizing cascade with
  | _ bound inductionHypothesis =>
      cases signals : cascade.signals with
      | nil => exact ⟨[], cascade, rfl, signals, .refl cascade⟩
      | cons first others =>
          obtain ⟨target, signal⟩ := first
          have inFlight : (target, signal) ∈ cascade.signals := by
            rw [signals]
            exact List.mem_cons_self
          have nearer := @height_deliver_lt cJSON cascade target signal inFlight .bytes
          obtain ⟨deliveries, final, reached, settled, same⟩ :=
            inductionHypothesis _ (bound ▸ nearer) _ rfl
          refine ⟨.deliver target signal .bytes :: deliveries, final, ?_, settled,
            same.trans (sameClients_deliver cascade target signal .bytes)⟩
          rw [run_cons, step, if_pos inFlight]
          exact reached

/-- Any number of clients can connect to both acceptors. -/
theorem run_accepts
    (cascade : Cascade) (clients : List IpVersion)
    (acceptors : ∀ version, cascade.running (.acceptor version) = true) :
    ∃ next, run (step cJSON) cascade (clients.map .accept) = some next ∧
      next.fired = cascade.fired ∧
        ∀ version, next.accepted version = cascade.accepted version + clients.count version := by
  induction clients generalizing cascade with
  | nil => exact ⟨cascade, rfl, rfl, fun _ => rfl⟩
  | cons first others inductionHypothesis =>
      have stillAccepting (version : IpVersion) :
          (cascade.accept first).running (.acceptor version) = true := by
        simp only [accept, Function.update_apply]
        split
        · rfl
        · exact acceptors version
      obtain ⟨next, reached, fired, accepted⟩ :=
        inductionHypothesis (cascade.accept first) stillAccepting
      refine ⟨next, ?_, fired, fun version => ?_⟩
      · rw [List.map_cons, run_cons, step, if_pos (acceptors first)]
        exact reached
      · rw [accepted, List.count_cons]
        simp only [accept, Function.update_apply]
        by_cases same : version = first
        · simp [same]
          omega
        · simp [same, Ne.symm same]

/-- Whatever clients connect, and whichever connection's emergency process
fires, there is a run to the end of the cascade. -/
theorem exists_run_settled
    (cJSON : CJson) (input : Bool) (leftover : Proc → Text) (clients : List IpVersion)
    (origin : TcpClient) (connected : origin.number < clients.count origin.version) :
    ∃ deliveries final,
      run (step cJSON) (start input leftover)
            (clients.map .accept ++ .fire origin :: deliveries) = some final ∧
        final.fired = some origin ∧ final.signals = [] ∧
          ∀ client, final.Connected client ↔ client.number < clients.count client.version := by
  obtain ⟨before, accepts, unfired, accepted⟩ :=
    @run_accepts cJSON (start input leftover) clients fun _ => rfl
  have counted (version : IpVersion) : before.accepted version = clients.count version := by
    rw [accepted]
    exact Nat.zero_add _
  obtain ⟨deliveries, final, delivered, settled, same⟩ :=
    exists_settled cJSON (before.runEmergencyHandler origin)
  refine ⟨deliveries, final, ?_, same.fired, settled, fun client => ?_⟩
  · have mayFire : before.fired = none ∧ before.Connected origin := by
      rw [Connected, counted]
      exact ⟨unfired, connected⟩
    rw [run_append, accepts, Option.bind_some, run_cons, step, if_pos mayFire]
    exact delivered
  · rw [Connected, same.accepted]
    exact (counted client.version).symm ▸ Iff.rfl

/-! ## One client and two -/

/-- The first client of the IPv4 acceptor. -/
def firstClient : TcpClient where
  version := .ipv4
  number := 0

/-- Memory that holds nothing is plain. -/
theorem plain_nil (lawful : cJSON.Lawful) : Plain cJSON [] :=
  ⟨[], by rw [startingMembers, lawful.parse_nil]⟩

/-- A lone client is notified. -/
theorem reachesAll_lone :
    ∃ events final, run (step .reference) (start true fun _ => []) events = some final ∧
      final.fired = some firstClient ∧ final.signals = [] ∧ final.ReachesAll .reference := by
  obtain ⟨deliveries, final, reached, fired, settled, connected⟩ :=
    exists_run_settled .reference true (fun _ => []) [.ipv4] firstClient (by decide)
  refine ⟨_, final, reached, fired, settled,
    (reachesAll_iff CJson.reference_lawful reached fired settled).mpr
      ⟨?_, plain_nil CJson.reference_lawful⟩⟩
  rintro ⟨version, number⟩ isConnected
  rw [connected] at isConnected
  cases version with
  | ipv4 =>
      obtain rfl : number = 0 := Nat.lt_one_iff.mp isConnected
      rfl
  | ipv6 => exact absurd isConnected (Nat.not_lt_zero _)

/-- Of two clients the second is not. -/
theorem not_reachesAll_two :
    ∃ events final, run (step .reference) (start true fun _ => []) events = some final ∧
      final.fired = some firstClient ∧ final.signals = [] ∧ ¬final.ReachesAll .reference := by
  obtain ⟨deliveries, final, reached, fired, settled, connected⟩ :=
    exists_run_settled .reference true (fun _ => []) [.ipv4, .ipv4] firstClient (by decide)
  refine ⟨_, final, reached, fired, settled, fun all => ?_⟩
  have second : final.Connected { version := .ipv4, number := 1 } := by
    rw [connected]
    decide
  have same := ((notified_iff CJson.reference_lawful reached fired settled _).mp
    (all _ second)).1
  exact absurd (congrArg TcpClient.number same) Nat.one_ne_zero

end Cascade

end Refuge
