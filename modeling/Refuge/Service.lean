import Refuge.Alerts
import Refuge.Pointers
import Refuge.Stream
import Refuge.Foundation.Run
import Mathlib.Logic.Function.Basic

/-!
# The processes of the server

`main` forks four listeners, the alert module and the alert listener; each
acceptor forks a process for every connection.  They share the message queue
and the state file.  `end_conn` is what any of them runs to stop: where its
message can be sent it removes the queue and sends SIGTSTP to the parent,
which then runs `end_conn` in its turn.  A datagram is received up to
`BUFFER_SIZE`, and what a client sends on a connection in reads of at most
that size.  A process that misuses a pointer counts as ended.  Here no timer
of an emergency process fires and no signal comes from a terminal.
-/

namespace Refuge

open Foundation

def LAST_KEEP_ALIVED : Text := "last_keepalived".toList

/-- The two kinds of address. -/
inductive IpVersion
  | ipv4
  | ipv6
  deriving DecidableEq

/-- The processes. -/
inductive Proc
  | main
  /-- `run_server_ipv4` or `run_server_ipv6` with `SOCK_STREAM`. -/
  | acceptor (version : IpVersion)
  /-- The same with `SOCK_DGRAM`. -/
  | datagrams (version : IpVersion)
  | alertModule
  | alertListener
  | connection (version : IpVersion) (number : Nat)
  deriving DecidableEq

namespace Proc

/-- The process `getppid` names; that of `main` is none of the server's. -/
def parent : Proc → Option Proc
  | .main => none
  | .connection version _ => some (.acceptor version)
  | _ => some .main

/-- Whether the socket the process gives to `end_conn` is one it can `send` on.
An acceptor has closed its `newsockfd`, that of the other listeners is not
connected, and the rest never had one. -/
def connected : Proc → Bool
  | .connection _ _ => true
  | _ => false

end Proc

/-- The running processes, the connections accepted so far, the bytes that wait
to be received by each connection's process, whether the queue exists, the
SIGTSTP in flight, and the state file. -/
structure Service where
  running : Proc → Bool
  accepted : IpVersion → Nat
  arrived : Proc → List Char
  queue : Bool
  signals : List Proc
  file : Text

/-- What the server meets; `allocates` says for which fields of a request memory
can be allocated. -/
inductive ServiceEvent
  /-- A client connects; its emergency process notes the time. -/
  | accept (version : IpVersion) (faults : FileFaults) (timestamp : Text)
  | datagram (version : IpVersion) (surroundings : Surroundings) (allocates : Text → Bool)
      (bytes : List Char)
  /-- Bytes of a client reach its connection. -/
  | arrive (version : IpVersion) (number : Nat) (bytes : List Char)
  /-- `recv` returns to a connection's process; it fails, or ends, if the client is
  `gone`.  If the process runs `end_conn`, `errnoKept` says whether `errno` still is
  `EAGAIN` after `perror`. -/
  | receive (version : IpVersion) (number : Nat) (gone : Bool) (surroundings : Surroundings)
      (allocates : Text → Bool) (errnoKept : Bool)
  /-- A signal in flight reaches its process. -/
  | deliver (target : Proc) (errnoKept sends : Bool)
  /-- The alert module takes a reading. -/
  | sense (entry : Entry) (rand : Rand) (faults : FileFaults)
  /-- The alert listener asks the queue for a message. -/
  | listen

/-- The process of the client whose message is received. -/
def ServiceEvent.sender : ServiceEvent → Option Proc
  | .receive version number _ _ _ _ => some (.connection version number)
  | _ => none

/-- No interrupt has set `flag_handler`. -/
def Surroundings.uninterrupted (surroundings : Surroundings) : Surroundings :=
  { surroundings with flagHandler := false }

/-- What `recv_udp_message` leaves of a datagram, whose rest is lost. -/
def receivedDatagram (bytes : List Char) : Text :=
  (recvUdpMessage (some (bytes.take BUFFER_SIZE))).2

namespace Service

/-- A process ends. -/
def exit (service : Service) (proc : Proc) : Service :=
  { service with running := Function.update service.running proc false }

/-- `end_conn`.  Nothing is in the pipe, so `read` fails with `EAGAIN`; where
`errno` is something else by the time it is compared, the process sends its
notice and exits. -/
def endConn (service : Service) (proc : Proc) (errnoKept sends : Bool) : Service :=
  if proc.connected && sends && errnoKept then
    { service.exit proc with
      queue := false
      signals := service.signals ++ proc.parent.toList }
  else service.exit proc

/-- What a process does after a turn of its loop. -/
def follow (service : Service) (proc : Proc) (errnoKept : Bool) :
    Except Misuse Handled → Service
  | .error _ => service.exit proc
  | .ok handled =>
      let service := { service with file := handled.file }
      match handled.outcome with
      | .waits => service
      | .exits => service.exit proc
      | .closes => service.endConn proc errnoKept true

/-- What `recv_tcp_message` leaves in the buffer of a connection's process. -/
def received (service : Service) (proc : Proc) (gone : Bool) : Text :=
  (recvTcpMessage (if gone then none else some ((service.arrived proc).take BUFFER_SIZE))).2

/-- The bytes that `recv` has returned are no longer there. -/
def consume (service : Service) (proc : Proc) : Service :=
  { service with
    arrived := Function.update service.arrived proc ((service.arrived proc).drop BUFFER_SIZE) }

variable (cJSON : CJson)

/-- One event of the server; a process that has ended takes none, and one with
nothing to receive waits. -/
def step (service : Service) : ServiceEvent → Option Service
  | .accept version faults timestamp =>
      if service.running (.acceptor version) then
        some
          { service with
            running := Function.update service.running
              (.connection version (service.accepted version)) true
            accepted := Function.update service.accepted version (service.accepted version + 1)
            file := (addEventToJson cJSON faults LAST_KEEP_ALIVED timestamp service.file).file }
      else none
  | .datagram version surroundings allocates bytes =>
      if service.running (.datagrams version) then
        some (service.follow (.datagrams version) true
          (Pointers.runNormalUserServer cJSON allocates surroundings.uninterrupted
            (receivedDatagram bytes) service.file))
      else none
  | .arrive version number bytes =>
      let proc := Proc.connection version number
      if service.running proc then
        some
          { service with
            arrived := Function.update service.arrived proc (service.arrived proc ++ bytes) }
      else none
  | .receive version number gone surroundings allocates errnoKept =>
      let proc := Proc.connection version number
      if service.running proc ∧ (gone ∨ service.arrived proc ≠ []) then
        some ((service.consume proc).follow proc errnoKept
          (Pointers.runAdminServer cJSON allocates surroundings.uninterrupted
            (service.received proc gone) service.file))
      else none
  | .deliver target errnoKept sends =>
      if target ∈ service.signals then
        let service := { service with signals := service.signals.erase target }
        some (if service.running target then service.endConn target errnoKept sends else service)
      else none
  | .sense entry rand faults =>
      if service.running .alertModule then
        some
          (if Reading.alarms { entry, temperature := getTemperature rand } then
            -- `msgsnd` on a removed queue fails, and the module exits.
            if service.queue then
              { service with file := (addEntryToJson cJSON faults entry.name service.file).file }
            else service.exit .alertModule
          else service)
      else none
  | .listen =>
      if service.running .alertListener then
        some (if service.queue then service else service.exit .alertListener)
      else none

variable {cJSON}

/-- The four listeners, the alert module and the alert listener are running and
the queue exists. -/
def Serving (service : Service) : Prop :=
  (∀ version, service.running (.acceptor version)) ∧
    (∀ version, service.running (.datagrams version)) ∧
      service.running .alertModule ∧ service.running .alertListener ∧ service.queue

/-- After the event the server is still serving, and no process has ended but
the one of the client that sent it. -/
def Survives (cJSON : CJson) (service : Service) (event : ServiceEvent) : Prop :=
  ∀ next, service.step cJSON event = some next →
    next.Serving ∧ ∀ proc, service.running proc → event.sender ≠ some proc → next.running proc

/-- What is received of a datagram is not empty, has a usable command, does not
ask to close, and what it asks for can be read and sent back.  A message on a
connection with a usable command to close finds its client gone, or `errno`
changed. -/
def Harmless (cJSON : CJson) (service : Service) : ServiceEvent → Prop
  | .datagram version surroundings allocates bytes =>
      let received := receivedDatagram bytes
      let command := getCommand cJSON false received
      service.running (.datagrams version) →
        received ≠ [] ∧ Pointers.usable cJSON allocates received K_COMMAND = true ∧
          command ≠ CLOSE_CONNECTION ∧
            (command = OPTION1_ → surroundings.faults.reading = false ∧ service.file ≠ []) ∧
              (command = OPTION1_ ∨ command = OPTION2_ → surroundings.sends = true)
  | .receive version number gone surroundings allocates errnoKept =>
      let received := service.received (.connection version number) gone
      service.running (.connection version number) → received ≠ [] →
        Pointers.usable cJSON allocates received K_COMMAND = true →
          getCommand cJSON false received = CLOSE_CONNECTION →
            surroundings.sends = false ∨ errnoKept = false
  | _ => True

@[simp] theorem exit_running (service : Service) (proc other : Proc) :
    (service.exit proc).running other =
      if other = proc then false else service.running other := by
  simp [exit, Function.update_apply]

@[simp] theorem exit_queue (service : Service) (proc : Proc) :
    (service.exit proc).queue = service.queue := rfl

@[simp] theorem exit_signals (service : Service) (proc : Proc) :
    (service.exit proc).signals = service.signals := rfl

/-- `end_conn` does not return. -/
@[simp] theorem endConn_running_self
    (service : Service) (proc : Proc) (errnoKept sends : Bool) :
    (service.endConn proc errnoKept sends).running proc = false := by
  unfold endConn
  split
  · exact Function.update_self _ _ _
  · exact Function.update_self _ _ _

/-- Serving, with no signal in flight. -/
def Calm (service : Service) : Prop :=
  service.Serving ∧ service.signals = []

/-- What a calm server is does not depend on the file and the bytes that wait. -/
theorem Calm.congr
    {service other : Service} (calm : service.Calm) (running : other.running = service.running)
    (queue : other.queue = service.queue) (signals : other.signals = service.signals) :
    other.Calm := by
  rw [Calm, Serving, running, queue, signals]
  exact calm

/-- A connection's process may exit. -/
theorem Calm.exit_connection
    {service : Service} (calm : service.Calm) (version : IpVersion) (number : Nat) :
    (service.exit (.connection version number)).Calm := by
  obtain ⟨⟨acceptors, datagrams, alertModule, alertListener, queue⟩, noSignals⟩ := calm
  refine ⟨⟨fun other => ?_, fun other => ?_, ?_, ?_, queue⟩, noSignals⟩
  · simpa using acceptors other
  · simpa using datagrams other
  · simpa using alertModule
  · simpa using alertListener

/-- A process that waits goes on. -/
theorem follow_of_waits
    {service : Service} {handled : Handled} (proc : Proc) (errnoKept : Bool)
    (waits : handled.outcome = .waits) :
    service.follow proc errnoKept (.ok handled) = { service with file := handled.file } := by
  simp [follow, waits]

/-- One that does not wait for more has ended. -/
theorem follow_running_self
    {service : Service} {turn : Except Misuse Handled} (proc : Proc) (errnoKept : Bool)
    (ends : ¬∃ handled, turn = .ok handled ∧ handled.outcome = .waits) :
    (service.follow proc errnoKept turn).running proc = false := by
  cases turn with
  | error fault => simp [follow]
  | ok handled =>
      cases outcome : handled.outcome with
      | waits => exact absurd ⟨handled, rfl, outcome⟩ ends
      | exits => simp [follow, outcome]
      | closes => simp [follow, outcome]

/-- A connection's process that gets to the end of `end_conn` removes the queue. -/
theorem follow_queue_of_closes
    {service : Service} {handled : Handled} {version : IpVersion} {number : Nat}
    (closes : handled.outcome = .closes) :
    (service.follow (.connection version number) true (.ok handled)).queue = false := by
  simp [follow, closes, endConn, Proc.connected]

/-- One that does not can only end. -/
theorem follow_connection
    {service : Service} {turn : Except Misuse Handled} {version : IpVersion} {number : Nat}
    {errnoKept : Bool}
    (unfinished : (∃ handled, turn = .ok handled ∧ handled.outcome = .closes) →
      errnoKept = false) :
    ∃ file, service.follow (.connection version number) errnoKept turn = { service with file } ∨
      service.follow (.connection version number) errnoKept turn =
        { service with file }.exit (.connection version number) := by
  cases turn with
  | error fault => exact ⟨service.file, .inr rfl⟩
  | ok handled =>
      refine ⟨handled.file, ?_⟩
      cases outcome : handled.outcome with
      | waits => exact .inl (by simp [follow, outcome])
      | exits => exact .inr (by simp [follow, outcome])
      | closes =>
          have changed := unfinished ⟨handled, rfl, outcome⟩
          exact .inr (by simp [follow, outcome, endConn, changed])

/-- A process is forked, and none ends. -/
theorem Calm.accept
    {service next : Service} {version : IpVersion} {faults : FileFaults} {timestamp : Text}
    (calm : service.Calm)
    (stepped : service.step cJSON (.accept version faults timestamp) = some next) :
    next.Calm ∧ ∀ proc, service.running proc → next.running proc := by
  simp only [Service.step] at stepped
  split_ifs at stepped
  obtain rfl := Option.some.inj stepped
  have more (proc : Proc) (running : service.running proc) :
      Function.update service.running
        (.connection version (service.accepted version)) true proc := by
    rw [Function.update_apply]
    split
    · rfl
    · exact running
  obtain ⟨⟨acceptors, datagrams, alertModule, alertListener, queue⟩, noSignals⟩ := calm
  refine ⟨⟨⟨fun other => ?_, fun other => ?_, ?_, ?_, queue⟩, noSignals⟩, more⟩
  · exact more _ (acceptors other)
  · exact more _ (datagrams other)
  · exact more _ alertModule
  · exact more _ alertListener

/-- What a connection's process receives ends at most itself, if it does not get
to the end of `end_conn`. -/
theorem Calm.receive
    {service next : Service} {version : IpVersion} {number : Nat} {gone errnoKept : Bool}
    {surroundings : Surroundings} {allocates : Text → Bool}
    (calm : service.Calm)
    (harmless : service.Harmless cJSON
      (.receive version number gone surroundings allocates errnoKept))
    (stepped : service.step cJSON
      (.receive version number gone surroundings allocates errnoKept) = some next) :
    next.Calm ∧ ∀ proc, service.running proc → proc ≠ .connection version number →
      next.running proc := by
  simp only [Service.step] at stepped
  split_ifs at stepped with receives
  obtain rfl := Option.some.inj stepped
  have unfinished : (∃ handled, Pointers.runAdminServer cJSON allocates
      surroundings.uninterrupted (service.received (.connection version number) gone)
        service.file = .ok handled ∧ handled.outcome = .closes) → errnoKept = false := by
    intro closes
    obtain ⟨nonempty, use, close, sends⟩ := (Pointers.runAdminServer_closes_iff rfl).mp closes
    refine (harmless receives.1 nonempty use close).resolve_left fun lost => ?_
    exact absurd (sends.symm.trans lost) (by decide)
  obtain ⟨file, same | same⟩ := @follow_connection (service.consume (.connection version number))
    _ version number errnoKept unfinished
  · rw [same]
    exact ⟨calm.congr rfl rfl rfl, fun proc running _ => running⟩
  · rw [same]
    refine ⟨(calm.congr rfl rfl rfl).exit_connection version number, ?_⟩
    intro proc running different
    simpa [different, consume] using running

/-- The step lemma: a harmless event leaves a calm server calm, and ends no
process but its sender's. -/
theorem Calm.step
    {service next : Service} {event : ServiceEvent}
    (calm : service.Calm) (harmless : service.Harmless cJSON event)
    (stepped : service.step cJSON event = some next) :
    next.Calm ∧ ∀ proc, service.running proc → event.sender ≠ some proc →
      next.running proc := by
  cases event with
  | accept version faults timestamp =>
      obtain ⟨calmNext, others⟩ := calm.accept stepped
      exact ⟨calmNext, fun proc running _ => others proc running⟩
  | datagram version surroundings allocates bytes =>
      simp only [Service.step] at stepped
      split_ifs at stepped with running
      obtain rfl := Option.some.inj stepped
      obtain ⟨handled, turn, waits⟩ := (@Pointers.runNormalUserServer_waits_iff cJSON allocates
        surroundings.uninterrupted _ service.file rfl).mpr (harmless running)
      rw [turn, follow_of_waits _ _ waits]
      exact ⟨calm.congr rfl rfl rfl, fun proc running _ => running⟩
  | arrive version number bytes =>
      simp only [Service.step] at stepped
      split_ifs at stepped
      obtain rfl := Option.some.inj stepped
      exact ⟨calm.congr rfl rfl rfl, fun proc running _ => running⟩
  | receive version number gone surroundings allocates errnoKept =>
      obtain ⟨calmNext, others⟩ := calm.receive harmless stepped
      refine ⟨calmNext, fun proc running other => others proc running ?_⟩
      rintro rfl
      exact other rfl
  | deliver target errnoKept sends => simp [Service.step, calm.2] at stepped
  | sense entry rand faults =>
      simp only [Service.step, alarms_getTemperature, Bool.false_eq_true, if_false] at stepped
      split_ifs at stepped
      obtain rfl := Option.some.inj stepped
      exact ⟨calm, fun proc running _ => running⟩
  | listen =>
      have queue : service.queue = true := calm.1.2.2.2.2
      simp only [Service.step, queue, if_true] at stepped
      split_ifs at stepped
      obtain rfl := Option.some.inj stepped
      exact ⟨calm, fun proc running _ => running⟩

/-- An event the server survives is harmless. -/
theorem Survives.harmless
    {service : Service} {event : ServiceEvent}
    (survives : service.Survives cJSON event) :
    service.Harmless cJSON event := by
  cases event with
  | datagram version surroundings allocates bytes =>
      intro running
      obtain ⟨serving, _⟩ := survives _ (if_pos running)
      refine (@Pointers.runNormalUserServer_waits_iff cJSON allocates surroundings.uninterrupted
        _ service.file rfl).mp ?_
      by_contra ends
      have ended := serving.2.1 version
      rw [follow_running_self _ _ ends] at ended
      exact absurd ended (by decide)
  | receive version number gone surroundings allocates errnoKept =>
      intro running nonempty use close
      by_contra finished
      simp only [not_or, Bool.not_eq_false] at finished
      obtain ⟨sends, rfl⟩ := finished
      have receives : gone = true ∨ service.arrived (.connection version number) ≠ [] := by
        by_contra nothing
        simp only [not_or, Bool.not_eq_true, not_not] at nothing
        simp [received, nothing, recvTcpMessage, Framing.untilStop] at nonempty
      obtain ⟨serving, _⟩ := survives _ (if_pos ⟨running, receives⟩)
      obtain ⟨handled, turn, closes⟩ := (@Pointers.runAdminServer_closes_iff cJSON allocates
        surroundings.uninterrupted _ service.file rfl).mpr ⟨nonempty, use, close, sends⟩
      have queue := serving.2.2.2.2
      rw [turn, follow_queue_of_closes closes] at queue
      exact absurd queue (by decide)
  | _ => exact True.intro

/-- The server after its start. -/
def started : Service where
  running := fun proc =>
    match proc with
    | .connection _ _ => false
    | _ => true
  accepted := fun _ => 0
  arrived := fun _ => []
  queue := true
  signals := []
  file := "{}".toList

end Service

end Refuge
