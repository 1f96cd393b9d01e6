import GuestLink.Session.Remote
import GuestLink.Session.Shutdown
import GuestLink.Session.Wait

/-!
# Steps of a session

`Session.step` says what a session does next.  A `Move` is one indivisible step: something happens
outside, the caller asks for something, or a part of the session that could go on does so.  The
moves may come in any order; one that is not possible changes nothing.
-/

namespace GuestLink

namespace Session

/-! ### Answers -/

/-- What the outside answers to an act that takes a while. -/
inductive Reply where
  | flushed (answer : Except Incident Unit)
  | keyPair (answer : Except Incident KeyPair)
  | connected (answer : Except ConnectFault Unit)
  | clientClosed (answer : Except Incident Unit)
  | channel (answer : Except Incident ChannelId)
  | captured (answer : Except Incident CommandResult)
  | dialed (answer : Except Incident Unit)

/-- Goes on with a task that has got the answer it waits for. -/
def goOn (s : Session) (id : TaskId) (stage : Stage) (reply : Reply) : Session :=
  match stage, reply with
  | .writing, .flushed (.ok ()) => s.succeed id .nothing
  | .writing, .flushed (.error i) => s.fail id (.send i)
  | .flushing errand timeout, .flushed (.ok ()) => s.awaitReply id errand timeout
  | .flushing .., .flushed (.error i) => s.release.fail id (.send i)
  | .generating boot, .keyPair answer =>
    match Identity.make Identity.defaultBits answer with
    | .error f => s.fail id (.identity f)
    | .ok identity => s.beginSetup id identity boot
  | .connecting c r boot, .connected answer => s.afterConnect id c r boot answer
  | .discarding _, .clientClosed (.ok ()) => s.fail id .closedConnecting
  | .retiring _, .clientClosed (.ok ()) => { s with client := none }.closeConsole id
  | .discarding _, .clientClosed (.error i) | .retiring _, .clientClosed (.error i) =>
    s.fail id (.outside i)
  | .opening command _, .channel (.error i) => s.fail id (.openChannel command i)
  | .opening command signal, .channel (.ok channel) =>
    (s.suspend id (.capturing channel command signal)).emit (.capture id channel command)
  | .capturing channel command _, .captured (.error i) =>
    (s.emit (.closeChannel channel)).fail id (.capture command i)
  | .capturing channel command _, .captured (.ok result) =>
    (s.emit (.closeChannel channel)).endRun id command result
  | .abandoning channel command, .captured _ =>
    (s.emit (.closeChannel channel)).fail id (.closedRunning command)
  | .dialing path _, .dialed (.error i) => s.fail id (.dial path i)
  | .dialing path _, .dialed (.ok ()) =>
    (s.tell [Log.record .debug .console "Serial console connected"
      [("path", .text path.text)]]).succeed id .console
  | _, _ => s

/-- Takes an answer for a task.  A key pair is logged even if nobody waits for it any more. -/
def answer (s : Session) (id : TaskId) (reply : Reply) : Session :=
  let s := match reply with
    | .keyPair a =>
      match Identity.make Identity.defaultBits a with
      | .ok identity => s.tell [identity.madeRecord Identity.defaultBits]
      | .error _ => s
    | _ => s
  match s.task? id with
  | some t => s.goOn id t.stage reply
  | none => s

/-- Judges the key that a server offers while a client connects. -/
def judge (s : Session) (r : ConnectRequest) (type : String) (key : Bytes) : Session :=
  match r.hostKeys.check type key with
  | .ok () => s
  | .error _ => s.tell [HostKeys.rejectedRecord s!"[{r.host}]:{r.port}" type]

/-! ### Requests -/

/-- Sends bytes to the guest. -/
def beginWrite (s : Session) (id : TaskId) (data : Bytes) : Session :=
  if !s.plugged then s.fail id (.noConsole "write")
  else
    match s.console.write with
    | .closed => s.fail id .consoleClosed
    | .unsent i => s.fail id (.send i)
    | .unflushed i => (s.emit (.send data)).fail id (.send i)
    | .held => (s.emit (.send data)).suspend id .writing
    | .sent => (s.emit (.send data)).succeed id .nothing

/-- Starts a job as the task `id`. -/
def beginJob (s : Session) (id : TaskId) : Job → Session
  | .next signal =>
    if s.plugged then s.suspend id (.next signal) else s.fail id (.noConsole "next_chunk")
  | .take count signal =>
    if count = 0 then s.succeed id (.lines [])
    else if s.plugged then s.suspend id (.take signal count [])
    else s.fail id (.noConsole "next_chunk")
  | .write data => s.beginWrite id data
  | .closeConsole => s.closeConsole id
  | .dial path timeout =>
    match timeout.allowance? with
    | .error i => s.fail id (.outside i)
    | .ok allowance =>
      let d : Deadline := ⟨s.now, allowance.getD (.infinite false)⟩
      if d.allowance.isNegligible then s.fail id (.dial path ⟨.timeout, ""⟩)
      else (s.suspend id (.dialing path d)).emit (.dial id path)
  | .runOn command signal =>
    ({ s with clients := s.clients + 1 }.emit (.newClient s.clients)).beginRun id s.clients command
      signal
  | .setup => (s.suspend id (.generating false)).emit (.generate id Identity.defaultBits)
  | .bootstrap => (s.suspend id (.generating true)).emit (.generate id Identity.defaultBits)
  | .scan => s.beginScan id none
  | .connect identity keys => s.beginConnect id identity keys false
  | .run command =>
    if s.closed then s.fail id .closed
    else
      match s.client with
      | none => s.fail id .notConnected
      | some c => s.beginRun id c command (some .closed)
  | .close => s.beginClose id

/-- Starts a job. -/
def start (s : Session) (j : Job) : Session :=
  { s with started := s.started + 1 }.beginJob s.started j

/-- Discards the lines that the guest has printed, and tells how many they were. -/
def reset (s : Session) : Session × Nat :=
  let (console, records) := s.console.reset
  ({ s with console }.tell records, s.console.lines.length)

/-- Claims the console. -/
def acquire (s : Session) : Session × Except Trouble Unit :=
  if !s.plugged then (s, .error (.noConsole "exclusive"))
  else if s.console.owned then (s, .error .consoleBusy)
  else ({ s with console := { s.console with owned := true } }, .ok ())

/-- Lets the reader of the console run. -/
def read (s : Session) : Session :=
  let (console, records) := s.console.read
  { s with console }.tell records

end Session

/-- One indivisible step. -/
inductive Move where
  /-- Bytes of the guest arrive. -/
  | receive (data : Bytes)
  /-- The guest's stream ends. -/
  | closeInput
  /-- The guest's stream breaks. -/
  | breakInput (i : Incident)
  /-- The state of the writer changes. -/
  | rig (w : Writer)
  /-- The connection of a client is lost. -/
  | disconnect (c : ClientId)
  /-- Time passes. -/
  | pass (nanos : Nat)
  /-- The caller raises a signal. -/
  | raise (name : String)
  /-- The caller lowers a signal. -/
  | lower (name : String)
  /-- The reader of the console runs. -/
  | read
  /-- A queued line is handed to a task. -/
  | deal (id : TaskId)
  /-- A task is told that its wait is over. -/
  | notify (id : TaskId)
  /-- A task goes on. -/
  | resume (id : TaskId)
  /-- A task runs out of time. -/
  | expire (id : TaskId)
  /-- A task gets an answer. -/
  | answer (id : TaskId) (reply : Session.Reply)
  /-- A server offers its key. -/
  | judge (r : ConnectRequest) (type : String) (key : Bytes)
  /-- The caller starts a job. -/
  | start (j : Job)
  /-- The caller ends a task. -/
  | abort (id : TaskId)
  /-- The caller discards queued lines. -/
  | reset
  /-- The caller claims the console. -/
  | acquire
  /-- The caller gives up the console. -/
  | release
  /-- The caller starts the reader. -/
  | startReader

namespace Session

/-- What a session does with its console. -/
def withConsole (s : Session) (f : Console → Console) : Session := { s with console := f s.console }

/-- What is done with a task that waits, if it does. -/
def withTask (s : Session) (id : TaskId) (f : Task → Session) : Session :=
  match s.task? id with
  | some t => f t
  | none => s

/-- The session after a move. -/
def step (s : Session) : Move → Session
  | .receive data => s.withConsole (·.receive data)
  | .closeInput => s.withConsole (·.closeInput)
  | .breakInput i => s.withConsole (·.breakInput i)
  | .rig w => s.withConsole ({ · with writer := w })
  | .disconnect c => { s with deadClients := c :: s.deadClients }
  | .pass nanos => { s with now := s.now + nanos }
  | .raise name => { s with signals := name :: s.signals }
  | .lower name => { s with signals := s.signals.filter (· != name) }
  | .read => s.read
  | .deal id => s.withTask id s.deal
  | .notify id => s.withTask id s.notify
  | .resume id => s.withTask id s.resume
  | .expire id => s.withTask id s.expire
  | .answer id reply => s.answer id reply
  | .judge r type key => s.judge r type key
  | .start j => s.start j
  | .abort id => s.withTask id s.abort
  | .reset => s.reset.1
  | .acquire => s.acquire.1
  | .release => s.release
  | .startReader => s.withConsole Console.startReader

/-- The session after moves. -/
def run (s : Session) (moves : List Move) : Session := moves.foldl step s

end Session

end GuestLink
