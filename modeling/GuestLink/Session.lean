import GuestLink.Capture
import GuestLink.Clock.Allowance
import GuestLink.Console
import GuestLink.Session.Trouble
import GuestLink.Settings

/-!
# Sessions

A `Session` is the state of one guest session: its console, its identity, its SSH client, and the
tasks that are under way.  A task runs without interruption until it has to wait for something; a
`Stage` says what a waiting task waits for and how it will go on.  Everything that a session does to
the outside is an `Act`, and `Session.history` holds all of them in order.
-/

namespace GuestLink

/-- The number of a task. -/
abbrev TaskId := Nat

/-- The number of an SSH client. -/
abbrev ClientId := Nat

/-- The number of a channel. -/
abbrev ChannelId := Nat

/-- What calls a wait off. -/
inductive Signal where
  /-- The session is closed. -/
  | closed
  /-- The caller's signal of that name is raised. -/
  | named (name : String)
  deriving DecidableEq, Repr

/-- What a connection is asked for with. -/
structure ConnectRequest where
  host : String
  port : Int
  user : String
  /-- In seconds. -/
  timeout : Binary64
  /-- The key pair that proves who connects. -/
  key : KeyPair
  /-- The server keys that are accepted. -/
  hostKeys : HostKeys
  deriving DecidableEq, Repr

/-- Why a client did not connect. -/
inductive ConnectFault where
  /-- It refused the server's key. -/
  | rejected (r : HostKeyRejection)
  | incident (i : Incident)
  deriving DecidableEq, Repr

/-- The trouble that a fault makes. -/
def ConnectFault.trouble (r : ConnectRequest) : ConnectFault → Trouble
  | .rejected rejection => .rejected rejection
  | .incident i => .connect r.host r.port i

/-- What a task has done in the end. -/
inductive Result where
  | nothing
  | line (content : Bytes)
  | lines (contents : List Bytes)
  | identity (i : Identity)
  | output (bytes : Bytes)
  | client (c : ClientId)
  | console
  | command (r : CommandResult)
  deriving DecidableEq, Repr

/-- How a task has ended. -/
inductive Outcome where
  | ok (r : Result)
  | failed (t : Trouble)
  /-- The caller ended it. -/
  | aborted

/-- Whether a task has brought a console. -/
def Outcome.isConsole : Outcome → Bool
  | .ok .console => true
  | _ => false

/-- Something that a session does. -/
inductive Act where
  | log (r : Log.Record)
  /-- Bytes are handed to the writer of the console. -/
  | send (data : Bytes)
  /-- The writer of the console is closed. -/
  | closeWriter
  /-- A key pair of that size is asked for. -/
  | generate (task : TaskId) (bits : Int)
  /-- A client is made. -/
  | newClient (c : ClientId)
  /-- A client is told to accept pinned server keys only. -/
  | pin (c : ClientId)
  /-- A client is asked to connect. -/
  | connect (task : TaskId) (c : ClientId) (r : ConnectRequest)
  /-- A client is closed at once. -/
  | closeClient (c : ClientId)
  /-- A client is asked to close, which may take a while. -/
  | retireClient (task : TaskId) (c : ClientId)
  /-- A channel is asked for. -/
  | openChannel (task : TaskId) (c : ClientId)
  /-- A command is to be run on a channel. -/
  | capture (task : TaskId) (channel : ChannelId) (command : String)
  /-- A channel is closed. -/
  | closeChannel (channel : ChannelId)
  /-- A connection to a console is asked for. -/
  | dial (task : TaskId) (path : Path)
  /-- A task has ended. -/
  | finish (task : TaskId) (o : Outcome)

/-- A serial command, and what follows once it has succeeded. -/
inductive Errand where
  /-- Setting the guest up for an identity; as part of a bootstrap, a scan follows. -/
  | setup (identity : Identity) (boot : Bool)
  /-- Scanning host keys; as part of a bootstrap for an identity, a connection follows. -/
  | scan (boot : Option Identity)
  deriving DecidableEq, Repr

/-- The operation of an errand. -/
def Errand.operation : Errand → Serial.Operation
  | .setup .. => .setup
  | .scan _ => .scan

/-- What a task waits for. -/
inductive Stage where
  /-- The bytes of the caller to be flushed. -/
  | writing
  /-- The line of a serial command to be flushed, whose answer is waited for so long then. -/
  | flushing (errand : Errand) (timeout : Binary64)
  /-- A line of the console. -/
  | next (signal : Signal)
  /-- `left` more lines, behind those already `got`, last first. -/
  | take (signal : Signal) (left : Nat) (got : List Bytes)
  /-- The status line of a serial command. -/
  | reply (errand : Errand) (e : Serial.Exchange)
  /-- A key pair. -/
  | generating (boot : Bool)
  /-- A connection. -/
  | connecting (c : ClientId) (r : ConnectRequest) (boot : Bool)
  /-- The end of a client that connected after the session was closed. -/
  | discarding (c : ClientId)
  /-- The end of the session's client. -/
  | retiring (c : ClientId)
  /-- The end of the console's writer. -/
  | closingWriter (d : Deadline)
  /-- A connection to a console. -/
  | dialing (path : Path) (d : Deadline)
  /-- A channel. -/
  | opening (command : String) (signal : Option Signal)
  /-- The end of a remote command. -/
  | capturing (channel : ChannelId) (command : String) (signal : Option Signal)
  /-- The end of a remote command that was called off. -/
  | abandoning (channel : ChannelId) (command : String)
  deriving DecidableEq, Repr

/-- What calls off the wait for a line in this stage; `none` where no line is waited for. -/
def Stage.lineSignal? : Stage → Option Signal
  | .next signal | .take signal .. => some signal
  | .reply .. => some .closed
  | _ => none

/-- What calls off the wait of a stage. -/
def Stage.signal? : Stage → Option Signal
  | .capturing _ _ signal => signal
  | stage => stage.lineSignal?

/-- The time by which a stage ends of itself. -/
def Stage.deadline? : Stage → Option Deadline
  | .reply _ e => some e.deadline
  | .closingWriter d | .dialing _ d => some d
  | _ => none

/-- What a task is told when its wait is over. -/
inductive Notice where
  /-- Its signal was raised. -/
  | calledOff
  /-- There is a line for it, or the console has ended. -/
  | ready
  deriving DecidableEq, Repr

/-- A task that waits. -/
structure Task where
  id : TaskId
  stage : Stage
  /-- The line that it has taken from the queue and not yet looked at. -/
  hand : Option Bytes := none
  /-- What it has been told and not yet acted upon. -/
  notice : Option Notice := none
  deriving DecidableEq, Repr

/-- What a caller may ask for. -/
inductive Job where
  /-- The next line of the console. -/
  | next (signal : Signal)
  /-- The next `count` lines of the console. -/
  | take (count : Nat) (signal : Signal)
  /-- Sending bytes to the guest. -/
  | write (data : Bytes)
  /-- Closing the console. -/
  | closeConsole
  /-- A connection to the console at a path, within the time that a datum allows. -/
  | dial (path : Path) (timeout : Datum)
  /-- A command on a client of the caller. -/
  | runOn (command : String) (signal : Option Signal)
  /-- A new identity that the guest accepts. -/
  | setup
  /-- The lines of a host-key scan. -/
  | scan
  /-- All steps to an SSH connection. -/
  | bootstrap
  /-- An SSH connection for an identity to a server with one of the pinned keys. -/
  | connect (identity : Identity) (keys : HostKeys)
  /-- A command on the session's client. -/
  | run (command : String)
  /-- Closing the session. -/
  | close

/-- The state of a guest session. -/
structure Session where
  settings : Settings
  host : String
  port : Int
  /-- Whether there is a console at all. -/
  plugged : Bool := true
  console : Console := {}
  now : Instant := 0
  /-- The caller's signals that are raised. -/
  signals : List String := []
  closed : Bool := false
  identity : Option Identity := none
  client : Option ClientId := none
  /-- How many clients were made. -/
  clients : Nat := 0
  /-- The clients whose connection is gone. -/
  deadClients : List ClientId := []
  /-- The tasks that wait, longest first. -/
  tasks : List Task := []
  /-- How many tasks were started. -/
  started : Nat := 0
  history : List Act := []

end GuestLink
