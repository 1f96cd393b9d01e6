/-!
# Incidents

What the outside world raises while the library uses it: a stream, a file, the SSH transport or the
key generator fails.  The families `isSsh`, `isOs` and `isValue` are those that some operation turns
into an error of its own; every other incident passes through unchanged.
-/

namespace GuestLink

/-- The kinds of incident that are told apart. -/
inductive Incident.Kind where
  | ssh
  | authentication
  | os
  | blocked
  | connection
  | connectionReset
  | connectionRefused
  | connectionAborted
  | brokenPipe
  | timeout
  | notFound
  | alreadyExists
  | permission
  | isDirectory
  | notDirectory
  | interrupted
  | value
  /-- Something is not of the type that is asked for. -/
  | type
  /-- Something lacks what is asked of it. -/
  | attribute
  /-- A number is too large. -/
  | overflow
  | runtime
  | endOfFile
  | hostKey
  deriving DecidableEq, Repr

/-- The name of a kind where an incident is told in full. -/
def Incident.Kind.fullName : Incident.Kind → String
  | .ssh => "paramiko.ssh_exception.SSHException"
  | .authentication => "paramiko.ssh_exception.AuthenticationException"
  | .os => "OSError"
  | .blocked => "BlockingIOError"
  | .connection => "ConnectionError"
  | .connectionReset => "ConnectionResetError"
  | .connectionRefused => "ConnectionRefusedError"
  | .connectionAborted => "ConnectionAbortedError"
  | .brokenPipe => "BrokenPipeError"
  | .timeout => "TimeoutError"
  | .notFound => "FileNotFoundError"
  | .alreadyExists => "FileExistsError"
  | .permission => "PermissionError"
  | .isDirectory => "IsADirectoryError"
  | .notDirectory => "NotADirectoryError"
  | .interrupted => "InterruptedError"
  | .value => "ValueError"
  | .type => "TypeError"
  | .attribute => "AttributeError"
  | .overflow => "OverflowError"
  | .runtime => "RuntimeError"
  | .endOfFile => "EOFError"
  | .hostKey => "vmshuttle.exceptions.HostKeyVerificationError"

/-- Something that went wrong outside, with its text. -/
structure Incident where
  kind : Incident.Kind
  text : String
  deriving DecidableEq, Repr

namespace Incident

/-- Whether the SSH library raised it. -/
def isSsh (i : Incident) : Bool :=
  match i.kind with
  | .ssh | .authentication => true
  | _ => false

/-- Whether it reports an invalid value. -/
def isValue (i : Incident) : Bool := i.kind == .value

/-- Whether it comes from the operating system. -/
def isOs (i : Incident) : Bool :=
  match i.kind with
  | .ssh | .authentication | .value | .type | .attribute | .overflow | .runtime | .endOfFile
  | .hostKey => false
  | _ => true

/-- The incident told in full: the steps that led to it under a heading, if any are known, and in
the last line what it is. -/
def traceText (i : Incident) (steps : List String) : String :=
  let what := if i.text = "" then i.kind.fullName else i.kind.fullName ++ ": " ++ i.text
  let heading := if steps.isEmpty then [] else ["Traceback (most recent call last):"]
  "\n".intercalate (heading ++ steps ++ [what])

end Incident

end GuestLink
