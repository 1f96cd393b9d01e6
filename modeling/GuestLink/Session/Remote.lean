import GuestLink.Session.Task

/-!
# Remote commands

A remote command needs a live connection, then a channel of its own.  It has succeeded if its exit
status is zero.
-/

namespace GuestLink.Session

/-- Asks a client for a channel to run a command on. -/
def beginRun (s : Session) (id : TaskId) (c : ClientId) (command : String)
    (signal : Option Signal) : Session :=
  if s.deadClients.contains c then s.fail id (.noTransport command)
  else (s.suspend id (.opening command signal)).emit (.openChannel id c)

/-- Judges a remote command that has ended. -/
def endRun (s : Session) (id : TaskId) (command : String) (result : CommandResult) : Session :=
  if result.exitStatus = 0 then
    (s.tell [Log.record .debug .capture "SSH command finished"
      [("command", .text command), ("stdout_bytes", .int result.stdout.length)]]).succeed id
        (.command result)
  else s.fail id (.exitStatus command result)

end GuestLink.Session
