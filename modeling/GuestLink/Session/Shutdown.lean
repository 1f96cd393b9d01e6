import GuestLink.Session.Task

/-!
# Closing a session

Closing raises the session's own signal at once, then lets go of the SSH client, the reader of the
console and its writer, in this order.  The writer may take a while to end, but not long.
-/

namespace GuestLink.Session

/-- How long the end of the console's writer is waited for. -/
def writerGrace : Binary64 := .ofInt 1

/-- Ends the reader of the console, then closes its writer. -/
def closeConsole (s : Session) (id : TaskId) : Session :=
  if !s.plugged then s.fail id (.noConsole "close")
  else
    match s.console.stopReader with
    | .error i => s.fail id (.outside i)
    | .ok (console, records) =>
      let s := { s with console }.tell records
      if console.writer.closing then s.succeed id .nothing
      else
        let s := { s with console := { console with
          writer := { console.writer with closing := true } } }.emit .closeWriter
        match console.writer.closeWait with
        | .done => s.succeed id .nothing
        | .raises i => if i.isOs then s.succeed id .nothing else s.fail id (.outside i)
        | .hangs => s.suspend id (.closingWriter ⟨s.now, writerGrace⟩)

/-- Closes the session, its client and its console. -/
def beginClose (s : Session) (id : TaskId) : Session :=
  let s := { s with closed := true }
  match s.client with
  | some c => (s.suspend id (.retiring c)).emit (.retireClient id c)
  | none => s.closeConsole id

end GuestLink.Session
