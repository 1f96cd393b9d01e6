import GuestLink.CommandResult
import GuestLink.HostKey
import GuestLink.Identity
import GuestLink.Serial.Exchange

/-!
# What can go wrong in a session

`Trouble` lists every reason for which an operation of a session fails, and `Trouble.failure` gives
each its kind, words and context.
-/

namespace GuestLink

/-- Why an operation of a session failed. -/
inductive Trouble where
  /-- There is no console, of which something is wanted. -/
  | noConsole (wanted : String)
  /-- The console cannot be reached. -/
  | dial (path : Path) (i : Incident)
  /-- Another command owns the console. -/
  | consoleBusy
  /-- The console was closed before something was sent. -/
  | consoleClosed
  /-- What was to be sent to the console did not get through. -/
  | send (i : Incident)
  /-- The console has ended and no line is left. -/
  | consoleEnded
  /-- The wait for a line was called off. -/
  | waitCancelled
  /-- The session was closed before a command was sent. -/
  | closedBefore (operation : Serial.Operation)
  /-- No status line came in time. -/
  | timedOut (e : Serial.Exchange)
  /-- The status line carried no status. -/
  | statusMissing (e : Serial.Exchange)
  /-- The guest reported another status than success. -/
  | badStatus (e : Serial.Exchange) (status : String)
  /-- No identity was made. -/
  | identity (f : Identity.Fault)
  /-- The public key of the identity is no text. -/
  | keyText (f : Utf8.Fault)
  /-- The host keys could not be read. -/
  | scan (f : ScanFault)
  /-- The server's key is not pinned. -/
  | rejected (r : HostKeyRejection)
  /-- The SSH connection failed. -/
  | connect (host : String) (port : Int) (i : Incident)
  /-- The session was closed while connecting. -/
  | closedConnecting
  /-- The session is closed. -/
  | closed
  /-- There is no SSH connection yet. -/
  | notConnected
  /-- The SSH connection is gone. -/
  | noTransport (command : String)
  /-- The command got no channel. -/
  | openChannel (command : String) (i : Incident)
  /-- The channel failed while the command ran. -/
  | capture (command : String) (i : Incident)
  /-- The command ended in another status than success. -/
  | exitStatus (command : String) (result : CommandResult)
  /-- The session was closed while the command ran. -/
  | closedRunning (command : String)
  /-- Something outside failed that the session does not judge. -/
  | outside (i : Incident)

namespace Trouble

/-- A report of a remote command that has no exit status. -/
def remoteReport (message command : String) (cause : Option Incident) : Report :=
  .make .remote (.text message)
    [("command", .text command), ("stderr", .text ""), ("exit_status", .null)] []
    (cause.map .incident)

/-- The text of bytes from the guest. -/
def guestText (bs : Bytes) : String := String.ofList (Utf8.decodeLossy bs)

/-- The failure that a trouble makes. -/
def failure : Trouble → Failure
  | .noConsole wanted =>
    .incident ⟨.attribute, s!"'NoneType' object has no attribute '{wanted}'"⟩
  | .dial path i =>
    if i.isOs then
      .report (.make .consoleClosed (.text ("connect to serial socket: " ++ i.text)) []
        [("path", .text path.text)] (some (.incident i)))
    else .incident i
  | .consoleBusy =>
    .report (.make .consoleBusy (.text "serial console is already owned by another command") [] [])
  | .consoleClosed => .report (.make .consoleClosed (.text "serial console is closed") [] [])
  | .send i =>
    if i.isOs then
      .report (.make .consoleClosed (.text ("write to serial console: " ++ i.text)) [] []
        (some (.incident i)))
    else .incident i
  | .consoleEnded => .report (.make .consoleClosed (.text "serial console stream ended") [] [])
  | .waitCancelled =>
    .report (.make .cancelled (.text "instance closed while waiting for serial output") [] [])
  | .closedBefore operation =>
    .report (.make .cancelled
      (.text ("instance closed before " ++ operation.name ++ " command was sent")) [] [])
  | .timedOut e =>
    .report (.make .serialTimeout
      (.text (e.operation.name ++ " command timed out after " ++ e.deadline.allowance.text ++
        "s " ++ logSuffix e.consoleLog))
      [("console_log", .text e.consoleLog)]
      [("operation", .text e.operation.name), ("timeout", .float e.deadline.allowance)]
      (some (.incident ⟨.timeout, ""⟩)))
  | .statusMissing e =>
    .report (.make .statusMissing
      (.text (e.operation.name ++ " command status code did not show up " ++
        logSuffix e.consoleLog))
      [("status", .text ""), ("console_log", .text e.consoleLog)]
      [("operation", .text e.operation.name)])
  | .badStatus e status =>
    .report (.make .serialCommand
      (.text ("non-zero " ++ e.operation.name ++ s!" command status code: '{status}' " ++
        logSuffix e.consoleLog))
      [("status", .text status), ("console_log", .text e.consoleLog)]
      [("operation", .text e.operation.name)])
  | .identity f => f.failure
  | .keyText f => .incident ⟨.value, f.message⟩
  | .scan f => f.failure
  | .rejected r => .report r.report
  | .connect host port i =>
    if i.isSsh || i.isOs then
      .report (.make .connect (.text ("connect to vm ssh: " ++ i.text)) []
        [("host", .text host), ("port", .int port)] (some (.incident i)))
    else .incident i
  | .closedConnecting =>
    .report (.make .cancelled (.text "instance closed while connecting ssh") [] [])
  | .closed => .report (.make .cancelled (.text "instance is closed") [] [])
  | .notConnected =>
    .report (.make .connect (.text "ssh is not connected; call bootstrap() first") [] [])
  | .noTransport command =>
    .report (remoteReport "create new vm ssh session: transport is not connected" command none)
  | .openChannel command i =>
    if i.isSsh || i.isOs then
      .report (remoteReport ("create new vm ssh session: " ++ i.text) command (some i))
    else .incident i
  | .capture command i =>
    if i.isSsh || i.isOs then .report (remoteReport ("run cmd: " ++ i.text) command (some i))
    else .incident i
  | .exitStatus command result =>
    let stderr := guestText result.stderr
    .report (.make .remote
      (.text (s!"run cmd: exit status {result.exitStatus} " ++ logSuffix stderr))
      [("command", .text command), ("stderr", .text stderr),
        ("exit_status", .int result.exitStatus)] [])
  | .closedRunning command =>
    .report (.make .cancelled (.text "instance closed while running ssh command") []
      [("command", .text command)])
  | .outside i => .incident i

end Trouble

end GuestLink
