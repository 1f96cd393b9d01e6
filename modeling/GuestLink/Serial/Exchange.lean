import GuestLink.Clock
import GuestLink.Failure
import GuestLink.Log.Record
import GuestLink.Serial.Setup

/-!
# Serial commands

An `Exchange` is a serial command from the moment its line was sent until a status line answers it.
`Exchange.accept` takes one more line of the guest: a line that begins with the status mark ends the
exchange in a `Verdict`, any other is logged and, by the rule of the operation, kept as output.
-/

namespace GuestLink.Serial

/-- What a serial command is for. -/
inductive Operation where
  /-- Accepting a key and starting the SSH daemon. -/
  | setup
  /-- Scanning the host keys. -/
  | scan
  deriving DecidableEq, Repr

/-- The name of an operation in messages. -/
def Operation.name : Operation → String
  | .setup => "setup"
  | .scan => "keyscan"

/-- The status that reports success. -/
def statusOk : UInt8 := 48

/-- The byte with which the lines of a host-key scan begin. -/
def scanMark : UInt8 := 124

/-- Whether a line is output of an operation.  The echo of the shell and the comments of the scan
share the console with it. -/
def Operation.keeps : Operation → Bytes → Bool
  | .setup, _ => false
  | .scan, line => line.head? == some scanMark

/-- What a status line reports: nothing or one byte.  `none` for any other line. -/
def status? (line : Bytes) : Option (Option UInt8) :=
  let mark := utf8 statusMark
  if mark.isPrefixOf line then some (line.drop mark.length).head? else none

/-- A command in progress. -/
structure Exchange where
  operation : Operation
  deadline : Deadline
  /-- The lines of the guest so far, last first. -/
  seen : List Bytes := []
  deriving DecidableEq, Repr

/-- How a command that was answered ended. -/
inductive Verdict where
  /-- The guest reported success. -/
  | succeeded
  /-- The guest reported another status. -/
  | failed (status : String)
  /-- The status line carried no status. -/
  | statusMissing
  deriving DecidableEq, Repr

namespace Exchange

/-- The lines of the guest so far, in order. -/
def lines (e : Exchange) : List Bytes := e.seen.reverse

/-- The lines of the guest as one text. -/
def consoleLog (e : Exchange) : String :=
  String.ofList (['\n'].intercalate (e.lines.map Utf8.decodeLossy))

/-- The lines that are output. -/
def kept (e : Exchange) : List Bytes := e.lines.filter e.operation.keeps

/-- The output. -/
def output (e : Exchange) : Bytes := [10].intercalate e.kept

/-- The verdict that a status gives. -/
def verdict : Option UInt8 → Verdict
  | none => .statusMissing
  | some b => if b = statusOk then .succeeded else .failed (String.ofList (Utf8.decodeLossy [b]))

/-- The exchange after one more line, with the verdict if that is a status line. -/
def accept (e : Exchange) (line : Bytes) : Exchange × Option Verdict :=
  ({ e with seen := line :: e.seen }, (status? line).map verdict)

/-- The record that tells of a failed command. -/
def failedRecord (e : Exchange) (status : String) : Log.Record :=
  Log.record .warning .session "Serial command failed"
    [("operation", .text e.operation.name), ("status", .text status),
      ("console_log", .text e.consoleLog)]

/-- The record that tells of a successful command. -/
def succeededRecord (e : Exchange) : Log.Record :=
  Log.record .debug .session "Serial command succeeded"
    [("operation", .text e.operation.name), ("console_lines", .int e.lines.length),
      ("retained_lines", .int e.kept.length)]

end Exchange

end GuestLink.Serial
