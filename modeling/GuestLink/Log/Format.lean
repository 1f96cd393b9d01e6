import GuestLink.Log.Pattern
import GuestLink.Log.Record
import GuestLink.Log.Time
import GuestLink.Text.Line

/-!
# Formatted records

`Log.format` writes a record as a line and, below it, the incident that it reports and the end of
the console log that it carries.  Each line of the excerpt is indented and marked, so that no line of the guest can be taken for a
record.
-/

namespace GuestLink.Log

/-- How many lines of a console log are shown by default. -/
def defaultTail : Int := 20

/-- What each line of an excerpt begins with. -/
def excerptMark : List Char := ("    | ").toList

/-- The console log that a record carries. -/
def Record.consoleLog (r : Record) : String :=
  match r.fields.lookup "console_log" with
  | some (.text log) => log
  | _ => ""

/-- The lines that stand for the last `tail` of `lines`: first how many earlier ones there were. -/
def excerpt (tail : Nat) (lines : List (List Char)) : List (List Char) :=
  let skipped := lines.length - tail
  let shown := (lines.drop skipped).map (excerptMark ++ ·)
  if skipped = 0 then shown
  else (excerptMark ++ (s!"... {skipped} earlier console lines").toList) :: shown

/-- Why a record cannot be formatted. -/
inductive FormatFault where
  | pattern (fault : Pattern.Fault)
  | time (fault : Time.Fault)

/-- The fault in words. -/
def FormatFault.message : FormatFault → String
  | .pattern fault => fault.message
  | .time fault => fault.message

/-- The message of a record with its arguments. -/
def Record.text (r : Record) : Except FormatFault String :=
  (Pattern.fill r.message r.arguments).mapError .pattern

/-- A text with the incident of the record told in full in the lines below it, if there is one. -/
def Record.withTrace (r : Record) (text : String) : String :=
  match r.incident with
  | none => text
  | some i => text ++ (if text.toList.getLast? = some '\n' then "" else "\n") ++ i.traceText r.steps

/-- A record without its console log.  A fault of the message comes before one of the time. -/
def plainFormat (r : Record) : Except FormatFault String := do
  let text ← r.text
  let time ← (Time.text r.created).mapError .time
  return r.withTrace (r.severity.name ++ " [" ++ time ++ "] " ++ r.source ++ " - " ++ text)

/-- A record with the last `tail` lines of its console log. -/
def format (tail : Int) (r : Record) : Except FormatFault String := do
  let text ← plainFormat r
  if r.consoleLog = "" ∨ tail ≤ 0 then return text
  let lines := excerpt tail.toNat (Text.splitLines r.consoleLog.toList)
  return String.ofList (['\n'].intercalate (text.toList :: lines))

end GuestLink.Log
