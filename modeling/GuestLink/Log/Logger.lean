import GuestLink.Log.Output
import GuestLink.Text.Blank

/-!
# Logger configuration

A `Logger` is the part of the logging system that this library owns: the severity from which on
records count, and the handlers that receive them.  `Logger.configure` installs the library's own
handler once and afterwards only changes what it shows.

Whose handlers receive a record is decided by the name of its source, whose parts are separated by
points: a source reports to the nearest one above it that is there.  Records of other sources than
the library's come to nobody's handler, and their mere messages are written.
-/

namespace GuestLink.Log

/-- What receives records. -/
inductive Handler where
  /-- Swallows them. -/
  | silent
  /-- A handler of the application. -/
  | foreign (name : String)
  /-- The library's own handler, the `number`-th made, showing `tail` console lines a record. -/
  | relay (number : Nat) (tail : Int)
  deriving DecidableEq, Repr

/-- Whether a handler is the library's own. -/
def Handler.isRelay : Handler → Bool
  | .relay .. => true
  | _ => false

/-- The state of the library's logger. -/
structure Logger where
  /-- The severity from which on records count; zero leaves it to the application. -/
  severity : Severity
  /-- The name of that severity. -/
  severityName : String := severity.name
  handlers : List Handler
  /-- How many relay handlers were made. -/
  made : Nat := 0
  /-- The sources that were asked for besides the library itself. -/
  sources : List String := []
  deriving DecidableEq, Repr

/-- The severity from which on the application lets records count. -/
def applicationSeverity : Severity := .warning

/-- The upper case of a character, as far as it may occur in the name of a severity. -/
def upperChar (c : Char) : Char :=
  if c = 'ı' then 'I' else if c = 'ſ' then 'S' else c.toUpper

namespace Logger

/-- The logger at the start, with the severity that the environment names. -/
def initial (environment : Option String) : Logger :=
  let name := String.ofList ((Text.trim (environment.getD "").toList).map upperChar)
  { severity := (Severity.ofName? name).getD 0, handlers := [.silent] }

/-- Why a severity cannot be set. -/
inductive SeverityFault where
  /-- There is none of that name. -/
  | unknownName (name : String)
  /-- It is neither a number nor a name. -/
  | wrongType (literal : String)
  /-- It is neither, and an integer in it is not written. -/
  | excess (e : DigitLimit.Excess)

/-- The fault in words. -/
def SeverityFault.message : SeverityFault → String
  | .unknownName name => "Unknown level: " ++ Text.quoted name
  | .wrongType literal => "Level not an integer or a valid string: " ++ literal
  | .excess e => e.incident.text

/-- The logger with a severity of the name that it usually has. -/
def withSeverity (l : Logger) (s : Severity) : Logger :=
  { l with severity := s, severityName := s.name }

/-- The logger with the severity that a datum gives, by number or by name.  Truth stands for one and
keeps its own name. -/
def setSeverity (l : Logger) : Datum → Except SeverityFault Logger
  | .int i => .ok (l.withSeverity i)
  | .bool false => .ok (l.withSeverity 0)
  | .bool true =>
    .ok { l with severity := 1, severityName := "Level True" }
  | .text name =>
    match Severity.ofName? name with
    | some s => .ok (l.withSeverity s)
    | none => .error (.unknownName name)
  | d =>
    match d.literal .usual with
    | .ok literal => .error (.wrongType literal)
    | .error e => .error (.excess e)

/-- The handlers, of which the first that is the library's own, if there is one, shows `tail`
console lines a record from now on. -/
def adjustFirst? (tail : Int) : List Handler → Option (List Handler)
  | [] => none
  | .relay number _ :: hs => some (.relay number tail :: hs)
  | h :: hs => (adjustFirst? tail hs).map (h :: ·)

/-- The logger with a handler of the library's own in place, showing `tail` console lines a
record. -/
def install (l : Logger) (tail : Int) : Logger :=
  match adjustFirst? tail l.handlers with
  | some handlers => { l with handlers }
  | none => { l with handlers := l.handlers ++ [.relay l.made tail], made := l.made + 1 }

/-- Installs the library's own handler and sets the severity: that of errors when `quiet`, else the
one given, if any.  An invalid severity is refused after the handler was installed. -/
def configure (l : Logger) (severity : Option Datum) (quiet : Bool) (tail : Int) :
    Logger × Except SeverityFault Unit :=
  let l := l.install tail
  if quiet then (l.withSeverity .error, .ok ())
  else
    match severity with
    | none => (l, .ok ())
    | some d =>
      match l.setSeverity d with
      | .ok l => (l, .ok ())
      | .error fault => (l, .error fault)

/-- How many console lines a record is shown with, once the library's own handler is installed. -/
def tail? (l : Logger) : Option Int :=
  l.handlers.findSome? fun
    | .relay _ tail => some tail
    | _ => none

/-- The names of the sources above one, the nearest first, by its name read backwards.  A point next
to the one last seen is passed over. -/
def ancestorsFrom : List Char → List String
  | '.' :: c :: rest => String.ofList (c :: rest).reverse :: ancestorsFrom rest
  | _ :: rest => ancestorsFrom rest
  | [] => []

/-- Whether the source `name` reports to the library, found in so many steps upwards. -/
def reportsIn (l : Logger) : Nat → String → Bool
  | 0, _ => false
  | steps + 1, name =>
    name == libraryName ||
      match (ancestorsFrom name.toList.reverse).find?
          fun a => a == libraryName || l.sources.contains a with
      | some above => reportsIn l steps above
      | none => false

/-- Whether the source `name` is the library or reports to it. -/
def owns (l : Logger) (name : String) : Bool := l.reportsIn (name.length + 1) name

/-- The severity from which on records of a source count. -/
def threshold (l : Logger) (source : String) : Severity :=
  if l.owns source && l.severity != 0 then l.severity else applicationSeverity

/-- Whether a record counts.  One without severity never does. -/
def accepts (l : Logger) (r : Record) : Bool :=
  decide (0 < r.severity) && decide (l.threshold r.source ≤ r.severity)

/-- What is written for a record that counts, on a stream that is no terminal.  The library's own
handler drops a record that it cannot write. -/
def written (l : Logger) (r : Record) : String :=
  if l.owns r.source then
    (l.tail?.bind fun tail => (write false tail none r).toOption).getD ""
  else (r.text.toOption.map (r.withTrace · ++ "\n")).getD ""

/-- Sends a record: whether it counts, and what is written for it. -/
def send (l : Logger) (r : Record) : Logger × Bool × String :=
  ({ l with sources := r.source :: l.sources },
    l.accepts r, if l.accepts r then l.written r else "")

end Logger

end GuestLink.Log
