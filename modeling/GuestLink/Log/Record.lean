import GuestLink.Datum
import GuestLink.Incident

/-!
# Log records

A `Log.Record` is one event worth telling: how severe it is, which part of the library tells it, a
message, and named data.  Severities are integers, of which some have names.
-/

namespace GuestLink.Log

/-- How severe a record is; greater is worse. -/
abbrev Severity := Int

namespace Severity

/-- For whoever looks into the library. -/
def debug : Severity := 10

/-- What is expected and worth knowing. -/
def info : Severity := 20

/-- What may point to a fault. -/
def warning : Severity := 30

/-- What could not be done. -/
def error : Severity := 40

/-- What ends the program. -/
def critical : Severity := 50

/-- The names by which a severity may be given.  The first name of a severity is the one shown. -/
def names : List (String × Severity) :=
  [("CRITICAL", critical), ("FATAL", critical), ("ERROR", error), ("WARNING", warning),
    ("WARN", warning), ("INFO", info), ("DEBUG", debug), ("NOTSET", 0)]

/-- The severity of that name. -/
def ofName? (name : String) : Option Severity := names.lookup name

/-- The name of a severity; one without a name of its own is shown by its number. -/
def name (s : Severity) : String :=
  match names.find? (·.2 == s) with
  | some (name, _) => name
  | none => s!"Level {s}"

end Severity

/-- The part of the library that tells a record. -/
inductive Source where
  | machine
  | hostKeys
  | identity
  | console
  | capture
  | session
  deriving DecidableEq, Repr

/-- The name above those of all sources. -/
def libraryName : String := "vmshuttle"

/-- The name of a source. -/
def Source.name : Source → String
  | .machine => "vmshuttle.qemu_cmd"
  | .hostKeys => "vmshuttle.host_keys"
  | .identity => "vmshuttle.ssh_keys"
  | .console => "vmshuttle.serial_console"
  | .capture => "vmshuttle.ssh_exec"
  | .session => "vmshuttle.instance"

/-- One event. -/
structure Record where
  severity : Severity
  /-- The name of its source. -/
  source : String
  /-- The message, or a pattern for one where there are `arguments`. -/
  message : String
  arguments : List Datum := []
  fields : Fields := []
  /-- The incident that it reports. -/
  incident : Option Incident := none
  /-- The steps that led to the incident, a line or more each. -/
  steps : List String := []
  /-- When it was made, in seconds since 1970. -/
  created : Int := 0

/-- A record without arguments. -/
def record (severity : Severity) (source : Source) (message : String) (fields : Fields := []) :
    Record :=
  { severity, source := source.name, message, fields }

end GuestLink.Log
