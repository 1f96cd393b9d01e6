import GuestLink.Datum
import GuestLink.Incident
import GuestLink.Text.Blank

/-!
# Failures

Every error of the library is a `Report`: a kind out of a small hierarchy, a message, a context of
named data and, for some kinds, details of its own.  A `Failure` is a report or an incident that
passed through the library unchanged.
-/

namespace GuestLink

/-- The kinds of report. -/
inductive Report.Kind where
  /-- Any error of the library. -/
  | any
  /-- The caller passed something invalid. -/
  | input
  /-- An emulator argument is invalid. -/
  | argument
  /-- Another attempt may succeed. -/
  | transient
  /-- A serial command was not answered in time. -/
  | serialTimeout
  /-- The session was closed meanwhile. -/
  | cancelled
  /-- The identity could not be made. -/
  | keyGeneration
  /-- The serial console failed. -/
  | serial
  /-- Another command owns the console. -/
  | consoleBusy
  /-- The console is not connected or has ended. -/
  | consoleClosed
  /-- A serial command reported failure. -/
  | serialCommand
  /-- A serial command reported no status. -/
  | statusMissing
  /-- Host keys could not be read. -/
  | hostKeyFormat
  /-- The server's key is not pinned. -/
  | hostKeyRejected
  /-- No SSH connection. -/
  | connect
  /-- A remote command failed. -/
  | remote
  deriving DecidableEq, Repr

namespace Report.Kind

/-- The kind of which this one is a special case. -/
def parent : Kind → Option Kind
  | .any => none
  | .argument => some .input
  | .serialTimeout => some .transient
  | .consoleBusy | .consoleClosed | .serialCommand => some .serial
  | .statusMissing => some .serialCommand
  | _ => some .any

/-- How many kinds lie above this one. -/
def depth : Kind → Nat
  | .any => 0
  | .argument | .serialTimeout | .consoleBusy | .consoleClosed | .serialCommand => 2
  | .statusMissing => 3
  | _ => 1

theorem depth_parent {k p : Kind} (h : k.parent = some p) : p.depth < k.depth := by
  cases k <;> simp [parent] at h <;> subst h <;> decide

/-- The kind and all above it, from special to general. -/
def lineage (k : Kind) : List Kind :=
  match h : k.parent with
  | none => [k]
  | some p =>
    have := depth_parent h
    k :: lineage p
termination_by k.depth

/-- The names of the details that a report of this kind has, each with the value it has by default,
if it has one. -/
def details : Kind → List (String × Option Datum)
  | .serialTimeout => [("console_log", some (.text ""))]
  | .serialCommand | .statusMissing =>
    [("status", some (.text "")), ("console_log", some (.text ""))]
  | .remote => [("command", none), ("stderr", some (.text "")), ("exit_status", some .null)]
  | _ => []

/-- The names of the details that a report of this kind repeats in its context. -/
def repeated : Kind → List String
  | .serialCommand | .statusMissing => ["status"]
  | .remote => ["command", "exit_status"]
  | _ => []

/-- Those of the details that a report of this kind repeats in its context. -/
def repetitions (k : Kind) (details : Fields) : Fields :=
  details.filter fun d => k.repeated.contains d.1

end Report.Kind

/-- What a report was raised for. -/
inductive Report.Cause where
  | incident (i : Incident)
  | report (kind : Report.Kind)
  /-- A text was not Base64. -/
  | base64
  deriving DecidableEq, Repr

/-- An error of the library. -/
structure Report where
  kind : Report.Kind
  message : Datum
  /-- Named data, unless whoever made the report passed something else. -/
  context : Datum
  details : Fields
  cause : Option Report.Cause

namespace Fields

/-- The fields with `name` set to `value`, in its old place if it has one. -/
def set (name : String) (value : Datum) : Fields → Fields
  | [] => [(name, value)]
  | f :: fs => if f.1 = name then (name, value) :: fs else f :: set name value fs

/-- The fields, updated by those of `changes`. -/
def update (fields changes : Fields) : Fields :=
  changes.foldl (fun fs f => set f.1 f.2 fs) fields

end Fields

namespace Report

/-- A report whose context repeats the details that its kind says. -/
def make (kind : Kind) (message : Datum) (details context : Fields)
    (cause : Option Cause := none) : Report :=
  { kind, message, details, cause
    context := .record (Fields.update context (kind.repetitions details)) }

end Report

/-- What an operation can fail with. -/
inductive Failure where
  | report (r : Report)
  | incident (i : Incident)

/-- A captured log, which may hold surrogates, as the end of a one-line message. -/
def pointSuffix (log : List Text.Point) : String :=
  let log := Text.Point.trim log
  if log = [] then "(no log available)"
  else "(log: " ++ String.ofList (Text.Point.literal log) ++ ")"

/-- A captured log as the end of a one-line message. -/
def logSuffix (log : String) : String := pointSuffix (Text.Point.ofString log)

end GuestLink
