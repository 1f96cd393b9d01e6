import GuestLink.Failure

/-!
# Building reports from arguments

`Report.build` makes a report of a given kind from positional and named arguments: the message, the
details of the kind and, last, a context.  A context that the caller passes is shared with the
report, so that what the report adds to it is seen by the caller, unless it is nothing: then the
report gets one of its own.
-/

namespace GuestLink.Report

/-- The parameters of a kind, each with its default if it has one. -/
def parameters (k : Kind) : List (String × Option Datum) :=
  ("message", none) :: k.details ++ [("context", some .null)]

/-- Why arguments do not fit the parameters. -/
inductive Misfit where
  /-- There is no parameter of that name. -/
  | unknownName (kind : Kind) (name : String)
  /-- A parameter is given twice. -/
  | givenTwice (kind : Kind) (name : String)
  /-- There are more positional arguments than parameters. -/
  | tooMany (kind : Kind) (count : Nat)
  /-- Parameters without a default are not given. -/
  | missing (kind : Kind) (names : List String)
  /-- The context is no record, to which details could be added. -/
  | rigidContext (context : Datum)

/-- The name of the parameter before all others, which stands for the report itself. -/
def ownParameter : String := "self"

/-- The nearest kind above `k`, or `k` itself, whose parameters are stated for it rather than taken
over from above. -/
def definingKind (k : Kind) : Kind :=
  match k with
  | .statusMissing => .serialCommand
  | .serialTimeout | .serialCommand | .remote => k
  | _ => .any

/-- Arguments by parameter, where they fit. -/
def bind (k : Kind) (args : List Datum) (named : Fields) : Except Misfit Fields := do
  let names := (parameters k).map (·.1)
  let given := names.zip args
  for f in named do
    if f.1 = ownParameter ∨ (given.lookup f.1).isSome then throw (.givenTwice k f.1)
    if !names.contains f.1 then throw (.unknownName k f.1)
  if names.length < args.length then throw (.tooMany k args.length)
  let given := given ++ named
  let missing := (parameters k).filter fun p => p.2.isNone && (given.lookup p.1).isNone
  if !missing.isEmpty then throw (.missing k (missing.map (·.1)))
  return (parameters k).map fun p => (p.1, ((given.lookup p.1) <|> p.2).getD .null)

/-- The context of a report: what the caller passed, if that is something, with what its kind adds
to it. -/
def contextOf (k : Kind) (details : Fields) (passed : Datum) : Except Misfit Datum :=
  match passed with
  | .record fs => .ok (.record (Fields.update fs (k.repetitions details)))
  | d =>
    if !d.isTruthy then .ok (.record (k.repetitions details))
    else if k.repeated.isEmpty then .ok d
    else .error (.rigidContext d)

/-- A report, and what has become of the context that its maker named. -/
structure Built where
  report : Report
  /-- The caller's context, if it was named. -/
  passed : Option Datum
  /-- Whether that is the report's own. -/
  shared : Bool

/-- A report from the arguments of its kind. -/
def build (k : Kind) (args : List Datum) (named : Fields) : Except Misfit Built := do
  let bound ← bind k args named
  let details := bound.filter fun f => (k.details.map (·.1)).contains f.1
  let context ← contextOf k details ((bound.lookup "context").getD .null)
  let message := (bound.lookup "message").getD .null
  let report : Report := { kind := k, message, context, details, cause := none }
  let passed := named.lookup "context"
  let shared := passed.any Datum.isTruthy
  return { report, shared, passed := if shared then some context else passed }

end GuestLink.Report
