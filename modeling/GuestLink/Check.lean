/-!
# Checked values

A `Checked` value is a result or all the complaints found, each with the place of the datum
complained of.  `Checked.ap` goes on collecting complaints behind a failure, so that whoever wrote a
configuration learns of all its faults at once.
-/

namespace GuestLink

/-- What is wrong with a datum. -/
inductive Fault where
  | missing
  | unknownField
  | frozen
  | notInteger
  | integerText
  | integerSize
  | fractional
  | notFinite
  | below (least : Nat)
  | above (greatest : Nat)
  | notPositive
  | notNumber
  | numberText
  | notTruth
  | truthText
  | notText
  | notBytes
  | notPath
  | notAmong (choices : String)
  | notTuple
  | notRecord (name : String)
  deriving DecidableEq, Repr

namespace Fault

/-- The fault as a word for programs. -/
def code : Fault → String
  | .missing => "missing"
  | .unknownField => "extra_forbidden"
  | .frozen => "frozen_instance"
  | .notInteger => "int_type"
  | .integerText => "int_parsing"
  | .integerSize => "int_parsing_size"
  | .fractional => "int_from_float"
  | .notFinite => "finite_number"
  | .below _ => "greater_than_equal"
  | .above _ => "less_than_equal"
  | .notPositive => "greater_than"
  | .notNumber => "float_type"
  | .numberText => "float_parsing"
  | .notTruth => "bool_type"
  | .truthText => "bool_parsing"
  | .notText => "string_type"
  | .notBytes => "bytes_type"
  | .notPath => "path_type"
  | .notAmong _ => "enum"
  | .notTuple => "tuple_type"
  | .notRecord _ => "model_type"

/-- The fault in words. -/
def message : Fault → String
  | .missing => "Field required"
  | .unknownField => "Extra inputs are not permitted"
  | .frozen => "Instance is frozen"
  | .notInteger => "Input should be a valid integer"
  | .integerText => "Input should be a valid integer, unable to parse string as an integer"
  | .integerSize => "Unable to parse input string as an integer, exceeded maximum size"
  | .fractional => "Input should be a valid integer, got a number with a fractional part"
  | .notFinite => "Input should be a finite number"
  | .below least => s!"Input should be greater than or equal to {least}"
  | .above greatest => s!"Input should be less than or equal to {greatest}"
  | .notPositive => "Input should be greater than 0"
  | .notNumber => "Input should be a valid number"
  | .numberText => "Input should be a valid number, unable to parse string as a number"
  | .notTruth => "Input should be a valid boolean"
  | .truthText => "Input should be a valid boolean, unable to interpret input"
  | .notText => "Input should be a valid string"
  | .notBytes => "Input should be a valid bytes"
  | .notPath => "Input is not a valid path for <class 'pathlib.Path'>"
  | .notAmong choices => s!"Input should be {choices}"
  | .notTuple => "Input should be a valid tuple"
  | .notRecord name => s!"Input should be a valid dictionary or instance of {name}"

end Fault

/-- A step on the way to a datum. -/
inductive Place where
  | field (name : String)
  | index (i : Nat)
  deriving DecidableEq, Repr

/-- A fault and the place of the datum that has it. -/
structure Complaint where
  place : List Place
  fault : Fault
  deriving DecidableEq, Repr

/-- A value, or everything that stands in its way. -/
inductive Checked (α : Type) where
  | ok (value : α)
  | bad (complaints : List Complaint)
  deriving DecidableEq, Repr

namespace Checked

variable {α β : Type}

/-- The complaints about a value. -/
def complaints : Checked α → List Complaint
  | .ok _ => []
  | .bad cs => cs

/-- Applies a function to a checked value. -/
def map (f : α → β) : Checked α → Checked β
  | .ok a => .ok (f a)
  | .bad cs => .bad cs

/-- Applies a checked function to a checked value; the complaints of both are kept, in order. -/
def ap : Checked (α → β) → Checked α → Checked β
  | .ok f, .ok a => .ok (f a)
  | .ok _, .bad cs => .bad cs
  | .bad cs, a => .bad (cs ++ a.complaints)

/-- The value, provided that there are no `more` complaints. -/
def but (c : Checked α) (more : List Complaint) : Checked α :=
  match more with
  | [] => c
  | _ :: _ => .bad (c.complaints ++ more)

/-- The same with every complaint moved below `place`. -/
def within (place : Place) : Checked α → Checked α
  | .ok a => .ok a
  | .bad cs => .bad (cs.map fun c => { c with place := place :: c.place })

/-- A reader's answer as a checked value. -/
def ofRead : Except Fault α → Checked α
  | .ok a => .ok a
  | .error fault => .bad [⟨[], fault⟩]

/-- All values of a list, or the complaints about them. -/
def all : List (Checked α) → Checked (List α)
  | [] => .ok []
  | c :: cs => ((Checked.ok List.cons).ap c).ap (all cs)

end Checked

end GuestLink
