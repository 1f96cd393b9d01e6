import GuestLink.Check
import GuestLink.Datum
import GuestLink.Path
import GuestLink.Text.Utf8

/-!
# Validation

A configuration arrives as named, untyped data.  What it must hold is declared field by field, and a
`Validation` goes by the declaration: it reads a datum as a value of a type, finds the datum of a
field, and tells which fields are too many.  The library declares and leaves the rest to the
validation that it is used with.
-/

namespace GuestLink

/-- A way to read a datum. -/
abbrev Reader (α : Type) := Datum → Checked α

/-- How declared fields are read. -/
structure Validation where
  integer : Reader Int
  /-- An integer of at least `least` and, if given, at most `greatest`. -/
  natural (least : Nat) (greatest : Option Nat) : Reader Nat
  /-- A floating-point number greater than zero. -/
  positive : Reader Binary64
  truth : Reader Bool
  text : Reader String
  bytes : Reader Bytes
  path : Reader Path
  /-- One of some values that go by names. -/
  oneOf {α : Type} (values : List (String × α)) : Reader α
  /-- A list, of whose elements each is read by itself. -/
  each {α : Type} (read : Reader α) : Reader (List α)
  /-- What the fields of a record declare; `name` is what it goes by in complaints. -/
  record {α : Type} (name : String) (read : Fields → Checked α) : Reader α
  /-- The field `name`, for which `default` stands in if it is absent. -/
  field {α : Type} (fields : Fields) (name : String) (default : Option α) (read : Reader α) :
    Checked α
  /-- The complaints about fields that are not among `names`. -/
  unknown (fields : Fields) (names : List String) : List Complaint

end GuestLink
