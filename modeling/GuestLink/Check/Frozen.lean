import GuestLink.Check
import GuestLink.Datum

/-!
# Attributes of checked values

A checked value is frozen: none of its fields can be set, nor any attribute that could be one.
Names that begin with an underscore are nobody's fields.  They may be set and mean nothing, but for
the few that every value has.
-/

namespace GuestLink.Frozen

/-- What comes of setting an attribute. -/
inductive Assignment where
  /-- The attribute could be a field. -/
  | refused (complaint : Complaint)
  /-- The attribute is set, and no field changes. -/
  | stored
  /-- All fields are exchanged at once. -/
  | exchanged (fields : Fields)
  /-- The attribute takes classes only. -/
  | notClass (value : Datum)
  /-- The attribute takes records only. -/
  | notRecord (value : Datum)
  /-- The attribute says who refers to the value and cannot be set. -/
  | notWritable (name : String)
  /-- The attribute is computed from the others and cannot be set. -/
  | derived (name : String)

/-- Sets an attribute of a checked value. -/
def assign (name : String) (value : Datum) : Assignment :=
  if name = "__class__" then .notClass value
  else if name = "__dict__" then
    match value with
    | .record fields => .exchanged fields
    | d => .notRecord d
  else if name = "__weakref__" then .notWritable name
  else if name = "__fields_set__" then .derived name
  else if name.toList.head? = some '_' then .stored
  else .refused ⟨[.field name], .frozen⟩

end GuestLink.Frozen
