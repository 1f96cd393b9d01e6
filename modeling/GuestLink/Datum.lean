import GuestLink.Binary64.Decimal
import GuestLink.Digits
import GuestLink.Text.Quoted

/-!
# Untyped data

`Datum` is what reaches the library before it is checked (the fields of a configuration) and what
leaves it with an error or a log record (their contexts).  `Datum.literal` writes a datum so that
its kind can be told from its text: strings are quoted, and a nested one is written with brackets.
-/

namespace GuestLink

/-- A value of no fixed type. -/
inductive Datum where
  | null
  | bool (b : Bool)
  | int (i : Int)
  | float (x : Binary64)
  | text (s : String)
  | list (items : List Datum)
  | record (fields : List (String × Datum))
  deriving Repr, Inhabited

/-- Named data. -/
abbrev Fields := List (String × Datum)

namespace Datum

/-- The text of a datum, with its strings quoted. -/
def literal (limit : DigitLimit) : Datum → Except DigitLimit.Excess String
  | .null => .ok "None"
  | .bool b => .ok (if b then "True" else "False")
  | .int i => limit.write i
  | .float x => .ok x.text
  | .text s => .ok (Text.quoted s)
  | .list items => do return "[" ++ ", ".intercalate (← literals items) ++ "]"
  | .record fields => do return "\x7b" ++ ", ".intercalate (← entries fields) ++ "\x7d"
where
  /-- The literals of a list. -/
  literals : List Datum → Except DigitLimit.Excess (List String)
    | [] => .ok []
    | d :: ds => do return (← literal limit d) :: (← literals ds)
  /-- The entries of a record. -/
  entries : List (String × Datum) → Except DigitLimit.Excess (List String)
    | [] => .ok []
    | (name, d) :: fs => do
      return (Text.quoted name ++ ": " ++ (← literal limit d)) :: (← entries fs)

/-- The name of a datum's type in messages. -/
def typeName : Datum → String
  | .null => "NoneType"
  | .bool _ => "bool"
  | .int _ => "int"
  | .float _ => "float"
  | .text _ => "str"
  | .list _ => "list"
  | .record _ => "dict"

/-- Whether a datum is something: not null, false, zero or empty. -/
def isTruthy : Datum → Bool
  | .null => false
  | .bool b => b
  | .int i => i != 0
  | .float x => !x.isZero
  | .text s => s != ""
  | .list items => !items.isEmpty
  | .record fields => !fields.isEmpty

/-- The text of a datum as a reader sees it: a string stands for itself. -/
def plain (limit : DigitLimit) : Datum → Except DigitLimit.Excess String
  | .text s => .ok s
  | d => d.literal limit

end Datum

end GuestLink
