import GuestLink.Check.Validation
import GuestLink.Numeral

/-!
# Lenient readers

The readers of `Validation.lax` turn one datum into a value of its type or name a `Fault`.  They are
lenient where no meaning can be lost, so the text `" 0512 "` reads as the integer 512.
-/

namespace GuestLink

namespace Reader

variable {α : Type}

/-- Whether an integer lies strictly between the bounds of signed words of 64 bits. -/
def fitsWord (i : Int) : Bool := -0x8000000000000000 < i && i < 0x8000000000000000

/-- The integer that a floating-point number is.  It may not be out of the range of words. -/
def whole (x : Binary64) : Except Fault Int :=
  if x.isFinite then
    match x.toInt? with
    | some i => if fitsWord i then .ok i else .error .integerSize
    | none => .error .fractional
  else .error .notFinite

/-- Reads an integer: an integer, a truth value, a number without fraction, or a numeral. -/
def integer : Datum → Except Fault Int
  | .int i => .ok i
  | .bool b => .ok (if b then 1 else 0)
  | .float x => whole x
  | .text s =>
    match Numeral.readInteger s.toList with
    | .ok i => .ok i
    | .error .malformed => .error .integerText
    | .error .tooLong => .error .integerSize
  | _ => .error .notInteger

/-- Reads a natural number of at least `least` and, if given, at most `greatest`. -/
def natural (least : Nat) (greatest : Option Nat) (d : Datum) : Except Fault Nat := do
  let i ← integer d
  if i < least then throw (.below least)
  match greatest with
  | some g => if (g : Int) < i then throw (.above g) else return i.toNat
  | none => return i.toNat

/-- Reads a floating-point number: a number, a truth value, or a numeral.  An integer may not round
to infinity. -/
def number : Datum → Except Fault Binary64
  | .float x => .ok x
  | .int i => if (Binary64.ofInt i).isFinite then .ok (.ofInt i) else .error .notNumber
  | .bool b => .ok (.ofInt (if b then 1 else 0))
  | .text s =>
    match Numeral.readBinary64? s.toList with
    | some x => .ok x
    | none => .error .numberText
  | _ => .error .notNumber

/-- Reads a number greater than zero. -/
def positive (d : Datum) : Except Fault Binary64 := do
  let x ← number d
  if x.isPositive then return x else throw .notPositive

/-- The words that stand for a truth value, in lower case. -/
def truthWords : List (String × Bool) :=
  [("0", false), ("off", false), ("f", false), ("false", false), ("n", false), ("no", false),
    ("1", true), ("on", true), ("t", true), ("true", true), ("y", true), ("yes", true)]

/-- The truth value that an integer stands for.  One that no word of 64 bits holds is not taken for
an attempt at a truth value. -/
def truthOfInt (i : Int) : Except Fault Bool :=
  if i = 0 then .ok false
  else if i = 1 then .ok true
  else if -0x8000000000000000 ≤ i ∧ i < 0x8000000000000000 then .error .truthText
  else .error .notTruth

/-- Reads a truth value: a truth value, zero, one, or a word for one. -/
def truth : Datum → Except Fault Bool
  | .bool b => .ok b
  | .int i => truthOfInt i
  | .float x =>
    match whole x with
    | .ok i => truthOfInt i
    | .error _ => .error .notTruth
  | .text s =>
    match truthWords.lookup (String.ofList (s.toList.map Char.toLower)) with
    | some b => .ok b
    | none => .error .truthText
  | _ => .error .notTruth

/-- Reads a text. -/
def text : Datum → Except Fault String
  | .text s => .ok s
  | _ => .error .notText

/-- Reads bytes: the UTF-8 form of a text. -/
def bytes : Datum → Except Fault Bytes
  | .text s => .ok (utf8 s)
  | _ => .error .notBytes

/-- Reads a path. -/
def path : Datum → Except Fault Path
  | .text s => .ok (.ofText s)
  | _ => .error .notPath

/-- Names as a choice among them. -/
def choices : List String → String
  | [] => ""
  | [name] => "'" ++ name ++ "'"
  | [name, last] => "'" ++ name ++ "' or '" ++ last ++ "'"
  | name :: names => "'" ++ name ++ "', " ++ choices names

/-- Reads one of some values by its name. -/
def oneOf (values : List (String × α)) : Datum → Except Fault α
  | .text s =>
    match values.lookup s with
    | some a => .ok a
    | none => .error (.notAmong (choices (values.map (·.1))))
  | _ => .error (.notAmong (choices (values.map (·.1))))

/-- Reads every element of a list. -/
def each (read : Reader α) : Reader (List α)
  | .list ds => Checked.all (ds.mapIdx fun i d => (read d).within (.index i))
  | _ => .bad [⟨[], .notTuple⟩]

/-- Reads the fields of a record. -/
def record (name : String) (read : Fields → Checked α) : Reader α
  | .record fields => read fields
  | _ => .bad [⟨[], .notRecord name⟩]

/-- Reads the field `name`; `default` stands in for a field that is absent. -/
def field (fields : Fields) (name : String) (default : Option α) (read : Reader α) : Checked α :=
  match fields.lookup name with
  | some d => (read d).within (.field name)
  | none =>
    match default with
    | some a => .ok a
    | none => .bad [⟨[.field name], .missing⟩]

/-- A complaint for each field that is not among `names`. -/
def unknownFields (fields : Fields) (names : List String) : List Complaint :=
  (fields.filter fun f => !names.contains f.1).map fun f => ⟨[.field f.1], .unknownField⟩

end Reader

open Checked in
/-- The validation that reads leniently. -/
def Validation.lax : Validation where
  integer := ofRead ∘ Reader.integer
  natural least greatest := ofRead ∘ Reader.natural least greatest
  positive := ofRead ∘ Reader.positive
  truth := ofRead ∘ Reader.truth
  text := ofRead ∘ Reader.text
  bytes := ofRead ∘ Reader.bytes
  path := ofRead ∘ Reader.path
  oneOf values := ofRead ∘ Reader.oneOf values
  each := Reader.each
  record := Reader.record
  field := Reader.field
  unknown := Reader.unknownFields

end GuestLink
