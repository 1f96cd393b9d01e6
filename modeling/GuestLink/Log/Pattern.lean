import GuestLink.Log.Pattern.Directive
import GuestLink.Log.Pattern.Field

/-!
# Message patterns

The message of a log record may be a pattern whose directives stand for the arguments in turn, or
for those that they name where the only argument is a record.  `Pattern.fill` writes the arguments
into a pattern; of several faults the first counts, read from left to right.
-/

namespace GuestLink.Log.Pattern

/-- The arguments that a pattern may still use. -/
inductive Supply where
  | listed (rest : List Datum)
  /-- Named ones, and the one that is at hand. -/
  | keyed (fields : Fields) (current : Option Datum)

namespace Supply

/-- The supply of a list of arguments.  A record that is the only one and not empty gives names. -/
def ofArguments : List Datum → Supply
  | [.record (f :: fs)] => .keyed (f :: fs) (some (.record (f :: fs)))
  | ds => .listed ds

/-- The next argument. -/
def take : Supply → Except Fault (Datum × Supply)
  | .listed (d :: ds) => .ok (d, .listed ds)
  | .keyed fields (some d) => .ok (d, .keyed fields none)
  | _ => .error .tooFewArguments

/-- The supply with the argument at hand that a directive names. -/
def select (s : Supply) (key : Key) : Except Fault Supply :=
  match key, s with
  | .none, s => .ok s
  | _, .listed _ => .error .noNames
  | .unclosed, .keyed .. => .error .unclosedKey
  | .named name, .keyed fields _ =>
    match fields.lookup name with
    | some d => .ok (.keyed fields (some d))
    | none => .error (.unknownKey name)

/-- Whether no argument is left that had to be used. -/
def isSpent : Supply → Bool
  | .listed rest => rest.isEmpty
  | .keyed .. => true

/-- The next argument, which must be an integer. -/
def takeSize (s : Supply) : Except Fault (Int × Supply) := do
  match ← s.take with
  | (.int i, s) => return (i, s)
  | (.bool b, s) => return (if b then 1 else 0, s)
  | _ => throw .sizeNotInteger

end Supply

/-- The width that a directive asks for, below zero if the field is to stand on the left.  The least
word of 64 bits has no opposite and asks for none. -/
def width (size : Size) (s : Supply) : Except Fault (Int × Supply) := do
  match size with
  | .unset => return (0, s)
  | .given n => if n < 0x8000000000000000 then return (n, s) else throw .widthTooBig
  | .argument =>
    let (i, s) ← s.takeSize
    if i = -0x8000000000000000 then return (0, s)
    else if -0x8000000000000000 < i ∧ i < 0x8000000000000000 then return (i, s)
    else throw .widthOutOfRange

/-- The precision that a directive asks for, if any. -/
def precision (size : Size) (s : Supply) : Except Fault (Option Nat × Supply) := do
  match size with
  | .unset => return (none, s)
  | .given n => if n < 0x80000000 then return (some n, s) else throw .precisionTooBig
  | .argument =>
    let (i, s) ← s.takeSize
    if -0x80000000 ≤ i ∧ i < 0x80000000 then return (some i.toNat, s)
    else throw .precisionOutOfRange

/-- No field may be this wide. -/
def widthBound : Nat := 0x80000000

/-- The text of a directive. -/
def apply (d : Directive) (s : Supply) : Except Fault (List Char × Supply) := do
  let s ← s.select d.key
  let (width, s) ← width d.width s
  let (precision, s) ← precision d.precision s
  match d.conversion with
  | none => throw .incomplete
  | some c =>
    let flags := if width < 0 then '-' :: d.flags else d.flags
    let (argument, s) ← s.take
    let field ← convert c d.index flags precision argument
    if widthBound ≤ width.natAbs then throw .fieldTooWide
    return (field.layout flags width.natAbs, s)

/-- The texts of pieces behind those already `found`, last first, and the supply that is left. -/
def applyPiece (found : List (List Char) × Supply) (p : Piece) :
    Except Fault (List (List Char) × Supply) :=
  match p with
  | .text cs => .ok (cs :: found.1, found.2)
  | .directive d => (apply d found.2).map fun (cs, s) => (cs :: found.1, s)

/-- The message that a pattern gives.  Without arguments it stands as it is. -/
def fill (pattern : String) (args : List Datum) : Except Fault String := do
  if args.isEmpty then return pattern
  let (found, s) ← (pieces pattern.toList).foldlM applyPiece ([], .ofArguments args)
  if s.isSpent then return String.ofList found.reverse.flatten else throw .tooManyArguments

end GuestLink.Log.Pattern
