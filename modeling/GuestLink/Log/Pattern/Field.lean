import GuestLink.Binary64.Rounded
import GuestLink.Log.Pattern.Fault

/-!
# Converted arguments

A conversion turns an argument into a `Field`: a sign, a mark of the base, and a body.  A field
that is narrower than the width asked for is filled up with blanks in front of it or, where it is to
stand on the left, behind it; a number may also be filled up with zeros between its mark and its
body.

The conversions are `s`, `r` and `a` for text, as it is, as a literal, and as a literal in ASCII;
`d`, `i` and `u` for integers, `o`, `x` and `X` for integers in base 8 and 16; `e`, `f` and `g`, in
either case, for floating-point numbers; and `c` for characters.
-/

namespace GuestLink.Log.Pattern

/-- A converted argument. -/
structure Field where
  sign : List Char := []
  mark : List Char := []
  body : List Char
  /-- Whether it may be filled up with zeros. -/
  numeric : Bool := false
  deriving DecidableEq, Repr

/-- A field of at least `width` characters, on the left of it if there is the flag `-`. -/
def Field.layout (f : Field) (flags : List Char) (width : Nat) : List Char :=
  let lead := f.sign ++ f.mark
  let gap := width - (lead.length + f.body.length)
  if flags.contains '-' then lead ++ f.body ++ List.replicate gap ' '
  else if f.numeric && flags.contains '0' then lead ++ List.replicate gap '0' ++ f.body
  else List.replicate gap ' ' ++ lead ++ f.body

/-- The sign of a number: a minus, or what the flags ask for in place of a plus. -/
def signOf (flags : List Char) (negative : Bool) : List Char :=
  if negative then ['-']
  else if flags.contains '+' then ['+']
  else if flags.contains ' ' then [' ']
  else []

/-- A text, cut off behind as many characters as the precision says. -/
def textField (precision : Option Nat) (s : String) : Field :=
  { body := match precision with
      | some n => s.toList.take n
      | none => s.toList }

/-- An argument of a decimal conversion; the fraction of a number is cut off. -/
def wholeOf (c : Char) : Datum → Except Fault Int
  | .int i => .ok i
  | .bool b => .ok (if b then 1 else 0)
  | .float (.finite negative ticks) =>
    let n : Int := (ticks / Binary64.ticksPerUnit : Nat)
    .ok (if negative then -n else n)
  | .float x => .error (.notFinite x)
  | d => .error (.notReal c d)

/-- An argument of a conversion to another base. -/
def integerOf (c : Char) : Datum → Except Fault Int
  | .int i => .ok i
  | .bool b => .ok (if b then 1 else 0)
  | d => .error (.notInteger c d)

/-- The greatest precision of an integer. -/
def maxIntegerPrecision : Nat := 0x80000000 - 4

/-- An integer in a base, with as many digits as the precision says at least, behind its `mark` if
there is the flag `#`. -/
def integerField (flags : List Char) (precision : Option Nat) (base : Nat) (mark : List Char)
    (i : Int) : Except Fault Field :=
  let least := precision.getD 0
  if maxIntegerPrecision < least then .error .precisionTooLarge
  else .ok
    { sign := signOf flags (i < 0)
      mark := if flags.contains '#' then mark else []
      body := Binary64.padZeros least (Nat.toDigits base i.natAbs)
      numeric := true }

/-- A field in capitals. -/
def Field.capital (f : Field) : Field :=
  { f with mark := f.mark.map Char.toUpper, body := f.body.map Char.toUpper }

/-- An argument of a conversion to a floating-point number. -/
def numberOf : Datum → Except Fault Binary64
  | .float x => .ok x
  | .int i => if (Binary64.ofInt i).isFinite then .ok (.ofInt i) else .error .integerTooLarge
  | .bool b => .ok (.ofInt (if b then 1 else 0))
  | d => .error (.notNumber d)

/-- How many digits a floating-point number is written with by default. -/
def defaultPrecision : Nat := 6

/-- A floating-point number, whose magnitude `write` writes. -/
def numberField (flags : List Char) (precision : Option Nat)
    (write : Bool → Nat → Nat → List Char) : Binary64 → Field
  | .nan => { sign := signOf flags false, body := ['n', 'a', 'n'], numeric := true }
  | .infinite negative =>
    { sign := signOf flags negative, body := ['i', 'n', 'f'], numeric := true }
  | .finite negative ticks =>
    { sign := signOf flags negative
      body := write (flags.contains '#') (precision.getD defaultPrecision) ticks
      numeric := true }

/-- An argument of a conversion to a character. -/
def characterOf : Datum → Except Fault Char
  | .text s =>
    match s.toList with
    | [c] => .ok c
    | _ => .error .notCharacter
  | .int i => if 0 ≤ i ∧ i < 0x110000 then .ok (Char.ofNat i.toNat) else .error .characterOutOfRange
  | .bool b => .ok (Char.ofNat (if b then 1 else 0))
  | _ => .error .notCharacter

/-- An integer in decimal, if it is written. -/
def decimalField (flags : List Char) (precision : Option Nat) (i : Int) : Except Fault Field := do
  let field ← integerField flags precision 10 [] i
  let _ ← (DigitLimit.usual.write i).mapError .excess
  return field

/-- An argument after the conversion `c`, which stands at `index` in its pattern. -/
def convert (c : Char) (index : Nat) (flags : List Char) (precision : Option Nat) (d : Datum) :
    Except Fault Field :=
  match c with
  | 's' => ((d.plain .usual).mapError .excess).map (textField precision)
  | 'r' => ((d.literal .usual).mapError .excess).map (textField precision)
  | 'a' => ((d.literal .usual).mapError .excess).map fun s =>
    textField precision (String.ofList (Text.asciiOnly s.toList))
  | 'd' | 'i' | 'u' => wholeOf c d >>= decimalField flags precision
  | 'o' => integerOf c d >>= integerField flags precision 8 ['0', 'o']
  | 'x' => integerOf c d >>= integerField flags precision 16 ['0', 'x']
  | 'X' => (integerOf c d >>= integerField flags precision 16 ['0', 'x']).map Field.capital
  | 'e' => (numberOf d).map (numberField flags precision Binary64.scientificText)
  | 'f' => (numberOf d).map (numberField flags precision Binary64.fixedText)
  | 'g' => (numberOf d).map (numberField flags precision Binary64.generalText)
  | 'E' => (numberOf d).map (Field.capital ∘ numberField flags precision Binary64.scientificText)
  | 'F' => (numberOf d).map (Field.capital ∘ numberField flags precision Binary64.fixedText)
  | 'G' => (numberOf d).map (Field.capital ∘ numberField flags precision Binary64.generalText)
  | 'c' => (characterOf d).map fun c => { body := [c] }
  | _ => .error (.unknownConversion c index)

end GuestLink.Log.Pattern
