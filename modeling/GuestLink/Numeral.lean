import GuestLink.Binary64.Decimal
import GuestLink.Text.Blank

/-!
# Numerals in free text

`readInteger` and `readBinary64?` read the numerals that a person may write into a setting: white
space around them, a sign, leading zeros, single underscores between digits.  An integer may end in
a point and zeros; a floating-point number may have a fraction and an exponent, or name infinity or
the not-a-number value.

An integer is first read in its plain form, then brought into it; the length of its digits is
judged in the text as it stands.
-/

namespace GuestLink.Numeral

/-- The number that a non-empty run of decimal digits writes. -/
def readDigits? (cs : List Char) : Option Nat :=
  if cs.isEmpty || !cs.all Char.isDigit then none else some (Nat.ofDigitChars 10 cs 0)

/-- `cs` without its underscores, each of which must stand alone and between other characters. -/
def joinGroups? (cs : List Char) : Option (List Char) :=
  let rec loneFrom (afterGroup : Bool) : List Char → Bool
    | [] => afterGroup
    | c :: rest => if c = '_' then afterGroup && loneFrom false rest else loneFrom true rest
  if cs.isEmpty || loneFrom false cs then some (cs.filter (· != '_')) else none

/-- The greatest number of digits that an integer may have. -/
def maxDigits : Nat := 4300

/-- A sign and what follows it: whether the sign is a minus, and the rest. -/
def splitSign : List Char → Bool × List Char
  | '-' :: rest => (true, rest)
  | '+' :: rest => (false, rest)
  | cs => (false, cs)

/-- What follows a minus sign, or all of `cs`. -/
def dropMinus : List Char → List Char
  | '-' :: rest => rest
  | cs => cs

/-- Whether `cs` begins like an integer of more digits than one may have. -/
def isTooLong (cs : List Char) : Bool :=
  let digits := (dropMinus cs).takeWhile Char.isDigit
  digits.head? != some '0' && maxDigits < digits.length

/-- The integer that `cs` writes in the plain form: a minus sign or none, and digits of which the
first is zero only if it is the last. -/
def readPlainInt? (cs : List Char) : Option Int :=
  let digits := dropMinus cs
  if isTooLong cs ∨ (digits.head? = some '0' ∧ digits ≠ ['0']) then none
  else (readDigits? digits).map fun n => if cs.head? = some '-' then -(n : Int) else n

/-- What follows a plus sign, behind which no minus sign may stand, or all of `cs`. -/
def dropPlus? : List Char → Option (List Char)
  | '+' :: '-' :: _ => none
  | '+' :: rest => some rest
  | cs => some cs

/-- The text behind the zeros and underscores that follow a leading zero.  The last of them is kept
when a point or nothing comes next; any other character but a digit or a minus sign spoils the
numeral. -/
def dropZeroRun? (last : Char) : List Char → Option (List Char)
  | [] => some [last]
  | c :: rest =>
    if c = '0' ∨ c = '_' then dropZeroRun? c rest
    else if c.isDigit ∨ c = '-' then some (c :: rest)
    else if c = '.' then some (last :: c :: rest)
    else none

/-- `cs` without the zeros that lead it. -/
def dropLeadingZeros? : List Char → Option (List Char)
  | [] => none
  | '0' :: rest => dropZeroRun? '0' rest
  | c :: rest => if c.isDigit ∨ c = '-' then some (c :: rest) else none

/-- `cs` without its fraction, which may hold zeros only and at least one. -/
def dropZeroFraction? (cs : List Char) : Option (List Char) :=
  match cs.dropWhile (· != '.') with
  | [] => some cs
  | _ :: fraction =>
    if !fraction.isEmpty && fraction.all (· == '0') then some (cs.takeWhile (· != '.')) else none

/-- The plain form of an integer that is written with a plus sign, leading zeros, a fraction of
zeros, or underscores. -/
def plainForm? (cs : List Char) : Option (List Char) :=
  dropPlus? cs >>= dropLeadingZeros? >>= dropZeroFraction? >>= joinGroups?

/-- Why a text writes no integer. -/
inductive IntegerFault where
  | malformed
  | tooLong
  deriving DecidableEq, Repr

/-- The integer that `cs` writes. -/
def readInteger (cs : List Char) : Except IntegerFault Int :=
  let cs := Text.trimBy Text.isSpace cs
  if isTooLong cs then .error .tooLong
  else
    match readPlainInt? cs <|> (plainForm? cs).bind readPlainInt? with
    | some i => .ok i
    | none => .error .malformed

/-- The exponent that ends a numeral: none, or the letter `e` and a signed run of digits. -/
def readExponent? : List Char → Option Int
  | [] => some 0
  | c :: rest =>
    if c = 'e' ∨ c = 'E' then
      let (negative, digits) := splitSign rest
      (readDigits? digits).map fun n => if negative then -(n : Int) else n
    else none

/-- The number that an unsigned decimal writes: digits, a point among or around them, and an
exponent. -/
def readDecimal? (negative : Bool) (cs : List Char) : Option Binary64 :=
  let whole := cs.takeWhile Char.isDigit
  let (fraction, rest) := match cs.dropWhile Char.isDigit with
    | '.' :: rest => (rest.takeWhile Char.isDigit, rest.dropWhile Char.isDigit)
    | rest => ([], rest)
  if whole.isEmpty && fraction.isEmpty then none
  else (readExponent? rest).map fun e =>
    .ofDecimal negative (whole ++ fraction) (e - fraction.length)

/-- The number that a plain numeral or a name of infinity or not-a-number writes, case ignored. -/
def readPlain? (cs : List Char) : Option Binary64 :=
  let (negative, rest) := splitSign cs
  let name := String.ofList (rest.map Char.toLower)
  if name = "inf" ∨ name = "infinity" then some (.infinite negative)
  else if name = "nan" then some .nan
  else readDecimal? negative rest

/-- The number that `cs` writes: a plain numeral within white space, or one with underscores and
nothing around it. -/
def readBinary64? (cs : List Char) : Option Binary64 :=
  match readPlain? (Text.trimBy Text.isSpace cs) with
  | some x => some x
  | none => joinGroups? cs >>= readPlain?

end GuestLink.Numeral
