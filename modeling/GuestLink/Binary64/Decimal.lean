import GuestLink.Binary64

/-!
# Decimal text of binary numbers

`Binary64.ofDecimal` rounds a decimal to the nearest number.  `Binary64.shortest` finds the fewest
decimal digits that round back to a number and, of those, the nearest to it.  `Binary64.text`
writes them positionally when the decimal exponent is from -4 to 15, with `.0` behind an integer,
and otherwise in scientific notation with at least two digits of exponent.
-/

namespace GuestLink.Binary64

/-- The number nearest to `digits · 10 ^ exponent`.  Exponents out of reach of any finite non-zero
number are cut off before a power is formed. -/
def ofDecimal (negative : Bool) (digits : List Char) (exponent : Int) : Binary64 :=
  let significant := digits.dropWhile (· == '0')
  let magnitude := exponent + significant.length
  if significant.isEmpty ∨ magnitude < -400 then .finite negative 0
  else if 400 < magnitude then .infinite negative
  else
    let n := Nat.ofDigitChars 10 significant 0
    if 0 ≤ exponent then ofRatio negative (n * Nat.pow 10 exponent.toNat) 1
    else ofRatio negative n (Nat.pow 10 (-exponent).toNat)

/-- A run of digits, the first not zero, with the power of ten of the first of them. -/
structure Decimal where
  /-- The digits as one number. -/
  digits : Nat
  /-- The power of ten of the first digit. -/
  exponent : Int

/-- The power of ten of the first digit of `ticks > 0`. -/
def leadingExponent (ticks : Nat) : Int :=
  if ticksPerUnit ≤ ticks then ((Nat.toDigits 10 (ticks / ticksPerUnit)).length : Int) - 1
  else
    match (List.range 400).find? fun j => ticksPerUnit ≤ ticks * Nat.pow 10 j with
    | some j => -j
    | none => 0

/-- The bounds of the interval that rounds to `ticks`, in quarter ticks.  The gap below a power of
two is half as wide as the one above. -/
def roundingInterval (ticks : Nat) : Nat × Nat :=
  let unit := Nat.pow 2 (excessBits ticks)
  let below := if unit = 1 ∨ ticks ≠ unit * Nat.pow 2 52 then 2 * unit else unit
  (4 * ticks - below, 4 * ticks + 2 * unit)

/-- Of the two multiples of `10 ^ scale` around `ticks`, the one that rounds to `ticks`; the nearer
if both do, the even one of two equally near. -/
def nearestOnGrid (ticks : Nat) (scale : Int) : Option Nat :=
  let up := Nat.pow 10 scale.toNat
  let down := Nat.pow 10 (-scale).toNat
  let unit := 4 * ticksPerUnit * up
  let value := 4 * ticks * down
  let (low, high) := roundingInterval ticks
  let inside (c : Nat) : Bool :=
    let x := c * unit
    if ticks / Nat.pow 2 (excessBits ticks) % 2 = 0 then low * down ≤ x && x ≤ high * down
    else low * down < x && x < high * down
  let c := value / unit
  let r := value % unit
  match inside c, inside (c + 1) with
  | false, false => none
  | true, false => some c
  | false, true => some (c + 1)
  | true, true => if 2 * r < unit ∨ (2 * r = unit ∧ c % 2 = 0) then some c else some (c + 1)

/-- The fewest digits that round to `ticks > 0`, with the nearest value of those. -/
def shortest (ticks : Nat) : Decimal :=
  let first := leadingExponent ticks
  match (List.range 17).findSome? fun (n : Nat) => (nearestOnGrid ticks (first - n)).map (n, ·) with
  | some (n, c) => if c = Nat.pow 10 (n + 1) then ⟨1, first + 1⟩ else ⟨c, first⟩
  | none => ⟨0, 0⟩

/-- `cs` without trailing zeros, but for the first character. -/
def dropTrailingZeros (cs : List Char) : List Char :=
  match cs.reverse.dropWhile (· == '0') with
  | [] => cs.take 1
  | rest => rest.reverse

/-- Digits behind zeros that fill them up to `width`. -/
def padZeros (width : Nat) (digits : List Char) : List Char :=
  List.replicate (width - digits.length) '0' ++ digits

/-- An exponent with its sign and at least two digits. -/
def exponentText (e : Int) : List Char :=
  'e' :: (if e < 0 then '-' else '+') :: padZeros 2 (Nat.toDigits 10 e.natAbs)

/-- A decimal, positionally or in scientific notation. -/
def Decimal.text (d : Decimal) : List Char :=
  let digits := dropTrailingZeros (Nat.toDigits 10 d.digits)
  if 0 ≤ d.exponent ∧ d.exponent < 16 then
    let whole := d.exponent.toNat + 1
    let fraction := digits.drop whole
    digits.take whole ++ List.replicate (whole - digits.length) '0' ++ '.' ::
      (if fraction.isEmpty then ['0'] else fraction)
  else if -4 ≤ d.exponent ∧ d.exponent < 0 then
    '0' :: '.' :: List.replicate ((-d.exponent).toNat - 1) '0' ++ digits
  else
    digits.take 1 ++ (if digits.length = 1 then [] else '.' :: digits.drop 1) ++
      exponentText d.exponent

/-- The text of a number. -/
def text : Binary64 → String
  | .nan => "nan"
  | .infinite negative => if negative then "-inf" else "inf"
  | .finite negative ticks =>
    let magnitude := if ticks = 0 then ['0', '.', '0'] else (shortest ticks).text
    String.ofList (if negative then '-' :: magnitude else magnitude)

end GuestLink.Binary64
