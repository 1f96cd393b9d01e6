import GuestLink.Binary64.Decimal

/-!
# Numbers in a given number of digits

A number can be written with so many digits behind the point, in scientific notation, or in
whichever of the two is fit for its size.  The digits are those of the nearest decimal, of two
equally near ones the even one.  The texts here are those of magnitudes in ticks, without sign.
-/

namespace GuestLink.Binary64

/-- The nearest decimal of `count > 0` digits.  The digits of zero are zeros. -/
def nearest (count : Nat) (ticks : Nat) : Decimal :=
  if ticks = 0 then ⟨0, 0⟩
  else
    let first := leadingExponent ticks
    let scale := first + 1 - count
    let n := roundDiv (ticks * Nat.pow 10 (-scale).toNat) (ticksPerUnit * Nat.pow 10 scale.toNat)
    if n = Nat.pow 10 count then ⟨Nat.pow 10 (count - 1), first + 1⟩ else ⟨n, first⟩

/-- Digits with a point between a whole part and a fraction.  Where there is no fraction the point
is only written if it is asked for. -/
def pointed (keepPoint : Bool) (whole fraction : List Char) : List Char :=
  if fraction.isEmpty && !keepPoint then whole else whole ++ '.' :: fraction

/-- A magnitude with `places` digits behind the point. -/
def fixedText (keepPoint : Bool) (places ticks : Nat) : List Char :=
  let n := roundDiv (ticks * Nat.pow 10 places) ticksPerUnit
  let digits := padZeros (places + 1) (Nat.toDigits 10 n)
  let whole := digits.length - places
  pointed keepPoint (digits.take whole) (digits.drop whole)

/-- A magnitude in scientific notation with `places` digits behind the point. -/
def scientificText (keepPoint : Bool) (places ticks : Nat) : List Char :=
  let d := nearest (places + 1) ticks
  let digits := padZeros (places + 1) (Nat.toDigits 10 d.digits)
  pointed keepPoint (digits.take 1) (digits.drop 1) ++ exponentText d.exponent

/-- A magnitude with `count` significant digits: positionally from `0.0001` on as long as all digits
before the point are significant, otherwise in scientific notation.  Zeros at the end of a fraction
are only written if they are asked for. -/
def generalText (keepZeros : Bool) (count ticks : Nat) : List Char :=
  let count := max count 1
  let d := nearest count ticks
  let all := padZeros count (Nat.toDigits 10 d.digits)
  let digits := if keepZeros then all else dropTrailingZeros all
  if 0 ≤ d.exponent ∧ d.exponent < count then
    let whole := d.exponent.toNat + 1
    pointed keepZeros (digits.take whole ++ List.replicate (whole - digits.length) '0')
      (digits.drop whole)
  else if -4 ≤ d.exponent ∧ d.exponent < 0 then
    pointed keepZeros ['0'] (List.replicate ((-d.exponent).toNat - 1) '0' ++ digits)
  else pointed keepZeros (digits.take 1) (digits.drop 1) ++ exponentText d.exponent

end GuestLink.Binary64
