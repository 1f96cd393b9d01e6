/-!
# Binary floating-point numbers

A double-precision number is kept exactly: a finite one is a sign and a count of *ticks*, where one
tick is 2 ^ -1074, the least positive value.  `ofRatio` rounds a quotient of naturals to the
nearest number, ties to the even neighbour, and overflows to infinity.
-/

namespace GuestLink

/-- A double-precision number. -/
inductive Binary64 where
  | nan
  | infinite (negative : Bool)
  | finite (negative : Bool) (ticks : Nat)
  deriving DecidableEq, Repr, Inhabited

namespace Binary64

/-- How many ticks make one. -/
def ticksPerUnit : Nat := Nat.pow 2 1074

/-- The least number of ticks that is too large for a finite number. -/
def tickBound : Nat := Nat.pow 2 2098

/-- The natural number nearest to `num / den`, the even one of two. -/
def roundDiv (num den : Nat) : Nat :=
  let q := num / den
  let r := num % den
  if 2 * r < den ∨ (2 * r = den ∧ q % 2 = 0) then q else q + 1

/-- How many binary digits of `n` lie beyond the 53 that a number has. -/
def excessBits (n : Nat) : Nat := (if n = 0 then 0 else n.log2 + 1) - 53

/-- The number nearest to `num / den`. -/
def ofRatio (negative : Bool) (num den : Nat) : Binary64 :=
  let unit := Nat.pow 2 (excessBits (num * ticksPerUnit / den))
  let ticks := roundDiv (num * ticksPerUnit) (den * unit) * unit
  if ticks < tickBound then .finite negative ticks else .infinite negative

/-- The number nearest to the integer `i`. -/
def ofInt (i : Int) : Binary64 := ofRatio (i < 0) i.natAbs 1

/-- The integer that a finite number is, if it is one. -/
def toInt? : Binary64 → Option Int
  | .finite negative ticks =>
    if ticks % ticksPerUnit = 0 then
      let n : Int := (ticks / ticksPerUnit : Nat)
      some (if negative then -n else n)
    else none
  | _ => none

/-- Whether a number is greater than zero. -/
def isPositive : Binary64 → Bool
  | .finite negative ticks => !negative && 0 < ticks
  | .infinite negative => !negative
  | .nan => false

/-- Whether a number is zero, of either sign. -/
def isZero : Binary64 → Bool
  | .finite _ ticks => ticks == 0
  | _ => false

/-- Whether a number is finite. -/
def isFinite : Binary64 → Bool
  | .finite .. => true
  | _ => false

end Binary64

end GuestLink
