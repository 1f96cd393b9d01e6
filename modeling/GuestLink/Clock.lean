import GuestLink.Binary64

/-!
# Time

An `Instant` is a number of nanoseconds since the start of a session.  A `Deadline` is an instant
and an allowance in seconds; it is due as soon as less than a nanosecond of the allowance is left,
since the clock tells no shorter times.
-/

namespace GuestLink

/-- Nanoseconds since the start. -/
abbrev Instant := Nat

/-- How many nanoseconds a second has. -/
def nanosPerSecond : Nat := 1000000000

/-- How many nanoseconds a millisecond has. -/
def nanosPerMilli : Nat := 1000000

/-- The end of an allowance. -/
structure Deadline where
  since : Instant
  /-- In seconds. -/
  allowance : Binary64
  deriving DecidableEq, Repr

/-- Whether an allowance of seconds is used up after `elapsed` nanoseconds; one that is no number is
used up at once. -/
def Binary64.usedUp (allowance : Binary64) (elapsed : Nat) : Bool :=
  match allowance with
  | .nan => true
  | .infinite negative => negative
  | .finite negative ticks =>
    negative || ticks * nanosPerSecond < (elapsed + 1) * Binary64.ticksPerUnit

/-- Whether an allowance of seconds is none at all. -/
def Binary64.isNegligible (allowance : Binary64) : Bool :=
  match allowance with
  | .nan => false
  | .infinite negative => negative
  | .finite negative ticks => negative || ticks == 0

/-- Whether a deadline has come. -/
def Deadline.due (d : Deadline) (now : Instant) : Bool := d.allowance.usedUp (now - d.since)

end GuestLink
