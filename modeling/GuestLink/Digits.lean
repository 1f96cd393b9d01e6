import GuestLink.Incident

/-!
# Limits of written integers

How many digits an integer may be written with is a setting of the process that the library runs in.
There is a limit unless it was lifted, and an integer beyond it is not written at all.
-/

namespace GuestLink

/-- The integers that are written. -/
inductive DigitLimit where
  /-- All. -/
  | none
  /-- Those of so many digits at most. -/
  | most (digits : Nat)
  deriving DecidableEq, Repr

/-- The integer has more digits than it may be written with. -/
structure DigitLimit.Excess where
  limit : Nat
  deriving DecidableEq, Repr

namespace DigitLimit

/-- The limit where no other is set. -/
def usual : DigitLimit := .most 4300

/-- Whether an integer is written.  Its sign does not count. -/
def Admits (limit : DigitLimit) (i : Int) : Prop :=
  match limit with
  | .none => True
  | .most digits => (Nat.toDigits 10 i.natAbs).length ≤ digits

instance (limit : DigitLimit) (i : Int) : Decidable (limit.Admits i) := by
  unfold Admits
  cases limit <;> infer_instance

/-- An integer in decimal. -/
def write (limit : DigitLimit) (i : Int) : Except Excess String :=
  match limit with
  | .none => .ok (toString i)
  | .most digits => if (DigitLimit.most digits).Admits i then .ok (toString i) else .error ⟨digits⟩

/-- What writing such an integer fails with. -/
def Excess.incident (e : Excess) : Incident :=
  ⟨.value, s!"Exceeds the limit ({e.limit} digits) for integer string conversion; " ++
    "use sys.set_int_max_str_digits() to increase the limit"⟩

end DigitLimit

end GuestLink
