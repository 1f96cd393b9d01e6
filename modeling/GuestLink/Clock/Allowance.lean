import GuestLink.Clock
import GuestLink.Datum
import GuestLink.Incident

/-!
# Allowances from outside

A caller may say how long something may take by any datum: a number or a truth value is a time in
seconds, null is no limit.
-/

namespace GuestLink

/-- The allowance that a datum gives; none where there is no limit. -/
def Datum.allowance? : Datum → Except Incident (Option Binary64)
  | .null => .ok none
  | .bool b => .ok (some (.ofInt (if b then 1 else 0)))
  | .float x => .ok (some x)
  | .int i =>
    if i ≤ 0 ∨ (Binary64.ofInt i).isFinite then .ok (some (.ofInt i))
    else .error ⟨.overflow, "int too large to convert to float"⟩
  | d => .error ⟨.type, s!"'<=' not supported between instances of '{d.typeName}' and 'int'"⟩

end GuestLink
