import GuestLink.Argument.Option
import GuestLink.Failure

/-!
# Why an argument is refused

An error is made where a check fails and wrapped by whoever asked for the check, so that the
outermost one names the argument and its cause the check.
-/

namespace GuestLink

/-- Why an argument cannot be built. -/
inductive ArgumentError where
  /-- The option is not one of those that may be used. -/
  | unknownOption (option : String)
  /-- The option takes another kind of value. -/
  | wrongKind (option : String) (want got : ValueKind)
  /-- A text is empty. -/
  | emptyValue
  /-- A text holds a character that is not safe. -/
  | unsafeValue (value : String)
  /-- The option is at fault. -/
  | atOption (fault : ArgumentError)
  /-- The value of a string option is at fault. -/
  | atValue (option : String) (fault : ArgumentError)
  /-- An item has an empty key. -/
  | emptyItemKey (option : String)
  /-- An item has an empty value. -/
  | emptyItemValue (option key : String)
  /-- The key of an item is at fault. -/
  | atItemKey (option key : String) (fault : ArgumentError)
  /-- The value of an item is at fault. -/
  | atItemValue (option value : String) (fault : ArgumentError)
  /-- The value of a numeric option is no natural number. -/
  | notUnsigned (option literal : String)

/-- The characters of `s` that are not safe, each once, in ascending order. -/
def unsafeChars (s : String) : List Char :=
  ((s.toList.filter (!isSafeChar ·)).eraseDups).mergeSort (·.toNat ≤ ·.toNat)

namespace ArgumentError

/-- The error in words. -/
def message : ArgumentError → String
  | .unknownOption option => s!"unknown safe arg '{option}'"
  | .wrongKind option want got =>
    s!"bad value type for arg '{option}': want " ++ want.name ++ ", have " ++ got.name
  | .emptyValue => "empty value is not allowed"
  | .unsafeValue value =>
    s!"value '{value}' contains disallowed characters: " ++
      Text.quoted (String.ofList (unsafeChars value))
  | .atOption fault => "validate arg key: " ++ fault.message
  | .atValue option fault => s!"validate value for '{option}': " ++ fault.message
  | .emptyItemKey _ => "empty key not allowed"
  | .emptyItemValue _ key => s!"empty value for key '{key}' is not allowed"
  | .atItemKey _ key fault => s!"validate key '{key}': " ++ fault.message
  | .atItemValue _ value fault => s!"validate map value '{value}': " ++ fault.message
  | .notUnsigned option literal =>
    s!"value for '{option}' must be a non-negative integer, got " ++ literal

/-- The data that go with the error. -/
def context : ArgumentError → Fields
  | .unknownOption option => [("key", .text option)]
  | .wrongKind option want got =>
    [("key", .text option), ("want", .text want.name), ("have", .text got.name)]
  | .emptyValue => []
  | .unsafeValue value => [("value", .text value)]
  | .atOption fault => fault.context
  | .atValue option _ | .emptyItemKey option | .emptyItemValue option _ | .atItemKey option _ _
  | .atItemValue option _ _ | .notUnsigned option _ => [("arg", .text option)]

/-- The error that this one was raised for. -/
def cause : ArgumentError → Option ArgumentError
  | .atOption fault | .atValue _ fault | .atItemKey _ _ fault | .atItemValue _ _ fault => some fault
  | _ => none

/-- The error as a report. -/
def report (e : ArgumentError) : Report :=
  .make .argument (.text e.message) [] e.context (e.cause.map fun _ => .report .argument)

end ArgumentError

/-- A flag or key/value argument that is fixed in the program could not be built. -/
inductive FixedError where
  | flag (option : String) (fault : ArgumentError)
  | keyValue (option : String) (fault : ArgumentError)

/-- The error in words. -/
def FixedError.message : FixedError → String
  | .flag option fault => s!"invalid built-in flag arg '{option}': " ++ fault.message
  | .keyValue option fault => s!"invalid built-in key/value arg '{option}': " ++ fault.message

/-- Why arguments cannot be built or written. -/
inductive ArgumentFault where
  /-- An argument is refused. -/
  | refused (e : ArgumentError)
  /-- An argument is refused that is fixed in the program. -/
  | fixed (e : FixedError)
  /-- An integer is not written. -/
  | excess (e : DigitLimit.Excess)

/-- What building or writing the arguments fails with. -/
def ArgumentFault.failure : ArgumentFault → Failure
  | .refused e => .report e.report
  | .fixed e => .incident ⟨.runtime, e.message⟩
  | .excess e => .incident e.incident

end GuestLink
