import GuestLink.Datum

/-!
# Faults of message patterns
-/

namespace GuestLink.Log.Pattern

/-- Why a pattern does not fit its arguments. -/
inductive Fault where
  | tooFewArguments
  | tooManyArguments
  /-- An argument is named, but the arguments have no names. -/
  | noNames
  /-- The parenthesis around a name is not closed. -/
  | unclosedKey
  /-- There is no argument of that name. -/
  | unknownKey (name : String)
  /-- The argument that is to tell a width or a precision is no integer. -/
  | sizeNotInteger
  | widthTooBig
  | precisionTooBig
  /-- The argument that is to tell a width is out of range. -/
  | widthOutOfRange
  /-- The argument that is to tell a precision is out of range. -/
  | precisionOutOfRange
  /-- The precision is too great for an integer. -/
  | precisionTooLarge
  /-- No text can be as long as a field of that width. -/
  | fieldTooWide
  /-- The pattern ends within a directive. -/
  | incomplete
  /-- There is no such conversion. -/
  | unknownConversion (c : Char) (index : Nat)
  /-- The conversion stands for something other than a number. -/
  | notReal (c : Char) (value : Datum)
  /-- The conversion stands for something other than an integer. -/
  | notInteger (c : Char) (value : Datum)
  /-- A number that is to be an integer is none even after its fraction is cut off. -/
  | notFinite (value : Binary64)
  /-- A conversion to a floating-point number stands for something other than a number. -/
  | notNumber (value : Datum)
  /-- An integer is too large for a floating-point number. -/
  | integerTooLarge
  /-- A conversion to a character stands for something other than one or the code of one. -/
  | notCharacter
  /-- There is no character of that code. -/
  | characterOutOfRange
  /-- An integer is not written. -/
  | excess (e : DigitLimit.Excess)

/-- A character as faults show it. -/
def shownChar (c : Char) : Char := if 31 ≤ c.toNat ∧ c.toNat ≤ 126 then c else '?'

/-- The fault in words. -/
def Fault.message : Fault → String
  | .tooFewArguments => "not enough arguments for format string"
  | .tooManyArguments => "not all arguments converted during string formatting"
  | .noNames => "format requires a mapping"
  | .unclosedKey => "incomplete format key"
  | .unknownKey name => Text.quoted name
  | .sizeNotInteger => "* wants int"
  | .widthTooBig => "width too big"
  | .precisionTooBig => "precision too big"
  | .widthOutOfRange => "Python int too large to convert to C ssize_t"
  | .precisionOutOfRange => "Python int too large to convert to C int"
  | .precisionTooLarge => "precision too large"
  | .fieldTooWide => ""
  | .incomplete => "incomplete format"
  | .unknownConversion c index =>
    s!"unsupported format character '{shownChar c}' (0x" ++
      String.ofList (Nat.toDigits 16 c.toNat) ++ s!") at index {index}"
  | .notReal c value => s!"%{c} format: a real number is required, not {value.typeName}"
  | .notInteger c value => s!"%{c} format: an integer is required, not {value.typeName}"
  | .notFinite .nan => "cannot convert float NaN to integer"
  | .notFinite _ => "cannot convert float infinity to integer"
  | .notNumber value => s!"must be real number, not {value.typeName}"
  | .integerTooLarge => "int too large to convert to float"
  | .notCharacter => "%c requires int or char"
  | .characterOutOfRange => "%c arg not in range(0x110000)"
  | .excess e => e.incident.text

end GuestLink.Log.Pattern
