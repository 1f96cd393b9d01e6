import GuestLink.Argument.Error

/-!
# Arguments of the emulator

An `Argument` is an option with a value that was checked when it was built.  `Argument.ofFlag`,
`ofString`, `ofUint` and `ofItems` build one or say why not; `Argument.encode` writes arguments as
the words of a command line.  Both may also fail over an integer that is too long to be written.
-/

namespace GuestLink

/-- An option with its value. -/
inductive Argument where
  | flag (option : String) (known : optionKind option = some .none)
  | string (option : String) (value : SafeText) (known : optionKind option = some .string)
  | uint (option : String) (value : Nat) (known : optionKind option = some .uint)
  | keyValue (option : String) (items : List Item) (known : optionKind option = some .keyValue)
  deriving DecidableEq

/-- Checks that `option` may be used and takes values of kind `kind`. -/
def checkOption (option : String) (kind : ValueKind) :
    Except ArgumentError (PLift (optionKind option = some kind)) :=
  match optionKind option with
  | none => .error (.unknownOption option)
  | some want =>
    if e : want = kind then .ok ⟨e ▸ rfl⟩ else .error (.wrongKind option want kind)

/-- Checks that a text may stand as a key or a value. -/
def checkValue (value : String) : Except ArgumentError SafeText :=
  if h : IsSafe value then .ok ⟨value, h⟩
  else if value = "" then .error .emptyValue
  else .error (.unsafeValue value)

namespace Argument

/-- An option without a value. -/
def ofFlag (option : String) : Except ArgumentFault Argument := do
  let ⟨known⟩ ← (checkOption option .none).mapError (.refused ∘ .atOption)
  return .flag option known

/-- An option with a text. -/
def ofString (option value : String) : Except ArgumentFault Argument := do
  let ⟨known⟩ ← (checkOption option .string).mapError (.refused ∘ .atOption)
  let value ← (checkValue value).mapError (.refused ∘ .atValue option)
  return .string option value known

/-- An option with a number.  Only integers count as numbers, not truth values.  The refusal of a
value shows it. -/
def ofUint (limit : DigitLimit) (option : String) (value : Datum) :
    Except ArgumentFault Argument := do
  let ⟨known⟩ ← (checkOption option .uint).mapError (.refused ∘ .atOption)
  match value with
  | .int (.ofNat n) => return .uint option n known
  | _ =>
    let literal ← (value.literal limit).mapError .excess
    throw (.refused (.notUnsigned option literal))

/-- Checks one item of a key/value list. -/
def checkItem (option : String) (item : String × String) : Except ArgumentError Item := do
  if item.1 = "" then throw (.emptyItemKey option)
  if item.2 = "" then throw (.emptyItemValue option item.1)
  let key ← (checkValue item.1).mapError (.atItemKey option item.1)
  let value ← (checkValue item.2).mapError (.atItemValue option item.2)
  return ⟨key, value⟩

/-- An option with a list of items. -/
def ofItems (option : String) (items : List (String × String)) :
    Except ArgumentFault Argument := do
  let ⟨known⟩ ← (checkOption option .keyValue).mapError (.refused ∘ .atOption)
  let items ← (items.mapM (checkItem option)).mapError .refused
  return .keyValue option items known

/-- The fault where the argument is one that is fixed in the program. -/
def fix (wrap : ArgumentError → FixedError) : ArgumentFault → ArgumentFault
  | .refused e => .fixed (wrap e)
  | fault => fault

/-- An option without a value, for an option that is fixed in the program. -/
def fixedFlag (option : String) : Except ArgumentFault Argument :=
  (ofFlag option).mapError (fix (.flag option))

/-- An option with a list of items, for an option and items that are fixed in the program. -/
def fixedItems (option : String) (items : List (String × String)) :
    Except ArgumentFault Argument :=
  (ofItems option items).mapError (fix (.keyValue option))

/-- The option of an argument. -/
def option : Argument → String
  | .flag option _ | .string option _ _ | .uint option _ _ | .keyValue option _ _ => option

/-- The kind of value of an argument. -/
def kind : Argument → ValueKind
  | .flag .. => .none
  | .string .. => .string
  | .uint .. => .uint
  | .keyValue .. => .keyValue

/-- An item as it is written. -/
def itemText (item : Item) : String := item.key.text ++ "=" ++ item.value.text

/-- The value of an argument as it is written; empty for a flag. -/
def valueText (limit : DigitLimit) : Argument → Except ArgumentFault String
  | .flag .. => .ok ""
  | .string _ value _ => .ok value.text
  | .uint _ value _ => (limit.write value).mapError .excess
  | .keyValue _ items _ => .ok (",".intercalate (items.map itemText))

/-- An argument on the command line: the option behind a hyphen and, but for a flag, its value. -/
def words (limit : DigitLimit) (a : Argument) : Except ArgumentFault (List String) :=
  match a with
  | .flag option _ => .ok ["-" ++ option]
  | a => (a.valueText limit).map fun value => ["-" ++ a.option, value]

/-- Arguments on the command line. -/
def encode (limit : DigitLimit) (args : List Argument) : Except ArgumentFault (List String) :=
  (args.mapM (words limit)).map List.flatten

end Argument

end GuestLink
