/-!
# Options of the emulator

`knownOptions` lists the options that may be used, with the kind of value that each takes.  A
`SafeText` consists of characters that separate nothing, so that it can be written without escapes.
-/

namespace GuestLink

/-- The kind of value that an option takes. -/
inductive ValueKind where
  /-- No value: the option is a flag. -/
  | none
  /-- A list of `key=value` items, separated by commas. -/
  | keyValue
  /-- A single text. -/
  | string
  /-- A natural number. -/
  | uint
  deriving DecidableEq, Repr

/-- The name of a kind in messages. -/
def ValueKind.name : ValueKind → String
  | .none => "none"
  | .keyValue => "key_value"
  | .string => "string"
  | .uint => "uint"

/-- The options that may be used, with the kinds of their values. -/
def knownOptions : List (String × ValueKind) :=
  [("accel", .keyValue), ("bios", .string), ("boot", .keyValue), ("chardev", .keyValue),
    ("cpu", .string), ("device", .keyValue), ("display", .string), ("drive", .keyValue),
    ("m", .uint), ("machine", .keyValue), ("monitor", .string), ("netdev", .keyValue),
    ("no-reboot", .none), ("nodefaults", .none), ("nographic", .none), ("serial", .string),
    ("smp", .uint)]

/-- The kind of value that an option takes, if the option may be used. -/
def optionKind (option : String) : Option ValueKind := knownOptions.lookup option

/-- The characters of keys and values: none of them separates items, options or shell words. -/
def isSafeChar (c : Char) : Bool :=
  c.isAlphanum || c == '_' || c == '.' || c == ':' || c == '/' || c == '@' || c == '+' || c == '-'

/-- Whether a text may stand as a key or a value. -/
def IsSafe (s : String) : Prop := s ≠ "" ∧ s.toList.all isSafeChar

instance (s : String) : Decidable (IsSafe s) := by unfold IsSafe; infer_instance

/-- A text that may stand as a key or a value. -/
structure SafeText where
  text : String
  isSafe : IsSafe text
  deriving DecidableEq

/-- One item of a key/value list. -/
structure Item where
  key : SafeText
  value : SafeText
  deriving DecidableEq

end GuestLink
