import GuestLink.Text.Point
import GuestLink.Text.Printable

/-!
# Quoted literals

`Point.literal` writes a text between quotes on one line of printable characters.  The quotes are
single unless the text holds a single quote and no double one.  The quote in use, the backslash and
the line feed, carriage return and tab are escaped with a backslash, every other unprintable
character and the surrogates with the digits of their code point in hexadecimal.
-/

namespace GuestLink.Text

/-- The lower-case hexadecimal digit of `n < 16`. -/
def hexDigit (n : Nat) : Char := if n < 10 then Char.ofNat (48 + n) else Char.ofNat (87 + n)

/-- The last `width` hexadecimal digits of `n`. -/
def hexDigits (n : Nat) : Nat → List Char
  | 0 => []
  | width + 1 => hexDigits (n / 16) width ++ [hexDigit (n % 16)]

/-- A backslash and the hexadecimal digits of the code point of `c`. -/
def escapeCode (c : Char) : List Char :=
  if c.toNat < 0x100 then '\\' :: 'x' :: hexDigits c.toNat 2
  else if c.toNat < 0x10000 then '\\' :: 'u' :: hexDigits c.toNat 4
  else '\\' :: 'U' :: hexDigits c.toNat 8

/-- How `c` stands in a literal enclosed in `quote`. -/
def escapeChar (quote c : Char) : List Char :=
  if c = quote ∨ c = '\\' then ['\\', c]
  else if c = '\n' then ['\\', 'n']
  else if c = '\r' then ['\\', 'r']
  else if c = '\t' then ['\\', 't']
  else if isPrintable c then [c]
  else escapeCode c

namespace Point

/-- How a point stands in a literal enclosed in `quote`. -/
def escape (quote : Char) : Point → List Char
  | .char c => escapeChar quote c
  | .surrogate place => '\\' :: 'u' :: hexDigits (0xD800 + place) 4

/-- The quote that encloses the literal of a text. -/
def quoteFor (ps : List Point) : Char :=
  if .char '\'' ∈ ps ∧ .char '"' ∉ ps then '"' else '\''

/-- The text between quotes, escaped. -/
def literal (ps : List Point) : List Char :=
  quoteFor ps :: ps.flatMap (escape (quoteFor ps)) ++ [quoteFor ps]

end Point

/-- A string between quotes, escaped. -/
def quoted (s : String) : String := String.ofList (Point.literal (Point.ofString s))

/-- `cs` with every character outside ASCII escaped. -/
def asciiOnly (cs : List Char) : List Char :=
  cs.flatMap fun c => if c.toNat < 0x80 then [c] else escapeCode c

end GuestLink.Text
