/-!
# Blank characters

`isSpace` is the Unicode property `White_Space`; `isBlank` adds the four information separators
U+001C to U+001F.  `trim` takes the blanks off both ends of a text.
-/

namespace GuestLink.Text

/-- The Unicode property `White_Space`. -/
def isSpace (c : Char) : Bool :=
  let n := c.toNat
  (0x09 ≤ n && n ≤ 0x0D) || n == 0x20 || n == 0x85 || n == 0xA0 || n == 0x1680 ||
    (0x2000 ≤ n && n ≤ 0x200A) || n == 0x2028 || n == 0x2029 || n == 0x202F || n == 0x205F ||
    n == 0x3000

/-- White space and the information separators. -/
def isBlank (c : Char) : Bool :=
  isSpace c || (0x1C ≤ c.toNat && c.toNat ≤ 0x1F)

/-- `xs` without the elements of class `p` at its ends. -/
def trimBy {α : Type} (p : α → Bool) (xs : List α) : List α :=
  ((xs.dropWhile p).reverse.dropWhile p).reverse

/-- `cs` without the blanks at its ends. -/
def trim (cs : List Char) : List Char := trimBy isBlank cs

/-- A string without the blanks at its ends. -/
def strip (s : String) : String := String.ofList (trim s.toList)

end GuestLink.Text
