import GuestLink.Text.Blank

/-!
# Code points

The texts of the program may hold surrogates, which are no characters but have a code point each.  A
`Point` is one or the other.  What is done to texts is said of lists of points; a string is the list
of its characters (`Point.ofString`).
-/

namespace GuestLink.Text

/-- A code point: a character, or a surrogate by its place among them. -/
inductive Point where
  | char (c : Char)
  | surrogate (place : Fin 0x800)
  deriving DecidableEq

namespace Point

/-- White space and the information separators; no surrogate is blank. -/
def isBlank : Point → Bool
  | .char c => Text.isBlank c
  | .surrogate _ => false

/-- `ps` without the blanks at its ends. -/
def trim (ps : List Point) : List Point := trimBy isBlank ps

/-- The points of a string. -/
def ofString (s : String) : List Point := s.toList.map .char

end Point

end GuestLink.Text
