import GuestLink.Text.Line

/-!
# Paths

A `Path` is a POSIX path in normal form: empty and `.` components are left out and no slash stands
at its end.  `..` stays, as it may not be resolved without following links.  Exactly two leading
slashes are kept, since POSIX leaves their meaning open; three or more are one.
-/

namespace GuestLink

/-- A path, by its text in normal form. -/
structure Path where
  text : String
  deriving DecidableEq, Repr

namespace Path

/-- The slashes that begin the normal form of `cs`. -/
def root (cs : List Char) : List Char :=
  match (cs.takeWhile (· == '/')).length with
  | 0 => []
  | 2 => ['/', '/']
  | _ => ['/']

/-- The components of `cs` that name something. -/
def components (cs : List Char) : List (List Char) :=
  (Text.splitAt '/' cs).filter fun part => part != [] && part != ['.']

/-- The normal form of `cs`. -/
def normalize (cs : List Char) : List Char :=
  match root cs ++ ['/'].intercalate (components cs) with
  | [] => ['.']
  | text => text

/-- The path that a text writes. -/
def ofText (s : String) : Path := ⟨String.ofList (normalize s.toList)⟩

end Path

end GuestLink
