/-!
# The parts of a message pattern

A pattern is text with directives in it.  A directive begins with a percent sign and may name the
argument that it writes, in parentheses; then come flags, a width, a precision behind a point, a
size letter without meaning, and the letter of a conversion.  A percent sign written twice stands
for one.

`pieces` takes a pattern apart.  What is wrong with a directive is part of it, since the arguments
may have worse faults, which come first.
-/

namespace GuestLink.Log.Pattern

/-- A width or a precision. -/
inductive Size where
  /-- It is left open. -/
  | unset
  | given (n : Nat)
  /-- The next argument tells it. -/
  | argument
  deriving DecidableEq, Repr

/-- The name of an argument in a directive. -/
inductive Key where
  | none
  | named (name : String)
  /-- Its parenthesis is not closed. -/
  | unclosed
  deriving DecidableEq, Repr

/-- A directive. -/
structure Directive where
  key : Key
  flags : List Char
  width : Size
  precision : Size
  /-- The letter of the conversion; `none` where the pattern ends before it. -/
  conversion : Option Char
  /-- The place of that letter in the pattern. -/
  index : Nat
  deriving DecidableEq, Repr

/-- A piece of a pattern. -/
inductive Piece where
  | text (cs : List Char)
  | directive (d : Directive)
  deriving DecidableEq, Repr

/-- Splits a text behind the parenthesis that closes the `depth`-th one opened. -/
def splitParen (depth : Nat) : List Char → Option (List Char × List Char)
  | [] => none
  | c :: rest =>
    if c = ')' ∧ depth = 0 then some ([], rest)
    else
      let depth := if c = '(' then depth + 1 else if c = ')' then depth - 1 else depth
      (splitParen depth rest).map fun (name, rest) => (c :: name, rest)

/-- A key at the head of a text, and what follows it. -/
def splitKey : List Char → Key × List Char
  | '(' :: rest =>
    match splitParen 0 rest with
    | some (name, rest) => (.named (String.ofList name), rest)
    | none => (.unclosed, [])
  | cs => (.none, cs)

/-- The characters of flags. -/
def isFlag (c : Char) : Bool := c == '-' || c == '+' || c == ' ' || c == '#' || c == '0'

/-- A width at the head of a text, and what follows it. -/
def splitWidth : List Char → Size × List Char
  | '*' :: rest => (.argument, rest)
  | cs =>
    match cs.takeWhile Char.isDigit with
    | [] => (.unset, cs)
    | digits => (.given (Nat.ofDigitChars 10 digits 0), cs.dropWhile Char.isDigit)

/-- A point and a precision at the head of a text, and what follows them.  A point alone stands for
the precision zero. -/
def splitPrecision : List Char → Size × List Char
  | '.' :: '*' :: rest => (.argument, rest)
  | '.' :: rest =>
    (.given (Nat.ofDigitChars 10 (rest.takeWhile Char.isDigit) 0), rest.dropWhile Char.isDigit)
  | cs => (.unset, cs)

/-- What follows a size letter, or all of a text. -/
def dropSizeLetter : List Char → List Char
  | 'h' :: rest | 'l' :: rest | 'L' :: rest => rest
  | cs => cs

/-- A directive behind its percent sign, in a pattern of `length` characters, and what follows. -/
def splitDirective (length : Nat) (cs : List Char) : Directive × List Char :=
  let (key, cs) := splitKey cs
  let flags := cs.takeWhile isFlag
  let (width, cs) := splitWidth (cs.dropWhile isFlag)
  let (precision, cs) := splitPrecision cs
  let cs := dropSizeLetter cs
  ({ key, flags, width, precision, conversion := cs.head?, index := length - cs.length }, cs.tail)

theorem splitParen_suffix {depth : Nat} {cs name rest : List Char}
    (h : splitParen depth cs = some (name, rest)) : rest <:+ cs := by
  induction cs generalizing depth name with
  | nil => simp [splitParen] at h
  | cons c cs ih =>
    unfold splitParen at h
    split at h
    · simp only [Option.some.injEq, Prod.mk.injEq] at h
      exact h.2 ▸ List.suffix_cons c cs
    · obtain ⟨⟨n, r⟩, hr, he⟩ := Option.map_eq_some_iff.1 h
      obtain ⟨-, rfl⟩ := Prod.mk.injEq .. ▸ he
      exact (ih hr).trans (List.suffix_cons c cs)

theorem splitKey_suffix (cs : List Char) : (splitKey cs).2 <:+ cs := by
  unfold splitKey
  split
  · rename_i rest
    split
    · rename_i h
      exact (splitParen_suffix h).trans (List.suffix_cons _ _)
    · exact List.nil_suffix
  · exact List.suffix_rfl

theorem splitWidth_suffix (cs : List Char) : (splitWidth cs).2 <:+ cs := by
  unfold splitWidth
  split
  · exact List.suffix_cons _ _
  · split
    · exact List.suffix_rfl
    · exact List.dropWhile_suffix _

theorem splitPrecision_suffix (cs : List Char) : (splitPrecision cs).2 <:+ cs := by
  unfold splitPrecision
  split
  · exact (List.suffix_cons _ _).trans (List.suffix_cons _ _)
  · exact (List.dropWhile_suffix _).trans (List.suffix_cons _ _)
  · exact List.suffix_rfl

theorem dropSizeLetter_suffix (cs : List Char) : dropSizeLetter cs <:+ cs := by
  unfold dropSizeLetter
  split
  · exact List.suffix_cons _ _
  · exact List.suffix_cons _ _
  · exact List.suffix_cons _ _
  · exact List.suffix_rfl

theorem splitDirective_suffix (length : Nat) (cs : List Char) :
    (splitDirective length cs).2 <:+ cs :=
  (List.tail_suffix _).trans <| (dropSizeLetter_suffix _).trans <|
    (splitPrecision_suffix _).trans <| (splitWidth_suffix _).trans <|
      (List.dropWhile_suffix _).trans <| splitKey_suffix cs

/-- The pieces of the rest `cs` of a pattern of `length` characters, behind those already `found`,
last first. -/
def piecesFrom (length : Nat) (found : List Piece) (cs : List Char) : List Piece :=
  match cs with
  | [] => found.reverse
  | '%' :: '%' :: rest => piecesFrom length (.text ['%'] :: found) rest
  | '%' :: rest =>
    have := (splitDirective_suffix length rest).length_le
    piecesFrom length (.directive (splitDirective length rest).1 :: found)
      (splitDirective length rest).2
  | c :: rest =>
    have := (List.dropWhile_suffix (l := rest) (· != '%')).length_le
    piecesFrom length (.text (c :: rest.takeWhile (· != '%')) :: found)
      (rest.dropWhile (· != '%'))
termination_by cs.length
decreasing_by all_goals simp only [List.length_cons]; omega

/-- The pieces of a pattern. -/
def pieces (pattern : List Char) : List Piece := piecesFrom pattern.length [] pattern

end GuestLink.Log.Pattern
