/-!
# UTF-8

Bytes and texts.  `Utf8.encode` writes a text as UTF-8.  `Utf8.pieces` cuts a byte list into
characters and faulty stretches, each stretch as long as the bytes could still have begun a
character; `Utf8.decode` refuses the first faulty stretch and says where it lies, and
`Utf8.decodeLossy` puts U+FFFD in the place of each.
-/

namespace GuestLink

/-- Raw bytes, as the outside sends and takes them. -/
abbrev Bytes := List UInt8

namespace Utf8

/-- Why a stretch of bytes is no character. -/
inductive Flaw where
  /-- The first byte begins no character. -/
  | start
  /-- A byte that does not continue the character stands where one has to. -/
  | continuation
  /-- The bytes end inside a character. -/
  | truncated
  deriving DecidableEq, Repr

/-- The flaw in words. -/
def Flaw.message : Flaw → String
  | .start => "invalid start byte"
  | .continuation => "invalid continuation byte"
  | .truncated => "unexpected end of data"

/-- How many bytes follow the lead byte of a character; `none` for a byte that leads none. -/
def trailing (lead : UInt8) : Option Nat :=
  if lead < 0x80 then some 0
  else if lead < 0xC2 then none
  else if lead < 0xE0 then some 1
  else if lead < 0xF0 then some 2
  else if lead < 0xF5 then some 3
  else none

/-- The payload of a lead byte with `n` bytes to follow. -/
def leadBits (lead : UInt8) : Nat → Nat
  | 0 => lead.toNat
  | 1 => lead.toNat - 0xC0
  | 2 => lead.toNat - 0xE0
  | _ => lead.toNat - 0xF0

/-- The values that the byte behind a lead byte may take: the narrower ranges leave out overlong
forms, surrogates and what lies above U+10FFFF. -/
def secondRange (lead : UInt8) : UInt8 × UInt8 :=
  if lead = 0xE0 then (0xA0, 0xBF)
  else if lead = 0xED then (0x80, 0x9F)
  else if lead = 0xF0 then (0x90, 0xBF)
  else if lead = 0xF4 then (0x80, 0x8F)
  else (0x80, 0xBF)

/-- A stretch of the input: a character or a flaw, and the number of bytes it takes. -/
structure Piece where
  /-- What the bytes are. -/
  content : Except Flaw Char
  /-- How many they are. -/
  size : Nat

/-- Reads `n` continuation bytes, the first of them within `range`, into the code point `code`
behind `size` bytes already read.  Returns the piece and the bytes behind it. -/
def continueFrom (code size : Nat) (range : UInt8 × UInt8) : Nat → Bytes → Piece × Bytes
  | 0, rest => (⟨.ok (Char.ofNat code), size⟩, rest)
  | _ + 1, [] => (⟨.error .truncated, size⟩, [])
  | n + 1, b :: rest =>
    if range.1 ≤ b ∧ b ≤ range.2 then
      continueFrom (code * 64 + (b.toNat - 0x80)) (size + 1) (0x80, 0xBF) n rest
    else (⟨.error .continuation, size⟩, b :: rest)

theorem length_continueFrom_le (code size : Nat) (range : UInt8 × UInt8) (n : Nat) (bs : Bytes) :
    (continueFrom code size range n bs).2.length ≤ bs.length := by
  induction n generalizing code size range bs with
  | zero => simp [continueFrom]
  | succ n ih =>
    cases bs with
    | nil => simp [continueFrom]
    | cons b rest =>
      unfold continueFrom
      split
      · exact Nat.le_succ_of_le (ih ..)
      · exact Nat.le_refl _

/-- The first piece of `lead :: rest`, and the bytes behind it. -/
def firstPiece (lead : UInt8) (rest : Bytes) : Piece × Bytes :=
  match trailing lead with
  | none => (⟨.error .start, 1⟩, rest)
  | some n => continueFrom (leadBits lead n) 1 (secondRange lead) n rest

theorem length_firstPiece_le (lead : UInt8) (rest : Bytes) :
    (firstPiece lead rest).2.length ≤ rest.length := by
  unfold firstPiece
  split
  · exact Nat.le_refl _
  · exact length_continueFrom_le ..

/-- The pieces of `bs`, behind those already `found` (last first). -/
def piecesFrom (found : List Piece) (bs : Bytes) : List Piece :=
  match bs with
  | [] => found.reverse
  | lead :: rest =>
    have := length_firstPiece_le lead rest
    piecesFrom ((firstPiece lead rest).1 :: found) (firstPiece lead rest).2
termination_by bs.length
decreasing_by simp only [List.length_cons]; omega

/-- The input as characters and faulty stretches. -/
def pieces (bs : Bytes) : List Piece := piecesFrom [] bs

/-- The first faulty stretch of an input that is not UTF-8. -/
structure Fault where
  /-- How many bytes precede it. -/
  position : Nat
  /-- How many bytes it has. -/
  size : Nat
  /-- Its first byte. -/
  byte : UInt8
  /-- What is wrong with it. -/
  flaw : Flaw
  deriving DecidableEq, Repr

/-- The fault in words. -/
def Fault.message (f : Fault) : String :=
  let digit (n : Nat) : Char := if n < 10 then Char.ofNat (48 + n) else Char.ofNat (87 + n)
  let hex := String.ofList [digit (f.byte.toNat / 16), digit (f.byte.toNat % 16)]
  let place :=
    if f.size = 1 then s!"byte 0x{hex} in position {f.position}"
    else s!"bytes in position {f.position}-{f.position + f.size - 1}"
  "'utf-8' codec can't decode " ++ place ++ ": " ++ f.flaw.message

/-- The characters of `ps`, or the first flaw with the number of bytes before it and its size. -/
def characters : Nat → List Char → List Piece → Except (Nat × Nat × Flaw) (List Char)
  | _, found, [] => .ok found.reverse
  | position, found, p :: ps =>
    match p.content with
    | .ok c => characters (position + p.size) (c :: found) ps
    | .error flaw => .error (position, p.size, flaw)

/-- The text that `bs` writes, or where and why it is not UTF-8. -/
def decode (bs : Bytes) : Except Fault (List Char) :=
  match characters 0 [] (pieces bs) with
  | .ok cs => .ok cs
  | .error (position, size, flaw) => .error ⟨position, size, bs.getD position 0, flaw⟩

/-- The text that `bs` writes, with U+FFFD for each faulty stretch. -/
def decodeLossy (bs : Bytes) : List Char :=
  (pieces bs).map fun p =>
    match p.content with
    | .ok c => c
    | .error _ => '\uFFFD'

/-- The UTF-8 form of one character. -/
def encodeChar (c : Char) : Bytes :=
  let n := c.toNat
  if n < 0x80 then [n.toUInt8]
  else if n < 0x800 then [(0xC0 + n / 64).toUInt8, (0x80 + n % 64).toUInt8]
  else if n < 0x10000 then
    [(0xE0 + n / 4096).toUInt8, (0x80 + n / 64 % 64).toUInt8, (0x80 + n % 64).toUInt8]
  else
    [(0xF0 + n / 262144).toUInt8, (0x80 + n / 4096 % 64).toUInt8, (0x80 + n / 64 % 64).toUInt8,
      (0x80 + n % 64).toUInt8]

/-- The UTF-8 form of a text. -/
def encode (cs : List Char) : Bytes := cs.flatMap encodeChar

end Utf8

/-- The UTF-8 form of a string. -/
def utf8 (s : String) : Bytes := Utf8.encode s.toList

end GuestLink
