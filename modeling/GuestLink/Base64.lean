import GuestLink.Text.Utf8

/-!
# Base64

`Base64.encode` writes bytes in the standard alphabet, padded to groups of four.  `Base64.decode`
reads them back strictly: no character outside the alphabet, no data behind padding, nothing behind
complete padding.  Bits that the last character has to spare are ignored.
-/

namespace GuestLink.Base64

/-- The character of a six-bit value. -/
def digit (n : Nat) : Char :=
  if n < 26 then Char.ofNat (65 + n)
  else if n < 52 then Char.ofNat (71 + n)
  else if n < 62 then Char.ofNat (n - 4)
  else if n = 62 then '+'
  else '/'

/-- The six-bit value of a character of the alphabet. -/
def value? (c : Char) : Option Nat :=
  let n := c.toNat
  if 65 ≤ n ∧ n ≤ 90 then some (n - 65)
  else if 97 ≤ n ∧ n ≤ 122 then some (n - 71)
  else if 48 ≤ n ∧ n ≤ 57 then some (n + 4)
  else if c = '+' then some 62
  else if c = '/' then some 63
  else none

/-- The characters of `bs`. -/
def encode : Bytes → List Char
  | [] => []
  | [a] =>
    let n := a.toNat * 65536
    [digit (n / 262144), digit (n / 4096 % 64), '=', '=']
  | [a, b] =>
    let n := a.toNat * 65536 + b.toNat * 256
    [digit (n / 262144), digit (n / 4096 % 64), digit (n / 64 % 64), '=']
  | a :: b :: c :: rest =>
    let n := a.toNat * 65536 + b.toNat * 256 + c.toNat
    digit (n / 262144) :: digit (n / 4096 % 64) :: digit (n / 64 % 64) :: digit (n % 64) ::
      encode rest

/-- Why a text is not Base64. -/
inductive Flaw where
  /-- It holds a character outside ASCII. -/
  | notAscii
  /-- It begins with padding. -/
  | leadingPadding
  /-- Something follows complete padding. -/
  | excessData
  /-- It holds a character outside the alphabet. -/
  | foreignCharacter
  /-- Data follows padding. -/
  | brokenPadding
  /-- Its `count` data characters leave one over, which is less than a byte. -/
  | loneCharacter (count : Nat)
  /-- Padding is missing. -/
  | missingPadding
  deriving DecidableEq, Repr

/-- The flaw in words. -/
def Flaw.message : Flaw → String
  | .notAscii => "string argument should contain only ASCII characters"
  | .leadingPadding => "Leading padding not allowed"
  | .excessData => "Excess data after padding"
  | .foreignCharacter => "Only base64 data is allowed"
  | .brokenPadding => "Discontinuous padding not allowed"
  | .loneCharacter count =>
    s!"Invalid base64-encoded string: number of data characters ({count})" ++
      " cannot be 1 more than a multiple of 4"
  | .missingPadding => "Incorrect padding"

/-- The six-bit values of the data characters of `cs`, behind the `count` already `found` (last
first) and, once padding has `started`, the `pads` padding characters that count. -/
def sextetsFrom (found : List Nat) (count pads : Nat) (started : Bool) :
    List Char → Except Flaw (List Nat)
  | [] =>
    if count % 4 = 0 then .ok found.reverse
    else if count % 4 = 1 then .error (.loneCharacter count)
    else .error .missingPadding
  | c :: rest =>
    if c = '=' then
      if count % 4 < 2 then sextetsFrom found count pads true rest
      else if count % 4 + pads + 1 < 4 then sextetsFrom found count (pads + 1) true rest
      else if rest.isEmpty then .ok found.reverse
      else .error .excessData
    else
      match value? c with
      | none => .error .foreignCharacter
      | some v =>
        if started then .error .brokenPadding else sextetsFrom (v :: found) (count + 1) 0 false rest

/-- The bytes that six-bit values make; what is left of the last byte is dropped. -/
def join : List Nat → Bytes
  | a :: b :: c :: d :: rest =>
    let n := a * 262144 + b * 4096 + c * 64 + d
    (n / 65536).toUInt8 :: (n / 256 % 256).toUInt8 :: (n % 256).toUInt8 :: join rest
  | [a, b, c] =>
    let n := a * 262144 + b * 4096 + c * 64
    [(n / 65536).toUInt8, (n / 256 % 256).toUInt8]
  | [a, b] => [((a * 262144 + b * 4096) / 65536).toUInt8]
  | _ => []

/-- The bytes that `cs` encodes. -/
def decode (cs : List Char) : Except Flaw Bytes :=
  if cs.any (0x80 ≤ ·.toNat) then .error .notAscii
  else if cs.head? = some '=' then .error .leadingPadding
  else (sextetsFrom [] 0 0 false cs).map join

end GuestLink.Base64
