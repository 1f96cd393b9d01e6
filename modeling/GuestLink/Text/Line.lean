/-!
# Lines

Two ways to cut a text into lines.  `splitAt sep` cuts at every `sep` and keeps what follows the
last one, so that joining the parts with `sep` gives the text back.  `splitLines` cuts at every
line break that a terminal or an editor may honour, takes CR LF as one break and has no line after
a final break.
-/

namespace GuestLink.Text

/-- What lies between the occurrences of `sep`; a list without `sep` is its own single part. -/
def splitAt {α : Type} [BEq α] (sep : α) (xs : List α) : List (List α) :=
  match h : xs.dropWhile (· != sep) with
  | [] => [xs]
  | _ :: rest =>
    have : rest.length < xs.length := by
      have := (List.dropWhile_suffix (l := xs) (· != sep)).length_le
      rw [h, List.length_cons] at this
      omega
    xs.takeWhile (· != sep) :: splitAt sep rest
termination_by xs.length

/-- The characters at which a line ends. -/
def isLineBreak (c : Char) : Bool :=
  let n := c.toNat
  (0x0A ≤ n && n ≤ 0x0D) || (0x1C ≤ n && n ≤ 0x1E) || n == 0x85 || n == 0x2028 || n == 0x2029

/-- What follows the line break at the head of `cs`. -/
def afterBreak : List Char → List Char
  | '\r' :: '\n' :: rest => rest
  | _ :: rest => rest
  | [] => []

theorem length_afterBreak_le (cs : List Char) : (afterBreak cs).length ≤ cs.length - 1 := by
  unfold afterBreak
  split
  · simp only [List.length_cons]
    omega
  · exact Nat.le_refl _
  · exact Nat.le_refl _

/-- The lines of a text, without their breaks. -/
def splitLines (cs : List Char) : List (List Char) :=
  if h : cs = [] then []
  else
    have : (afterBreak (cs.dropWhile (!isLineBreak ·))).length < cs.length := by
      have h₁ := length_afterBreak_le (cs.dropWhile (!isLineBreak ·))
      have h₂ := (List.dropWhile_suffix (l := cs) (!isLineBreak ·)).length_le
      have h₃ := List.length_pos_iff.2 h
      omega
    cs.takeWhile (!isLineBreak ·) :: splitLines (afterBreak (cs.dropWhile (!isLineBreak ·)))
termination_by cs.length

end GuestLink.Text
