import GuestLink.Console.Framing
import GuestLink.Proofs.Text.Utf8
import Mathlib.Data.List.TakeWhile

/-!
# The lines of a console

What the reader makes of the bytes before a line feed is a line (`isLine_trimEnd`): no line feed
stands in it and no carriage return at its end, neither as bytes nor, once it is decoded, as
characters.
-/

namespace GuestLink.Framing

/-- Whether bytes hold no line feed and do not end in a carriage return. -/
structure IsLine (line : Bytes) : Prop where
  noFeed : 10 ∉ line
  noReturn : line.getLast? ≠ some 13

theorem isLine_trimEnd {line : Bytes} (h : 10 ∉ line) : IsLine (trimEnd line) := by
  unfold trimEnd
  constructor
  · rw [List.mem_reverse]
    exact fun hm => h (List.mem_reverse.1 ((List.dropWhile_sublist _).subset hm))
  · rw [List.getLast?_reverse]
    intro hl
    have hn := List.head?_dropWhile_not (fun b : UInt8 => b == 10 || b == 13) line.reverse
    rw [hl] at hn
    simp at hn

/-! ### Decoded lines -/

theorem IsLine.feed_not_mem {line : Bytes} (h : IsLine line) : '\n' ∉ Utf8.decodeLossy line :=
  Utf8.not_mem_decodeLossy (b := 10) (by decide) (by decide) h.noFeed

theorem IsLine.getLast?_ne_return {line : Bytes} (h : IsLine line) :
    (Utf8.decodeLossy line).getLast? ≠ some '\r' :=
  Utf8.getLast?_decodeLossy_ne (b := 13) (by decide) (by decide) h.noReturn

end GuestLink.Framing
