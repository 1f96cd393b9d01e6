import GuestLink.Text.Blank
import Mathlib.Data.List.TakeWhile

/-!
# Trimming

What `Text.trim` leaves of a text that is written with blanks around it.
-/

namespace GuestLink.Text

variable {front mid back : List Char}

theorem dropWhile_front {p : Char → Bool} (cs : List Char) (hf : ∀ c ∈ front, p c)
    (h : ∀ c ∈ cs.head?, ¬ p c) : (front ++ cs).dropWhile p = cs := by
  rw [List.dropWhile_append_of_pos hf]
  cases cs with
  | nil => rfl
  | cons c cs => exact List.dropWhile_cons_of_neg (h c rfl)

/-- Blanks around a text that neither begins nor ends with one are all that is trimmed. -/
theorem trim_append (front : List Char) (hf : ∀ c ∈ front, isBlank c) (hb : ∀ c ∈ back, isBlank c)
    (hhead : ∀ c ∈ mid.head?, ¬ isBlank c) (hlast : ∀ c ∈ mid.getLast?, ¬ isBlank c) :
    trim (front ++ (mid ++ back)) = mid := by
  have hb' : ∀ c ∈ back.reverse, isBlank c := fun c hc => hb c (List.mem_reverse.1 hc)
  have hlast' : ∀ c ∈ mid.reverse.head?, ¬ isBlank c := by rwa [List.head?_reverse]
  rw [trim, trimBy]
  cases mid with
  | nil =>
    rw [List.nil_append, List.dropWhile_append_of_pos hf, List.dropWhile_eq_nil_iff.2 hb]
    rfl
  | cons c cs =>
    rw [dropWhile_front (c :: cs ++ back) hf hhead, List.reverse_append,
      dropWhile_front _ hb' hlast', List.reverse_reverse]

end GuestLink.Text
