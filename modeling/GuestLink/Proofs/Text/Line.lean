import GuestLink.Text.Line
import Mathlib.Data.List.TakeWhile

/-!
# Lines of a text

No line of a text holds a line break (`not_isLineBreak_of_mem`), and of the other characters none is
lost (`flatten_splitLines`).  Lines without breaks that are joined with line feeds are the lines of
what they give, if the last of them is not empty (`splitLines_intercalate`).
-/

namespace GuestLink.Text

variable {cs line : List Char} {lines : List (List Char)}

theorem splitLines_nil : splitLines [] = [] := by
  rw [splitLines]
  rfl

/-- The first line ends at the first break. -/
theorem splitLines_of_ne_nil (h : cs ≠ []) : splitLines cs = cs.takeWhile (!isLineBreak ·) ::
    splitLines (afterBreak (cs.dropWhile (!isLineBreak ·))) := by
  rw [splitLines, dif_neg h]

theorem splitLines_ne_nil (h : cs ≠ []) : splitLines cs ≠ [] := by
  rw [splitLines_of_ne_nil h]
  simp

theorem not_isLineBreak_of_mem (h : line ∈ splitLines cs) : ∀ c ∈ line, isLineBreak c = false := by
  induction cs using splitLines.induct with
  | case1 => simp [splitLines_nil] at h
  | case2 cs hne _ ih =>
    rw [splitLines_of_ne_nil hne, List.mem_cons] at h
    rcases h with rfl | h
    · intro c hc
      simpa using List.mem_takeWhile_imp hc
    · exact ih h

theorem not_isLineBreak_of_any (h : cs.any isLineBreak = false) :
    ∀ c ∈ cs, isLineBreak c = false := by
  intro c hc
  simpa using List.any_eq_false.1 h c hc

/-! ### What breaks take away -/

theorem isLineBreak_of_head {c : Char} (h : c ∈ (cs.dropWhile (!isLineBreak ·)).head?) :
    isLineBreak c = true := by
  have hhead := List.head?_dropWhile_not (fun c => !isLineBreak c) cs
  rw [Option.mem_def.1 h] at hhead
  simpa using hhead

/-- A break takes no other character away. -/
theorem filter_afterBreak (h : ∀ c ∈ cs.head?, isLineBreak c = true) :
    (afterBreak cs).filter (!isLineBreak ·) = cs.filter (!isLineBreak ·) := by
  unfold afterBreak
  split
  · have hreturn : isLineBreak '\r' = true := by decide
    have hfeed : isLineBreak '\n' = true := by decide
    simp [hreturn, hfeed]
  · rename_i c rest _
    simp [h c rfl]
  · rfl

/-- The lines hold all characters but the breaks, in order. -/
theorem flatten_splitLines (cs : List Char) :
    (splitLines cs).flatten = cs.filter (!isLineBreak ·) := by
  induction cs using splitLines.induct with
  | case1 => simp [splitLines_nil]
  | case2 cs hne _ ih =>
    have hfirst : (cs.takeWhile (!isLineBreak ·)).filter (!isLineBreak ·) =
        cs.takeWhile (!isLineBreak ·) :=
      List.filter_eq_self.2 fun _ => List.mem_takeWhile_imp (p := fun c => !isLineBreak c)
    rw [splitLines_of_ne_nil hne, List.flatten_cons, ih,
      filter_afterBreak fun c hc => isLineBreak_of_head hc, ← hfirst, ← List.filter_append,
      List.takeWhile_append_dropWhile]

/-! ### Joined lines -/

theorem splitLines_of_forall (hne : line ≠ []) (h : ∀ c ∈ line, isLineBreak c = false) :
    splitLines line = [line] := by
  have hp : ∀ c ∈ line, (!isLineBreak c) = true := by simpa using h
  rw [splitLines_of_ne_nil hne, List.takeWhile_eq_self_iff.2 hp, List.dropWhile_eq_nil_iff.2 hp,
    afterBreak, splitLines_nil]

theorem splitLines_append_feed (h : ∀ c ∈ line, isLineBreak c = false) (rest : List Char) :
    splitLines (line ++ '\n' :: rest) = line :: splitLines rest := by
  have hp : ∀ c ∈ line, (!isLineBreak c) = true := by simpa using h
  have hfeed : (!isLineBreak '\n') = false := by decide
  rw [splitLines_of_ne_nil (by simp), List.takeWhile_append_of_pos hp,
    List.dropWhile_append_of_pos hp, List.takeWhile_cons_of_neg (by simp [hfeed]),
    List.dropWhile_cons_of_neg (by simp [hfeed]), List.append_nil]
  rfl

/-- Splitting undoes joining. -/
theorem splitLines_intercalate (hne : ∀ l ∈ lines, l ≠ [])
    (h : ∀ l ∈ lines, ∀ c ∈ l, isLineBreak c = false) :
    splitLines (['\n'].intercalate lines) = lines := by
  induction lines with
  | nil => exact splitLines_nil
  | cons l ls ih =>
    have hl := h l List.mem_cons_self
    rcases ls with _ | ⟨l', ls⟩
    · rw [List.intercalate_singleton, splitLines_of_forall (hne l List.mem_cons_self) hl]
    · rw [List.intercalate_cons_cons, List.append_assoc, List.singleton_append,
        splitLines_append_feed hl, ih (fun m hm => hne m (List.mem_cons_of_mem _ hm))
          fun m hm => h m (List.mem_cons_of_mem _ hm)]

end GuestLink.Text
