import GuestLink.Serial.Exchange
import Mathlib.Data.List.Basic
import Mathlib.Order.Nat

/-!
# Guests that answer in order

A `Guest` answers the command lines that it was sent one after the other, each with lines of any
kind and at most one status line at the end.  Every status line that is found in what it has said is
the end of one answer (`Guest.exists_of_status`), at the place `Guest.place`.
-/

namespace GuestLink.Serial

/-- The answer to a command line.  There is no status line if the guest did not get the command
line, or was not heard to the end. -/
structure Answer where
  body : List Bytes
  mark : Option Bytes
  plain : ∀ l ∈ body, status? l = none
  marked : ∀ l ∈ mark, status? l ≠ none

/-- The lines of an answer. -/
def Answer.lines (a : Answer) : List Bytes := a.body ++ a.mark.toList

/-- The answers of a guest to the command lines, in the order in which these are sent. -/
abbrev Guest := Nat → Answer

namespace Guest

variable (g : Guest) {i j n p : Nat} {l : Bytes} {found : List Bytes}

/-- What a guest says in its first `n` answers. -/
def said : Nat → List Bytes
  | 0 => []
  | n + 1 => said n ++ (g n).lines

/-- How many lines the guest says before the status line of an answer. -/
def place (n : Nat) : Nat := (g.said n).length + (g n).body.length

/-- Whether lines are the first ones of a guest that was sent `n` command lines.  It may say what
belongs to the next answer, but not yet the status line. -/
def Says (n : Nat) (found : List Bytes) : Prop := found <+: g.said n ++ (g n).body

instance : Decidable (g.Says n found) := inferInstanceAs (Decidable (_ <+: _))

variable {g}

theorem said_mono (h : i ≤ n) : g.said i <+: g.said n := by
  induction n, h using Nat.le_induction with
  | base => exact List.prefix_rfl
  | succ n _ ih => exact ih.trans (List.prefix_append _ _)

theorem length_said_succ (n : Nat) :
    (g.said (n + 1)).length = g.place n + (g n).mark.toList.length := by
  simp [said, place, Answer.lines, Nat.add_assoc]

theorem place_le (h : i ≤ j) : g.place i ≤ g.place j := by
  rcases h.eq_or_lt with rfl | h
  · exact le_rfl
  · have hp := (said_mono (g := g) h).length_le
    rw [length_said_succ] at hp
    exact (Nat.le_add_right _ _).trans (hp.trans (Nat.le_add_right _ _))

theorem place_lt (h : i < j) (hi : (g i).mark ≠ none) : g.place i < g.place j := by
  obtain ⟨l, hl⟩ := Option.ne_none_iff_exists'.1 hi
  have hp := (said_mono (g := g) h).length_le
  rw [length_said_succ, hl] at hp
  exact hp.trans (Nat.le_add_right _ _)

theorem getElem?_of_isPrefix {xs ys : List Bytes} (h : xs <+: ys) (hx : xs[p]? = some l) :
    ys[p]? = some l := by
  obtain ⟨rest, rfl⟩ := h
  obtain ⟨hlt, -⟩ := List.getElem?_eq_some_iff.1 hx
  rwa [List.getElem?_append_left hlt]

theorem said_place (h : (g i).mark = some l) (hn : i < n) : (g.said n)[g.place i]? = some l := by
  refine getElem?_of_isPrefix (said_mono hn) ?_
  rw [said, Answer.lines, h, ← List.append_assoc, place, ← List.length_append]
  exact List.getElem?_concat_length

theorem exists_of_said (h : (g.said n)[p]? = some l) (hl : status? l ≠ none) :
    ∃ i < n, (g i).mark = some l ∧ p = g.place i := by
  induction n with
  | zero => cases h
  | succ n ih =>
    rw [said, Answer.lines, ← List.append_assoc, List.getElem?_append] at h
    split_ifs at h with hp
    · rw [List.getElem?_append] at h
      split_ifs at h with hp'
      · obtain ⟨i, hi, h⟩ := ih h
        exact ⟨i, hi.trans n.lt_succ_self, h⟩
      · exact absurd ((g n).plain l (List.mem_of_getElem? h)) hl
    · obtain ⟨hlt, -⟩ := List.getElem?_eq_some_iff.1 h
      cases hm : (g n).mark with
      | none =>
        rw [hm] at hlt
        cases hlt
      | some l' =>
        rw [hm] at h hlt
        have hp₀ : p - (g.said n ++ (g n).body).length = 0 := Nat.lt_one_iff.1 hlt
        rw [hp₀] at h
        cases h
        refine ⟨n, n.lt_succ_self, hm, ?_⟩
        rw [List.length_append] at hp hp₀
        exact le_antisymm (Nat.sub_eq_zero_iff_le.1 hp₀) (not_lt.1 hp)

/-- Each status line that was found ends one answer. -/
theorem exists_of_status (hf : g.Says n found) (h : found[p]? = some l) (hl : status? l ≠ none) :
    ∃ i < n, (g i).mark = some l ∧ p = g.place i := by
  have h := getElem?_of_isPrefix hf h
  rw [List.getElem?_append] at h
  split_ifs at h
  · exact exists_of_said h hl
  · exact absurd ((g n).plain l (List.mem_of_getElem? h)) hl

theorem length_le_place (hf : g.Says n found) : found.length ≤ g.place n := by
  have h := List.IsPrefix.length_le hf
  rwa [List.length_append] at h

/-- A status line stands at its place in what was found. -/
theorem status_of_found (hf : g.Says n found) (hi : g.place i < found.length)
    (h : found[g.place i]? = some l) (hm : (g i).mark ≠ none) : status? l ≠ none := by
  obtain ⟨mark, hmark⟩ := Option.ne_none_iff_exists'.1 hm
  have hin : i < n := by
    by_contra hni
    exact absurd (hi.trans_le (length_le_place hf)) (not_lt.2 (place_le (not_lt.1 hni)))
  have hl := getElem?_of_isPrefix hf h
  rw [getElem?_of_isPrefix (List.prefix_append _ _) (said_place hmark hin)] at hl
  obtain rfl := Option.some.inj hl
  exact (g i).marked _ hmark

end Guest

end GuestLink.Serial
