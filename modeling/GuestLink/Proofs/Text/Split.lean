import GuestLink.Text.Line
import Mathlib.Data.List.TakeWhile

/-!
# Cutting and joining

`splitAt sep` undoes joining with `sep` (`splitAt_intercalate`), provided that `sep` stands in none
of the parts, and joining undoes `splitAt sep` (`intercalate_splitAt`).
-/

namespace GuestLink.Text

variable {α : Type} [BEq α] [LawfulBEq α] {sep : α}

theorem splitAt_of_not_mem {xs : List α} (h : sep ∉ xs) : splitAt sep xs = [xs] := by
  have hd : xs.dropWhile (· != sep) = [] := by
    rw [List.dropWhile_eq_nil_iff]
    intro x hx
    exact bne_iff_ne.2 fun e => h (e ▸ hx)
  unfold splitAt
  split
  · rfl
  · rename_i e
    rw [hd] at e
    cases e

theorem splitAt_append_cons {xs : List α} (h : sep ∉ xs) (ys : List α) :
    splitAt sep (xs ++ sep :: ys) = xs :: splitAt sep ys := by
  have hp : ∀ x ∈ xs, (x != sep) = true := fun x hx => bne_iff_ne.2 fun e => h (e ▸ hx)
  have hd : (xs ++ sep :: ys).dropWhile (· != sep) = sep :: ys := by
    rw [List.dropWhile_append_of_pos hp, List.dropWhile_cons_of_neg (by simp)]
  have ht : (xs ++ sep :: ys).takeWhile (· != sep) = xs := by
    rw [List.takeWhile_append_of_pos hp, List.takeWhile_cons_of_neg (by simp), List.append_nil]
  rw [splitAt]
  split
  · rename_i e
    rw [hd] at e
    cases e
  · rename_i e
    rw [hd] at e
    cases e
    rw [ht]

omit [LawfulBEq α] in
theorem exists_splitAt_eq_cons (sep : α) (xs : List α) :
    ∃ part parts, splitAt sep xs = part :: parts := by
  rw [splitAt]
  split
  exacts [⟨_, _, rfl⟩, ⟨_, _, rfl⟩]

/-- What stands before the first separator belongs to the first part. -/
theorem splitAt_append {xs : List α} (h : sep ∉ xs) (ys : List α) :
    ∃ part parts, splitAt sep ys = part :: parts ∧
      splitAt sep (xs ++ ys) = (xs ++ part) :: parts := by
  by_cases hy : sep ∈ ys
  · obtain ⟨as, bs, rfl, ha⟩ := List.eq_append_cons_of_mem hy
    refine ⟨as, splitAt sep bs, splitAt_append_cons ha bs, ?_⟩
    rw [← List.append_assoc, splitAt_append_cons fun hm => (List.mem_append.1 hm).elim h ha]
  · refine ⟨ys, [], splitAt_of_not_mem hy, ?_⟩
    exact splitAt_of_not_mem fun hm => (List.mem_append.1 hm).elim h hy

/-- Cutting undoes joining. -/
theorem splitAt_intercalate {parts : List (List α)} (hne : parts ≠ [])
    (h : ∀ p ∈ parts, sep ∉ p) : splitAt sep ([sep].intercalate parts) = parts := by
  induction parts with
  | nil => exact absurd rfl hne
  | cons p ps ih =>
    have hp : sep ∉ p := h p List.mem_cons_self
    rcases ps with _ | ⟨q, qs⟩
    · rw [List.intercalate_singleton, splitAt_of_not_mem hp]
    · rw [List.intercalate_cons_cons, List.append_assoc, List.singleton_append,
        splitAt_append_cons hp, ih (by simp) fun r hr => h r (List.mem_cons_of_mem _ hr)]

/-! ### One cut after another -/

/-- A list without `sep`, or one behind which `sep` and another list stand. -/
theorem cut_induction (sep : α) {p : List α → Prop} (whole : ∀ xs, sep ∉ xs → p xs)
    (cut : ∀ xs ys, sep ∉ xs → p ys → p (xs ++ sep :: ys)) (xs : List α) : p xs := by
  induction hn : xs.length using Nat.strongRecOn generalizing xs with
  | _ n ih =>
    by_cases h : sep ∈ xs
    · obtain ⟨as, bs, rfl, ha⟩ := List.eq_append_cons_of_mem h
      refine cut as bs ha (ih bs.length ?_ bs rfl)
      rw [← hn, List.length_append, List.length_cons]
      omega
    · exact whole xs h

/-- A list is cut at `sep` wherever it stands. -/
theorem splitAt_append_sep (xs ys : List α) :
    splitAt sep (xs ++ sep :: ys) = splitAt sep xs ++ splitAt sep ys := by
  induction xs using cut_induction sep with
  | whole xs h => rw [splitAt_append_cons h, splitAt_of_not_mem h, List.singleton_append]
  | cut xs zs h ih =>
    rw [List.append_assoc, List.cons_append, splitAt_append_cons h, ih, splitAt_append_cons h,
      List.cons_append]

theorem not_mem_of_mem_splitAt {xs part : List α} (h : part ∈ splitAt sep xs) : sep ∉ part := by
  induction xs using cut_induction sep with
  | whole xs hx =>
    rw [splitAt_of_not_mem hx, List.mem_singleton] at h
    rwa [h]
  | cut xs ys hx ih =>
    rw [splitAt_append_cons hx, List.mem_cons] at h
    rcases h with rfl | h
    exacts [hx, ih h]

/-- Joining undoes cutting. -/
theorem intercalate_splitAt (sep : α) (xs : List α) : [sep].intercalate (splitAt sep xs) = xs := by
  induction xs using cut_induction sep with
  | whole xs h => rw [splitAt_of_not_mem h, List.intercalate_singleton]
  | cut xs ys h ih =>
    obtain ⟨part, parts, hy⟩ := exists_splitAt_eq_cons sep ys
    rw [splitAt_append_cons h, hy, List.intercalate_cons_cons, ← hy, ih, List.append_assoc,
      List.singleton_append]

theorem length_splitAt (xs : List α) : (splitAt sep xs).length = xs.count sep + 1 := by
  induction xs using cut_induction sep with
  | whole xs h => rw [splitAt_of_not_mem h, List.count_eq_zero.2 h, List.length_singleton]
  | cut xs ys h ih =>
    rw [splitAt_append_cons h, List.length_cons, ih, List.count_append, List.count_eq_zero.2 h,
      List.count_cons_self, Nat.zero_add]

end GuestLink.Text
