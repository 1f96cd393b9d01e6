import GuestLink.Datum
import GuestLink.Proofs.Except

/-!
# Integers that are written

An integer is written exactly if the limit admits it (`write_eq_ok_iff`), and a datum has a literal
exactly if the limit admits every integer in it (`exists_literal_iff`).
-/

namespace GuestLink

namespace DigitLimit

variable {limit : DigitLimit} {i : Int} {s : String} {e : Excess}

theorem admits_none (i : Int) : DigitLimit.none.Admits i := trivial

theorem write_of_admits (h : limit.Admits i) : limit.write i = .ok (toString i) := by
  cases limit with
  | none => rfl
  | most digits => exact if_pos h

theorem write_eq_ok_iff : limit.write i = .ok s ↔ limit.Admits i ∧ s = toString i := by
  by_cases h : limit.Admits i
  · simp [write_of_admits h, h, eq_comm]
  · cases limit with
    | none => exact absurd (admits_none i) h
    | most digits => simp [write, h]

theorem exists_write_iff : (∃ s, limit.write i = .ok s) ↔ limit.Admits i := by
  simp [write_eq_ok_iff]

end DigitLimit

namespace Datum

variable {limit : DigitLimit}

/-- The integers in a datum. -/
def integers : Datum → List Int
  | .int i => [i]
  | .list items => ofList items
  | .record fields => ofFields fields
  | .null | .bool _ | .float _ | .text _ => []
where
  /-- The integers in the elements of a list. -/
  ofList : List Datum → List Int
    | [] => []
    | d :: ds => integers d ++ ofList ds
  /-- The integers in the fields of a record. -/
  ofFields : List (String × Datum) → List Int
    | [] => []
    | (_, d) :: fs => integers d ++ ofFields fs

mutual

theorem exists_literal_iff (d : Datum) :
    (∃ s, d.literal limit = .ok s) ↔ ∀ i ∈ d.integers, limit.Admits i := by
  cases d with
  | null | bool | float | text => simp [literal, integers]
  | int i => simp [literal, integers, DigitLimit.exists_write_iff]
  | list items =>
    simp only [literal, integers, Except.bind_eq_ok_iff, Except.pure_eq_ok_iff,
      ← exists_literals_iff items]
    exact ⟨fun ⟨_, ss, h, _⟩ => ⟨ss, h⟩, fun ⟨ss, h⟩ => ⟨_, ss, h, rfl⟩⟩
  | record fields =>
    simp only [literal, integers, Except.bind_eq_ok_iff, Except.pure_eq_ok_iff,
      ← exists_entries_iff fields]
    exact ⟨fun ⟨_, ss, h, _⟩ => ⟨ss, h⟩, fun ⟨ss, h⟩ => ⟨_, ss, h, rfl⟩⟩

theorem exists_literals_iff (ds : List Datum) :
    (∃ ss, literal.literals limit ds = .ok ss) ↔ ∀ i ∈ integers.ofList ds, limit.Admits i := by
  cases ds with
  | nil => simp [literal.literals, integers.ofList]
  | cons d ds =>
    simp only [literal.literals, integers.ofList, List.forall_mem_append,
      ← exists_literal_iff d, ← exists_literals_iff ds, Except.bind_eq_ok_iff,
      Except.pure_eq_ok_iff]
    exact ⟨fun ⟨_, s, hs, ss, hss, _⟩ => ⟨⟨s, hs⟩, ss, hss⟩,
      fun ⟨⟨s, hs⟩, ss, hss⟩ => ⟨_, s, hs, ss, hss, rfl⟩⟩

theorem exists_entries_iff (fs : List (String × Datum)) :
    (∃ ss, literal.entries limit fs = .ok ss) ↔ ∀ i ∈ integers.ofFields fs, limit.Admits i := by
  cases fs with
  | nil => simp [literal.entries, integers.ofFields]
  | cons f fs =>
    obtain ⟨name, d⟩ := f
    simp only [literal.entries, integers.ofFields, List.forall_mem_append,
      ← exists_literal_iff d, ← exists_entries_iff fs, Except.bind_eq_ok_iff,
      Except.pure_eq_ok_iff]
    exact ⟨fun ⟨_, s, hs, ss, hss, _⟩ => ⟨⟨s, hs⟩, ss, hss⟩,
      fun ⟨⟨s, hs⟩, ss, hss⟩ => ⟨_, s, hs, ss, hss, rfl⟩⟩

end

end Datum

end GuestLink
