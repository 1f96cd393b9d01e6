import GuestLink.Text.Utf8
import Mathlib.Algebra.Group.Nat.Defs
import Mathlib.Data.List.Basic
import Mathlib.Tactic.SplitIfs

/-!
# Lossy decoding and ASCII

An ASCII byte is a character by itself wherever it stands (`decodeLossy_append_ascii`), and an ASCII
character comes from a byte of its own (`mem_of_mem_decodeLossy`).  So lines can be decoded together
or one by one.
-/

namespace GuestLink.Utf8

theorem toUInt8_eq {n : Nat} {b : UInt8} (h : n = b.toNat) : n.toUInt8 = b := by
  rw [h]
  exact UInt8.ofNat_toNat

/-- The character of a piece, with U+FFFD for a flaw. -/
def Piece.char (p : Piece) : Char :=
  match p.content with
  | .ok c => c
  | .error _ => '\uFFFD'

theorem piecesFrom_eq (found : List Piece) (bs : Bytes) :
    piecesFrom found bs = found.reverse ++ pieces bs := by
  induction hn : bs.length using Nat.strongRecOn generalizing found bs with
  | _ n ih =>
    cases bs with
    | nil => rw [pieces, piecesFrom, piecesFrom, List.reverse_nil, List.append_nil]
    | cons lead rest =>
      have hlt : (firstPiece lead rest).2.length < n := by
        have := length_firstPiece_le lead rest
        rw [← hn, List.length_cons]
        omega
      rw [pieces, piecesFrom, piecesFrom, ih _ hlt _ _ rfl, ih _ hlt [_] _ rfl, List.reverse_cons,
        List.append_assoc, List.reverse_singleton]

@[simp] theorem decodeLossy_nil : decodeLossy [] = [] := by
  rw [decodeLossy, pieces, piecesFrom]
  rfl

theorem decodeLossy_cons (lead : UInt8) (rest : Bytes) :
    decodeLossy (lead :: rest) =
      (firstPiece lead rest).1.char :: decodeLossy (firstPiece lead rest).2 := by
  rw [decodeLossy, pieces, piecesFrom, piecesFrom_eq]
  rfl

theorem decodeLossy_ne_nil {bs : Bytes} (h : bs ≠ []) : decodeLossy bs ≠ [] := by
  obtain ⟨lead, rest, rfl⟩ := List.exists_cons_of_ne_nil h
  rw [decodeLossy_cons]
  exact List.cons_ne_nil _ _

/-! ### ASCII bytes -/

theorem continueFrom_append_ascii {b : UInt8} (hb : b < 0x80) (code size : Nat)
    {range : UInt8 × UInt8} (hr : 0x80 ≤ range.1) (n : Nat) (bs rest : Bytes) :
    (continueFrom code size range n (bs ++ b :: rest)).1.char =
        (continueFrom code size range n bs).1.char ∧
      (continueFrom code size range n (bs ++ b :: rest)).2 =
        (continueFrom code size range n bs).2 ++ b :: rest := by
  induction n generalizing code size range bs with
  | zero => exact ⟨rfl, rfl⟩
  | succ n ih =>
    cases bs with
    | nil =>
      have hlt : ¬(range.1 ≤ b ∧ b ≤ range.2) := by
        rw [UInt8.lt_iff_toNat_lt] at hb
        rw [UInt8.le_iff_toNat_le] at hr ⊢
        omega
      have hstop : continueFrom code size range (n + 1) (b :: rest) =
          (⟨.error .continuation, size⟩, b :: rest) := by
        rw [continueFrom, if_neg hlt]
      rw [List.nil_append, hstop, continueFrom]
      exact ⟨rfl, rfl⟩
    | cons c bs =>
      rw [List.cons_append, continueFrom, continueFrom]
      split
      · exact ih _ _ (UInt8.le_refl _) bs
      · exact ⟨rfl, rfl⟩

theorem secondRange_ge (lead : UInt8) : 0x80 ≤ (secondRange lead).1 := by
  unfold secondRange
  repeat' split
  all_goals decide

theorem firstPiece_append_ascii {b : UInt8} (hb : b < 0x80) (lead : UInt8) (bs rest : Bytes) :
    (firstPiece lead (bs ++ b :: rest)).1.char = (firstPiece lead bs).1.char ∧
      (firstPiece lead (bs ++ b :: rest)).2 = (firstPiece lead bs).2 ++ b :: rest := by
  unfold firstPiece
  split
  · exact ⟨rfl, rfl⟩
  · exact continueFrom_append_ascii hb _ _ (secondRange_ge lead) _ bs rest

theorem firstPiece_ascii {b : UInt8} (hb : b < 0x80) (rest : Bytes) :
    firstPiece b rest = (⟨.ok (Char.ofNat b.toNat), 1⟩, rest) := by
  rw [firstPiece, trailing, if_pos hb]
  rfl

/-- An ASCII byte is decoded apart from what stands before and behind it. -/
theorem decodeLossy_append_ascii {b : UInt8} (hb : b < 0x80) (bs rest : Bytes) :
    decodeLossy (bs ++ b :: rest) = decodeLossy bs ++ Char.ofNat b.toNat :: decodeLossy rest := by
  induction hn : bs.length using Nat.strongRecOn generalizing bs with
  | _ n ih =>
    cases bs with
    | nil => rw [List.nil_append, decodeLossy_cons, firstPiece_ascii hb, decodeLossy_nil]; rfl
    | cons lead bs =>
      obtain ⟨hchar, hrest⟩ := firstPiece_append_ascii hb lead bs rest
      have hlt : (firstPiece lead bs).2.length < n := by
        have := length_firstPiece_le lead bs
        rw [← hn, List.length_cons]
        omega
      rw [List.cons_append, decodeLossy_cons, hchar, hrest, ih _ hlt _ rfl, decodeLossy_cons,
        List.cons_append]

/-! ### ASCII characters -/

/-- Whether a character lies above ASCII or stands for a code that is none. -/
def IsForeign (c : Char) : Prop := c.toNat = 0 ∨ 0x80 ≤ c.toNat

theorem isForeign_ofNat {n : Nat} (h : 0x80 ≤ n) : IsForeign (Char.ofNat n) := by
  by_cases hv : n.isValidChar
  · rw [Char.ofNat, dif_pos hv]
    exact .inr h
  · rw [Char.ofNat, dif_neg hv]
    exact .inl rfl

theorem isForeign_flaw (flaw : Flaw) (size : Nat) : IsForeign (Piece.char ⟨.error flaw, size⟩) :=
  .inr (show 0x80 ≤ ('\uFFFD').toNat by decide)

theorem isForeign_continueFrom {code size n : Nat} {range : UInt8 × UInt8} {bs : Bytes}
    (h : 0x80 ≤ code * 64 ^ n) : IsForeign (continueFrom code size range n bs).1.char := by
  induction n generalizing code size range bs with
  | zero =>
    rw [Nat.pow_zero, Nat.mul_one] at h
    exact isForeign_ofNat h
  | succ n ih =>
    cases bs with
    | nil => exact isForeign_flaw _ _
    | cons b bs =>
      rw [continueFrom]
      split_ifs
      · refine ih (Nat.le_trans h ?_)
        rw [Nat.pow_succ', ← Nat.mul_assoc]
        exact Nat.mul_le_mul_right _ (Nat.le_add_right _ _)
      · exact isForeign_flaw _ _

/-- The range of the second byte leaves out short codes in long forms. -/
theorem isForeign_continueFrom_succ {code size n : Nat} {range : UInt8 × UInt8} {bs : Bytes}
    (h : 0x80 ≤ (code * 64 + (range.1.toNat - 0x80)) * 64 ^ n) :
    IsForeign (continueFrom code size range (n + 1) bs).1.char := by
  cases bs with
  | nil => exact isForeign_flaw _ _
  | cons b bs =>
    rw [continueFrom]
    split_ifs with hb
    · refine isForeign_continueFrom (Nat.le_trans h (Nat.mul_le_mul_right _ ?_))
      have := UInt8.le_iff_toNat_le.1 hb.1
      omega
    · exact isForeign_flaw _ _

theorem trailing_cases {lead : UInt8} (h : ¬lead < 0x80) :
    trailing lead = none ∨ (trailing lead = some 1 ∧ 0xC2 ≤ lead.toNat) ∨
      (trailing lead = some 2 ∧ 0xE0 ≤ lead.toNat) ∨ (trailing lead = some 3 ∧ 0xF0 ≤ lead.toNat) := by
  unfold trailing
  rw [if_neg h]
  simp only [UInt8.lt_iff_toNat_lt, UInt8.reduceToNat]
  split_ifs
  · exact .inl rfl
  · exact .inr (.inl ⟨rfl, by omega⟩)
  · exact .inr (.inr (.inl ⟨rfl, by omega⟩))
  · exact .inr (.inr (.inr ⟨rfl, by omega⟩))
  · exact .inl rfl

theorem isForeign_firstPiece {lead : UInt8} (h : ¬lead < 0x80) (rest : Bytes) :
    IsForeign (firstPiece lead rest).1.char := by
  rw [firstPiece]
  rcases trailing_cases h with ht | ⟨ht, hl⟩ | ⟨ht, hl⟩ | ⟨ht, hl⟩
  · simp only [ht]
    exact isForeign_flaw _ _
  · simp only [ht]
    have hb : leadBits lead 1 = lead.toNat - 0xC0 := rfl
    exact isForeign_continueFrom_succ (n := 0) (by omega)
  · simp only [ht]
    refine isForeign_continueFrom_succ (n := 1) ?_
    have hb : leadBits lead 2 = lead.toNat - 0xE0 := rfl
    by_cases he : lead = 0xE0
    · subst he
      decide
    · have : lead.toNat ≠ 0xE0 := fun e => he (UInt8.toNat_inj.1 e)
      omega
  · simp only [ht]
    refine isForeign_continueFrom_succ (n := 2) ?_
    have hb : leadBits lead 3 = lead.toNat - 0xF0 := rfl
    by_cases he : lead = 0xF0
    · subst he
      decide
    · have : lead.toNat ≠ 0xF0 := fun e => he (UInt8.toNat_inj.1 e)
      omega

theorem continueFrom_suffix (code size : Nat) (range : UInt8 × UInt8) (n : Nat) (bs : Bytes) :
    (continueFrom code size range n bs).2 <:+ bs := by
  induction n generalizing code size range bs with
  | zero => exact List.suffix_refl bs
  | succ n ih =>
    cases bs with
    | nil => exact List.suffix_refl []
    | cons b bs =>
      rw [continueFrom]
      split_ifs
      · exact (ih _ _ _ bs).trans (List.suffix_cons b bs)
      · exact List.suffix_refl _

theorem firstPiece_suffix (lead : UInt8) (rest : Bytes) : (firstPiece lead rest).2 <:+ rest := by
  unfold firstPiece
  split
  · exact List.suffix_refl rest
  · exact continueFrom_suffix ..

theorem toNat_ofNat_of_lt {n : Nat} (h : n < 0x80) : (Char.ofNat n).toNat = n := by
  have hv : n.isValidChar := .inl (Nat.lt_trans h (by decide))
  rw [Char.ofNat, dif_pos hv]
  rfl

/-- An ASCII character other than the null comes from a byte of its own. -/
theorem mem_of_mem_decodeLossy {c : Char} {bs : Bytes} (hc : c ∈ decodeLossy bs)
    (hf : ¬IsForeign c) : ∃ b ∈ bs, b.toNat = c.toNat := by
  induction hn : bs.length using Nat.strongRecOn generalizing bs with
  | _ n ih =>
    cases bs with
    | nil =>
      rw [decodeLossy_nil] at hc
      cases hc
    | cons lead rest =>
      rw [decodeLossy_cons, List.mem_cons] at hc
      rcases hc with rfl | hc
      · by_cases hl : lead < 0x80
        · refine ⟨lead, List.mem_cons_self, ?_⟩
          rw [firstPiece_ascii hl]
          exact (toNat_ofNat_of_lt (UInt8.lt_iff_toNat_lt.1 hl)).symm
        · exact absurd (isForeign_firstPiece hl rest) hf
      · have hs := firstPiece_suffix lead rest
        have hlt : (firstPiece lead rest).2.length < n := by
          have := hs.length_le
          rw [← hn, List.length_cons]
          omega
        obtain ⟨b, hb, hb'⟩ := ih _ hlt hc rfl
        exact ⟨b, List.mem_cons_of_mem _ (hs.subset hb), hb'⟩

theorem not_mem_decodeLossy {b : UInt8} {bs : Bytes} (hb : b < 0x80) (h0 : b ≠ 0) (h : b ∉ bs) :
    Char.ofNat b.toNat ∉ decodeLossy bs := by
  have hn := toNat_ofNat_of_lt (UInt8.lt_iff_toNat_lt.1 hb)
  intro hm
  obtain ⟨b', hb', he⟩ := mem_of_mem_decodeLossy hm fun hf => by
    rw [IsForeign, hn] at hf
    rcases hf with hf | hf
    · exact h0 (UInt8.toNat_inj.1 hf)
    · exact absurd (UInt8.lt_iff_toNat_lt.1 hb) (Nat.not_lt.2 hf)
  rw [hn] at he
  exact h (UInt8.toNat_inj.1 he ▸ hb')

/-- Lines that hold no line feed can be decoded together or one by one. -/
theorem decodeLossy_intercalate {b : UInt8} (hb : b < 0x80) (lines : List Bytes) :
    decodeLossy ([b].intercalate lines) =
      [Char.ofNat b.toNat].intercalate (lines.map decodeLossy) := by
  induction lines with
  | nil => exact decodeLossy_nil
  | cons l lines ih =>
    cases lines with
    | nil => rw [List.intercalate_singleton, List.map_singleton, List.intercalate_singleton]
    | cons l' lines =>
      rw [List.intercalate_cons_cons, List.append_assoc, List.singleton_append,
        decodeLossy_append_ascii hb, ih, List.map_cons, List.map_cons, List.map_cons,
        List.intercalate_cons_cons, List.append_assoc, List.singleton_append]

/-- A text whose bytes do not end in an ASCII byte does not end in its character. -/
theorem getLast?_decodeLossy_ne {b : UInt8} {bs : Bytes} (hb : b < 0x80) (h0 : b ≠ 0)
    (h : bs.getLast? ≠ some b) : (decodeLossy bs).getLast? ≠ some (Char.ofNat b.toNat) := by
  by_cases hm : b ∈ bs
  · -- behind the last such byte stand others, of which none makes its character
    obtain ⟨after, before, hsplit, hafter⟩ := List.eq_append_cons_of_mem (List.mem_reverse.2 hm)
    obtain rfl : bs = before.reverse ++ b :: after.reverse := by
      rw [← List.reverse_reverse bs, hsplit, List.reverse_append, List.reverse_cons,
        List.append_assoc, List.singleton_append]
    have hne : after.reverse ≠ [] := by
      intro he
      rw [he, List.getLast?_concat] at h
      exact h rfl
    rw [decodeLossy_append_ascii hb, List.getLast?_append_of_ne_nil _ (List.cons_ne_nil _ _),
      List.getLast?_cons_of_ne_nil (decodeLossy_ne_nil hne)]
    exact fun hl => not_mem_decodeLossy hb h0 (fun hm => hafter (List.mem_reverse.1 hm))
      (List.mem_of_getLast? hl)
  · exact fun hl => not_mem_decodeLossy hb h0 hm (List.mem_of_getLast? hl)

end GuestLink.Utf8
