import GuestLink.Proofs.Text.Utf8
import GuestLink.Proofs.Except

/-!
# Strict decoding

`decode` accepts exactly what `encode` writes (`decode_eq_ok_iff`), so that a text has one form in
bytes and no bytes have two readings.
-/

namespace GuestLink.Utf8

variable {c : Char} {lead : UInt8} {rest rest' bs : Bytes} {code size n : Nat}
  {range : UInt8 × UInt8} {p : Piece}

theorem pieces_nil : pieces [] = [] := by
  rw [pieces, piecesFrom]
  rfl

theorem pieces_cons (lead : UInt8) (rest : Bytes) :
    pieces (lead :: rest) = (firstPiece lead rest).1 :: pieces (firstPiece lead rest).2 := by
  rw [pieces, piecesFrom, piecesFrom_eq]
  rfl

/-! ### The code points of characters -/

theorem toNat_ofNat_of_isValidChar (h : n.isValidChar) : (Char.ofNat n).toNat = n := by
  rw [Char.ofNat, dif_pos h]
  rfl

theorem toNat_toUInt8 (h : n < 256) : n.toUInt8.toNat = n := UInt8.toNat_ofNat_of_lt' h

/-! ### One character -/

/-- A continuation byte adds six bits. -/
theorem continueFrom_cons {b : UInt8} (h : range.1.toNat ≤ b.toNat ∧ b.toNat ≤ range.2.toNat) :
    continueFrom code size range (n + 1) (b :: rest) =
      continueFrom (code * 64 + (b.toNat - 0x80)) (size + 1) (0x80, 0xBF) n rest := by
  rw [continueFrom, if_pos (by simpa only [UInt8.le_iff_toNat_le] using h)]

/-- A character that is read to its end had a continuation byte to read. -/
theorem exists_of_continueFrom (h : continueFrom code size range (n + 1) bs = (p, rest'))
    (hp : p.content = .ok c) : ∃ b rest, bs = b :: rest ∧
      (range.1.toNat ≤ b.toNat ∧ b.toNat ≤ range.2.toNat) ∧
      continueFrom (code * 64 + (b.toNat - 0x80)) (size + 1) (0x80, 0xBF) n rest = (p, rest') := by
  cases bs with
  | nil =>
    cases h
    cases hp
  | cons b rest =>
    rw [continueFrom] at h
    split_ifs at h with hb
    · exact ⟨b, rest, rfl, by simpa only [UInt8.le_iff_toNat_le] using hb, h⟩
    · cases h
      cases hp

theorem trailing_eq_some_iff : trailing lead = some n ↔
    n = 0 ∧ lead.toNat < 0x80 ∨ n = 1 ∧ 0xC2 ≤ lead.toNat ∧ lead.toNat < 0xE0 ∨
      n = 2 ∧ 0xE0 ≤ lead.toNat ∧ lead.toNat < 0xF0 ∨
      n = 3 ∧ 0xF0 ≤ lead.toNat ∧ lead.toNat < 0xF5 := by
  unfold trailing
  simp only [UInt8.lt_iff_toNat_lt, UInt8.reduceToNat]
  split_ifs <;> simp only [Option.some.injEq, false_iff] <;> omega

theorem mem_secondRange_iff {b : Nat} :
    (secondRange lead).1.toNat ≤ b ∧ b ≤ (secondRange lead).2.toNat ↔
      0x80 ≤ b ∧ b ≤ 0xBF ∧ (lead.toNat = 0xE0 → 0xA0 ≤ b) ∧ (lead.toNat = 0xED → b ≤ 0x9F) ∧
        (lead.toNat = 0xF0 → 0x90 ≤ b) ∧ (lead.toNat = 0xF4 → b ≤ 0x8F) := by
  unfold secondRange
  simp only [← UInt8.toNat_inj, UInt8.reduceToNat]
  split_ifs <;> simp only [UInt8.reduceToNat] <;> omega

theorem continueFrom_mid {m : Nat} (h : m < 64) :
    continueFrom code size (0x80, 0xBF) (n + 1) ((0x80 + m).toUInt8 :: rest) =
      continueFrom (code * 64 + m) (size + 1) (0x80, 0xBF) n rest := by
  have hb := toNat_toUInt8 (n := 0x80 + m) (by omega)
  rw [continueFrom_cons (by rw [hb]; simp only [UInt8.reduceToNat]; omega), hb,
    Nat.add_sub_cancel_left]

theorem continueFrom_second {m : Nat} (h : m < 64)
    (hr : (secondRange lead).1.toNat ≤ 0x80 + m ∧ 0x80 + m ≤ (secondRange lead).2.toNat) :
    continueFrom code size (secondRange lead) (n + 1) ((0x80 + m).toUInt8 :: rest) =
      continueFrom (code * 64 + m) (size + 1) (0x80, 0xBF) n rest := by
  have hb := toNat_toUInt8 (n := 0x80 + m) (by omega)
  rw [continueFrom_cons (by rw [hb]; exact hr), hb, Nat.add_sub_cancel_left]

theorem leadBits_zero : leadBits lead 0 = lead.toNat := rfl

theorem leadBits_one : leadBits lead 1 = lead.toNat - 0xC0 := rfl

theorem leadBits_two : leadBits lead 2 = lead.toNat - 0xE0 := rfl

theorem leadBits_three : leadBits lead 3 = lead.toNat - 0xF0 := rfl

/-- Reading a character undoes writing it. -/
theorem firstPiece_encodeChar (c : Char) (rest : Bytes) : ∃ lead tail size,
    encodeChar c = lead :: tail ∧ firstPiece lead (tail ++ rest) = (⟨.ok c, size⟩, rest) := by
  have hvalid : c.toNat < 0xD800 ∨ 0xDFFF < c.toNat ∧ c.toNat < 0x110000 := c.valid
  have read {lead : UInt8} {tail : Bytes} {n : Nat} (code size : Nat) (hc : code = c.toNat)
      (ht : trailing lead = some n)
      (hr : continueFrom (leadBits lead n) 1 (secondRange lead) n (tail ++ rest) =
        (⟨.ok (Char.ofNat code), size⟩, rest)) :
      firstPiece lead (tail ++ rest) = (⟨.ok c, size⟩, rest) := by
    rw [firstPiece, ht]
    exact hr.trans (by rw [hc, Char.ofNat_toNat])
  unfold encodeChar
  dsimp only
  split_ifs with h1 h2 h3
  · have hl := toNat_toUInt8 (n := c.toNat) (by omega)
    have ht : trailing c.toNat.toUInt8 = some 0 := trailing_eq_some_iff.2 (by omega)
    refine ⟨c.toNat.toUInt8, [], 1, rfl, read c.toNat 1 rfl ht ?_⟩
    rw [leadBits_zero, hl, List.nil_append, continueFrom]
  · have hl := toNat_toUInt8 (n := 0xC0 + c.toNat / 64) (by omega)
    have ht : trailing (0xC0 + c.toNat / 64).toUInt8 = some 1 := trailing_eq_some_iff.2 (by omega)
    refine ⟨_, _, 2, rfl, read (c.toNat / 64 * 64 + c.toNat % 64) _ (by omega) ht ?_⟩
    rw [leadBits_one, hl, Nat.add_sub_cancel_left, List.singleton_append,
      continueFrom_second (by omega) (mem_secondRange_iff.2 (by omega))]
    rfl
  · have hl := toNat_toUInt8 (n := 0xE0 + c.toNat / 4096) (by omega)
    have ht : trailing (0xE0 + c.toNat / 4096).toUInt8 = some 2 :=
      trailing_eq_some_iff.2 (by omega)
    refine ⟨_, _, 3, rfl, read ((c.toNat / 4096 * 64 + c.toNat / 64 % 64) * 64 + c.toNat % 64) _
      (by omega) ht ?_⟩
    rw [leadBits_two, hl, Nat.add_sub_cancel_left, List.cons_append,
      continueFrom_second (by omega) (mem_secondRange_iff.2 (by omega)), List.singleton_append,
      continueFrom_mid (by omega)]
    rfl
  · have hl := toNat_toUInt8 (n := 0xF0 + c.toNat / 262144) (by omega)
    have ht : trailing (0xF0 + c.toNat / 262144).toUInt8 = some 3 :=
      trailing_eq_some_iff.2 (by omega)
    refine ⟨_, _, 4, rfl, read (((c.toNat / 262144 * 64 + c.toNat / 4096 % 64) * 64 +
      c.toNat / 64 % 64) * 64 + c.toNat % 64) _ (by omega) ht ?_⟩
    rw [leadBits_three, hl, Nat.add_sub_cancel_left, List.cons_append,
      continueFrom_second (by omega) (mem_secondRange_iff.2 (by omega)), List.cons_append,
      continueFrom_mid (by omega), List.singleton_append, continueFrom_mid (by omega)]
    rfl

theorem of_continueFrom_zero (h : continueFrom code size range 0 bs = (p, rest'))
    (hp : p.content = .ok c) (hv : code < 0xD800 ∨ 0xDFFF < code ∧ code < 0x110000) :
    c.toNat = code ∧ bs = rest' := by
  cases h
  cases hp
  exact ⟨toNat_ofNat_of_isValidChar hv, rfl⟩

/-- A character is read from the bytes that write it. -/
theorem encodeChar_of_firstPiece (h : firstPiece lead rest = (p, rest')) (hp : p.content = .ok c) :
    lead :: rest = encodeChar c ++ rest' := by
  rw [firstPiece] at h
  unfold encodeChar
  dsimp only
  cases ht : trailing lead with
  | none =>
    rw [ht] at h
    cases h
    cases hp
  | some n =>
    rw [ht] at h
    obtain ⟨rfl, hl⟩ | ⟨rfl, hl⟩ | ⟨rfl, hl⟩ | ⟨rfl, hl⟩ := trailing_eq_some_iff.1 ht
    · obtain ⟨hc, rfl⟩ := of_continueFrom_zero h hp (by rw [leadBits_zero]; omega)
      rw [leadBits_zero] at hc
      rw [if_pos (by omega), toUInt8_eq hc, List.singleton_append]
    · obtain ⟨b, rest, rfl, hb, h⟩ := exists_of_continueFrom h hp
      rw [mem_secondRange_iff] at hb
      rw [leadBits_one] at h
      obtain ⟨hc, rfl⟩ := of_continueFrom_zero h hp (by omega)
      rw [if_neg (by omega), if_pos (by omega), toUInt8_eq (b := lead) (by omega),
        toUInt8_eq (b := b) (by omega)]
      rfl
    · obtain ⟨b, rest, rfl, hb, h⟩ := exists_of_continueFrom h hp
      obtain ⟨b₂, rest, rfl, hb₂, h⟩ := exists_of_continueFrom h hp
      rw [mem_secondRange_iff] at hb
      simp only [UInt8.reduceToNat] at hb₂
      rw [leadBits_two] at h
      obtain ⟨hc, rfl⟩ := of_continueFrom_zero h hp (by omega)
      rw [if_neg (by omega), if_neg (by omega), if_pos (by omega),
        toUInt8_eq (b := lead) (by omega), toUInt8_eq (b := b) (by omega),
        toUInt8_eq (b := b₂) (by omega)]
      rfl
    · obtain ⟨b, rest, rfl, hb, h⟩ := exists_of_continueFrom h hp
      obtain ⟨b₂, rest, rfl, hb₂, h⟩ := exists_of_continueFrom h hp
      obtain ⟨b₃, rest, rfl, hb₃, h⟩ := exists_of_continueFrom h hp
      rw [mem_secondRange_iff] at hb
      simp only [UInt8.reduceToNat] at hb₂ hb₃
      rw [leadBits_three] at h
      obtain ⟨hc, rfl⟩ := of_continueFrom_zero h hp (by omega)
      rw [if_neg (by omega), if_neg (by omega), if_neg (by omega),
        toUInt8_eq (b := lead) (by omega), toUInt8_eq (b := b) (by omega),
        toUInt8_eq (b := b₂) (by omega), toUInt8_eq (b := b₃) (by omega)]
      rfl

/-! ### Whole texts -/

theorem characters_eq_ok_iff {position : Nat} {found cs : List Char} {ps : List Piece} :
    characters position found ps = .ok cs ↔
      ∃ ds : List Char, ps.map Piece.content = ds.map .ok ∧ cs = found.reverse ++ ds := by
  induction ps generalizing position found with
  | nil =>
    simp only [characters, Except.ok.injEq, List.map_nil, List.nil_eq, List.map_eq_nil_iff]
    constructor
    · rintro rfl
      exact ⟨[], rfl, (List.append_nil _).symm⟩
    · rintro ⟨ds, rfl, rfl⟩
      exact (List.append_nil _).symm
  | cons p ps ih =>
    rw [characters]
    cases hp : p.content with
    | error flaw =>
      constructor
      · intro h
        cases h
      · rintro ⟨ds, h, -⟩
        cases ds with
        | nil => cases h
        | cons d ds =>
          rw [List.map_cons, hp] at h
          cases h
    | ok d =>
      dsimp only
      rw [ih]
      constructor
      · rintro ⟨ds, h, rfl⟩
        exact ⟨d :: ds, by rw [List.map_cons, List.map_cons, hp, h], by simp⟩
      · rintro ⟨ds, h, rfl⟩
        cases ds with
        | nil => cases h
        | cons e ds =>
          rw [List.map_cons, List.map_cons, hp] at h
          obtain ⟨hd, htl⟩ := List.cons.inj h
          cases hd
          exact ⟨ds, htl, by simp⟩

theorem content_pieces_eq_iff {cs : List Char} :
    (pieces bs).map Piece.content = cs.map .ok ↔ bs = encode cs := by
  induction cs generalizing bs with
  | nil =>
    cases bs with
    | nil => simp [pieces_nil, encode]
    | cons lead rest => simp [pieces_cons, encode]
  | cons c cs ih =>
    rw [encode, List.flatMap_cons, ← encode, List.map_cons]
    constructor
    · intro h
      cases bs with
      | nil =>
        rw [pieces_nil] at h
        cases h
      | cons lead rest =>
        rw [pieces_cons, List.map_cons] at h
        obtain ⟨hc, h⟩ := List.cons.inj h
        rw [← ih.1 h, encodeChar_of_firstPiece (Prod.eta _).symm hc]
    · rintro rfl
      obtain ⟨lead, tail, size, hl, h⟩ := firstPiece_encodeChar c (encode cs)
      rw [hl, List.cons_append, pieces_cons, h, List.map_cons, ih.2 rfl]

/-- Strict decoding accepts exactly the bytes that encoding writes. -/
theorem decode_eq_ok_iff {cs : List Char} : decode bs = .ok cs ↔ bs = encode cs := by
  have h : decode bs = .ok cs ↔ characters 0 [] (pieces bs) = .ok cs := by
    rw [decode]
    split <;> simp_all
  rw [h, characters_eq_ok_iff, ← content_pieces_eq_iff]
  simp

theorem decode_encode (cs : List Char) : decode (encode cs) = .ok cs := decode_eq_ok_iff.2 rfl

theorem map_char_of_content {ps : List Piece} {cs : List Char}
    (h : ps.map Piece.content = cs.map .ok) : ps.map Piece.char = cs := by
  induction cs generalizing ps with
  | nil => rw [List.map_eq_nil_iff.1 h, List.map_nil]
  | cons c cs ih =>
    obtain ⟨p, ps', rfl, hp, hps⟩ := List.map_eq_cons_iff.1 h
    rw [List.map_cons, ih hps, Piece.char, hp]

/-- Lossy decoding loses nothing of what encoding writes. -/
theorem decodeLossy_encode (cs : List Char) : decodeLossy (encode cs) = cs :=
  map_char_of_content (content_pieces_eq_iff.2 rfl)

end GuestLink.Utf8
