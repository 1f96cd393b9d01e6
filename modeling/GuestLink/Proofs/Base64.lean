import GuestLink.Base64
import GuestLink.Proofs.Text.Utf8
import GuestLink.Text.Blank

/-!
# The Base64 round trip

`decode` reads back whatever `encode` writes.  The characters between are ASCII and none is blank.
-/

namespace GuestLink.Base64

variable {n : Nat} {c : Char} {found : List Nat} {count : Nat}

/-! ### The alphabet -/

theorem value?_digit (h : n < 64) : value? (digit n) = some n := by
  revert n
  decide

theorem digit_ne_pad (h : n < 64) : digit n ≠ '=' := by
  revert n
  decide

/-- A character of the alphabet is ASCII and not blank, and so is the padding. -/
def IsGraphic (c : Char) : Prop := c.toNat < 0x80 ∧ ¬ Text.isBlank c

instance : DecidablePred IsGraphic := fun _ => inferInstanceAs (Decidable (_ ∧ _))

theorem isGraphic_digit (h : n < 64) : IsGraphic (digit n) := by
  revert n
  decide

theorem isGraphic_pad : IsGraphic '=' := by decide

/-! ### Groups of six bits -/

/-- The six-bit values of `bs`, the last one filled up with zeros. -/
def sextets : Bytes → List Nat
  | [] => []
  | [a] => [a.toNat * 65536 / 262144, a.toNat * 65536 / 4096 % 64]
  | [a, b] =>
    let n := a.toNat * 65536 + b.toNat * 256
    [n / 262144, n / 4096 % 64, n / 64 % 64]
  | a :: b :: c :: rest =>
    let n := a.toNat * 65536 + b.toNat * 256 + c.toNat
    n / 262144 :: n / 4096 % 64 :: n / 64 % 64 :: n % 64 :: sextets rest

theorem join_sextets (bs : Bytes) : join (sextets bs) = bs := by
  fun_induction sextets bs with
  | case1 => rfl
  | case2 a =>
    have := a.toNat_lt
    rw [join, Utf8.toUInt8_eq (b := a) (by omega)]
  | case3 a b n =>
    have := a.toNat_lt
    have := b.toNat_lt
    rw [join, Utf8.toUInt8_eq (b := a) (by omega), Utf8.toUInt8_eq (b := b) (by omega)]
  | case4 a b c rest n ih =>
    have := a.toNat_lt
    have := b.toNat_lt
    have := c.toNat_lt
    rw [join, ih, Utf8.toUInt8_eq (b := a) (by omega), Utf8.toUInt8_eq (b := b) (by omega),
      Utf8.toUInt8_eq (b := c) (by omega)]

theorem sextetsFrom_digit (h : n < 64) (rest : List Char) :
    sextetsFrom found count 0 false (digit n :: rest) =
      sextetsFrom (n :: found) (count + 1) 0 false rest := by
  rw [sextetsFrom, if_neg (digit_ne_pad h), value?_digit h]
  rfl

theorem sextetsFrom_encode (bs : Bytes) (found : List Nat) {count : Nat} (h : count % 4 = 0) :
    sextetsFrom found count 0 false (encode bs) = .ok (found.reverse ++ sextets bs) := by
  match bs with
  | [] => rw [encode, sextetsFrom, if_pos h, sextets, List.append_nil]
  | [a] =>
    have := a.toNat_lt
    rw [encode, sextetsFrom_digit (by omega), sextetsFrom_digit (by omega), sextetsFrom,
      if_pos rfl, if_neg (by omega), if_pos (by omega), sextetsFrom, if_pos rfl,
      if_neg (by omega), if_neg (by omega)]
    simp [sextets]
  | [a, b] =>
    have := a.toNat_lt
    have := b.toNat_lt
    rw [encode, sextetsFrom_digit (by omega), sextetsFrom_digit (by omega),
      sextetsFrom_digit (by omega), sextetsFrom, if_pos rfl, if_neg (by omega), if_neg (by omega)]
    simp [sextets]
  | a :: b :: c :: rest =>
    have := a.toNat_lt
    have := b.toNat_lt
    have := c.toNat_lt
    rw [encode, sextetsFrom_digit (by omega), sextetsFrom_digit (by omega),
      sextetsFrom_digit (by omega), sextetsFrom_digit (by omega),
      sextetsFrom_encode rest _ (by omega)]
    simp [sextets]

/-! ### Whole texts -/

theorem lt_of_mem_sextets {bs : Bytes} (h : n ∈ sextets bs) : n < 64 := by
  fun_induction sextets bs with
  | case1 => cases h
  | case2 a =>
    have := a.toNat_lt
    simp only [List.mem_cons, List.not_mem_nil, or_false] at h
    omega
  | case3 a b n =>
    have := a.toNat_lt
    have := b.toNat_lt
    simp only [List.mem_cons, List.not_mem_nil, or_false] at h
    omega
  | case4 a b c rest n ih =>
    have := a.toNat_lt
    have := b.toNat_lt
    have := c.toNat_lt
    simp only [List.mem_cons] at h
    rcases h with h | h | h | h | h
    · omega
    · omega
    · omega
    · omega
    · exact ih h

theorem encode_eq_map_append (bs : Bytes) :
    ∃ pads, encode bs = (sextets bs).map digit ++ List.replicate pads '=' := by
  fun_induction sextets bs with
  | case1 => exact ⟨0, rfl⟩
  | case2 a => exact ⟨2, rfl⟩
  | case3 a b n => exact ⟨1, rfl⟩
  | case4 a b c rest n ih =>
    obtain ⟨pads, h⟩ := ih
    exact ⟨pads, by rw [encode, h]; rfl⟩

theorem isGraphic_of_mem_encode {bs : Bytes} (h : c ∈ encode bs) : IsGraphic c := by
  obtain ⟨pads, hb⟩ := encode_eq_map_append bs
  rw [hb, List.mem_append, List.mem_map] at h
  rcases h with ⟨n, hn, rfl⟩ | h
  · exact isGraphic_digit (lt_of_mem_sextets hn)
  · rw [(List.mem_replicate.1 h).2]
    exact isGraphic_pad

theorem encode_eq_nil_iff {bs : Bytes} : encode bs = [] ↔ bs = [] := by
  fun_cases encode bs <;> simp

theorem head?_encode (bs : Bytes) : (encode bs).head? = (sextets bs).head?.map digit := by
  fun_cases sextets bs <;> rfl

theorem head?_encode_ne_pad (bs : Bytes) : (encode bs).head? ≠ some '=' := by
  intro h
  rw [head?_encode] at h
  obtain ⟨n, hn, hd⟩ := Option.map_eq_some_iff.1 h
  exact digit_ne_pad (lt_of_mem_sextets (List.mem_of_mem_head? hn)) hd

/-- Decoding undoes encoding. -/
theorem decode_encode (bs : Bytes) : decode (encode bs) = .ok bs := by
  have hascii : ¬ (encode bs).any (0x80 ≤ ·.toNat) := by
    simp only [List.any_eq_true, decide_eq_true_eq, not_exists, not_and, Nat.not_le]
    exact fun c hc => (isGraphic_of_mem_encode hc).1
  rw [decode, if_neg hascii, if_neg (head?_encode_ne_pad bs), sextetsFrom_encode bs [] rfl]
  exact congrArg Except.ok (join_sextets bs)

/-! ### Characters outside ASCII -/

theorem sextetsFrom_ne_notAscii (found : List Nat) (count pads : Nat) (started : Bool)
    (cs : List Char) : sextetsFrom found count pads started cs ≠ .error .notAscii := by
  fun_induction sextetsFrom found count pads started cs <;> simp_all

theorem decode_eq_notAscii_iff {cs : List Char} :
    decode cs = .error .notAscii ↔ ∃ c ∈ cs, 0x80 ≤ c.toNat := by
  have hany : cs.any (0x80 ≤ ·.toNat) ↔ ∃ c ∈ cs, 0x80 ≤ c.toNat := by simp
  rw [← hany, decode]
  split_ifs with hascii hpad
  · exact iff_of_true rfl hascii
  · exact iff_of_false nofun hascii
  · refine iff_of_false ?_ hascii
    cases h : sextetsFrom [] 0 0 false cs with
    | ok found => nofun
    | error flaw =>
      rintro ⟨⟩
      exact sextetsFrom_ne_notAscii _ _ _ _ _ h

end GuestLink.Base64
