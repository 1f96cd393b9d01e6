import GuestLink.Numeral

/-!
# Decimal numerals

The decimal numeral of a natural number has digits only, of which the first is zero only if it is
the last.  That is how numbers are written (`isDecimal_toString`).
-/

namespace GuestLink.Numeral

/-- Whether a text is the decimal numeral of `n`. -/
structure IsDecimal (s : String) (n : Nat) : Prop where
  ne_empty : s ≠ ""
  digits : ∀ c ∈ s.toList, c.isDigit = true
  /-- No zero leads a longer numeral. -/
  lead : s.toList.head? = some '0' → s = "0"
  value : Nat.ofDigitChars 10 s.toList 0 = n

theorem IsDecimal.not_mem {s : String} {n : Nat} (h : IsDecimal s n) {c : Char}
    (hc : c.isDigit = false) : c ∉ s.toList := by
  intro hm
  simp [h.digits c hm] at hc

theorem eq_zero_of_head?_toDigits (n : Nat) (h : (Nat.toDigits 10 n).head? = some '0') :
    n = 0 := by
  induction n using Nat.strongRecOn with
  | _ n ih =>
    by_cases hn : n < 10
    · rw [Nat.toDigits_of_lt_base hn] at h
      have hdigits : ∀ d < 10, some (Nat.digitChar d) = some '0' → d = 0 := by decide
      exact hdigits n hn h
    · -- the first digit is that of a tenth of the number
      have hne : Nat.toDigits 10 (n / 10) ≠ [] := Nat.toDigits_ne_nil
      obtain ⟨c, cs, htenth⟩ := List.exists_cons_of_ne_nil hne
      rw [Nat.toDigits_of_base_le (by omega) (by omega), htenth] at h
      have hzero := ih (n / 10) (by omega) (by rwa [htenth])
      omega

theorem isDecimal_toString (n : Nat) : IsDecimal (toString n) n := by
  have hlist : (toString n).toList = Nat.toDigits 10 n := by
    rw [Nat.toString_eq_ofList_toDigits, String.toList_ofList]
  refine ⟨?_, ?_, ?_, ?_⟩
  · intro h
    rw [h] at hlist
    exact Nat.toDigits_ne_nil hlist.symm
  · intro c hc
    rw [hlist] at hc
    exact Nat.isDigit_of_mem_toDigits (by decide) (by decide) hc
  · intro h
    rw [hlist] at h
    rw [eq_zero_of_head?_toDigits n h]
    decide
  · rw [hlist, Nat.ofDigitChars_ten_toDigits]

end GuestLink.Numeral
