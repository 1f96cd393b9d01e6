import GuestLink.Argument
import GuestLink.Proofs.Digits

/-!
# When an argument can be built

Each constructor of arguments succeeds for the options that take its kind of value, and then on
exactly the values that may be written without escapes.  What it refuses is reported as an invalid
argument (`ArgumentFault.IsRefusal`), unless the report would have to show an integer that is not
written.
-/

namespace GuestLink

/-! ### The characters of safe texts -/

/-- The characters that may be written without escapes. -/
def safeAlphabet : List Char :=
  "ABCDEFGHIJKLMNOPQRSTUVWXYZabcdefghijklmnopqrstuvwxyz0123456789_.:/@+-".toList

theorem toNat_lt_of_isAlphanum {c : Char} (h : c.isAlphanum = true) : c.toNat < 128 := by
  have lt_of_le (d : Char) (hd : d.val < 128) (hle : c.val ≤ d.val) : c.toNat < 128 :=
    UInt32.lt_iff_toNat_lt.1 (UInt32.lt_of_le_of_lt hle hd)
  rcases Bool.or_eq_true_iff.1 h with h | h
  · rcases Bool.or_eq_true_iff.1 h with h | h
    · exact lt_of_le 'Z' (by decide) (of_decide_eq_true h).2
    · exact lt_of_le 'z' (by decide) (of_decide_eq_true (Bool.and_eq_true_iff.1 h).2)
  · exact lt_of_le '9' (by decide) (of_decide_eq_true (Bool.and_eq_true_iff.1 h).2)

theorem toNat_lt_of_isSafeChar {c : Char} (h : isSafeChar c = true) : c.toNat < 128 := by
  simp only [isSafeChar, Bool.or_eq_true, beq_iff_eq] at h
  rcases h with ((((((h | rfl) | rfl) | rfl) | rfl) | rfl) | rfl) | rfl
  · exact toNat_lt_of_isAlphanum h
  all_goals decide

theorem isSafeChar_iff_mem {c : Char} : isSafeChar c = true ↔ c ∈ safeAlphabet := by
  -- both sides hold of ASCII characters only, and these can be gone through
  have hascii : ∀ n < 128, isSafeChar (Char.ofNat n) = decide (Char.ofNat n ∈ safeAlphabet) := by
    decide +kernel
  have hmem : safeAlphabet.all (·.toNat < 128) = true := by decide +kernel
  constructor
  · intro h
    have := hascii _ (toNat_lt_of_isSafeChar h)
    rw [Char.ofNat_toNat, h] at this
    exact of_decide_eq_true this.symm
  · intro h
    have := hascii _ (of_decide_eq_true (List.all_eq_true.1 hmem c h))
    rw [Char.ofNat_toNat, decide_eq_true h] at this
    exact this

theorem isSafe_iff {s : String} : IsSafe s ↔ s ≠ "" ∧ ∀ c ∈ s.toList, c ∈ safeAlphabet := by
  simp only [IsSafe, List.all_eq_true, isSafeChar_iff_mem]

/-! ### Checks -/

theorem checkOption_eq_ok_iff {option : String} {kind : ValueKind}
    {known : PLift (optionKind option = some kind)} :
    checkOption option kind = .ok known ↔ optionKind option = some kind := by
  refine ⟨fun _ => known.down, fun h => ?_⟩
  unfold checkOption
  revert known
  generalize optionKind option = found at h
  subst h
  rintro ⟨-⟩
  exact dif_pos rfl

theorem checkValue_eq_ok_iff {value : String} {text : SafeText} :
    checkValue value = .ok text ↔ text.text = value := by
  unfold checkValue
  split_ifs with h h'
  · rw [Except.ok.injEq]
    constructor
    · rintro rfl
      rfl
    · rintro rfl
      rfl
  · exact iff_of_false nofun fun e => h (e ▸ text.isSafe)
  · exact iff_of_false nofun fun e => h (e ▸ text.isSafe)

namespace Argument

/-- The texts of an item. -/
def itemTexts (item : Item) : String × String := (item.key.text, item.value.text)

theorem checkItem_eq_ok_iff {option : String} {texts : String × String} {item : Item} :
    checkItem option texts = .ok item ↔ texts = itemTexts item := by
  obtain ⟨key, value⟩ := texts
  obtain ⟨itemKey, itemValue⟩ := item
  simp only [checkItem, itemTexts, Prod.mk.injEq]
  by_cases hk : key = ""
  · simp only [hk, if_true]
    exact iff_of_false nofun fun e => itemKey.isSafe.1 e.1.symm
  by_cases hv : value = ""
  · simp only [hk, hv, if_true, if_false]
    exact iff_of_false nofun fun e => itemValue.isSafe.1 e.2.symm
  simp only [hk, hv, if_false, Except.bind_eq_ok_iff, Except.pure_eq_ok_iff,
    Except.mapError_eq_ok_iff, checkValue_eq_ok_iff]
  constructor
  · rintro ⟨k, hk, v, hv, e⟩
    cases e
    exact ⟨hk.symm, hv.symm⟩
  · rintro ⟨hk, hv⟩
    exact ⟨itemKey, hk.symm, itemValue, hv.symm, rfl⟩

theorem ofFlag_eq_ok_iff {option : String} {a : Argument} :
    ofFlag option = .ok a ↔ ∃ known, a = .flag option known := by
  simp only [ofFlag, Except.bind_eq_ok_iff, Except.mapError_eq_ok_iff, checkOption_eq_ok_iff,
    Except.pure_eq_ok_iff]
  constructor
  · rintro ⟨⟨known⟩, -, rfl⟩
    exact ⟨known, rfl⟩
  · rintro ⟨known, rfl⟩
    exact ⟨⟨known⟩, known, rfl⟩

theorem ofString_eq_ok_iff {option value : String} {a : Argument} :
    ofString option value = .ok a ↔
      ∃ (text : SafeText) (known : _), text.text = value ∧ a = .string option text known := by
  simp only [ofString, Except.bind_eq_ok_iff, Except.mapError_eq_ok_iff, checkOption_eq_ok_iff,
    checkValue_eq_ok_iff, Except.pure_eq_ok_iff]
  constructor
  · rintro ⟨⟨known⟩, -, text, ht, rfl⟩
    exact ⟨text, known, ht, rfl⟩
  · rintro ⟨text, known, ht, rfl⟩
    exact ⟨⟨known⟩, known, text, ht, rfl⟩

theorem fixedFlag_eq_ok_iff {option : String} {a : Argument} :
    fixedFlag option = .ok a ↔ ∃ known, a = .flag option known :=
  Except.mapError_eq_ok_iff.trans ofFlag_eq_ok_iff

theorem ofUint_eq_ok_iff {limit : DigitLimit} {option : String} {value : Datum} {a : Argument} :
    ofUint limit option value = .ok a ↔
      ∃ (n : Nat) (known : _), value = .int n ∧ a = .uint option n known := by
  simp only [ofUint, Except.bind_eq_ok_iff, Except.mapError_eq_ok_iff, checkOption_eq_ok_iff]
  constructor
  · rintro ⟨⟨known⟩, -, h⟩
    split at h
    · rename_i n
      exact ⟨n, known, rfl, (Except.pure_eq_ok_iff.1 h).symm⟩
    · obtain ⟨literal, -, h⟩ := Except.bind_eq_ok_iff.1 h
      exact absurd h Except.throw_ne_ok
  · rintro ⟨n, known, rfl, rfl⟩
    exact ⟨⟨known⟩, known, rfl⟩

theorem ofItems_eq_ok_iff {option : String} {texts : List (String × String)} {a : Argument} :
    ofItems option texts = .ok a ↔
      ∃ (items : List Item) (known : _), texts = items.map itemTexts ∧
        a = .keyValue option items known := by
  have hitems (items : List Item) :
      texts.mapM (checkItem option) = .ok items ↔ texts = items.map itemTexts := by
    simp only [Except.mapM_eq_ok_iff, checkItem_eq_ok_iff]
    rw [← List.forall₂_map_right_iff, List.forall₂_eq_eq_eq]
  simp only [ofItems, Except.bind_eq_ok_iff, Except.mapError_eq_ok_iff, checkOption_eq_ok_iff,
    Except.pure_eq_ok_iff, hitems]
  constructor
  · rintro ⟨⟨known⟩, -, items, rfl, rfl⟩
    exact ⟨items, known, rfl, rfl⟩
  · rintro ⟨items, known, rfl, rfl⟩
    exact ⟨⟨known⟩, known, items, rfl, rfl⟩

/-- Whether the keys and values of items are all safe. -/
def AllSafe (texts : List (String × String)) : Prop := ∀ t ∈ texts, IsSafe t.1 ∧ IsSafe t.2

instance (texts : List (String × String)) : Decidable (AllSafe texts) :=
  inferInstanceAs (Decidable (∀ t ∈ texts, IsSafe t.1 ∧ IsSafe t.2))

/-- Between items that are safe, an item with a safe key is safe if its value is. -/
theorem allSafe_insert_iff (before : List (String × String)) (key value : String)
    (after : List (String × String)) (hb : AllSafe before) (hk : IsSafe key) (ha : AllSafe after) :
    AllSafe (before ++ (key, value) :: after) ↔ IsSafe value := by
  constructor
  · intro h
    exact (h (key, value) (by simp)).2
  · intro h t ht
    rw [List.mem_append, List.mem_cons] at ht
    rcases ht with ht | rfl | ht
    exacts [hb t ht, ⟨hk, h⟩, ha t ht]

theorem exists_items_iff {texts : List (String × String)} :
    (∃ items : List Item, texts = items.map itemTexts) ↔ AllSafe texts := by
  constructor
  · rintro ⟨items, rfl⟩ t ht
    obtain ⟨item, -, rfl⟩ := List.mem_map.1 ht
    exact ⟨item.key.isSafe, item.value.isSafe⟩
  · intro (h : ∀ t ∈ texts, IsSafe t.1 ∧ IsSafe t.2)
    refine ⟨texts.pmap (fun t ht => ⟨⟨t.1, ht.1⟩, ⟨t.2, ht.2⟩⟩) h, ?_⟩
    rw [List.map_pmap]
    exact (List.pmap_eq_self.2 fun _ _ => rfl).symm

theorem exists_ofItems_iff {option : String} {texts : List (String × String)} :
    (∃ a, ofItems option texts = .ok a) ↔
      optionKind option = some .keyValue ∧ AllSafe texts := by
  rw [← exists_items_iff]
  constructor
  · rintro ⟨a, h⟩
    obtain ⟨items, known, ht, -⟩ := ofItems_eq_ok_iff.1 h
    exact ⟨known, items, ht⟩
  · rintro ⟨known, items, ht⟩
    exact ⟨_, ofItems_eq_ok_iff.2 ⟨items, known, ht, rfl⟩⟩

end Argument

/-! ### Refusals -/

variable {fault : ArgumentFault}

/-- Whether the fault is reported as an invalid argument. -/
def ArgumentFault.IsRefusal (fault : ArgumentFault) : Prop :=
  ∃ r, fault.failure = .report r ∧ r.kind = .argument

theorem ArgumentFault.isRefusal_iff : fault.IsRefusal ↔ ∃ e, fault = .refused e := by
  constructor
  · rintro ⟨r, hr, -⟩
    cases fault with
    | refused e => exact ⟨e, rfl⟩
    | fixed | excess => cases hr
  · rintro ⟨e, rfl⟩
    exact ⟨e.report, rfl, rfl⟩

theorem isRefusal_of_mapError {ε α : Type} {x : Except ε α} {f : ε → ArgumentError}
    (h : x.mapError (.refused ∘ f) = .error fault) : fault.IsRefusal := by
  obtain ⟨e, -, rfl⟩ := Except.mapError_eq_error_iff.1 h
  exact ArgumentFault.isRefusal_iff.2 ⟨f e, rfl⟩

namespace Argument

theorem isRefusal_of_ofFlag {option : String} (h : ofFlag option = .error fault) :
    fault.IsRefusal := by
  obtain h | ⟨known, -, h⟩ := Except.bind_eq_error_iff.1 h
  · exact isRefusal_of_mapError h
  · exact absurd h Except.pure_ne_error

theorem isRefusal_of_ofString {option value : String} (h : ofString option value = .error fault) :
    fault.IsRefusal := by
  obtain h | ⟨known, -, h⟩ := Except.bind_eq_error_iff.1 h
  · exact isRefusal_of_mapError h
  obtain h | ⟨text, -, h⟩ := Except.bind_eq_error_iff.1 h
  · exact isRefusal_of_mapError h
  · exact absurd h Except.pure_ne_error

theorem isRefusal_of_ofItems {option : String} {texts : List (String × String)}
    (h : ofItems option texts = .error fault) : fault.IsRefusal := by
  obtain h | ⟨known, -, h⟩ := Except.bind_eq_error_iff.1 h
  · exact isRefusal_of_mapError h
  obtain h | ⟨items, -, h⟩ := Except.bind_eq_error_iff.1 h
  · exact isRefusal_of_mapError (f := id) h
  · exact absurd h Except.pure_ne_error

/-- What is no natural number is refused, or not even that if it cannot be shown. -/
theorem isRefusal_or_of_ofUint {limit : DigitLimit} {option : String} {value : Datum}
    (h : ofUint limit option value = .error fault) :
    fault.IsRefusal ∨ ∃ e, fault = .excess e ∧ value.literal limit = .error e := by
  rw [ofUint, Except.bind_eq_error_iff] at h
  obtain h | ⟨⟨known⟩, -, h⟩ := h
  · exact .inl (isRefusal_of_mapError h)
  dsimp only at h
  split at h
  · exact absurd h Except.pure_ne_error
  · obtain h | ⟨literal, -, h⟩ := Except.bind_eq_error_iff.1 h
    · obtain ⟨e, he, rfl⟩ := Except.mapError_eq_error_iff.1 h
      exact .inr ⟨e, rfl, he⟩
    · cases h
      exact .inl (ArgumentFault.isRefusal_iff.2 ⟨_, rfl⟩)

end Argument

end GuestLink
