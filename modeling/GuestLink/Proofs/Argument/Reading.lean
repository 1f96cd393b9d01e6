import GuestLink.Numeral
import GuestLink.Proofs.Argument.Building
import GuestLink.Proofs.Text.Split

/-!
# Reading a command line back

`Argument.readWords?` reads the words of a command line as the emulator does: it takes the hyphen
off a word, looks the option up and, unless that is a flag, takes the next word as its value, which
it cuts at commas and equals signs where the option takes items.

Arguments are written as what they say (`encode_eq_ok_iff`): `spell` writes an option and its value.
Reading undoes writing (`readWords?_encode`), whatever the values look like.
-/

namespace GuestLink

theorem IsSafe.not_mem {s : String} (h : IsSafe s) {c : Char} (hc : isSafeChar c = false) :
    c ∉ s.toList := fun hm => by
  rw [List.all_eq_true.1 h.2 c hm] at hc
  cases hc

namespace Argument

/-- The value of an option, as it is understood. -/
inductive Value where
  | none
  | string (text : String)
  | uint (n : Nat)
  | items (texts : List (String × String))
  deriving DecidableEq

/-- A value as it is written; empty for a flag. -/
def Value.text : Value → String
  | .none => ""
  | .string text => text
  | .uint n => toString n
  | .items texts => ",".intercalate (texts.map fun t => t.1 ++ "=" ++ t.2)

/-- The words of an option with its value. -/
def spell : String × Value → List String
  | (option, .none) => ["-" ++ option]
  | (option, value) => ["-" ++ option, value.text]

/-- What an argument says. -/
def value : Argument → Value
  | .flag .. => .none
  | .string _ text _ => .string text.text
  | .uint _ n _ => .uint n
  | .keyValue _ items _ => .items (items.map itemTexts)

/-- An argument as its option and what it says of it. -/
def meaning (a : Argument) : String × Value := (a.option, a.value)

theorem meaning_of_ofFlag {option : String} {a : Argument} (h : ofFlag option = .ok a) :
    a.meaning = (option, .none) := by
  obtain ⟨known, rfl⟩ := ofFlag_eq_ok_iff.1 h
  rfl

theorem meaning_of_fixedFlag {option : String} {a : Argument} (h : fixedFlag option = .ok a) :
    a.meaning = (option, .none) := by
  obtain ⟨known, rfl⟩ := fixedFlag_eq_ok_iff.1 h
  rfl

theorem meaning_of_ofString {option value : String} {a : Argument}
    (h : ofString option value = .ok a) : a.meaning = (option, .string value) := by
  obtain ⟨text, known, rfl, rfl⟩ := ofString_eq_ok_iff.1 h
  rfl

theorem meaning_of_ofUint {limit : DigitLimit} {option : String} {n : Nat} {a : Argument}
    (h : ofUint limit option (.int n) = .ok a) : a.meaning = (option, .uint n) := by
  obtain ⟨k, known, hk, rfl⟩ := ofUint_eq_ok_iff.1 h
  rw [Int.ofNat_inj.1 (Datum.int.inj hk)]
  rfl

theorem meaning_of_ofItems {option : String} {texts : List (String × String)} {a : Argument}
    (h : ofItems option texts = .ok a) : a.meaning = (option, .items texts) := by
  obtain ⟨items, known, rfl, rfl⟩ := ofItems_eq_ok_iff.1 h
  rfl

/-- The option that a word names, with the kind of its value. -/
def readOption? (word : String) : Option (String × ValueKind) :=
  match word.toList with
  | '-' :: cs => (optionKind (String.ofList cs)).map (String.ofList cs, ·)
  | _ => .none

/-- The key and the value of an item. -/
def readItem? (cs : List Char) : Option (String × String) :=
  match Text.splitAt '=' cs with
  | [key, value] => some (String.ofList key, String.ofList value)
  | _ => .none

/-- The items of a list; the empty text is the empty list. -/
def readItems? (cs : List Char) : Option (List (String × String)) :=
  if cs = [] then some [] else (Text.splitAt ',' cs).mapM readItem?

/-- The value that a word gives to an option of that kind. -/
def readValue? (kind : ValueKind) (word : String) : Option Value :=
  match kind with
  | .none => .none
  | .string => some (.string word)
  | .uint => (Numeral.readDigits? word.toList).map .uint
  | .keyValue => (readItems? word.toList).map .items

/-- The options and values that words write. -/
def readWords? : List String → Option (List (String × Value))
  | [] => some []
  | word :: rest =>
    match readOption? word with
    | .none => .none
    | some (option, .none) => (readWords? rest).map ((option, .none) :: ·)
    | some (option, kind) =>
      match rest with
      | [] => .none
      | text :: rest => do return (option, ← readValue? kind text) :: (← readWords? rest)

/-! ### Values -/

theorem readDigits?_toString (n : Nat) : Numeral.readDigits? (toString n).toList = some n := by
  have hd : ∀ c ∈ Nat.toDigits 10 n, c.isDigit = true :=
    fun c hc => Nat.isDigit_of_mem_toDigits (by decide) (by decide) hc
  rw [Nat.toString_eq_ofList_toDigits, String.toList_ofList, Numeral.readDigits?,
    List.all_eq_true.2 hd, Nat.ofDigitChars_ten_toDigits]
  simp

theorem readItem?_itemText (item : Item) :
    readItem? (itemText item).toList = some (itemTexts item) := by
  have hk : '=' ∉ item.key.text.toList := item.key.isSafe.not_mem (by decide)
  have hv : '=' ∉ item.value.text.toList := item.value.isSafe.not_mem (by decide)
  have ht : (itemText item).toList = item.key.text.toList ++ '=' :: item.value.text.toList := by
    simp [itemText]
  rw [readItem?, ht, Text.splitAt_append_cons hk, Text.splitAt_of_not_mem hv]
  simp [itemTexts]

theorem comma_not_mem_itemText (item : Item) : ',' ∉ (itemText item).toList := by
  have hk : ',' ∉ item.key.text.toList := item.key.isSafe.not_mem (by decide)
  have hv : ',' ∉ item.value.text.toList := item.value.isSafe.not_mem (by decide)
  simp [itemText, hk, hv]

theorem itemText_ne_nil (item : Item) : (itemText item).toList ≠ [] := by
  simp [itemText]

theorem mapM_readItem? (items : List Item) :
    (items.map fun i => (itemText i).toList).mapM readItem? = some (items.map itemTexts) := by
  induction items with
  | nil => rfl
  | cons i items ih =>
    rw [List.map_cons, List.mapM_cons, readItem?_itemText, ih]
    rfl

theorem readItems?_intercalate (items : List Item) :
    readItems? (",".intercalate (items.map itemText)).toList = some (items.map itemTexts) := by
  rcases items with _ | ⟨item, items⟩
  · rfl
  · have hl : (",".intercalate ((item :: items).map itemText)).toList =
        [','].intercalate ((item :: items).map fun i => (itemText i).toList) := by
      rw [String.toList_intercalate, List.map_map]
      rfl
    have hs : Text.splitAt ',' ([','].intercalate ((item :: items).map fun i => (itemText i).toList))
        = (item :: items).map fun i => (itemText i).toList := by
      refine Text.splitAt_intercalate (by simp) fun p hp => ?_
      obtain ⟨i, -, rfl⟩ := List.mem_map.1 hp
      exact comma_not_mem_itemText i
    -- the empty text is cut into one empty part, which no item is
    have hne : [','].intercalate ((item :: items).map fun i => (itemText i).toList) ≠ [] := by
      intro e
      rw [e, Text.splitAt_of_not_mem List.not_mem_nil, List.map_cons] at hs
      exact itemText_ne_nil item (List.cons.inj hs).1.symm
    rw [readItems?, hl, if_neg hne, hs, mapM_readItem?]

/-! ### Words -/

theorem readOption?_hyphen (option : String) :
    readOption? ("-" ++ option) = (optionKind option).map (option, ·) := by
  have h : ("-" ++ option).toList = '-' :: option.toList := by simp
  rw [readOption?, h]
  simp

theorem text_value_keyValue (items : List Item) :
    (Value.items (items.map itemTexts)).text = ",".intercalate (items.map itemText) := by
  rw [Value.text, List.map_map]
  rfl

theorem readWords?_spell_append (a : Argument) (rest : List String) :
    readWords? (spell a.meaning ++ rest) = (readWords? rest).map (a.meaning :: ·) := by
  cases a with
  | flag option known =>
    simp only [spell, meaning, value, Argument.option, List.cons_append, List.nil_append,
      readWords?, readOption?_hyphen, known, Option.map_some]
  | string option text known =>
    simp only [spell, meaning, value, Argument.option, List.cons_append, List.nil_append,
      readWords?, readOption?_hyphen, known, Option.map_some]
    cases readWords? rest <;> rfl
  | uint option n known =>
    simp only [spell, meaning, value, Argument.option, Value.text, List.cons_append,
      List.nil_append, readWords?, readOption?_hyphen, known, Option.map_some, readValue?,
      readDigits?_toString]
    cases readWords? rest <;> rfl
  | keyValue option items known =>
    simp only [spell, meaning, value, Argument.option, text_value_keyValue, List.cons_append,
      List.nil_append, readWords?, readOption?_hyphen, known, Option.map_some, readValue?,
      readItems?_intercalate]
    cases readWords? rest <;> rfl

theorem readWords?_flatMap_spell (args : List Argument) :
    readWords? ((args.map meaning).flatMap spell) = some (args.map meaning) := by
  induction args with
  | nil => rfl
  | cons a args ih =>
    rw [List.map_cons, List.flatMap_cons, readWords?_spell_append, ih]
    rfl

/-! ### Writing -/

variable {limit : DigitLimit} {a : Argument} {args : List Argument} {words : List String}

/-- Whether a value, if it is a number, is written. -/
def Value.Fits (limit : DigitLimit) : Value → Prop
  | .uint n => limit.Admits n
  | .none | .string _ | .items _ => True

/-- Whether the number of an argument, if it has one, is written. -/
def Fits (limit : DigitLimit) (a : Argument) : Prop := a.value.Fits limit

theorem words_eq_ok_iff :
    a.words limit = .ok words ↔ a.Fits limit ∧ words = spell a.meaning := by
  cases a with
  | flag | string => simp [Argument.words, valueText, Except.map, Fits, Value.Fits, eq_comm,
      spell, meaning, value, Argument.option, Value.text]
  | keyValue option items known =>
    simp [Argument.words, valueText, Except.map, Fits, Value.Fits, eq_comm, spell, meaning, value,
      Argument.option, text_value_keyValue]
  | uint option n known =>
    simp only [Argument.words, valueText, Except.map_eq_ok_iff, Except.mapError_eq_ok_iff,
      DigitLimit.write_eq_ok_iff]
    constructor
    · rintro ⟨_, ⟨h, rfl⟩, rfl⟩
      exact ⟨h, rfl⟩
    · rintro ⟨h, rfl⟩
      exact ⟨_, ⟨h, rfl⟩, rfl⟩

theorem encode_eq_ok_iff : encode limit args = .ok words ↔
    (∀ a ∈ args, a.Fits limit) ∧ words = (args.map meaning).flatMap spell := by
  rw [encode, Except.map_eq_ok_iff]
  simp only [Except.mapM_eq_ok_iff, words_eq_ok_iff, List.flatMap_map]
  constructor
  · rintro ⟨parts, hparts, rfl⟩
    obtain ⟨hfits, hparts⟩ := (List.forall₂_and_left _ _).1 hparts
    obtain rfl : parts = args.map fun a => spell a.meaning := by
      rw [← List.forall₂_eq_eq_eq, List.forall₂_map_right_iff]
      exact hparts.flip
    exact ⟨hfits, rfl⟩
  · rintro ⟨hfits, rfl⟩
    refine ⟨args.map fun a => spell a.meaning, ?_, rfl⟩
    rw [List.forall₂_map_right_iff, List.forall₂_same]
    exact fun a ha => ⟨hfits a ha, rfl⟩

/-- Writing fails over numbers only. -/
theorem exists_excess_of_encode {fault : ArgumentFault} (h : encode limit args = .error fault) :
    ∃ e, fault = .excess e := by
  obtain ⟨-, a, -, -, -, ha⟩ := Except.mapM_eq_error_iff.1 (Except.map_eq_error_iff.1 h)
  cases a with
  | uint option n known =>
    obtain ⟨e, -, rfl⟩ := Except.mapError_eq_error_iff.1 (Except.map_eq_error_iff.1 ha)
    exact ⟨e, rfl⟩
  | flag | string | keyValue => cases ha

/-- Reading undoes writing. -/
theorem readWords?_encode (h : encode limit args = .ok words) :
    readWords? words = some (args.map meaning) := by
  obtain ⟨-, rfl⟩ := encode_eq_ok_iff.1 h
  exact readWords?_flatMap_spell args

end Argument

end GuestLink
