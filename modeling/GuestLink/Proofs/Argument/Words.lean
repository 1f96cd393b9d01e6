import GuestLink.Proofs.Argument.Reading

/-!
# The words of an option

Where no value looks like an option, an option that is said once stands once among the words, in
front of its value (`carriesOnce_spell`).
-/

namespace GuestLink.Argument

/-- Whether `word` stands once among `words`, and `value` next to it. -/
def CarriesOnce (words : List String) (word value : String) : Prop :=
  ∃ front back, words = front ++ word :: value :: back ∧ word ∉ front ∧ word ∉ value :: back

variable {said : List (String × Value)} {option : String} {value : Value}

/-- Whether no value could be taken for an option. -/
def HyphenFree (said : List (String × Value)) : Prop :=
  ∀ o ∈ said, o.2.text.toList.head? ≠ some '-'

theorem head?_hyphen (option : String) : ("-" ++ option).toList.head? = some '-' := by simp

theorem not_mem_flatMap_spell (hsaid : HyphenFree said) (hoption : ∀ o ∈ said, o.1 ≠ option) :
    "-" ++ option ∉ said.flatMap spell := by
  intro hm
  obtain ⟨⟨option', value⟩, ho, hm⟩ := List.mem_flatMap.1 hm
  have hword : "-" ++ option = "-" ++ option' ∨ "-" ++ option = value.text := by
    cases value with
    | none => exact .inl (List.mem_singleton.1 hm)
    | _ => simpa [spell] using hm
  rcases hword with hword | hword
  · rw [String.append_right_inj] at hword
    exact hoption _ ho hword.symm
  · exact hsaid _ ho (hword ▸ head?_hyphen option)

theorem carriesOnce_spell (hvalue : value ≠ .none) (hfree : HyphenFree said)
    (honce : (said.filter fun o => o.1 = option) = [(option, value)]) :
    CarriesOnce (said.flatMap spell) ("-" ++ option) value.text := by
  obtain ⟨front, back, rfl, hfront, -, hback⟩ := List.filter_eq_cons_iff.1 honce
  have hspell : spell (option, value) = ["-" ++ option, value.text] := by
    cases value with
    | none => contradiction
    | _ => rfl
  refine ⟨front.flatMap spell, back.flatMap spell, by simp [hspell], ?_, ?_⟩
  · apply not_mem_flatMap_spell
    · exact fun o ho => hfree o (by simp [ho])
    · simpa using hfront
  · rw [List.mem_cons, not_or]
    constructor
    · intro h
      exact hfree (option, value) (by simp) (h ▸ head?_hyphen option)
    · apply not_mem_flatMap_spell
      · exact fun o ho => hfree o (by simp [ho])
      · simpa using List.filter_eq_nil_iff.1 hback

/-- A list of items begins like its first key. -/
theorem head?_text_items {key value : String} (hkey : key ≠ "") (texts : List (String × String)) :
    (Value.items ((key, value) :: texts)).text.toList.head? = key.toList.head? := by
  have hne : key.toList ≠ [] := by simpa using hkey
  obtain ⟨c, cs, hcons⟩ := List.exists_cons_of_ne_nil hne
  cases texts <;> simp [Value.text, hcons]

end GuestLink.Argument
