import GuestLink.Shell.Word
import Mathlib.Data.List.Basic

/-!
# Splitting a command line into words

`Shell.split` is the quoting of a POSIX shell: words stand between unquoted blanks and newlines,
single quotes keep everything, double quotes keep everything but what a backslash protects, and a
backslash outside quotes protects the character behind it.  `Shell.quote` is read back as one word
wherever it stands on the line (`foldl_step_quote`).
-/

namespace GuestLink.Shell

/-- What the next character is read as. -/
inductive Mode where
  /-- Outside quotes. -/
  | bare
  /-- Behind a backslash outside quotes. -/
  | bareEscape
  /-- Between single quotes. -/
  | single
  /-- Between double quotes. -/
  | double
  /-- Behind a backslash between double quotes. -/
  | doubleEscape
  deriving DecidableEq, Repr

/-- A splitter in the middle of a line. -/
structure Splitter where
  mode : Mode
  /-- The word that has begun, last character first. -/
  word : Option (List Char)
  /-- The words before it, last first. -/
  words : List (List Char)
  deriving DecidableEq, Repr

namespace Splitter

/-- Adds a character to the word, which begins with it if none has. -/
def put (s : Splitter) (c : Char) : Splitter :=
  { s with word := some (c :: s.word.getD []) }

/-- Begins a word if none has begun. -/
def begin (s : Splitter) (mode : Mode) : Splitter :=
  { s with mode, word := some (s.word.getD []) }

/-- Ends the word, if one has begun. -/
def finish (s : Splitter) : Splitter :=
  match s.word with
  | none => s
  | some w => { s with word := none, words := w.reverse :: s.words }

/-- Reads one character. -/
def step (s : Splitter) (c : Char) : Splitter :=
  match s.mode with
  | .bare =>
    if c = ' ' ∨ c = '\t' ∨ c = '\n' then s.finish
    else if c = '\'' then s.begin .single
    else if c = '"' then s.begin .double
    else if c = '\\' then { s with mode := .bareEscape }
    else s.put c
  | .bareEscape => { if c = '\n' then s else s.put c with mode := .bare }
  | .single => if c = '\'' then { s with mode := .bare } else s.put c
  | .double =>
    if c = '"' then { s with mode := .bare }
    else if c = '\\' then { s with mode := .doubleEscape }
    else s.put c
  | .doubleEscape =>
    if c = '\n' then { s with mode := .double }
    else if c = '$' ∨ c = '\x60' ∨ c = '"' ∨ c = '\\' then { s.put c with mode := .double }
    else { (s.put '\\').put c with mode := .double }

end Splitter

/-- The words of a command line; `none` when it ends inside quotes or behind a backslash. -/
def split (line : List Char) : Option (List (List Char)) :=
  let s := line.foldl Splitter.step ⟨.bare, none, []⟩
  if s.mode = .bare then some s.finish.words.reverse else none

variable {c : Char} {cs : List Char} {w : Option (List Char)} {ws : List (List Char)}

/-! ### Quoted words -/

theorem ne_of_isPlain (h : isPlain c) {d : Char} (hd : isPlain d = false) : c ≠ d := by
  rintro rfl
  rw [hd] at h
  cases h

theorem step_plain (h : isPlain c) :
    Splitter.step ⟨.bare, w, ws⟩ c = ⟨.bare, some (c :: w.getD []), ws⟩ := by
  have hblank : ¬ (c = ' ' ∨ c = '\t' ∨ c = '\n') := by
    rintro (rfl | rfl | rfl) <;> cases h
  simp only [Splitter.step, if_neg hblank, if_neg (ne_of_isPlain h (d := '\'') rfl),
    if_neg (ne_of_isPlain h (d := '"') rfl), if_neg (ne_of_isPlain h (d := '\\') rfl),
    Splitter.put]

theorem foldl_step_plain (h : cs.all isPlain) (hne : cs ≠ []) :
    cs.foldl Splitter.step ⟨.bare, w, ws⟩ = ⟨.bare, some (cs.reverse ++ w.getD []), ws⟩ := by
  induction cs generalizing w with
  | nil => exact absurd rfl hne
  | cons c cs ih =>
    rw [List.all_cons, Bool.and_eq_true] at h
    rw [List.foldl_cons, step_plain h.1]
    by_cases hcs : cs = []
    · subst hcs
      rfl
    · rw [ih h.2 hcs, List.reverse_cons, List.append_assoc]
      rfl

theorem foldl_step_quoteChar (c : Char) (w : List Char) :
    (quoteChar c).foldl Splitter.step ⟨.single, some w, ws⟩ = ⟨.single, some (c :: w), ws⟩ := by
  unfold quoteChar
  split_ifs with h
  · subst h
    rfl
  · simp only [List.foldl_cons, List.foldl_nil, Splitter.step, if_neg h]
    rfl

theorem foldl_step_flatMap_quoteChar (cs : List Char) (w : List Char) :
    (cs.flatMap quoteChar).foldl Splitter.step ⟨.single, some w, ws⟩ =
      ⟨.single, some (cs.reverse ++ w), ws⟩ := by
  induction cs generalizing w with
  | nil => rfl
  | cons c cs ih =>
    rw [List.flatMap_cons, List.foldl_append, foldl_step_quoteChar, ih, List.reverse_cons,
      List.append_assoc]
    rfl

/-- A quoted text adds itself, and nothing else, to the word in which it stands. -/
theorem foldl_step_quote (cs : List Char) :
    (quote cs).foldl Splitter.step ⟨.bare, w, ws⟩ =
      ⟨.bare, some (cs.reverse ++ w.getD []), ws⟩ := by
  unfold quote
  split_ifs with hnil hplain
  · rw [List.isEmpty_iff.1 hnil]
    rfl
  · exact foldl_step_plain hplain (by simpa using hnil)
  · have hopen : Splitter.step ⟨.bare, w, ws⟩ '\'' = ⟨.single, some (w.getD []), ws⟩ := rfl
    rw [List.cons_append, List.foldl_cons, hopen, List.foldl_append, foldl_step_flatMap_quoteChar]
    rfl

example : split "a'b c'\"d e\"  f\\ g ''".toList =
    some ["ab cd e".toList, "f g".toList, []] := by decide

theorem count_quoteChar {d : Char} (hd : d ≠ '\'') (hd' : d ≠ '"') (c : Char) :
    (quoteChar c).count d = [c].count d := by
  unfold quoteChar
  split_ifs with h
  · subst h
    simp [hd.symm, hd'.symm]
  · rfl

/-- Quoting adds quotes and nothing else. -/
theorem count_quote {d : Char} (hd : d ≠ '\'') (hd' : d ≠ '"') (cs : List Char) :
    (quote cs).count d = cs.count d := by
  have hchars : (cs.flatMap quoteChar).count d = cs.count d := by
    induction cs with
    | nil => rfl
    | cons c cs ih =>
      rw [List.flatMap_cons, List.count_append, count_quoteChar hd hd', ih, ← List.count_append]
      rfl
  unfold quote
  split_ifs with hnil
  · rw [List.isEmpty_iff.1 hnil]
    simp [hd.symm]
  · rfl
  · simp [hd.symm, hchars]

end GuestLink.Shell
