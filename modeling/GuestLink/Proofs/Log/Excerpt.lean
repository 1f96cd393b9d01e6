import GuestLink.Log.Format
import GuestLink.Proofs.Numeral
import GuestLink.Proofs.Text.Line

/-!
# Excerpts of console logs

Below a record stand the last lines of its console log, each behind a mark.  As no line of the log
holds a line break, the marked lines are all the lines of the excerpt, wherever its reader takes a
line to end (`excerpt_isMarked`): nothing that a guest writes can pass for a record.
-/

namespace GuestLink.Log

open Text

variable {lines : List (List Char)} {n : Nat}

/-! ### The lines of an excerpt -/

/-- The line that tells how many lines are left out. -/
def omission (skipped : Nat) : List Char :=
  excerptMark ++ (s!"... {skipped} earlier console lines").toList

theorem excerpt_eq (n : Nat) (lines : List (List Char)) :
    excerpt n lines = (if n < lines.length then [omission (lines.length - n)] else []) ++
      (lines.drop (lines.length - n)).map (excerptMark ++ ·) := by
  unfold excerpt
  by_cases h : n < lines.length
  · have hskipped : lines.length - n ≠ 0 := by omega
    simp [h, hskipped, omission]
  · have hskipped : lines.length - n = 0 := by omega
    simp [h, hskipped]

theorem length_shown (n : Nat) (lines : List (List Char)) :
    (lines.drop (lines.length - n)).length = min n lines.length := by
  rw [List.length_drop]
  omega

theorem isPrefix_of_mem_excerpt : ∀ l ∈ excerpt n lines, excerptMark <+: l := by
  intro l hl
  rw [excerpt_eq, List.mem_append] at hl
  rcases hl with hl | hl
  · split at hl
    · rw [List.mem_singleton.1 hl]
      exact List.prefix_append _ _
    · simp at hl
  · obtain ⟨line, -, rfl⟩ := List.mem_map.1 hl
    exact List.prefix_append _ _

theorem isLineBreak_of_isDigit {c : Char} (h : c.isDigit = true) : isLineBreak c = false := by
  have hrange : 48 ≤ c.toNat ∧ c.toNat ≤ 57 := by
    simpa [Char.isDigit, UInt32.le_iff_toNat_le] using h
  simp [isLineBreak]
  omega

theorem not_isLineBreak_omission (skipped : Nat) :
    ∀ c ∈ omission skipped, isLineBreak c = false := by
  have hfront : ∀ c ∈ excerptMark ++ "... ".toList, isLineBreak c = false :=
    not_isLineBreak_of_any (by decide)
  have hback : ∀ c ∈ " earlier console lines".toList, isLineBreak c = false :=
    not_isLineBreak_of_any (by decide)
  have htext : omission skipped = (excerptMark ++ "... ".toList) ++
      ((toString skipped).toList ++ " earlier console lines".toList) := by
    simp only [omission, String.toList_append, List.append_assoc]
    rfl
  intro c hc
  rw [htext] at hc
  rcases List.mem_append.1 hc with hc | hc
  · exact hfront c hc
  · rcases List.mem_append.1 hc with hc | hc
    · exact isLineBreak_of_isDigit ((Numeral.isDecimal_toString skipped).digits c hc)
    · exact hback c hc

/-- Marked lines without breaks have none. -/
theorem not_isLineBreak_excerpt (h : ∀ l ∈ lines, ∀ c ∈ l, isLineBreak c = false) :
    ∀ l ∈ excerpt n lines, ∀ c ∈ l, isLineBreak c = false := by
  have hmark : ∀ c ∈ excerptMark, isLineBreak c = false := not_isLineBreak_of_any (by decide)
  intro l hl c hc
  rw [excerpt_eq, List.mem_append] at hl
  rcases hl with hl | hl
  · split at hl
    · rw [List.mem_singleton.1 hl] at hc
      exact not_isLineBreak_omission _ c hc
    · simp at hl
  · obtain ⟨line, hline, rfl⟩ := List.mem_map.1 hl
    rcases List.mem_append.1 hc with hc | hc
    · exact hmark c hc
    · exact h line (List.mem_of_mem_drop hline) c hc

theorem splitLines_excerpt (n : Nat) (h : ∀ l ∈ lines, ∀ c ∈ l, isLineBreak c = false) :
    splitLines (['\n'].intercalate (excerpt n lines)) = excerpt n lines := by
  apply splitLines_intercalate
  · intro l hl
    have hmark : excerptMark ≠ [] := by decide
    exact (isPrefix_of_mem_excerpt l hl).ne_nil hmark
  · exact not_isLineBreak_excerpt h

theorem excerpt_ne_nil (hn : 0 < n) (h : lines ≠ []) : excerpt n lines ≠ [] := by
  have hshown := length_shown n lines
  have hlength := List.length_pos_iff.2 h
  intro e
  rw [excerpt_eq, List.append_eq_nil_iff, List.map_eq_nil_iff] at e
  rw [e.2, List.length_nil] at hshown
  omega

/-! ### Records with an excerpt -/

theorem format_of_hidden {r : Record} {tail : Int} (h : r.consoleLog = "" ∨ tail ≤ 0) :
    format tail r = plainFormat r := by
  unfold format
  cases plainFormat r with
  | error fault => rfl
  | ok text => simp [h, bind, Except.bind, pure, Except.pure]

theorem format_of_shown {r : Record} (hlog : r.consoleLog ≠ "") (hn : 0 < n) :
    format n r = (plainFormat r).map fun text => text ++ "\n" ++
      String.ofList (['\n'].intercalate (excerpt n (splitLines r.consoleLog.toList))) := by
  have hlines : splitLines r.consoleLog.toList ≠ [] := splitLines_ne_nil (by simpa using hlog)
  obtain ⟨l, ls, hexcerpt⟩ := List.exists_cons_of_ne_nil (excerpt_ne_nil hn hlines)
  unfold format
  cases plainFormat r with
  | error fault => rfl
  | ok text =>
    have hhidden : ¬ (r.consoleLog = "" ∨ (n : Int) ≤ 0) := by
      simp only [hlog, false_or]
      omega
    simp only [bind, Except.bind, pure, Except.pure, Except.map, if_neg hhidden, Int.toNat_natCast,
      hexcerpt]
    rw [List.intercalate_cons_cons, String.ofList_append, String.ofList_append,
      String.ofList_toList]

/-- Without a console log, or if no lines of it are to be shown, a record is written plainly.  Else
the excerpt stands below it, provided that it can be written at all: a line that tells how many
lines of the log are left out, if there are any, and as many of its last lines as are to be shown
and are there, in order, each behind the mark.  These are all the lines that a reader sees, at
whichever line breaks the reader looks; the lines of the log are what stands between its breaks. -/
theorem excerpt_isMarked (r : Record) :
    (∀ tail : Int, r.consoleLog = "" ∨ tail ≤ 0 → format tail r = plainFormat r) ∧
    ∀ n : Nat, 0 < n → r.consoleLog ≠ "" →
      let lines := splitLines r.consoleLog.toList
      ∃ block shown : List (List Char),
        format n r = (plainFormat r).map (fun text =>
          text ++ "\n" ++ String.ofList (['\n'].intercalate block)) ∧
        block = (if n < lines.length then [omission (lines.length - n)] else []) ++
          shown.map (excerptMark ++ ·) ∧
        shown <:+ lines ∧ shown.length = min n lines.length ∧
        splitLines (['\n'].intercalate block) = block ∧
        (∀ l ∈ block, excerptMark <+: l ∧ ∀ c ∈ l, isLineBreak c = false) ∧
        lines.flatten = r.consoleLog.toList.filter (!isLineBreak ·) := by
  refine ⟨fun tail => format_of_hidden, fun n hn hlog => ?_⟩
  intro lines
  have hbreak : ∀ l ∈ lines, ∀ c ∈ l, isLineBreak c = false := fun l => not_isLineBreak_of_mem
  refine ⟨excerpt n lines, lines.drop (lines.length - n), format_of_shown hlog hn,
    excerpt_eq n lines, List.drop_suffix _ _, length_shown n lines, splitLines_excerpt n hbreak,
    fun l hl => ⟨isPrefix_of_mem_excerpt l hl, not_isLineBreak_excerpt hbreak l hl⟩,
    flatten_splitLines _⟩

/-- A record with a console log of four lines, one of them empty and one ending in a rare break. -/
def sampleRecord : Record :=
  { severity := .warning, source := "vmshuttle.instance", message := "Serial command failed",
    fields := [("console_log", .text "boot\r\n\nERROR [now] vmshuttle - forged\u2028no lease")] }

theorem excerpt_isMarked_sample :
    format 0 sampleRecord = plainFormat sampleRecord ∧
    ∃ block shown : List (List Char),
      format (2 : Nat) sampleRecord = (plainFormat sampleRecord).map (fun text =>
        text ++ "\n" ++ String.ofList (['\n'].intercalate block)) ∧
      block = omission 2 :: shown.map (excerptMark ++ ·) ∧ shown.length = 2 ∧
      splitLines (['\n'].intercalate block) = block := by
  have hlength : (splitLines sampleRecord.consoleLog.toList).length = 4 := by decide +kernel
  obtain ⟨hplain, hexcerpt⟩ := excerpt_isMarked sampleRecord
  obtain ⟨block, shown, hformat, hblock, -, hshown, hsplit, -⟩ :=
    hexcerpt 2 (by decide) (by decide)
  rw [hlength] at hblock hshown
  exact ⟨hplain 0 (.inr (by decide)), block, shown, hformat, hblock, hshown, hsplit⟩

end GuestLink.Log
