import GuestLink.Failure
import GuestLink.Proofs.Text.Line
import GuestLink.Proofs.Text.Quoted

/-!
# The log at the end of a message

Whatever a guest printed, `pointSuffix` puts it on one line of printable characters, and all but the
blanks around it can be read off that line; so does `logSuffix`, which is told of strings only
(`logSuffix_isFaithful`).
-/

namespace GuestLink

namespace Text.Point

theorem trim_ofString (s : String) : trim (ofString s) = ofString (strip s) := by
  have hblank : isBlank ∘ Point.char = Text.isBlank := rfl
  simp only [trim, ofString, strip, Text.trim, trimBy, List.dropWhile_map, ← List.map_reverse,
    hblank, String.toList_ofList]

theorem ofString_inj {s t : String} : ofString s = ofString t ↔ s = t := by
  have hchar : Function.Injective Point.char := fun _ _ => Point.char.inj
  rw [ofString, ofString, hchar.list_map.eq_iff, String.toList_inj]

end Text.Point

open Text

/-- The points of the log that a suffix shows. -/
def readSuffix? (s : String) : Option (List Point) :=
  if s = "(no log available)" then some []
  else Point.readLiteral? (s.toList.drop "(log: ".toList.length).dropLast

variable (log : List Point)

theorem pointSuffix_cases :
    (Point.trim log = [] ∧ pointSuffix log = "(no log available)") ∨
      (Point.trim log ≠ [] ∧ pointSuffix log ≠ "(no log available)" ∧
        (pointSuffix log).toList =
          "(log: ".toList ++ Point.literal (Point.trim log) ++ [')']) := by
  by_cases h : Point.trim log = []
  · exact .inl ⟨h, if_pos h⟩
  · have hlist : (pointSuffix log).toList =
        "(log: ".toList ++ Point.literal (Point.trim log) ++ [')'] := by
      simp only [pointSuffix, if_neg h, String.toList_append, String.toList_ofList]
      rfl
    refine .inr ⟨h, fun e => ?_, hlist⟩
    have hsecond : (pointSuffix log).toList[1]? = some 'l' := by
      rw [hlist]
      rfl
    rw [e] at hsecond
    exact absurd hsecond (by decide)

theorem readSuffix?_pointSuffix : readSuffix? (pointSuffix log) = some (Point.trim log) := by
  obtain ⟨htrim, hsuffix⟩ | ⟨-, hne, hlist⟩ := pointSuffix_cases log
  · rw [readSuffix?, if_pos hsuffix, htrim]
  · rw [readSuffix?, if_neg hne, hlist, List.append_assoc, List.drop_left, List.dropLast_concat,
      Point.readLiteral?_literal]

theorem pointSuffix_eq_notice_iff :
    pointSuffix log = "(no log available)" ↔ Point.trim log = [] := by
  obtain ⟨htrim, hsuffix⟩ | ⟨htrim, hne, -⟩ := pointSuffix_cases log
  · exact iff_of_true hsuffix htrim
  · exact iff_of_false hne htrim

theorem isPrintable_of_mem_pointSuffix :
    ∀ c ∈ (pointSuffix log).toList, isPrintable c = true := by
  obtain ⟨-, hsuffix⟩ | ⟨-, -, hlist⟩ := pointSuffix_cases log
  · rw [hsuffix]
    exact List.all_eq_true.1 (by decide)
  · have hfront : ∀ c ∈ "(log: ".toList, isPrintable c = true := List.all_eq_true.1 (by decide)
    rw [hlist, List.forall_mem_append, List.forall_mem_append, List.forall_mem_singleton]
    exact ⟨⟨hfront, Point.isPrintable_of_mem_literal _⟩, by decide⟩

theorem pointSuffix_inj {a b : List Point} :
    pointSuffix a = pointSuffix b ↔ Point.trim a = Point.trim b := by
  constructor
  · intro h
    have hread := congrArg readSuffix? h
    rw [readSuffix?_pointSuffix, readSuffix?_pointSuffix] at hread
    exact Option.some.inj hread
  · intro h
    rw [pointSuffix, pointSuffix, h]

theorem splitLines_pointSuffix :
    splitLines (pointSuffix log).toList = [(pointSuffix log).toList] := by
  refine splitLines_of_forall ?_ fun c hc =>
    not_isLineBreak_of_isPrintable (isPrintable_of_mem_pointSuffix log c hc)
  obtain ⟨-, hsuffix⟩ | ⟨-, -, hlist⟩ := pointSuffix_cases log
  · rw [hsuffix]
    decide
  · rw [hlist]
    simp

/-- How logs end messages: `points` are those of a text of `α`, `strip` takes the blanks off its
ends, and `suffix` is the end of the message for it. -/
structure IsFaithfulSuffix {α : Type} (suffix : α → String) (strip : α → α) (empty : α)
    (points : α → List Point) : Prop where
  /-- The suffix is one line. -/
  line : ∀ log, splitLines (suffix log).toList = [(suffix log).toList]
  /-- Nothing on that line is a control or another unprintable character. -/
  printable : ∀ log, ∀ c ∈ (suffix log).toList,
    isPrintable c = true ∧ isControl c = false ∧ isLineBreak c = false
  /-- Only a blank log is not available. -/
  notice : ∀ log, suffix log = "(no log available)" ↔ strip log = empty
  /-- Two logs have the same suffix exactly if they differ in the blanks around them only. -/
  inj : ∀ a b, suffix a = suffix b ↔ strip a = strip b
  /-- The stripped log can be read off the suffix. -/
  read : ∀ log, readSuffix? (suffix log) = some (points (strip log))

theorem pointSuffix_isFaithful : IsFaithfulSuffix pointSuffix Point.trim [] id where
  line := splitLines_pointSuffix
  printable log c hc :=
    have hprint := isPrintable_of_mem_pointSuffix log c hc
    ⟨hprint, not_isControl_of_isPrintable hprint, not_isLineBreak_of_isPrintable hprint⟩
  notice := pointSuffix_eq_notice_iff
  inj _ _ := pointSuffix_inj
  read := readSuffix?_pointSuffix

/-- Whatever the guest printed, the suffix is one line of printable characters that loses nothing of
the log but the blanks around it.  Surrogates, where a text holds them, are no exception. -/
theorem logSuffix_isFaithful :
    IsFaithfulSuffix logSuffix strip "" Point.ofString ∧
      IsFaithfulSuffix pointSuffix Point.trim [] id ∧
      ∀ log : String, pointSuffix (Point.ofString log) = logSuffix log := by
  have hpoints := pointSuffix_isFaithful
  refine ⟨⟨fun log => hpoints.line _, fun log => hpoints.printable _, fun log => ?_, fun a b => ?_,
    fun log => ?_⟩, hpoints, fun _ => rfl⟩
  · rw [logSuffix, hpoints.notice, Point.trim_ofString]
    exact Point.ofString_inj (t := "")
  · rw [logSuffix, logSuffix, hpoints.inj, Point.trim_ofString, Point.trim_ofString,
      Point.ofString_inj]
  · rw [logSuffix, hpoints.read, Point.trim_ofString]
    rfl

end GuestLink
