import GuestLink.Proofs.Text.Split
import GuestLink.Serial.Exchange

/-!
# What decides a serial command

A timeline is what happens to a command after it was sent, with the instants.  `decision` goes along
it up to whatever comes first: a status line, the end of the session, the end of the stream or the
deadline.  Other lines are collected and decide nothing (`decision_answered`).
-/

namespace GuestLink.Serial

/-- What may happen to a command that was sent. -/
inductive Happening where
  | line (content : Bytes)
  /-- The stream of the console ends. -/
  | ended
  /-- The session is closed. -/
  | closed
  /-- Nothing but that time has passed. -/
  | nothing
  deriving DecidableEq

/-- What decides a command. -/
inductive Decision where
  /-- Nothing yet. -/
  | pending
  /-- A status line, with what it reports. -/
  | answered (status : Option UInt8)
  /-- The session was closed. -/
  | closed
  /-- The stream ended. -/
  | ended
  /-- The deadline came. -/
  | late
  deriving DecidableEq

/-- What happens, and when. -/
abbrev Timeline := List (Instant × Happening)

/-- What decides a command that was sent with the deadline `d`, and the lines up to then behind
those already `seen`, last first. -/
def decision (d : Deadline) (seen : List Bytes) : Timeline → Decision × List Bytes
  | [] => (.pending, seen)
  | (t, h) :: rest =>
    if d.due t then (.late, seen)
    else
      match h with
      | .closed => (.closed, seen)
      | .ended => (.ended, seen)
      | .nothing => decision d seen rest
      | .line content =>
        match status? content with
        | some status => (.answered status, content :: seen)
        | none => decision d (content :: seen) rest

variable {d : Deadline} {seen : List Bytes} {t : Instant}

theorem decision_cons_of_due (ht : d.due t = true) (h : Happening) (rest : Timeline) :
    decision d seen ((t, h) :: rest) = (.late, seen) := by
  simp only [decision, ht, if_true]

theorem decision_nothing (ht : d.due t = false) (rest : Timeline) :
    decision d seen ((t, .nothing) :: rest) = decision d seen rest := by
  rw [decision, if_neg (by simp [ht])]

theorem decision_closed (ht : d.due t = false) (rest : Timeline) :
    decision d seen ((t, .closed) :: rest) = (.closed, seen) := by
  rw [decision, if_neg (by simp [ht])]

theorem decision_ended (ht : d.due t = false) (rest : Timeline) :
    decision d seen ((t, .ended) :: rest) = (.ended, seen) := by
  rw [decision, if_neg (by simp [ht])]

theorem decision_line_of_none (ht : d.due t = false) {content : Bytes} (hs : status? content = none)
    (rest : Timeline) :
    decision d seen ((t, .line content) :: rest) = decision d (content :: seen) rest := by
  rw [decision, if_neg (by simp [ht]), hs]

theorem decision_line_of_some (ht : d.due t = false) {content : Bytes} {status : Option UInt8}
    (hs : status? content = some status) (rest : Timeline) :
    decision d seen ((t, .line content) :: rest) = (.answered status, content :: seen) := by
  rw [decision, if_neg (by simp [ht]), hs]

/-- What is decided stays decided; until then, the timeline goes on. -/
theorem decision_append (d : Deadline) (seen : List Bytes) (before after : Timeline) :
    decision d seen (before ++ after) =
      match decision d seen before with
      | (.pending, seen') => decision d seen' after
      | r => r := by
  induction before generalizing seen with
  | nil => rfl
  | cons x before ih =>
    obtain ⟨t, h⟩ := x
    rw [List.cons_append]
    by_cases ht : d.due t
    · rw [decision_cons_of_due ht, decision_cons_of_due ht]
    rw [Bool.not_eq_true] at ht
    cases h with
    | closed => rw [decision_closed ht, decision_closed ht]
    | ended => rw [decision_ended ht, decision_ended ht]
    | nothing => rw [decision_nothing ht, decision_nothing ht, ih]
    | line content =>
      cases hs : status? content with
      | some status => rw [decision_line_of_some ht hs, decision_line_of_some ht hs]
      | none => rw [decision_line_of_none ht hs, decision_line_of_none ht hs, ih]

theorem decision_append_of_ne {before : Timeline} {r : Decision × List Bytes}
    (h : decision d seen before = r) (hr : r.1 ≠ .pending) (after : Timeline) :
    decision d seen (before ++ after) = r := by
  rw [decision_append, h]
  split
  · exact absurd rfl hr
  · rfl

theorem decision_append_congr {seen' : List Bytes} {before before' : Timeline}
    (h : decision d seen before = decision d seen' before') (after : Timeline) :
    decision d seen (before ++ after) = decision d seen' (before' ++ after) := by
  rw [decision_append, decision_append, h]

/-- The lines of a timeline. -/
def linesOf (timeline : Timeline) : List Bytes :=
  timeline.filterMap fun
    | (_, .line content) => some content
    | _ => none

@[simp] theorem linesOf_nil : linesOf [] = [] := rfl

@[simp] theorem linesOf_append (before after : Timeline) :
    linesOf (before ++ after) = linesOf before ++ linesOf after := List.filterMap_append

@[simp] theorem linesOf_map_line (t : Instant) (lines : List Bytes) :
    linesOf (lines.map (t, .line ·)) = lines := by
  induction lines with
  | nil => rfl
  | cons l lines ih => exact congrArg (l :: ·) ih

/-- An answer is a status line, and the lines before it are none. -/
theorem decision_answered {timeline : Timeline} {status : Option UInt8} {seen' : List Bytes}
    (h : decision d seen timeline = (.answered status, seen')) :
    ∃ body line, body ++ [line] <+: linesOf timeline ∧ seen' = line :: (body.reverse ++ seen) ∧
      status? line = some status ∧ ∀ l ∈ body, status? l = none := by
  induction timeline generalizing seen with
  | nil => cases h
  | cons x rest ih =>
    obtain ⟨t, x⟩ := x
    by_cases ht : d.due t
    · rw [decision_cons_of_due ht] at h
      cases h
    rw [Bool.not_eq_true] at ht
    cases x with
    | closed => rw [decision_closed ht] at h; cases h
    | ended => rw [decision_ended ht] at h; cases h
    | nothing =>
      rw [decision_nothing ht] at h
      exact ih h
    | line content =>
      cases hs : status? content with
      | some st =>
        rw [decision_line_of_some ht hs] at h
        cases h
        exact ⟨[], content, ⟨linesOf rest, rfl⟩, rfl, hs, fun _ hl => absurd hl List.not_mem_nil⟩
      | none =>
        rw [decision_line_of_none ht hs] at h
        obtain ⟨body, line, hpre, rfl, hline, hbody⟩ := ih h
        refine ⟨content :: body, line, ?_, by simp, hline, ?_⟩
        · exact List.cons_prefix_cons.2 ⟨rfl, hpre⟩
        · rintro l (_ | ⟨_, hl⟩)
          exacts [hs, hbody l hl]

/-- No operation keeps a status line. -/
theorem keeps_eq_false_of_status {line : Bytes} {status : Option UInt8}
    (h : status? line = some status) (operation : Operation) : operation.keeps line = false := by
  cases operation with
  | setup => rfl
  | scan =>
    have hm : (utf8 statusMark).head? = some 83 := by decide +kernel
    rw [status?] at h
    split_ifs at h with hp
    obtain ⟨rest, rfl⟩ := List.isPrefixOf_iff_prefix.1 hp
    rw [Operation.keeps, List.head?_append, hm]
    rfl

/-- The output of an answered command consists of lines before the status line. -/
theorem output_of_answered {e : Exchange} {body : List Bytes} {line : Bytes} {status : Option UInt8}
    (hseen : e.seen = line :: body.reverse) (hline : status? line = some status) :
    e.output = [10].intercalate (body.filter e.operation.keeps) := by
  have hk := keeps_eq_false_of_status hline e.operation
  rw [Exchange.output, Exchange.kept, Exchange.lines, hseen, List.reverse_cons, List.reverse_reverse,
    List.filter_append, List.filter_cons_of_neg (by simp [hk]), List.filter_nil, List.append_nil]

end GuestLink.Serial
