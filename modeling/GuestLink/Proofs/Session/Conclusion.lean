import GuestLink.Proofs.Serial.Timeline
import GuestLink.Proofs.Session.Frame

/-!
# The beginning and the end of a serial command

What a session does when a task sends a command (`MaySend.beginCommand_eq`), and what becomes of it
when the command is decided (`conclude`).
-/

namespace GuestLink.Session

open Serial

/-- Whether the task `id` may send a command: the session is open, and the console can be written to
and is not owned. -/
structure MaySend (s : Session) (id : TaskId) : Prop where
  plugged : s.plugged = true
  unowned : s.console.owned = false
  opened : s.closed = false
  writes : s.console.write = .sent
  started : id < s.started

/-- A session whose console is being read and which has started one task. -/
def sample : Session :=
  { settings := .default, host := "127.0.0.1", port := 2222
    console := { reader := .waiting, entered := true }, started := 1 }

/-- What becomes of a session when the command of a task is decided. -/
def conclude (s : Session) (id : TaskId) (errand : Errand) (e : Exchange) : Decision → Session
  | .pending => s
  | .answered none => (s.release.tell [e.failedRecord "missing"]).fail id (.statusMissing e)
  | .answered (some b) =>
    let status := String.ofList (Utf8.decodeLossy [b])
    if b = 48 then s.release.afterSuccess id errand e
    else (s.release.tell [e.failedRecord status]).fail id (.badStatus e status)
  | .closed => s.release.fail id .waitCancelled
  | .ended => s.release.fail id .consoleEnded
  | .late => (s.release.tell [e.failedRecord "timeout"]).fail id (.timedOut e)

/-- The kind and the details of the report with which a command fails. -/
def report? (e : Exchange) : Decision → Option (Report.Kind × Fields)
  | .pending => none
  | .answered none =>
    some (.statusMissing, [("status", .text ""), ("console_log", .text e.consoleLog)])
  | .answered (some b) =>
    if b = 48 then none
    else
      some (.serialCommand, [("status", .text (String.ofList (Utf8.decodeLossy [b]))),
        ("console_log", .text e.consoleLog)])
  | .closed => some (.cancelled, [])
  | .ended => some (.consoleClosed, [])
  | .late => some (.serialTimeout, [("console_log", .text e.consoleLog)])

/-- A session whose console has other lines in its queue. -/
def withLines (s : Session) (lines : List Bytes) : Session :=
  { s with console := { s.console with lines } }

/-- The command of an errand after the lines `seen`, last first. -/
def exchange (errand : Errand) (d : Deadline) (seen : List Bytes) : Exchange :=
  { operation := errand.operation, deadline := d, seen }

variable {s : Session} {id : TaskId} {errand : Errand}

theorem MaySend.beginCommand_eq (hs : s.MaySend id) (timeout : Binary64) (line : Bytes) :
    s.beginCommand id errand line timeout = ((({ s with
      console := { s.console with lines := [], owned := true } }.tell s.console.reset.2).emit
        (.send line)).suspend id (.reply errand (exchange errand ⟨s.now, timeout⟩ []))) := by
  have hw : s.console.reset.1.write = .sent := hs.writes
  rw [beginCommand, if_neg (by simp [hs.plugged]), if_neg (by simp [hs.unowned]),
    if_neg (by simp [hs.opened])]
  simp only [hw]
  rfl

theorem acceptLine_of_none {e : Exchange} {l : Bytes} (hl : status? l = none) :
    s.acceptLine id errand e l = s.suspend id (.reply errand { e with seen := l :: e.seen }) := by
  rw [acceptLine, Exchange.accept, hl]
  rfl

theorem acceptLine_of_some {e : Exchange} {l : Bytes} {status : Option UInt8}
    (hl : status? l = some status) :
    s.acceptLine id errand e l =
      s.conclude id errand { e with seen := l :: e.seen } (.answered status) := by
  rw [acceptLine, Exchange.accept, hl]
  cases status with
  | none => rfl
  | some b =>
    by_cases hb : b = 48
    · have hv : Exchange.verdict (some b) = .succeeded := if_pos hb
      rw [Option.map_some, hv]
      simp only [conclude, if_pos hb]
    · have hv : Exchange.verdict (some b) = .failed (String.ofList (Utf8.decodeLossy [b])) :=
        if_neg hb
      rw [Option.map_some, hv]
      simp only [conclude, if_neg hb]

theorem conclude_fails {e : Exchange} {verdict : Decision} {kind : Report.Kind} {details : Fields}
    (h : report? e verdict = some (kind, details)) :
    ∃ t r, (s.conclude id errand e verdict).history.getLast? = some (.finish id (.failed t)) ∧
      t.failure = .report r ∧ r.kind = kind ∧ r.details = details := by
  cases verdict with
  | pending => cases h
  | answered status =>
    cases status with
    | none =>
      cases h
      exact ⟨.statusMissing e, _, List.getLast?_concat .., rfl, rfl, rfl⟩
    | some b =>
      simp only [report?] at h
      split_ifs at h with hb
      cases h
      simp only [conclude, if_neg hb]
      exact ⟨.badStatus e _, _, List.getLast?_concat .., rfl, rfl, rfl⟩
  | closed =>
    cases h
    exact ⟨.waitCancelled, _, List.getLast?_concat .., rfl, rfl, rfl⟩
  | ended =>
    cases h
    exact ⟨.consoleEnded, _, List.getLast?_concat .., rfl, rfl, rfl⟩
  | late =>
    cases h
    exact ⟨.timedOut e, _, List.getLast?_concat .., rfl, rfl, rfl⟩

end GuestLink.Session
