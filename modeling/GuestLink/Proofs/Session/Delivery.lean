import GuestLink.Proofs.Session.Completion
import GuestLink.Proofs.Session.Turn

/-!
# The delivery of lines

However a stream is cut on its way and whatever the tasks do meanwhile, the queue holds a piece of
the stream's lines that ends with the last one found, and a line that nobody looks at was discarded,
displaced by a newer one, or held by a task that was called off (`delivery`).
-/

namespace GuestLink.Session

open Serial Framing

/-! ### The end of the stream -/

/-- What happens to a call before it goes on: it is handed a line, or told that its wait is over. -/
def approach (id : TaskId) (handed : Bool) : Move := if handed then .deal id else .notify id

/-- The moves of calls for the next line, one after the other, the first of which is the task `id`.
Each goes on after any approaches. -/
def calls (signal : Signal) (id : TaskId) : List (List Bool) → List Move
  | [] => []
  | approaches :: more =>
    .start (.next signal) :: approaches.map (approach id) ++
      .resume id :: calls signal (id + 1) more

/-- How a call for the next line ends at the end of the stream. -/
def callOutcome : List Bytes → Outcome
  | [] => .failed .consoleEnded
  | l :: _ => .ok (.line l)

/-- How calls for the next line end at the end of the stream. -/
def callOutcomes (lines : List Bytes) (id : TaskId) : Nat → List Act
  | 0 => []
  | n + 1 => .finish id (callOutcome lines) :: callOutcomes lines.tail (id + 1) n

/-- Whether the stream of a session is over and the signal of a call is not raised. -/
structure AtEnd (s : Session) (signal : Signal) : Prop where
  plugged : s.plugged = true
  ended : s.console.ended = true
  lowered : s.isRaised signal = false

/-- Whether the task `id` is a call that waits at the end of the stream and is not called off, and its
line, if it was handed one, and those in the queue are `lines`. -/
structure Calls (s : Session) (signal : Signal) (id : TaskId) (lines : List Bytes) : Prop
    extends s.AtEnd signal where
  task : ∃ hand notice, s.task? id = some { id, stage := .next signal, hand, notice } ∧
    notice ≠ some .calledOff ∧ hand.toList ++ s.console.lines = lines

variable {s : Session} {signal : Signal} {id : TaskId} {lines : List Bytes} {moves : List Move}

/-- A call that is told nothing, or that its wait is over, goes on with what it gets. -/
theorem AtEnd.isCalledOff (h : s.AtEnd signal) {hand : Option Bytes} {notice : Option Notice}
    (hn : notice ≠ some .calledOff) :
    s.isCalledOff { id, stage := .next signal, hand, notice } = false := by
  rcases notice with _ | _ | _
  · exact h.lowered
  · exact absurd rfl hn
  · rfl

theorem AtEnd.start (h : s.AtEnd signal) :
    (s.step (.start (.next signal))).Calls signal s.started s.console.lines ∧
      (s.step (.start (.next signal))).started = s.started + 1 ∧
      (s.step (.start (.next signal))).history = s.history := by
  have hs : s.step (.start (.next signal)) =
      { s with started := s.started + 1 }.suspend s.started (.next signal) := by
    simp [step, Session.start, beginJob, h.plugged]
  rw [hs]
  exact ⟨⟨⟨h.plugged, h.ended, h.lowered⟩, none, none, task?_suspend_self _, by simp, rfl⟩, rfl, rfl⟩

theorem Calls.deal (h : s.Calls signal id lines) :
    (s.step (.deal id)).Calls signal id lines ∧ (s.step (.deal id)).started = s.started ∧
      (s.step (.deal id)).history = s.history := by
  obtain ⟨hand, notice, ht, hn, hl⟩ := h.task
  have hs : s.step (.deal id) = s.deal { id, stage := .next signal, hand, notice } :=
    withTask_of_some ht s.deal
  rw [Session.deal] at hs
  split at hs
  · rename_i l rest _ hq _ hnone
    obtain rfl : hand = none := hnone
    rw [hs]
    refine ⟨⟨⟨h.plugged, h.ended, h.lowered⟩, some l, notice, task?_handOver ht l, hn, ?_⟩, rfl, rfl⟩
    rw [← hl, hq]
    rfl
  · rw [hs]
    exact ⟨h, rfl, rfl⟩

theorem Calls.notify (h : s.Calls signal id lines) :
    (s.step (.notify id)).Calls signal id lines ∧ (s.step (.notify id)).started = s.started ∧
      (s.step (.notify id)).history = s.history := by
  obtain ⟨hand, notice, ht, hn, hl⟩ := h.task
  rcases step_notify ht with hs | ⟨-, hs⟩
  · rw [hs]
    exact ⟨h, rfl, rfl⟩
  · rw [hs]
    refine ⟨⟨⟨h.plugged, h.ended, h.lowered⟩, hand, _, task?_inform ht _, ?_, hl⟩, rfl, rfl⟩
    simp [Session.notice, h.toAtEnd.isCalledOff hn]

theorem Calls.approach (h : s.Calls signal id lines) (approaches : List Bool) :
    let s' := s.run (approaches.map (approach id))
    s'.Calls signal id lines ∧ s'.started = s.started ∧ s'.history = s.history := by
  induction approaches generalizing s with
  | nil => exact ⟨h, rfl, rfl⟩
  | cons handed approaches ih =>
    obtain ⟨hcalls, hstarted, hhistory⟩ : (s.step (Session.approach id handed)).Calls signal id lines ∧
        (s.step (Session.approach id handed)).started = s.started ∧
        (s.step (Session.approach id handed)).history = s.history := by
      cases handed with
      | false => exact h.notify
      | true => exact h.deal
    obtain ⟨hcalls', hstarted', hhistory'⟩ := ih hcalls
    exact ⟨hcalls', hstarted'.trans hstarted, hhistory'.trans hhistory⟩

theorem withLines_of_eq {lines : List Bytes} (h : s.console.lines = lines) :
    s.withLines lines = s := by
  subst h
  rfl

/-- A call ends with the oldest line and leaves the others, or it fails if there is none. -/
theorem Calls.step_resume (h : s.Calls signal id lines) :
    s.step (.resume id) = (s.withLines lines.tail).finish id (callOutcome lines) := by
  obtain ⟨hand, notice, ht, hn, rfl⟩ := h.task
  have hs : s.step (.resume id) = s.resumeWait { id, stage := .next signal, hand, notice } := by
    rw [step, withTask_of_some ht]
    rfl
  rw [hs, resumeWait, if_neg (by simp [h.toAtEnd.isCalledOff hn]), h.ended]
  cases hand with
  | some l => rfl
  | none =>
    cases hl : s.console.lines with
    | nil =>
      have hq := withLines_of_eq hl
      exact congrArg (fun s' : Session => s'.finish id (.failed .consoleEnded)) hq.symm
    | cons l rest => rfl

theorem Calls.resume (h : s.Calls signal id lines) :
    (s.step (.resume id)).AtEnd signal ∧ (s.step (.resume id)).started = s.started ∧
      (s.step (.resume id)).console.lines = lines.tail ∧
      (s.step (.resume id)).history = s.history ++ [.finish id (callOutcome lines)] := by
  rw [h.step_resume]
  exact ⟨⟨h.plugged, h.ended, h.lowered⟩, rfl, rfl, rfl⟩

theorem AtEnd.call (h : s.AtEnd signal) (approaches : List Bool) :
    let s' := (s.run (.start (.next signal) :: approaches.map (approach s.started))).step
      (.resume s.started)
    s'.AtEnd signal ∧ s'.started = s.started + 1 ∧ s'.console.lines = s.console.lines.tail ∧
      s'.history = s.history ++ [.finish s.started (callOutcome s.console.lines)] := by
  obtain ⟨hstart, hstarted, hhistory⟩ := h.start
  obtain ⟨hcalls, hstarted', hhistory'⟩ := hstart.approach approaches
  obtain ⟨hend, hstarted'', hlines, hhistory''⟩ := hcalls.resume
  exact ⟨hend, hstarted''.trans (hstarted'.trans hstarted), hlines,
    (hhistory'.trans hhistory) ▸ hhistory''⟩

/-- At the end of the stream calls end with the lines of the queue, one after the other, and then
fail. -/
theorem AtEnd.run_calls (h : s.AtEnd signal) (via : List (List Bool)) :
    (s.run (calls signal s.started via)).history =
      s.history ++ callOutcomes s.console.lines s.started via.length := by
  induction via generalizing s with
  | nil => exact (List.append_nil _).symm
  | cons approaches more ih =>
    obtain ⟨hend, hstarted, hlines, hhistory⟩ := h.call approaches
    have ih := ih hend
    rw [hstarted, hlines, hhistory, List.append_assoc] at ih
    rw [calls, run, List.foldl_append]
    exact ih

/-! ### Delivery -/

/-- What becomes of the lines of a stream in a run. -/
structure Delivers (s : Session) (moves : List Move) : Prop where
  depth : (s.run moves).console.lines.length ≤ queueDepth
  /-- Wherever the stream was broken, its lines are found but for those still in the buffer. -/
  framing : linesIn (s.stream moves) =
    linesOf (s.happenings moves) ++ linesIn (s.run moves).console.buffer
  /-- The queue holds the last of the lines that were found.  The others left it in order. -/
  order : linesOf (s.happenings moves) =
    (s.departures moves).map Prod.snd ++ (s.run moves).console.lines
  /-- A line is displaced by another when it is the oldest of a full queue. -/
  displaced : ∀ l, (.displaced, l) ∈ s.departures moves → ∃ before after arrived next,
    moves = before ++ .read :: after ∧
    arrived ++ [next] <+: linesOf ((s.run before).happening .read) ∧
    (Console.enqueue (s.run before).console.lines arrived).length = queueDepth ∧
    (Console.enqueue (s.run before).console.lines arrived).head? = some l
  discarded : ∀ l, (.discarded, l) ∈ s.departures moves → ∃ before m after lines,
    moves = before ++ m :: after ∧ l ∈ lines ∧ (s.run before).Resets m lines
  /-- A task looks at what it takes in order, but for a line that it still holds or was holding when
  it was called off. -/
  taken : ∀ id, ∃ pending : Option Bytes,
    takenBy id (s.departures moves) = s.transcript id moves ++ pending.toList ∧
    (pending = (s.run moves).hand? id ∨ ∃ before m after, moves = before ++ m :: after ∧
      pending = (s.run before).hand? id ∧ (s.run before).CallsOff m id)
  /-- Whatever calls overlap, no line is returned twice. -/
  once : (s.returned moves).Subperm (linesOf (s.happenings moves))
  /-- Calls that are made one after another return lines in order. -/
  oneByOne : s.OneByOne moves → (s.returned moves).Sublist (linesOf (s.happenings moves))
  /-- So do calls that overlap, if they return in the order in which they took their lines. -/
  inTurn : s.InTurn [] moves → (s.returned moves).Sublist (linesOf (s.happenings moves))
  finished : (s.run moves).console.reader = .finished → (s.run moves).console.ended = true ∧
    ((s.run moves).console.inputFault = none →
      linesOf (s.happenings moves) = linesIn (s.stream moves))
  /-- At the end of the stream calls get what is left in the queue and only then fail. -/
  remaining : ∀ signal via, (s.run moves).AtEnd signal →
    ((s.run moves).run (calls signal (s.run moves).started via)).history =
      (s.run moves).history ++
        callOutcomes (s.run moves).console.lines (s.run moves).started via.length

theorem Fresh.numbered (hs : s.Fresh) : s.Numbered := fun t ht => by
  rw [hs.tasks] at ht
  cases ht

theorem Fresh.task? (hs : s.Fresh) (id : TaskId) : s.task? id = none := by
  rw [Session.task?, hs.tasks]
  rfl

theorem Fresh.handsWait (hs : s.Fresh) : s.HandsWait := fun id t ht => by
  cases (hs.task? id).symm.trans ht

theorem Fresh.heldBy (hs : s.Fresh) : s.HeldBy [] :=
  ⟨List.nodup_nil, fun id => by simp [hand?_of_none (hs.task? id)]⟩

/-- The queue and what left it are what was found. -/
theorem Fresh.queue (hs : s.Fresh) (moves : List Move) :
    linesOf (s.happenings moves) =
      (s.departures moves).map Prod.snd ++ (s.run moves).console.lines := by
  rw [← queue_run, hs.lines]
  rfl

/-- In every run of a fresh session whose stream has no line that is too long the lines are
delivered, and the failure of a call at the end of the stream tells that the console is closed. -/
theorem delivery (hs : s.Fresh) (hr : s.console.reader ≠ .finished) (moves : List Move)
    (hk : KeepsTo s.console.limit (s.stream moves)) :
    s.Delivers moves ∧
      ∃ r, Trouble.consoleEnded.failure = .report r ∧ r.kind = .consoleClosed := by
  have hn := hs.numbered
  have hw := hs.handsWait
  have hempty : s.console.lines.length ≤ queueDepth := by
    rw [hs.lines]
    exact Nat.zero_le _
  have hqueue := hs.queue moves
  have hfound := found_append_linesIn hk
  have hsublist : (taken (s.departures moves)).Sublist (linesOf (s.happenings moves)) := by
    rw [hqueue]
    exact (taken_sublist _).trans (List.sublist_append_left ..)
  have hinTurn (ht : s.InTurn [] moves) :
      (s.returned moves).Sublist (linesOf (s.happenings moves)) :=
    (returned_sublist hs.heldBy hn hw ht).trans hsublist
  refine ⟨?_, _, rfl, rfl⟩
  constructor
  case depth => exact length_lines_run hempty moves
  case framing => exact hfound.symm
  case order => exact hqueue
  case displaced =>
    intro l hl
    obtain ⟨before, m, after, rfl, hm⟩ := exists_of_mem_departures hl
    have hroom := length_lines_run hempty before
    obtain ⟨rfl, arrived, next, hpre, hlength, hhead⟩ :=
      displaced_of_mem hroom (hn.run before) (hw.run hn before) hm
    exact ⟨before, after, arrived, next, rfl, hpre, hlength, hhead⟩
  case discarded =>
    intro l hl
    obtain ⟨before, m, after, rfl, hm⟩ := exists_of_mem_departures hl
    obtain ⟨lines, hmem, hresets⟩ := resets_of_mem (hn.run before) (hw.run hn before) hm
    exact ⟨before, m, after, lines, rfl, hmem, hresets⟩
  case taken =>
    intro id
    have htaken := taken_run hn hw id moves
    rw [hand?_of_none (hs.task? id)] at htaken
    exact htaken
  case once => exact (returned_subperm hs.heldBy hn hw moves).trans hsublist.subperm
  case oneByOne => exact fun h => hinTurn (h.inTurn hs.heldBy hn hw)
  case inTurn => exact hinTurn
  case finished =>
    intro hfin
    obtain ⟨hended, hover⟩ := exhausts_run (fun h => absurd h hr) moves hfin
    refine ⟨hended, fun hf => ?_⟩
    rw [← hfound, (hover hf).2, linesIn_nil, List.append_nil]
  case remaining => exact fun signal via hend => hend.run_calls via

/-- A stream whose lines are broken on their way, of which a call gets the first before its end, and
the others get what is left. -/
def brokenLines : List Move :=
  [.receive (utf8 "one\r"), .start (.next .closed), .read, .receive (utf8 "\ntwo\r\nthr"), .read,
    .deal 1, .notify 1, .resume 1, .receive (utf8 "ee"), .closeInput, .read]

/-- Two calls that overlap. -/
def sideBySide : List Move :=
  [.start (.next .closed), .start (.next .closed), .receive (utf8 "one\ntwo\n"), .read, .deal 1,
    .deal 2, .notify 1, .notify 2, .resume 1, .resume 2]

theorem delivery_sample :
    let via : List (List Bool) := [[true, false], [], [false]]
    let s := sample.run brokenLines
    let moves := brokenLines ++ calls .closed 2 via
    KeepsTo sample.console.limit (sample.stream moves) ∧ sample.OneByOne moves ∧
      (sample.returned moves).Sublist (linesIn (sample.stream moves)) ∧
      (sample.returned moves).length = 3 ∧
      (s.run (calls .closed 2 via)).history = s.history ++ [.finish 2 (.ok (.line (utf8 "two"))),
          .finish 3 (.ok (.line (utf8 "three"))), .finish 4 (.failed .consoleEnded)] ∧
      ¬sample.OneByOne sideBySide ∧ (sample.returned sideBySide).length = 2 ∧
      (sample.returned sideBySide).Sublist (linesOf (sample.happenings sideBySide)) := by
  intro via s moves
  have hfresh : sample.Fresh := ⟨rfl, rfl⟩
  have hreader : sample.console.reader ≠ .finished := by decide
  have hk : KeepsTo sample.console.limit (sample.stream brokenLines) := by decide +kernel
  have hk' : KeepsTo sample.console.limit (sample.stream moves) := by decide +kernel
  have hone : sample.OneByOne moves := by decide +kernel
  have hdelivers := (delivery hfresh hreader moves hk').1
  have hfound := (hdelivers.finished (by decide +kernel)).2 (by decide +kernel)
  have hend : s.AtEnd .closed := ⟨by decide +kernel, by decide +kernel, by decide +kernel⟩
  have hstarted : s.started = 2 := by decide +kernel
  have hlines : s.console.lines = [utf8 "two", utf8 "three"] := by decide +kernel
  have hcalls := (delivery hfresh hreader brokenLines hk).1.remaining .closed via hend
  rw [hstarted, hlines] at hcalls
  refine ⟨hk', hone, hfound ▸ hdelivers.oneByOne hone, by decide +kernel, hcalls, by decide +kernel,
    by decide +kernel, ?_⟩
  exact (delivery hfresh hreader sideBySide (by decide +kernel)).1.inTurn (by decide +kernel)

end GuestLink.Session
