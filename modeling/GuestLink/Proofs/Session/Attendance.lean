import GuestLink.Proofs.Session.Acting
import GuestLink.Proofs.Session.Conclusion

/-!
# Attending to a command

What happens to a command that was sent is read off the moves of a session (`happenings`).  A
session is `Attended` if the parts of it that could go on do so before time passes, so that lines
are consumed as they arrive, and neither the end of the session nor the deadline of the command
falls together with anything else.
-/

namespace GuestLink

theorem Stop.reader_ne_ready (stop : Stop) : stop.reader ≠ .ready := by
  cases stop with
  | breaks i => cases hi : i.isOs <;> simp [Stop.reader, hi]
  | _ => simp [Stop.reader]

theorem Stop.isEnd_iff {stop : Stop} : stop.isEnd = true ↔ stop.reader ≠ .waiting := by
  cases stop with
  | breaks i => cases hi : i.isOs <;> simp [Stop.isEnd, Stop.reader, hi]
  | _ => simp [Stop.isEnd, Stop.reader]

namespace Session

open Serial

/-- What a move means for the command that waits. -/
def happening (s : Session) : Move → Timeline
  | .read =>
    if s.console.reader = .ready then
      (Framing.linesOf s.console.intake.events).map (s.now, .line ·) ++
        if s.console.intake.stop.isEnd then [(s.now, .ended)] else []
    else []
  | .start .close => [(s.now, .closed)]
  | .pass nanos => [(s.now + nanos, .nothing)]
  | _ => []

/-- What moves mean for the command that waits. -/
def happenings (s : Session) : List Move → Timeline
  | [] => []
  | m :: moves => s.happening m ++ (s.step m).happenings moves

/-- The timeline of moves that begin now. -/
def timeline (s : Session) (moves : List Move) : Timeline := (s.now, .nothing) :: s.happenings moves

/-- Whether the reader has nothing to read, no line waits for the task and the task cannot go on. -/
def Quiet (s : Session) (id : TaskId) : Prop :=
  s.console.reader ≠ .ready ∧
    ∀ t ∈ s.task? id,
      (t.stage.lineSignal? ≠ none → t.hand = none → s.console.lines = []) ∧
        s.canResume t = false ∧ s.canExpire t = false

instance (s : Session) (id : TaskId) : Decidable (s.Quiet id) :=
  inferInstanceAs (Decidable (_ ∧ ∀ t ∈ s.task? id, _))

/-- Whether a move is one of those that may happen to the command of a task now: the guest prints or
hangs up before the deadline of the command, the reader has room for all lines that have arrived, a
part of the session goes on, or time passes or the session is closed with nothing left to do. -/
def Admits (s : Session) (id : TaskId) : Move → Prop
  | .receive _ | .closeInput | .breakInput _ => ∀ t ∈ s.task? id, s.canExpire t = false
  | .read => s.console.lines.length + s.console.arriving ≤ queueDepth
  | .deal _ | .notify _ | .resume _ | .expire _ => True
  | .pass _ | .start .close => s.Quiet id
  | _ => False

instance (s : Session) (id : TaskId) (m : Move) : Decidable (s.Admits id m) := by
  unfold Admits
  split <;> infer_instance

/-- Whether each move may happen to the command of a task. -/
def Attended (s : Session) (id : TaskId) : List Move → Prop
  | [] => True
  | m :: moves => s.Admits id m ∧ (s.step m).Attended id moves

instance : (s : Session) → (id : TaskId) → (moves : List Move) → Decidable (s.Attended id moves)
  | _, _, [] => .isTrue trivial
  | s, id, m :: moves =>
    have : Decidable ((s.step m).Attended id moves) := instDecidableAttended (s.step m) id moves
    inferInstanceAs (Decidable (s.Admits id m ∧ (s.step m).Attended id moves))

/-- Whether the task `id` may send a command to a console that is not at its end and for whose lines
nobody else waits. -/
structure CanSend (s : Session) (id : TaskId) : Prop extends s.MaySend id where
  reads : s.console.ended = false
  others : ∀ t ∈ s.tasks, t.id ≠ id → t.stage.lineSignal? = none

/-- Whether the task `id` waits for the answer to the command `e`, and nobody else waits for lines
of the console. -/
structure Awaits (s : Session) (id : TaskId) (errand : Errand) (e : Exchange)
    (hand : Option Bytes) : Prop where
  task : ∃ notice, s.task? id = some { id, stage := .reply errand e, hand, notice }
  others : ∀ t ∈ s.tasks, t.id ≠ id → t.stage.lineSignal? = none
  started : id < s.started

/-- Whether a move ends the command of a task as it is decided.  Other tasks aside, the session is
then as after the conclusion, with what is left in the queue. -/
structure Ends (s : Session) (id : TaskId) (errand : Errand) (e : Exchange) (verdict : Decision)
    (m : Move) : Prop where
  awaits : ∃ e' hand, s.Awaits id errand e' hand
  concludes : ∃ lines, s.step m = (s.withLines lines).conclude id errand e verdict
  fails : ∀ kind details, report? e verdict = some (kind, details) → ∃ t r,
    (s.step m).history.getLast? = some (.finish id (.failed t)) ∧ t.failure = .report r ∧
      r.kind = kind ∧ r.details = details

theorem happenings_append (s : Session) (before after : List Move) :
    s.happenings (before ++ after) = s.happenings before ++ (s.run before).happenings after := by
  induction before generalizing s with
  | nil => rfl
  | cons m before ih =>
    rw [List.cons_append, happenings, happenings, ih, List.append_assoc]
    rfl

theorem attended_append {s : Session} {id : TaskId} {before after : List Move} :
    s.Attended id (before ++ after) ↔ s.Attended id before ∧ (s.run before).Attended id after := by
  induction before generalizing s with
  | nil => exact ⟨fun h => ⟨trivial, h⟩, fun h => h.2⟩
  | cons m before ih => exact (and_congr_right fun _ => ih).trans and_assoc.symm

theorem run_append (s : Session) (before after : List Move) :
    s.run (before ++ after) = (s.run before).run after := List.foldl_append

/-! ### Moves of other tasks -/

variable {s s' : Session} {id id' : TaskId} {errand : Errand} {e : Exchange} {hand : Option Bytes}
  {t : Task}

namespace Awaits

theorem of_tasks_eq (h : s.Awaits id errand e hand) (ht : s'.tasks = s.tasks)
    (hs : s.started ≤ s'.started) : s'.Awaits id errand e hand :=
  ⟨h.task.imp fun _ => (task?_of_tasks_eq ht id).trans, fun t hm => h.others t (ht ▸ hm),
    h.started.trans_le hs⟩

theorem finish (h : s.Awaits id errand e hand) (hne : id' ≠ id) (o : Outcome) :
    (s.finish id' o).Awaits id errand e hand :=
  ⟨h.task.imp fun _ => (task?_finish_of_ne hne o).trans, fun t hm => h.others t ((List.mem_filter.1 hm).1),
    h.started⟩

theorem suspend (h : s.Awaits id errand e hand) (hne : id' ≠ id) {stage : Stage}
    (hl : stage.lineSignal? = none) : (s.suspend id' stage).Awaits id errand e hand := by
  refine ⟨h.task.imp fun _ => (task?_suspend_of_ne hne stage).trans, fun t hm hid => ?_,
    h.started⟩
  rcases mem_suspend hm with ⟨hm, -⟩ | rfl
  exacts [h.others t hm hid, hl]

/-- The task itself comes to wait. -/
theorem suspend_self (hothers : ∀ t ∈ s.tasks, t.id ≠ id → t.stage.lineSignal? = none)
    (hid : id < s.started) : (s.suspend id (.reply errand e)).Awaits id errand e none := by
  refine ⟨⟨none, task?_suspend_self _⟩, fun t hm hti => ?_, hid⟩
  rcases mem_suspend hm with ⟨hm, -⟩ | rfl
  exacts [hothers t hm hti, absurd rfl hti]

/-- The task is handed a line. -/
theorem take (h : s.Awaits id errand e none) (l : Bytes) (rest : List Bytes) :
    ({ s with
      console := { s.console with lines := rest }
      tasks := s.tasks.map fun u => if u.id = id then { u with hand := some l } else u } :
      Session).Awaits id errand e (some l) := by
  obtain ⟨notice, htask⟩ := h.task
  refine ⟨⟨notice, task?_handOver htask l⟩, fun t ht hid => ?_, h.started⟩
  obtain ⟨u, hu, rfl⟩ := List.mem_map.1 ht
  split_ifs at hid ⊢ with hi
  · exact absurd hi hid
  · exact h.others u hu hi

theorem inform (h : s.Awaits id errand e hand) (id' : TaskId) (notice : Notice) :
    (s.inform id' notice).Awaits id errand e hand := by
  obtain ⟨notice₀, htask⟩ := h.task
  refine ⟨?_, fun t ht hid => ?_, h.started⟩
  · by_cases hne : id' = id
    · exact hne ▸ ⟨_, task?_inform (hne ▸ htask) notice⟩
    · exact ⟨notice₀, (task?_eq_of_except (except_inform s id' notice) (Ne.symm hne)).trans htask⟩
  · obtain ⟨u, hu, hui, hstage⟩ := exists_of_mem_inform ht
    exact hstage ▸ h.others u hu (hui ▸ hid)

/-- A task is told that its wait is over. -/
theorem notify (h : s.Awaits id errand e hand) (t : Task) :
    (s.notify t).Awaits id errand e hand := by
  rcases notify_cases s t with hs | ⟨-, hs⟩ <;> rw [hs]
  exacts [h, h.inform _ _]

theorem lineSignal?_eq_none (h : s.Awaits id errand e hand) (hne : id' ≠ id)
    (ht : s.task? id' = some t) : t.stage.lineSignal? = none :=
  h.others t (mem_of_task? ht) (id_of_task? ht ▸ hne)

end Awaits

/-- Whether a session differs from another one in what is of no concern for waiting tasks: neither
the console, nor the signal of the session, nor the time. -/
structure Alike (s s' : Session) : Prop where
  console : s'.console = s.console
  closed : s'.closed = s.closed
  now : s'.now = s.now

theorem Awaits.deal_other (h : s.Awaits id errand e hand) (hne : id' ≠ id)
    (ht : s.task? id' = some t) : s.deal t = s := by
  rw [deal, h.lineSignal?_eq_none hne ht]
  cases s.console.lines <;> rfl

theorem notify_alike (s : Session) (t : Task) : s.Alike (s.notify t) := by
  unfold notify
  split <;> exact ⟨rfl, rfl, rfl⟩

theorem Awaits.resume_other (h : s.Awaits id errand e hand) (hne : id' ≠ id)
    (ht : s.task? id' = some t) : (s.resume t).Awaits id errand e hand ∧ s.Alike (s.resume t) := by
  have hid := id_of_task? ht
  rw [resume, h.lineSignal?_eq_none hne ht]
  split
  · cases ‹none = some _›
  · split_ifs
    · have he (a : Act) : (s.emit a).Awaits id errand e hand := h.of_tasks_eq rfl le_rfl
      exact ⟨(he _).suspend (hid ▸ hne) rfl, ⟨rfl, rfl, rfl⟩⟩
    · exact ⟨h, ⟨rfl, rfl, rfl⟩⟩
  · exact ⟨h, ⟨rfl, rfl, rfl⟩⟩

theorem Awaits.expire_other (h : s.Awaits id errand e hand) (hne : id' ≠ id)
    (ht : s.task? id' = some t) : (s.expire t).Awaits id errand e hand ∧ s.Alike (s.expire t) := by
  have hl := h.lineSignal?_eq_none hne ht
  rw [← id_of_task? ht] at hne
  unfold expire
  split_ifs
  · split
    · rename_i hstage
      rw [hstage] at hl
      cases hl
    · exact ⟨h.finish hne _, ⟨rfl, rfl, rfl⟩⟩
    · exact ⟨h.finish hne _, ⟨rfl, rfl, rfl⟩⟩
    · exact ⟨h, ⟨rfl, rfl, rfl⟩⟩
  · exact ⟨h, ⟨rfl, rfl, rfl⟩⟩

/-! ### The reader -/

theorem enqueue_of_le {queue batch : List Bytes} (h : queue.length + batch.length ≤ queueDepth) :
    Console.enqueue queue batch = queue ++ batch := by
  rw [Console.enqueue, Console.keepLast, List.length_append, Nat.sub_eq_zero_of_le h,
    List.drop_zero]

/-- What a reader leaves that has run. -/
theorem step_read_console (hr : s.console.reader = .ready) :
    (s.step .read).console = { s.console with
      buffer := s.console.intake.rest
      lines := Console.enqueue s.console.lines (Framing.linesOf s.console.intake.events)
      reader := s.console.intake.stop.reader
      ended := s.console.ended || s.console.intake.stop.isEnd
      entered := true
      woken := false } := by
  rw [step, read, tell_console, Console.read, if_pos hr]

theorem arriving_of_ready (hr : s.console.reader = .ready) :
    s.console.arriving = (Framing.linesOf s.console.intake.events).length := by
  rw [Console.arriving, if_pos hr]

/-- A reader that has room queues what arrives, and then waits or has come to an end. -/
theorem read_of_ready (hr : s.console.reader = .ready)
    (hroom : s.console.lines.length + s.console.arriving ≤ queueDepth) :
    ∃ (lines : List Bytes) (stop : Bool),
      s.happening .read = lines.map (s.now, .line ·) ++ (if stop then [(s.now, .ended)] else []) ∧
      (s.step .read).console.lines = s.console.lines ++ lines ∧
      (s.step .read).console.ended = (s.console.ended || stop) ∧
      (s.step .read).console.reader ≠ .ready ∧
      (stop = true → (s.step .read).console.reader ≠ .waiting) := by
  rw [arriving_of_ready hr] at hroom
  rw [step_read_console hr, enqueue_of_le hroom]
  exact ⟨Framing.linesOf s.console.intake.events, s.console.intake.stop.isEnd,
    by rw [happening, if_pos hr], rfl, rfl, Stop.reader_ne_ready _, Stop.isEnd_iff.1⟩

theorem read_of_not_ready (hr : s.console.reader ≠ .ready) :
    s.happening .read = [] ∧ s.step .read = s := by
  rw [happening, if_neg hr, step, read, Console.read, if_neg hr]
  exact ⟨rfl, tell_nil s⟩

end Session

end GuestLink
