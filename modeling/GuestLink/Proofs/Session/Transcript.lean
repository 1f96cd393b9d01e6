import GuestLink.Proofs.Session.Acting
import GuestLink.Proofs.Session.Attendance

/-!
# The lines that a task looks at

`transcript` is what a task gets to see of the console in a run.  A command that waits for its
answer ends as the first status line on its transcript tells, whatever else happens (`Listens.run`).
-/

namespace GuestLink.Session

open Serial

/-- The line that a waiting task looks at when it goes on. -/
def lookedAt? (s : Session) (t : Task) : Option Bytes :=
  if t.stage.lineSignal?.isNone || s.isCalledOff t then none
  else
    match t.hand with
    | some line => some line
    | none => if s.console.ended then s.console.lines.head? else none

/-- The line that a task looks at in a move. -/
def looksAt? (s : Session) (id : TaskId) : Move → Option Bytes
  | .resume id' => if id' = id then (s.task? id).bind s.lookedAt? else none
  | _ => none

/-- The lines that a task looks at in a run. -/
def transcript (s : Session) (id : TaskId) : List Move → List Bytes
  | [] => []
  | m :: moves => (s.looksAt? id m).toList ++ (s.step m).transcript id moves

/-- Whether from `s` to `s'` no task but `id` has changed, and no line was added. -/
structure Only (s s' : Session) (id : TaskId) : Prop where
  except : s'.except id = s.except id
  lines : s'.console.lines <:+ s.console.lines
  started : s.started ≤ s'.started

variable {s s₁ s' : Session} {id id' : TaskId} {errand : Errand} {e : Exchange}
  {hand : Option Bytes} {t : Task} {m : Move} {l : Bytes}

/-! ### Moves of other tasks -/

namespace Only

theorem refl (s : Session) (id : TaskId) : s.Only s id := ⟨rfl, List.suffix_rfl, le_rfl⟩

theorem trans (h : s.Only s₁ id) (h' : s₁.Only s' id) : s.Only s' id :=
  ⟨h'.except.trans h.except, h'.lines.trans h.lines, h.started.trans h'.started⟩

theorem release (s : Session) (id : TaskId) : s.Only s.release id := ⟨rfl, List.suffix_rfl, le_rfl⟩

theorem withLines {rest : List Bytes} (h : rest <:+ s.console.lines) (id : TaskId) :
    s.Only (s.withLines rest) id := ⟨rfl, h, le_rfl⟩

theorem finish (h : s.Only s' id) (o : Outcome) : s.Only (s'.finish id o) id :=
  ⟨(except_finish s' id o).trans h.except, h.lines, h.started⟩

theorem suspend (h : s.Only s' id) (stage : Stage) : s.Only (s'.suspend id stage) id :=
  ⟨(except_suspend s' id stage).trans h.except, h.lines, h.started⟩

theorem tell (h : s.Only s' id) (rs : List Log.Record) : s.Only (s'.tell rs) id :=
  ⟨h.except, h.lines, h.started⟩

theorem emit (h : s.Only s' id) (a : Act) : s.Only (s'.emit a) id := ⟨h.except, h.lines, h.started⟩

theorem of_steady (h : s.Steady s') (id : TaskId) : s.Only s' id :=
  ⟨h.except id, h.lines ▸ List.suffix_rfl, h.started⟩

theorem of_acts (h : s.Acts s' id) : s.Only s' id := by
  rcases h with h | h
  · exact ⟨h.except, h.lines ▸ List.suffix_rfl, h.started⟩
  · exact ⟨h.except, h.lines ▸ List.nil_suffix, h.started⟩

end Only

theorem acceptLine_only (h : s.Only s₁ id) (errand : Errand) (e : Exchange) (l : Bytes) :
    s.Only (s₁.acceptLine id errand e l) id := by
  have hr := h.trans (.release s₁ id)
  unfold acceptLine
  split
  · exact h.suspend _
  · exact hr.trans (.of_acts (afterSuccess_acts _ _))
  · exact (hr.tell _).finish _
  · exact (hr.tell _).finish _

theorem consume_only (h : s.Only s₁ t.id) (l : Bytes) : s.Only (s₁.consume t l) t.id := by
  unfold consume
  split
  · exact h.finish _
  · split_ifs
    exacts [h.finish _, h.suspend _]
  · exact acceptLine_only h _ _ _
  · exact h

theorem giveUp_only (s : Session) (t : Task) : s.Only (s.giveUp t) t.id := by
  unfold giveUp
  split
  exacts [.release s t.id, .refl s t.id]

theorem resume_only (s : Session) (t : Task) : s.Only (s.resume t) t.id := by
  unfold resume
  split
  · unfold resumeWait
    split_ifs
    · exact (giveUp_only s t).finish _
    split
    · exact consume_only (.refl s t.id) _
    · rename_i l rest _ _ hl
      have hw : s.Only (s.withLines rest) t.id := .withLines (hl ▸ List.suffix_cons l rest) t.id
      exact consume_only hw _
    · exact (giveUp_only s t).finish _
    · exact .refl s t.id
  · split_ifs
    · exact ((Only.refl s t.id).emit _).suspend _
    · exact .refl s t.id
  · exact .refl s t.id

theorem expire_only (s : Session) (t : Task) : s.Only (s.expire t) t.id := by
  unfold expire
  split_ifs
  · split
    · exact ((Only.release s t.id).tell _).finish _
    · exact (Only.refl s t.id).finish _
    · exact (Only.refl s t.id).finish _
    · exact .refl s t.id
  · exact .refl s t.id

theorem abort_only (s : Session) (t : Task) : s.Only (s.abort t) t.id := by
  unfold abort
  dsimp only
  refine Only.finish ?_ _
  split
  · exact .release s t.id
  · exact .release s t.id
  · exact (Only.refl s t.id).emit _
  · exact (Only.refl s t.id).emit _
  · exact (Only.refl s t.id).emit _
  · exact .refl s t.id

theorem deal_only (s : Session) (t : Task) : s.Only (s.deal t) t.id := by
  unfold deal
  split
  · rename_i l rest _ hl _ _
    exact ⟨filter_update (f := ({ · with hand := some l })) (fun _ => rfl) s.tasks t.id,
      hl ▸ List.suffix_cons l rest, le_rfl⟩
  · exact .refl s t.id

theorem notify_only (s : Session) (t : Task) : s.Only (s.notify t) t.id := by
  rcases notify_cases s t with h | ⟨-, h⟩ <;> rw [h]
  · exact .refl s t.id
  · exact ⟨except_inform s t.id _, List.suffix_rfl, le_rfl⟩

/-- A task that gets an answer from outside. -/
theorem answer_only (s : Session) (id : TaskId) (reply : Reply) : s.Only (s.answer id reply) id := by
  by_cases hf : ∀ t, s.task? id = some t → ∀ errand timeout, t.stage ≠ .flushing errand timeout
  · exact (answer_acts hf reply).elim .of_acts (.of_steady · id)
  · simp only [not_forall, not_not, exists_prop] at hf
    obtain ⟨t, ht, errand, timeout, hs⟩ := hf
    rcases answer_of_flushing ht hs reply with ⟨-, he⟩ | ⟨i, -, he⟩ | ⟨-, rs, he⟩ <;> rw [he]
    exacts [(Only.refl s id).suspend _, (Only.release s id).finish _, (Only.refl s id).tell rs]

theorem beginWrite_only (s : Session) (id : TaskId) (data : Bytes) :
    s.Only (s.beginWrite id data) id := by
  have h := Only.refl s id
  unfold beginWrite
  split_ifs
  · exact h.finish _
  · split
    · exact h.finish _
    · exact h.finish _
    · exact (h.emit _).finish _
    · exact (h.emit _).suspend _
    · exact (h.emit _).finish _

theorem start_only (s : Session) (j : Job) :
    { s with started := s.started + 1 }.Only (s.start j) s.started := by
  cases hj : j.isManual with
  | false => exact .of_acts (beginJob_acts hj)
  | true =>
    have h := Only.refl { s with started := s.started + 1 } s.started
    unfold start beginJob
    split
    · split_ifs
      exacts [h.suspend _, h.finish _]
    · split_ifs
      exacts [h.finish _, h.suspend _, h.finish _]
    · exact beginWrite_only _ _ _
    all_goals cases hj

/-- A move of a task changes no other task. -/
theorem step_only (ha : s.actor? m = some id) : s.Only (s.step m) id := by
  have task (f : Task → Session) (hf : ∀ t, s.Only (f t) t.id) : s.Only (s.withTask id f) id :=
    withTask_cases (p := fun s' => s.Only s' id) (.refl s id) fun t ht => id_of_task? ht ▸ hf t
  cases m with
  | deal id' =>
    cases ha
    exact task _ (deal_only s)
  | notify id' =>
    cases ha
    exact task _ (notify_only s)
  | resume id' =>
    cases ha
    exact task _ (resume_only s)
  | expire id' =>
    cases ha
    exact task _ (expire_only s)
  | abort id' =>
    cases ha
    exact task _ (abort_only s)
  | answer id' reply =>
    cases ha
    exact answer_only s id reply
  | start j =>
    cases ha
    have hs : s.Steady { s with started := s.started + 1 } := ⟨rfl, rfl, rfl, rfl, Nat.le_succ _⟩
    exact (Only.of_steady hs s.started).trans (start_only s j)
  | _ => cases ha

/-- A reader that runs queues what arrives behind the other lines.  The oldest are lost if there is
no room. -/
theorem exists_drop_read (s : Session) :
    ∃ n, (s.step .read).console.lines =
        (s.console.lines ++ linesOf (s.happening .read)).drop n ∧
      (s.console.lines.length + s.console.arriving ≤ queueDepth → n = 0) := by
  by_cases hr : s.console.reader = .ready
  · have hh : linesOf (s.happening .read) = Framing.linesOf s.console.intake.events := by
      rw [happening, if_pos hr, linesOf_append, linesOf_map_line]
      split_ifs <;> exact List.append_nil _
    have hl : (s.step .read).console.lines =
        Console.enqueue s.console.lines (Framing.linesOf s.console.intake.events) := by
      rw [step_read_console hr]
    rw [hl, hh, arriving_of_ready hr, Console.enqueue, Console.keepLast]
    refine ⟨_, rfl, fun hroom => ?_⟩
    rw [List.length_append]
    exact Nat.sub_eq_zero_of_le hroom
  · obtain ⟨hh, hs⟩ := read_of_not_ready hr
    exact ⟨0, by rw [hh, hs]; simp, fun _ => rfl⟩

/-- A move that no task makes changes no task, and only the reader adds lines. -/
theorem step_tasks (ha : s.actor? m = none) :
    (s.step m).tasks = s.tasks ∧ s.started ≤ (s.step m).started ∧
      (m ≠ .read → (s.step m).console.lines <:+ s.console.lines) := by
  have of_steady {s' : Session} (h : s.Steady s') : s'.tasks = s.tasks ∧ s.started ≤ s'.started ∧
      (m ≠ .read → s'.console.lines <:+ s.console.lines) :=
    ⟨h.tasks, h.started, fun _ => h.lines ▸ List.suffix_rfl⟩
  cases m with
  | read => exact ⟨rfl, le_rfl, fun h => absurd rfl h⟩
  | reset => exact ⟨rfl, le_rfl, fun _ => List.nil_suffix⟩
  | release => exact ⟨rfl, le_rfl, fun _ => List.suffix_rfl⟩
  | acquire =>
    rw [step, acquire]
    split_ifs <;> exact ⟨rfl, le_rfl, fun _ => List.suffix_rfl⟩
  | deal | notify | resume | expire | answer | start | abort => cases ha
  | _ => exact of_steady (step_steady rfl ha (by simp))

/-- What stands in the queue stood there before or has just been read. -/
theorem mem_lines_step (h : l ∈ (s.step m).console.lines) :
    l ∈ s.console.lines ∨ l ∈ linesOf (s.happening m) := by
  cases ha : s.actor? m with
  | some id => exact .inl ((step_only ha).lines.subset h)
  | none =>
    by_cases hm : m = .read
    · subst hm
      obtain ⟨n, hn, -⟩ := exists_drop_read s
      rw [hn] at h
      exact List.mem_append.1 (List.mem_of_mem_drop h)
    · exact .inl (((step_tasks ha).2.2 hm).subset h)

theorem started_le_step (s : Session) (m : Move) : s.started ≤ (s.step m).started := by
  cases ha : s.actor? m with
  | some id => exact (step_only ha).started
  | none => exact (step_tasks ha).2.1

theorem task?_step_of_ne (ha : s.actor? m ≠ some id) : (s.step m).task? id = s.task? id := by
  cases ha' : s.actor? m with
  | some id' => exact task?_eq_of_except (step_only ha').except fun hid => ha (ha' ▸ hid ▸ rfl)
  | none => exact task?_of_tasks_eq (step_tasks ha').1 id

theorem looksAt?_of_ne (ha : s.actor? m ≠ some id) : s.looksAt? id m = none := by
  cases m with
  | resume id' => exact if_neg fun hid => ha (congrArg some hid)
  | _ => rfl

/-! ### A command that waits -/

/-- Whether a task waits for the answer to a command. -/
structure Listens (s : Session) (id : TaskId) (errand : Errand) (e : Exchange)
    (hand : Option Bytes) : Prop where
  task : ∃ notice, s.task? id = some { id, stage := .reply errand e, hand, notice }
  started : id < s.started

/-- Whether a session is as before but for the oldest line, which the task was handed. -/
def HandsOver (s s' : Session) (id : TaskId) (l : Bytes) (rest : List Bytes) : Prop :=
  s.console.lines = l :: rest ∧ s' = { s with
    console := { s.console with lines := rest }
    tasks := s.tasks.map fun u => if u.id = id then { u with hand := some l } else u }

section

variable {notice : Option Notice}
  (ht : s.task? id = some { id, stage := .reply errand e, hand, notice })
include ht

theorem deal_of_reply : s.step (.deal id) = s ∨
    hand = none ∧ ∃ l rest, s.HandsOver (s.step (.deal id)) id l rest := by
  rw [step, withTask_of_some ht, deal]
  cases hl : s.console.lines with
  | nil => exact .inl rfl
  | cons l rest =>
    cases hand with
    | some l' => exact .inl rfl
    | none => exact .inr ⟨rfl, l, rest, hl, rfl⟩

/-- What a task does with its turn that waits for the answer to a command: it looks at a line, has
nothing to look at, or gives up. -/
theorem resume_of_reply :
    (∃ l rest, s.looksAt? id (.resume id) = some l ∧ hand.toList ++ s.console.lines = l :: rest ∧
      s.step (.resume id) = (s.withLines rest).acceptLine id errand e l) ∨
    s.looksAt? id (.resume id) = none ∧
      (s.step (.resume id) = s ∨ ∃ t, s.step (.resume id) = s.release.fail id t) := by
  have hs : s.step (.resume id) =
      s.resumeWait { id, stage := .reply errand e, hand, notice } := by
    rw [step, withTask_of_some ht]
    rfl
  have hl : s.looksAt? id (.resume id) =
      s.lookedAt? { id, stage := .reply errand e, hand, notice } := by
    rw [looksAt?, if_pos rfl, ht]
    rfl
  simp only [lookedAt?, Stage.lineSignal?, Option.isNone_some, Bool.false_or] at hl
  rw [resumeWait] at hs
  by_cases hc : s.isCalledOff { id, stage := .reply errand e, hand, notice } = true
  · rw [if_pos hc] at hs hl
    exact .inr ⟨hl, .inr ⟨_, hs⟩⟩
  rw [if_neg hc] at hs hl
  split at hs
  · rename_i l hh
    obtain rfl : hand = some l := hh
    exact .inl ⟨l, s.console.lines, hl, rfl, hs⟩
  · rename_i l rest hh he hlines
    obtain rfl : hand = none := hh
    rw [he, hlines] at hl
    exact .inl ⟨l, rest, hl, hlines, hs⟩
  · rename_i hh he hlines
    obtain rfl : hand = none := hh
    rw [hlines] at hl
    exact .inr ⟨hl.trans (ite_self none), .inr ⟨_, hs⟩⟩
  · rename_i hh he
    obtain rfl : hand = none := hh
    rw [he] at hl
    exact .inr ⟨hl, .inl hs⟩

theorem expire_of_reply : s.step (.expire id) = s ∨
    ∃ rs t, s.step (.expire id) = (s.release.tell rs).fail id t := by
  rw [step, withTask_of_some ht, expire]
  split_ifs
  exacts [.inr ⟨_, _, rfl⟩, .inl rfl]

theorem abort_of_reply : s.step (.abort id) = s.release.finish id .aborted := by
  rw [step, withTask_of_some ht]
  rfl

theorem answer_of_reply (reply : Reply) : ∃ rs, s.step (.answer id reply) = s.tell rs := by
  obtain ⟨rs, -, he⟩ := exists_answer_tell s id reply
  exact ⟨rs, by rw [step, he, withTask_of_some (s := s.tell rs) ht]; rfl⟩

end

/-- What a move of a task that waits for the answer to a command does. -/
inductive OwnMove (s : Session) (id : TaskId) (errand : Errand) (e : Exchange)
    (hand : Option Bytes) (m : Move) : Prop
  | rests (looks : s.looksAt? id m = none) (rs : List Log.Record) (tells : s.step m = s.tell rs)
  | told (notice : Notice) (hm : m = .notify id) (informs : s.step m = s.inform id notice)
  | takes (l : Bytes) (rest : List Bytes) (hm : m = .deal id) (empty : hand = none)
      (hands : s.HandsOver (s.step m) id l rest)
  | looks (l : Bytes) (rest : List Bytes) (hm : m = .resume id) (look : s.looksAt? id m = some l)
      (before : hand.toList ++ s.console.lines = l :: rest)
      (accepts : s.step m = (s.withLines rest).acceptLine id errand e l)
  | ends (looks : s.looksAt? id m = none) (rs : List Log.Record) (o : Outcome)
      (failure : ∀ r, o ≠ .ok r) (finishes : s.step m = (s.release.tell rs).finish id o)

theorem Listens.ownMove (h : s.Listens id errand e hand) (ha : s.actor? m = some id) :
    s.OwnMove id errand e hand m := by
  obtain ⟨notice, ht⟩ := h.task
  have rests (hl : s.looksAt? id m = none) (hs : s.step m = s) : s.OwnMove id errand e hand m :=
    .rests hl [] (hs.trans (tell_nil s).symm)
  cases m with
  | deal =>
    cases ha
    rcases deal_of_reply ht with hs | ⟨hh, l, rest, hs⟩
    exacts [rests rfl hs, .takes l rest rfl hh hs]
  | notify =>
    cases ha
    rcases step_notify ht with hs | ⟨-, hs⟩
    exacts [rests rfl hs, .told _ rfl hs]
  | resume =>
    cases ha
    rcases resume_of_reply ht with ⟨l, rest, hl, hb, hs⟩ | ⟨hl, hs | ⟨t, hs⟩⟩
    exacts [.looks l rest rfl hl hb hs, rests hl hs,
      .ends hl [] (.failed t) nofun (by rw [hs, tell_nil]; rfl)]
  | expire =>
    cases ha
    rcases expire_of_reply ht with hs | ⟨rs, t, hs⟩
    exacts [rests rfl hs, .ends rfl rs (.failed t) nofun hs]
  | abort =>
    cases ha
    exact .ends rfl [] .aborted nofun (by rw [abort_of_reply ht, tell_nil])
  | answer _ reply =>
    cases ha
    obtain ⟨rs, hs⟩ := answer_of_reply ht reply
    exact .rests rfl rs hs
  | start j => exact absurd (Option.some.inj ha) h.started.ne'
  | _ => cases ha

theorem mem_of_looksAt? (ht : s.task? id = some t) (hl : s.looksAt? id m = some l) :
    l ∈ t.hand.toList ++ s.console.lines := by
  cases m with
  | resume id' =>
    rw [looksAt?] at hl
    split_ifs at hl
    rw [ht, Option.bind_some, lookedAt?] at hl
    by_cases hc : t.stage.lineSignal?.isNone || s.isCalledOff t
    · rw [if_pos hc] at hl
      cases hl
    rw [if_neg hc] at hl
    split at hl
    · rename_i l' hh
      cases hl
      rw [hh]
      exact List.mem_cons_self
    · split_ifs at hl
      exact List.mem_append_right _ (List.mem_of_mem_head? hl)
  | _ => cases hl

/-- One move: the task has looked at no line or at one that answers nothing, and goes on waiting; it
has looked at its answer; or it has ended without one. -/
theorem Listens.step (h : s.Listens id errand e hand) (m : Move) :
    (∃ hand', (s.step m).Listens id errand { e with seen := (s.looksAt? id m).toList ++ e.seen }
        hand' ∧ (∀ l ∈ s.looksAt? id m, status? l = none) ∧
        ∀ l ∈ hand', l ∈ hand.toList ++ s.console.lines) ∨
    (∃ l status rest, s.looksAt? id m = some l ∧ status? l = some status ∧
      hand.toList ++ s.console.lines = l :: rest ∧
      s.step m = (s.withLines rest).conclude id errand { e with seen := l :: e.seen }
        (.answered status)) ∨
    s.looksAt? id m = none ∧ (s.step m).task? id = none := by
  have hid := h.started.trans_le (started_le_step s m)
  have stays (hl : s.looksAt? id m = none)
      (ht : ∃ notice, (s.step m).task? id = some { id, stage := .reply errand e, hand, notice }) :
      ∃ hand', (s.step m).Listens id errand { e with seen := (s.looksAt? id m).toList ++ e.seen }
        hand' ∧ (∀ l ∈ s.looksAt? id m, status? l = none) ∧
        ∀ l ∈ hand', l ∈ hand.toList ++ s.console.lines := by
    rw [hl]
    exact ⟨hand, ⟨ht, hid⟩, nofun, fun l hl => List.mem_append_left _ (Option.mem_toList.2 hl)⟩
  by_cases ha : s.actor? m = some id
  · cases h.ownMove ha with
    | rests looks rs tells =>
      exact .inl (stays looks (by rw [tells]; exact h.task))
    | told notice hm informs =>
      obtain ⟨notice₀, ht⟩ := h.task
      exact .inl (stays (by rw [hm]; rfl) ⟨some notice, informs ▸ task?_inform ht notice⟩)
    | takes l rest hm empty hands =>
      subst hm empty
      obtain ⟨notice, ht⟩ := h.task
      obtain ⟨hb, hs⟩ := hands
      refine .inl ⟨some l, ⟨⟨notice, by rw [hs]; exact task?_handOver ht l⟩, hid⟩, nofun, ?_⟩
      rintro _ ⟨⟩
      rw [hb]
      exact List.mem_cons_self
    | looks l rest hm look before accepts =>
      cases hst : status? l with
      | some status =>
        exact .inr (.inl ⟨l, status, rest, look, hst, before,
          accepts.trans (acceptLine_of_some hst)⟩)
      | none =>
        rw [acceptLine_of_none hst] at accepts
        refine .inl ⟨none, ⟨⟨none, ?_⟩, hid⟩, ?_, nofun⟩
        · rw [accepts, look]
          exact task?_suspend_self _
        · rw [look]
          rintro _ ⟨⟩
          exact hst
    | ends looks rs o failure finishes =>
      exact .inr (.inr ⟨looks, by rw [finishes]; exact task?_finish_self o⟩)
  · exact .inl (stays (looksAt?_of_ne ha) (h.task.imp fun _ => (task?_step_of_ne ha).trans))

/-- A task that has ended does not come back. -/
theorem task?_step_of_none (ht : s.task? id = none) (hid : ∀ j, m = .start j → id ≠ s.started) :
    (s.step m).task? id = none := by
  by_cases ha : s.actor? m = some id
  · have task (f : Task → Session) : (s.withTask id f).task? id = none := by
      rw [withTask_of_none ht]
      exact ht
    cases m with
    | deal id' => cases ha; exact task _
    | notify id' => cases ha; exact task _
    | resume id' => cases ha; exact task _
    | expire id' => cases ha; exact task _
    | abort id' => cases ha; exact task _
    | answer id' reply =>
      cases ha
      obtain ⟨rs, -, he⟩ := exists_answer_tell s id reply
      rw [step, he, withTask_of_none (s := s.tell rs) ht]
      exact ht
    | start j => exact absurd (Option.some.inj ha).symm (hid j rfl)
    | _ => cases ha
  · exact (task?_step_of_ne ha).trans ht

theorem looksAt?_of_none (ht : s.task? id = none) (m : Move) : s.looksAt? id m = none := by
  cases m with
  | resume id' =>
    rw [looksAt?, ht]
    exact ite_self none
  | _ => rfl

theorem transcript_of_none (ht : s.task? id = none) (hid : id < s.started) (moves : List Move) :
    s.transcript id moves = [] := by
  induction moves generalizing s with
  | nil => rfl
  | cons m moves ih =>
    rw [transcript, looksAt?_of_none ht]
    exact ih (task?_step_of_none ht fun _ _ => hid.ne) (hid.trans_le (started_le_step s m))

theorem not_concat_isPrefix_nil {body : List Bytes} {mark : Bytes} : ¬body ++ [mark] <+: [] := by
  rw [List.prefix_nil]
  simp

theorem concat_isPrefix_cons {body rest : List Bytes} {mark : Bytes}
    (h : body ++ [mark] <+: l :: rest) :
    body = [] ∧ mark = l ∨ ∃ body', body = l :: body' ∧ body' ++ [mark] <+: rest := by
  cases body with
  | nil => exact .inl ⟨rfl, (List.cons_prefix_cons.1 h).1⟩
  | cons b body =>
    obtain ⟨rfl, hbody⟩ := List.cons_prefix_cons.1 h
    exact .inr ⟨body, rfl, hbody⟩

/-- What is in the hand of a task or in the queue after a move was there before, or has arrived. -/
theorem source_step {hand' : Option Bytes} {moves : List Move}
    (hh : ∀ l ∈ hand', l ∈ hand.toList ++ s.console.lines)
    (hl : l ∈ hand'.toList ++ (s.step m).console.lines ∨
      l ∈ linesOf ((s.step m).happenings moves)) :
    l ∈ hand.toList ++ s.console.lines ∨ l ∈ linesOf (s.happenings (m :: moves)) := by
  rw [happenings, linesOf_append, List.mem_append (s := linesOf _)]
  rcases hl with hl | hl
  · rcases List.mem_append.1 hl with hl | hl
    · exact .inl (hh l (Option.mem_toList.1 hl))
    · rcases mem_lines_step hl with hl | hl
      exacts [.inl (List.mem_append_right _ hl), .inr (.inl hl)]
  · exact .inr (.inr hl)

/-- A command is concluded as soon as its task has looked at a status line, with all lines that it
has looked at by then; these have stood in the queue or have arrived since. -/
theorem Listens.run {moves : List Move} {body : List Bytes} {mark : Bytes} {status : Option UInt8}
    (h : s.Listens id errand e hand) (hpre : body ++ [mark] <+: s.transcript id moves)
    (hbody : ∀ l ∈ body, status? l = none) (hmark : status? mark = some status) :
    (∀ l ∈ body ++ [mark],
      l ∈ hand.toList ++ s.console.lines ∨ l ∈ linesOf (s.happenings moves)) ∧
    ∃ before m after hand' rest, moves = before ++ m :: after ∧ s.transcript id before = body ∧
      (s.run before).Listens id errand { e with seen := body.reverse ++ e.seen } hand' ∧
      (s.run before).looksAt? id m = some mark ∧
      (s.run before).step m = ((s.run before).withLines rest).conclude id errand
        { e with seen := mark :: (body.reverse ++ e.seen) } (.answered status) := by
  induction moves generalizing s e hand body with
  | nil => exact absurd hpre not_concat_isPrefix_nil
  | cons m moves ih =>
    rw [transcript] at hpre
    rcases h.step m with ⟨hand', hL, hplain, hh⟩ | ⟨l, st, rest, hl, hst, hb, hs⟩ | ⟨hl, ht⟩
    · cases hl : s.looksAt? id m with
      | none =>
        rw [hl] at hL hpre
        obtain ⟨hsource, before, m', after, hand'', rest, rfl, hbefore, hrun⟩ := ih hL hpre hbody
        refine ⟨fun l hl => source_step hh (hsource l hl), m :: before, m', after, hand'', rest,
          rfl, ?_, hrun⟩
        rw [transcript, hl, hbefore]
        rfl
      | some l =>
        have hplain := hplain l hl
        rw [hl] at hL hpre
        rcases concat_isPrefix_cons hpre with ⟨rfl, rfl⟩ | ⟨body, rfl, hpre'⟩
        · cases hmark.symm.trans hplain
        · obtain ⟨hsource, before, m', after, hand'', rest, rfl, hbefore, hrun⟩ :=
            ih hL hpre' fun l hl => hbody l (List.mem_cons_of_mem _ hl)
          refine ⟨fun l' hl' => ?_, m :: before, m', after, hand'', rest, rfl, ?_, ?_⟩
          · rcases List.mem_cons.1 hl' with rfl | hl'
            · obtain ⟨notice, ht⟩ := h.task
              exact .inl (mem_of_looksAt? ht hl)
            · exact source_step hh (hsource l' hl')
          · rw [transcript, hl, hbefore]
            rfl
          · rw [List.reverse_cons, List.append_assoc]
            exact hrun
    · rw [hl] at hpre
      rcases concat_isPrefix_cons hpre with ⟨rfl, rfl⟩ | ⟨body, rfl, -⟩
      · obtain rfl := Option.some.inj (hst.symm.trans hmark)
        refine ⟨fun l hl => ?_, [], m, moves, hand, rest, rfl, rfl, h, hl, hs⟩
        rw [List.mem_singleton.1 hl, hb]
        exact .inl List.mem_cons_self
      · cases hst.symm.trans (hbody l List.mem_cons_self)
    · rw [hl, transcript_of_none ht (h.started.trans_le (started_le_step s m))] at hpre
      exact absurd hpre not_concat_isPrefix_nil

end GuestLink.Session
