import GuestLink.Proofs.Session.Frame
import Mathlib.Order.Nat
import Mathlib.Tactic.SplitIfs

/-!
# What a task does besides waiting for lines

A task that does not look at a line of the console leaves the lines, their owner and all other tasks
alone (`Aside`), unless it begins a command (`Begins`), for which the console must not be owned.
-/

namespace GuestLink

/-- Whether an act hands bytes to the writer of the console. -/
def Act.isSend : Act → Bool
  | .send _ => true
  | _ => false

/-- Whether a stage is that of a serial command. -/
def Stage.isCommand : Stage → Bool
  | .flushing .. | .reply .. => true
  | _ => false

/-- Whether a task in this stage is engaged with the console: it waits for a line or has a command
under way. -/
def Stage.isEngaged (stage : Stage) : Bool := stage.isCommand || stage.lineSignal?.isSome

theorem Stage.lineSignal?_of_not_isEngaged {stage : Stage} (h : stage.isEngaged = false) :
    stage.lineSignal? = none :=
  Option.isNone_iff_eq_none.1 (by simpa using (Bool.or_eq_false_iff.1 h).2)

/-- Whether a job uses the console on behalf of the caller. -/
def Job.isManual : Job → Bool
  | .next _ | .take .. | .write _ => true
  | _ => false

/-- Whether with a move the caller uses the console by hand, beside the serial commands. -/
def Move.isManual : Move → Bool
  | .reset | .acquire | .release => true
  | .start j => j.isManual
  | _ => false

namespace Session

/-- How many times bytes were handed to the writer of the console. -/
def sends (s : Session) : Nat := s.history.countP Act.isSend

/-- The tasks other than `id`. -/
def except (s : Session) (id : TaskId) : List Task := s.tasks.filter (·.id != id)

/-- Whether sessions agree in their tasks, the lines of the console and its owner, and in how often
something was sent. -/
structure Steady (s s' : Session) : Prop where
  tasks : s'.tasks = s.tasks
  lines : s'.console.lines = s.console.lines
  owned : s'.console.owned = s.console.owned
  sends : s'.sends = s.sends
  started : s.started ≤ s'.started

/-- Whether from `s` to `s'` only the task `id` has changed, which is not engaged with the console
then. -/
structure Aside (s s' : Session) (id : TaskId) : Prop where
  except : s'.except id = s.except id
  own : ∀ t ∈ s'.tasks, t.id = id → t.stage.isEngaged = false
  lines : s'.console.lines = s.console.lines
  owned : s'.console.owned = s.console.owned
  sends : s'.sends = s.sends
  started : s.started ≤ s'.started

/-- Whether from `s` to `s'` the task `id` has begun a command: the console was not owned, its lines
are discarded, and either the command is under way or the task has ended. -/
structure Begins (s s' : Session) (id : TaskId) : Prop where
  unowned : s.console.owned = false
  except : s'.except id = s.except id
  lines : s'.console.lines = []
  started : s.started ≤ s'.started
  outcome :
    (s'.task? id = none ∧ (s'.sends = s.sends ∨ s'.sends = s.sends + 1)) ∨
      ∃ stage : Stage, stage.isCommand = true ∧ s'.task? id = some { id, stage } ∧
        s'.console.owned = true ∧ s'.sends = s.sends + 1

/-- Whether from `s` to `s'` the task `id` has done something that has to do with no command that
was under way. -/
def Acts (s s' : Session) (id : TaskId) : Prop := s.Aside s' id ∨ s.Begins s' id

variable {s s₁ s' : Session} {id : TaskId}

@[simp] theorem sends_emit (s : Session) (a : Act) :
    (s.emit a).sends = s.sends + if a.isSend then 1 else 0 := by
  simp [sends, List.countP_append, List.countP_singleton]

@[simp] theorem sends_tell (s : Session) (rs : List Log.Record) : (s.tell rs).sends = s.sends := by
  have hrs : (rs.map Act.log).countP Act.isSend = 0 :=
    List.countP_eq_zero.2 fun a ha => by
      obtain ⟨r, -, rfl⟩ := List.mem_map.1 ha
      exact Bool.false_ne_true
  rw [sends, tell_history, List.countP_append, hrs]
  rfl

@[simp] theorem sends_finish (s : Session) (id : TaskId) (o : Outcome) :
    (s.finish id o).sends = s.sends :=
  sends_emit { s with tasks := s.tasks.filter (·.id != id) } (.finish id o)

theorem except_finish (s : Session) (id : TaskId) (o : Outcome) :
    (s.finish id o).except id = s.except id := by
  simp [except, List.filter_filter]

theorem except_suspend (s : Session) (id : TaskId) (stage : Stage) :
    (s.suspend id stage).except id = s.except id := by
  simp [except, List.filter_filter, List.filter_append]

/-- The tasks but one that is changed and keeps its number. -/
theorem filter_update {f : Task → Task} (hf : ∀ u, (f u).id = u.id) (ts : List Task)
    (id : TaskId) : (ts.map fun u => if u.id = id then f u else u).filter (·.id != id) =
      ts.filter (·.id != id) := by
  induction ts with
  | nil => rfl
  | cons u us ih =>
    rw [List.map_cons, List.filter_cons, List.filter_cons]
    by_cases hu : u.id = id <;> simp [hu, hf, ih]

theorem except_inform (s : Session) (id : TaskId) (notice : Notice) :
    (s.inform id notice).except id = s.except id :=
  filter_update (f := ({ · with notice := some notice })) (fun _ => rfl) s.tasks id

theorem task?_eq_of_except {id' : TaskId} (h : s'.except id = s.except id) (hne : id' ≠ id) :
    s'.task? id' = s.task? id' := by
  rw [← task?_finish_of_ne (s := s') hne.symm .aborted,
    ← task?_finish_of_ne (s := s) hne.symm .aborted]
  exact congrArg (List.find? (·.id == id')) h

theorem mem_except {t : Task} : t ∈ s.except id ↔ t ∈ s.tasks ∧ t.id ≠ id := by
  rw [except, List.mem_filter, bne_iff_ne]

theorem mem_finish {t : Task} {o : Outcome} (h : t ∈ (s.finish id o).tasks) : t.id ≠ id :=
  (mem_except.1 h).2

theorem ne_of_task?_eq_none (h : s.task? id = none) : ∀ t ∈ s.tasks, t.id ≠ id := fun t ht hid =>
  List.find?_eq_none.1 h t ht (beq_iff_eq.2 hid)

namespace Steady

theorem refl (s : Session) : s.Steady s := ⟨rfl, rfl, rfl, rfl, le_rfl⟩

theorem tell (h : s.Steady s') (rs : List Log.Record) : s.Steady (s'.tell rs) :=
  ⟨h.tasks, h.lines, h.owned, (sends_tell s' rs).trans h.sends, h.started⟩

theorem emit (h : s.Steady s') {a : Act} (ha : a.isSend = false) : s.Steady (s'.emit a) :=
  ⟨h.tasks, h.lines, h.owned, by rw [sends_emit, ha, h.sends]; rfl, h.started⟩

theorem except (h : s.Steady s') (id : TaskId) : s'.except id = s.except id := by
  rw [Session.except, h.tasks, Session.except]

end Steady

namespace Aside

theorem of_steady (h : s.Steady s') (hid : ∀ t ∈ s.tasks, t.id = id → t.stage.isEngaged = false) :
    s.Aside s' id :=
  ⟨h.except id, fun t ht => hid t (h.tasks ▸ ht), h.lines, h.owned, h.sends, h.started⟩

theorem finish (h : s.Steady s') (o : Outcome) : s.Aside (s'.finish id o) id :=
  ⟨(except_finish s' id o).trans (h.except id), fun _ ht hid => absurd hid (mem_finish ht), h.lines,
    h.owned, (sends_finish s' id o).trans h.sends, h.started⟩

theorem suspend (h : s.Steady s') {stage : Stage} (hs : stage.isEngaged = false) :
    s.Aside (s'.suspend id stage) id := by
  refine ⟨(except_suspend s' id stage).trans (h.except id), fun t ht hid => ?_, h.lines, h.owned,
    h.sends, h.started⟩
  rcases mem_suspend ht with ⟨-, hti⟩ | rfl
  exacts [absurd hid hti, hs]

theorem emit (h : s.Aside s' id) {a : Act} (ha : a.isSend = false) : s.Aside (s'.emit a) id :=
  ⟨h.except, h.own, h.lines, h.owned, by rw [sends_emit, ha, h.sends]; rfl, h.started⟩

end Aside

theorem Begins.of_steady (h : s.Steady s₁) (hb : s₁.Begins s' id) : s.Begins s' id :=
  ⟨h.owned ▸ hb.unowned, hb.except.trans (h.except id), hb.lines, h.started.trans hb.started,
    h.sends ▸ hb.outcome⟩

theorem Aside.trans_steady (h : s.Steady s₁) (ha : s₁.Aside s' id) : s.Aside s' id :=
  ⟨ha.except.trans (h.except id), ha.own, ha.lines.trans h.lines, ha.owned.trans h.owned,
    ha.sends.trans h.sends, h.started.trans ha.started⟩

theorem Acts.of_steady (h : s.Steady s₁) (ha : s₁.Acts s' id) : s.Acts s' id :=
  ha.imp (.trans_steady h) (.of_steady h)

/-! ### Commands -/

theorem beginCommand_acts (h : s.Steady s₁) (errand : Errand) (line : Bytes) (timeout : Binary64) :
    s.Acts (s₁.beginCommand id errand line timeout) id := by
  refine Acts.of_steady h ?_
  unfold beginCommand
  split_ifs with hp ho hc
  · exact .inl (.finish (.refl s₁) _)
  · exact .inl (.finish (.refl s₁) _)
  · exact .inl (.finish (.refl s₁) _)
  have ho : s₁.console.owned = false := by simpa using ho
  have ends (s' : Session) (hs' : s'.tasks = s₁.tasks) (hl : s'.console.lines = [])
      (hst : s₁.started ≤ s'.started) (hsends : s'.sends = s₁.sends ∨ s'.sends = s₁.sends + 1)
      (t : Trouble) : s₁.Acts (s'.fail id t) id :=
    .inr ⟨ho, by rw [fail_eq, except_finish, Session.except, hs', Session.except], hl, hst,
      .inl ⟨task?_finish_self _, by rwa [fail_eq, sends_finish]⟩⟩
  let s₂ : Session := { s₁ with console := s₁.console.reset.1 }.tell s₁.console.reset.2
  have htell : s₂.sends = s₁.sends := sends_tell { s₁ with console := s₁.console.reset.1 } _
  let s₃ : Session := { s₂ with console := { s₁.console.reset.1 with owned := true } }
  have waits (stage : Stage) (hs : stage.isCommand = true) :
      s₁.Acts ((s₃.emit (.send line)).suspend id stage) id := by
    refine .inr ⟨ho, except_suspend _ id _, rfl, le_rfl,
      .inr ⟨stage, hs, task?_suspend_self _, rfl, ?_⟩⟩
    exact (sends_emit s₃ _).trans (congrArg (· + 1) htell)
  dsimp only
  split
  · exact ends s₂ rfl rfl le_rfl (.inl htell) _
  · exact ends s₂ rfl rfl le_rfl (.inl htell) _
  · exact ends (s₂.emit (.send line)) rfl rfl le_rfl (.inr (by rw [sends_emit, htell]; rfl)) _
  · exact waits (.flushing errand timeout) rfl
  · exact waits (.reply errand { operation := errand.operation, deadline := ⟨s₁.now, timeout⟩ }) rfl

theorem beginScan_acts (h : s.Steady s₁) (boot : Option Identity) :
    s.Acts (s₁.beginScan id boot) id := beginCommand_acts h _ _ _

theorem beginSetup_acts (h : s.Steady s₁) (identity : Identity) (boot : Bool) :
    s.Acts (s₁.beginSetup id identity boot) id := by
  unfold beginSetup
  split
  · exact .inl (.finish h _)
  · exact beginCommand_acts h _ _ _

theorem beginConnect_aside (h : s.Steady s₁) (identity : Identity) (keys : HostKeys) (boot : Bool) :
    s.Aside (s₁.beginConnect id identity keys boot) id := by
  have hc : s.Steady { s₁ with clients := s₁.clients + 1 } := ⟨h.1, h.2, h.3, h.4, h.5⟩
  exact ((Aside.suspend ((hc.emit rfl).emit rfl) rfl).emit rfl)

theorem afterSuccess_acts (errand : Errand) (e : Serial.Exchange) :
    s.Acts (s.afterSuccess id errand e) id := by
  have ht : s.Steady (s.tell [e.succeededRecord]) := (Steady.refl s).tell _
  unfold afterSuccess
  split
  · rename_i identity boot
    have hi : s.Steady { s.tell [e.succeededRecord] with identity := some identity } :=
      ⟨ht.1, ht.2, ht.3, ht.4, ht.5⟩
    dsimp only
    split_ifs
    · exact beginScan_acts (hi.tell _) _
    · exact .inl (.finish (hi.tell _) _)
  · exact .inl (.finish ht _)
  · split
    · exact .inl (.finish ht _)
    · exact .inl (beginConnect_aside (ht.tell _) _ _ _)

/-! ### Jobs and answers -/

theorem stopReader_steady {c : Console} {rs : List Log.Record}
    (h : s.console.stopReader = .ok (c, rs)) : s.Steady { s with console := c } := by
  unfold Console.stopReader at h
  split at h <;> cases h <;> exact ⟨rfl, rfl, rfl, rfl, le_rfl⟩

theorem closeConsole_aside (h : s.Steady s₁) : s.Aside (s₁.closeConsole id) id := by
  refine .trans_steady h ?_
  unfold closeConsole
  split_ifs
  · exact .finish (.refl s₁) _
  split
  · exact .finish (.refl s₁) _
  rename_i c rs hc
  have hs := (stopReader_steady hc).tell rs
  dsimp only
  split_ifs
  · exact .finish hs _
  have hw : s₁.Steady { { s₁ with console := c }.tell rs with
      console := { c with writer := { c.writer with closing := true } } } :=
    ⟨hs.1, hs.2, hs.3, hs.4, hs.5⟩
  split
  · exact .finish (hw.emit rfl) _
  · split_ifs <;> exact .finish (hw.emit rfl) _
  · exact .suspend (hw.emit rfl) rfl

theorem beginClose_aside (h : s.Steady s₁) : s.Aside (s₁.beginClose id) id := by
  have hc : s.Steady { s₁ with closed := true } := ⟨h.1, h.2, h.3, h.4, h.5⟩
  unfold beginClose
  dsimp only
  split
  · exact (Aside.suspend hc rfl).emit rfl
  · exact closeConsole_aside hc

theorem beginRun_aside (h : s.Steady s₁) (c : ClientId) (command : String)
    (signal : Option Signal) : s.Aside (s₁.beginRun id c command signal) id := by
  unfold beginRun
  split_ifs
  · exact .finish h _
  · exact (Aside.suspend h rfl).emit rfl

theorem endRun_aside (h : s.Steady s₁) (command : String) (result : CommandResult) :
    s.Aside (s₁.endRun id command result) id := by
  unfold endRun
  split_ifs
  · exact .finish (h.tell _) _
  · exact .finish h _

theorem afterConnect_aside (h : s.Steady s₁) (c : ClientId) (r : ConnectRequest) (boot : Bool)
    (answer : Except ConnectFault Unit) : s.Aside (s₁.afterConnect id c r boot answer) id := by
  unfold afterConnect
  split
  · exact .finish (h.emit rfl) _
  dsimp only
  split_ifs
  · exact (Aside.suspend (h.tell _) rfl).emit rfl
  · have hc (rs : List Log.Record) : s.Steady { s₁.tell rs with client := some c } :=
      ⟨h.1, h.2, h.3, (h.tell rs).sends, h.5⟩
    exact .finish (hc _) _
  · exact .finish (h.tell _) _

/-- A task that gets an answer from outside does not look at a line.  Its command goes on only if
that was to be flushed. -/
theorem goOn_acts (h : s.Steady s₁) {stage : Stage}
    (hs : ∀ errand timeout, stage ≠ .flushing errand timeout) (reply : Reply) :
    s.Acts (s₁.goOn id stage reply) id ∨ s.Steady (s₁.goOn id stage reply) := by
  have acts {s' : Session} (h : s.Aside s' id) : s.Acts s' id ∨ s.Steady s' := .inl (.inl h)
  unfold goOn
  split
  · exact acts (.finish h _)
  · exact acts (.finish h _)
  · exact absurd rfl (hs _ _)
  · exact absurd rfl (hs _ _)
  · split
    · exact acts (.finish h _)
    · exact .inl (beginSetup_acts h _ _)
  · exact acts (afterConnect_aside h _ _ _ _)
  · exact acts (.finish h _)
  · have hc : s.Steady { s₁ with client := none } := ⟨h.1, h.2, h.3, h.4, h.5⟩
    exact acts (closeConsole_aside hc)
  · exact acts (.finish h _)
  · exact acts (.finish h _)
  · exact acts (.finish h _)
  · exact acts ((Aside.suspend h rfl).emit rfl)
  · exact acts (.finish (h.emit rfl) _)
  · exact acts (endRun_aside (h.emit rfl) _ _)
  · exact acts (.finish (h.emit rfl) _)
  · exact acts (.finish h _)
  · exact acts (.finish (h.tell _) _)
  · exact .inr h

/-- A task goes on with an answer once its record has been told. -/
theorem exists_answer_tell (s : Session) (id : TaskId) (reply : Reply) :
    ∃ rs, ((∀ a, reply ≠ .keyPair a) → rs = []) ∧
      s.answer id reply = (s.tell rs).withTask id fun t => (s.tell rs).goOn id t.stage reply := by
  cases reply with
  | keyPair a =>
    cases hi : Identity.make Identity.defaultBits a with
    | ok identity => exact ⟨[_], fun h => absurd rfl (h a), by rw [answer, hi]; rfl⟩
    | error _ => exact ⟨[], fun _ => rfl, by rw [answer, hi, tell_nil]; rfl⟩
  | _ => exact ⟨[], fun _ => rfl, by rw [tell_nil]; rfl⟩

/-- What a command whose line was to be flushed does with an answer: it waits for the guest, it has
failed, or the answer was none to it. -/
theorem answer_of_flushing {t : Task} {errand : Errand} {timeout : Binary64}
    (ht : s.task? id = some t) (hs : t.stage = .flushing errand timeout) (reply : Reply) :
    reply = .flushed (.ok ()) ∧ s.answer id reply = s.awaitReply id errand timeout ∨
      (∃ i, reply = .flushed (.error i) ∧ s.answer id reply = s.release.fail id (.send i)) ∨
      (∀ a, reply ≠ .flushed a) ∧ ∃ rs, s.answer id reply = s.tell rs := by
  obtain ⟨rs, hrs, he⟩ := exists_answer_tell s id reply
  rw [withTask_of_some (s := s.tell rs) ht, hs] at he
  cases reply with
  | flushed answer =>
    rw [hrs nofun, tell_nil] at he
    cases answer with
    | error i => exact .inr (.inl ⟨i, rfl, he⟩)
    | ok => exact .inl ⟨rfl, he⟩
  | _ => exact .inr (.inr ⟨nofun, rs, he⟩)

theorem answer_acts
    (h : ∀ t, s.task? id = some t → ∀ errand timeout, t.stage ≠ .flushing errand timeout)
    (reply : Reply) : s.Acts (s.answer id reply) id ∨ s.Steady (s.answer id reply) := by
  obtain ⟨rs, -, he⟩ := exists_answer_tell s id reply
  have hs := (Steady.refl s).tell rs
  rw [he]
  exact withTask_cases (p := fun s' => s.Acts s' id ∨ s.Steady s') (.inr hs) fun t ht =>
    goOn_acts hs (h t ht) reply

theorem beginJob_acts {j : Job} (hj : j.isManual = false) : s.Acts (s.beginJob id j) id := by
  have h := Steady.refl s
  unfold beginJob
  split
  · cases hj
  · cases hj
  · cases hj
  · exact .inl (closeConsole_aside h)
  · split
    · exact .inl (.finish h _)
    · dsimp only
      split_ifs
      · exact .inl (.finish h _)
      · exact .inl ((Aside.suspend h rfl).emit rfl)
  · have hc : s.Steady { s with clients := s.clients + 1 } := ⟨rfl, rfl, rfl, rfl, le_rfl⟩
    exact .inl (beginRun_aside (hc.emit rfl) _ _ _)
  · exact .inl ((Aside.suspend h rfl).emit rfl)
  · exact .inl ((Aside.suspend h rfl).emit rfl)
  · exact beginScan_acts h _
  · exact .inl (beginConnect_aside h _ _ _)
  · split_ifs
    · exact .inl (.finish h _)
    · split
      · exact .inl (.finish h _)
      · exact .inl (beginRun_aside h _ _ _)
  · exact .inl (beginClose_aside h)

/-! ### Steps -/

/-- The task that makes a move. -/
def actor? (s : Session) : Move → Option TaskId
  | .deal id | .notify id | .resume id | .expire id | .answer id _ | .abort id => some id
  | .start _ => some s.started
  | _ => none

theorem notify_aside {t : Task} (hid : ∀ u ∈ s.tasks, u.id = t.id → u.stage.isEngaged = false) :
    s.Aside (s.notify t) t.id := by
  rcases notify_cases s t with h | ⟨-, h⟩ <;> rw [h]
  · exact .of_steady (.refl s) hid
  · refine ⟨except_inform s t.id _, fun u hu hti => ?_, rfl, rfl, rfl, le_rfl⟩
    obtain ⟨v, hv, hvid, hstage⟩ := exists_of_mem_inform hu
    exact hstage ▸ hid v hv (hvid.trans hti)

theorem resume_aside {t : Task} (ht : t ∈ s.tasks)
    (hid : ∀ u ∈ s.tasks, u.id = t.id → u.stage.isEngaged = false) :
    s.Aside (s.resume t) t.id := by
  unfold resume
  rw [Stage.lineSignal?_of_not_isEngaged (hid t ht rfl)]
  split
  · cases ‹none = some _›
  · split_ifs
    · exact .suspend ((Steady.refl s).emit rfl) rfl
    · exact .of_steady (.refl s) hid
  · exact .of_steady (.refl s) hid

theorem expire_aside {t : Task} (ht : t ∈ s.tasks)
    (hid : ∀ u ∈ s.tasks, u.id = t.id → u.stage.isEngaged = false) :
    s.Aside (s.expire t) t.id := by
  have hl := hid t ht rfl
  unfold expire
  split_ifs
  · split
    · rename_i hs
      rw [hs] at hl
      cases hl
    · exact .finish (.refl s) _
    · exact .finish (.refl s) _
    · exact .of_steady (.refl s) hid
  · exact .of_steady (.refl s) hid

theorem abort_aside {t : Task} (ht : t ∈ s.tasks)
    (hid : ∀ u ∈ s.tasks, u.id = t.id → u.stage.isEngaged = false) :
    s.Aside (s.abort t) t.id := by
  have hl := hid t ht rfl
  unfold abort
  dsimp only
  split
  · rename_i hs
    rw [hs] at hl
    cases hl
  · rename_i hs
    rw [hs] at hl
    cases hl
  · exact .finish ((Steady.refl s).emit rfl) _
  · exact .finish ((Steady.refl s).emit rfl) _
  · exact .finish ((Steady.refl s).emit rfl) _
  · exact .finish (.refl s) _

/-- A move of a task that is not engaged with the console. -/
theorem step_acts {m : Move} (hm : m.isManual = false) (ha : s.actor? m = some id)
    (hid : ∀ t ∈ s.tasks, t.id = id → t.stage.isEngaged = false) : s.Acts (s.step m) id := by
  have stays : s.Acts s id := .inl (.of_steady (.refl s) hid)
  have task (f : Task → Session) (hf : ∀ t ∈ s.tasks, t.id = id → s.Aside (f t) t.id) :
      s.Acts (s.withTask id f) id :=
    withTask_cases (p := fun s' => s.Acts s' id) stays fun t ht =>
      .inl (id_of_task? ht ▸ hf t (mem_of_task? ht) (id_of_task? ht))
  cases m with
  | deal id' =>
    cases ha
    refine task _ fun t ht hti => ?_
    have hl := Stage.lineSignal?_of_not_isEngaged (hid t ht hti)
    subst hti
    rw [deal, hl]
    cases s.console.lines <;> exact .of_steady (.refl s) hid
  | notify id' =>
    cases ha
    exact task _ fun t ht hti => notify_aside (hti ▸ hid)
  | resume id' =>
    cases ha
    exact task _ fun t ht hti => resume_aside ht (hti ▸ hid)
  | expire id' =>
    cases ha
    exact task _ fun t ht hti => expire_aside ht (hti ▸ hid)
  | abort id' =>
    cases ha
    exact task _ fun t ht hti => abort_aside ht (hti ▸ hid)
  | answer id' reply =>
    cases ha
    have hf (t : Task) (ht : s.task? id = some t) (errand : Errand) (timeout : Binary64) :
        t.stage ≠ .flushing errand timeout := fun hs => by
      cases hs ▸ hid t (mem_of_task? ht) (id_of_task? ht)
    exact (answer_acts hf reply).elim (fun h => h) fun h => .inl (.of_steady h hid)
  | start j =>
    cases ha
    have hs : s.Steady { s with started := s.started + 1 } := ⟨rfl, rfl, rfl, rfl, Nat.le_succ _⟩
    exact .of_steady hs (beginJob_acts hm)
  | _ => cases ha

/-- A move that no task makes, except that the reader may run. -/
theorem step_steady {m : Move} (hm : m.isManual = false) (ha : s.actor? m = none)
    (hr : m ≠ .read) : s.Steady (s.step m) := by
  have console {f : Console → Console} (hl : (f s.console).lines = s.console.lines)
      (ho : (f s.console).owned = s.console.owned) : s.Steady (s.withConsole f) :=
    ⟨rfl, hl, ho, rfl, le_rfl⟩
  cases m with
  | receive data =>
    unfold step
    refine console ?_ ?_ <;> unfold Console.receive <;> split_ifs
    exacts [rfl, wakeReader_lines .., rfl, wakeReader_owned ..]
  | closeInput => exact console (wakeReader_lines ..) (wakeReader_owned ..)
  | breakInput i =>
    exact console (f := (·.breakInput i)) (wakeReader_lines ..) (wakeReader_owned ..)
  | startReader =>
    unfold step
    refine console ?_ ?_ <;> unfold Console.startReader <;> split_ifs <;> rfl
  | judge r type key =>
    rw [step, judge]
    split
    exacts [.refl s, (Steady.refl s).tell _]
  | rig w => exact console (f := ({ · with writer := w })) rfl rfl
  | disconnect c => exact ⟨rfl, rfl, rfl, rfl, le_rfl⟩
  | pass nanos => exact ⟨rfl, rfl, rfl, rfl, le_rfl⟩
  | raise name => exact ⟨rfl, rfl, rfl, rfl, le_rfl⟩
  | lower name => exact ⟨rfl, rfl, rfl, rfl, le_rfl⟩
  | read => exact absurd rfl hr
  | reset | acquire | release => cases hm
  | deal | notify | resume | expire | answer | start | abort => cases ha

end Session

end GuestLink
