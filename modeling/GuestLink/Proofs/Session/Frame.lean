import GuestLink.Session.Step

/-!
# What the steps of a task leave alone

The small steps out of which tasks are made change one part of a session each.
-/

namespace GuestLink

theorem Stage.signal?_of_lineSignal? {stage : Stage} {signal : Signal}
    (h : stage.lineSignal? = some signal) : stage.signal? = some signal := by
  cases stage with
  | capturing => cases h
  | _ => exact h

theorem Stage.signal?_eq_none {stage : Stage} (h : stage.lineSignal? = none)
    (hc : ∀ channel command signal, stage ≠ .capturing channel command signal) :
    stage.signal? = none := by
  cases stage with
  | capturing => exact absurd rfl (hc _ _ _)
  | _ => exact h

namespace Session

variable (s : Session) (a : Act) (rs : List Log.Record) (id : TaskId) (o : Outcome) (t : Trouble)
  (r : Result) (stage : Stage)

@[simp] theorem emit_console : (s.emit a).console = s.console := rfl
@[simp] theorem emit_closed : (s.emit a).closed = s.closed := rfl
@[simp] theorem emit_now : (s.emit a).now = s.now := rfl
@[simp] theorem emit_started : (s.emit a).started = s.started := rfl
@[simp] theorem emit_tasks : (s.emit a).tasks = s.tasks := rfl
@[simp] theorem emit_history : (s.emit a).history = s.history ++ [a] := rfl

@[simp] theorem tell_console : (s.tell rs).console = s.console := rfl
@[simp] theorem tell_closed : (s.tell rs).closed = s.closed := rfl
@[simp] theorem tell_now : (s.tell rs).now = s.now := rfl
@[simp] theorem tell_started : (s.tell rs).started = s.started := rfl
@[simp] theorem tell_tasks : (s.tell rs).tasks = s.tasks := rfl
@[simp] theorem tell_history : (s.tell rs).history = s.history ++ rs.map .log := rfl

@[simp] theorem tell_nil : s.tell [] = s := by
  simp [tell]

@[simp] theorem finish_console : (s.finish id o).console = s.console := rfl
@[simp] theorem finish_closed : (s.finish id o).closed = s.closed := rfl
@[simp] theorem finish_now : (s.finish id o).now = s.now := rfl
@[simp] theorem finish_started : (s.finish id o).started = s.started := rfl
@[simp] theorem finish_tasks : (s.finish id o).tasks = s.tasks.filter (·.id != id) := rfl
@[simp] theorem finish_history : (s.finish id o).history = s.history ++ [.finish id o] := rfl

@[simp] theorem suspend_console : (s.suspend id stage).console = s.console := rfl
@[simp] theorem suspend_closed : (s.suspend id stage).closed = s.closed := rfl
@[simp] theorem suspend_now : (s.suspend id stage).now = s.now := rfl
@[simp] theorem suspend_started : (s.suspend id stage).started = s.started := rfl
@[simp] theorem suspend_tasks :
    (s.suspend id stage).tasks = s.tasks.filter (·.id != id) ++ [{ id := id, stage := stage }] := rfl
@[simp] theorem suspend_history : (s.suspend id stage).history = s.history := rfl

@[simp] theorem release_console : s.release.console = { s.console with owned := false } := rfl
@[simp] theorem release_closed : s.release.closed = s.closed := rfl
@[simp] theorem release_now : s.release.now = s.now := rfl
@[simp] theorem release_started : s.release.started = s.started := rfl
@[simp] theorem release_tasks : s.release.tasks = s.tasks := rfl
@[simp] theorem release_history : s.release.history = s.history := rfl

@[simp] theorem fail_eq : s.fail id t = s.finish id (.failed t) := rfl
@[simp] theorem succeed_eq : s.succeed id r = s.finish id (.ok r) := rfl

theorem wakeReader_lines (c : Console) (arrived : Bool) :
    (c.wakeReader arrived).lines = c.lines := by
  unfold Console.wakeReader
  split <;> rfl

theorem wakeReader_ended (c : Console) (arrived : Bool) :
    (c.wakeReader arrived).ended = c.ended := by
  unfold Console.wakeReader
  split <;> rfl

theorem wakeReader_owned (c : Console) (arrived : Bool) :
    (c.wakeReader arrived).owned = c.owned := by
  unfold Console.wakeReader
  split <;> rfl

/-! ### Looking tasks up -/

variable {s id} {id' : TaskId}

theorem task?_of_tasks_eq {s' : Session} (h : s'.tasks = s.tasks) (id : TaskId) :
    s'.task? id = s.task? id := by
  rw [task?, task?, h]

theorem id_of_task? {t : Task} (h : s.task? id = some t) : t.id = id :=
  beq_iff_eq.1 (List.find?_some (p := fun t : Task => t.id == id) h)

theorem mem_of_task? {t : Task} (h : s.task? id = some t) : t ∈ s.tasks :=
  List.mem_of_find?_eq_some h

theorem task?_finish_self (o : Outcome) : (s.finish id o).task? id = none := by
  rw [task?, finish_tasks, List.find?_filter, List.find?_eq_none]
  simp

theorem task?_finish_of_ne (h : id' ≠ id) (o : Outcome) :
    (s.finish id' o).task? id = s.task? id := by
  rw [task?, task?, finish_tasks, List.find?_filter]
  congr 1
  funext t
  by_cases ht : t.id = id
  · simp [ht, h.symm]
  · simp [ht]

theorem task?_suspend_self (stage : Stage) :
    (s.suspend id stage).task? id = some { id := id, stage := stage } := by
  rw [task?, suspend_tasks, List.find?_append, ← finish_tasks s id .aborted, ← task?,
    task?_finish_self]
  simp

theorem task?_suspend_of_ne (h : id' ≠ id) (stage : Stage) :
    (s.suspend id' stage).task? id = s.task? id := by
  rw [task?, suspend_tasks, List.find?_append, ← finish_tasks s id' .aborted, ← task?,
    task?_finish_of_ne h]
  simp [h]

/-- A task that is changed and keeps its number. -/
theorem task?_update {t : Task} (ht : s.task? id = some t) {f : Task → Task}
    (hf : ∀ u, (f u).id = u.id) :
    (s.tasks.map fun u => if u.id = id then f u else u).find? (·.id == id) = some (f t) := by
  have hid (u : Task) : ((if u.id = id then f u else u).id == id) = (u.id == id) := by
    split
    · exact congrArg (· == id) (hf u)
    · rfl
  have ht : s.tasks.find? (·.id == id) = some t := ht
  simp only [List.find?_map, Function.comp_def, hid, ht, Option.map_some, id_of_task? ht, if_true]

theorem task?_handOver {t : Task} (ht : s.task? id = some t) (line : Bytes) :
    (s.tasks.map fun u => if u.id = id then { u with hand := some line } else u).find? (·.id == id) =
      some { t with hand := some line } :=
  task?_update ht fun _ => rfl

/-- A session in which a task has been told that its wait is over. -/
def inform (s : Session) (id : TaskId) (notice : Notice) : Session :=
  { s with
    tasks := s.tasks.map fun u => if u.id = id then { u with notice := some notice } else u }

theorem notify_cases (s : Session) (t : Task) : s.notify t = s ∨
    s.canResume t = true ∧ s.notify t = s.inform t.id (s.notice t) := by
  unfold notify
  split
  · exact .inr ⟨‹_›, rfl⟩
  · exact .inl rfl

theorem task?_inform {t : Task} (ht : s.task? id = some t) (notice : Notice) :
    (s.inform id notice).task? id = some { t with notice := some notice } :=
  task?_update ht fun _ => rfl

theorem exists_of_mem_inform {notice : Notice} {t : Task} (h : t ∈ (s.inform id notice).tasks) :
    ∃ u ∈ s.tasks, u.id = t.id ∧ u.stage = t.stage := by
  obtain ⟨u, hu, rfl⟩ := List.mem_map.1 h
  refine ⟨u, hu, ?_⟩
  split <;> exact ⟨rfl, rfl⟩

theorem mem_suspend {stage : Stage} {t : Task} (h : t ∈ (s.suspend id stage).tasks) :
    t ∈ s.tasks ∧ t.id ≠ id ∨ t = { id := id, stage := stage } := by
  rw [suspend_tasks, List.mem_append, List.mem_singleton, List.mem_filter, bne_iff_ne] at h
  exact h

theorem withTask_of_none (h : s.task? id = none) (f : Task → Session) : s.withTask id f = s := by
  rw [withTask, h]

theorem withTask_of_some {t : Task} (h : s.task? id = some t) (f : Task → Session) :
    s.withTask id f = f t := by
  rw [withTask, h]

theorem step_notify {t : Task} (h : s.task? id = some t) : s.step (.notify id) = s ∨
    s.canResume t = true ∧ s.step (.notify id) = s.inform id (s.notice t) := by
  rw [step, withTask_of_some h]
  exact id_of_task? h ▸ notify_cases s t

theorem withTask_cases {p : Session → Prop} {f : Task → Session} (hnone : p s)
    (hsome : ∀ t, s.task? id = some t → p (f t)) : p (s.withTask id f) := by
  cases ht : s.task? id with
  | none =>
    rw [withTask_of_none ht]
    exact hnone
  | some t =>
    rw [withTask_of_some ht]
    exact hsome t ht

end Session

end GuestLink
