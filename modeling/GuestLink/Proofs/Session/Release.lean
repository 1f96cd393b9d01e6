import GuestLink.Proofs.Session.Doing
import GuestLink.Proofs.Session.Exclusion

/-!
# What closing releases

A task that closes a session or its console comes to the console unless it fails before, over the
SSH client.  There it ends the reader and closes the writer, for good, unless the reader was ended
by an incident before: then it raises that incident and leaves the writer open, and so does every
later attempt (`released_iff`).
-/

namespace GuestLink

/-- Whether a move neither starts a reader nor puts an open writer in the place of a closed one. -/
def Move.keepsReleased : Move → Bool
  | .startReader => false
  | .rig w => w.closing
  | _ => true

namespace Session

/-- Whether the task `id` comes to the console with a move, in order to close it. -/
inductive ComesToConsole (s : Session) (id : TaskId) (m : Move) : Prop
  /-- The console alone is closed. -/
  | console (hm : m = .start .closeConsole) (hid : id = s.started)
  /-- The session is closed, and has no client. -/
  | session (hm : m = .start .close) (hid : id = s.started) (client : s.client = none)
  /-- The client of a session that is being closed has come to its end. -/
  | retired (c : ClientId) (hm : m = .answer id (.clientClosed (.ok ())))
      (stage : s.stage? id = some (.retiring c))

/-- Whether the task `id` that closes the session ends with a move and an outcome before it comes to
the console: the close of the client has failed, or the task is ended by its caller. -/
inductive FailsBefore (s : Session) (id : TaskId) (m : Move) : Outcome → Prop
  | raised (c : ClientId) (i : Incident) (hm : m = .answer id (.clientClosed (.error i)))
      (stage : s.stage? id = some (.retiring c)) : s.FailsBefore id m (.failed (.outside i))
  | aborted (c : ClientId) (hm : m = .abort id) (stage : s.stage? id = some (.retiring c)) :
      s.FailsBefore id m .aborted

/-- Whether closing the session, if it has no client, or its console does nothing but to end with the
outcome `o`. -/
def ClosesWith (s : Session) (o : Outcome) : Prop :=
  ∀ j, j = .closeConsole ∨ j = .close ∧ s.client = none →
    (s.step (.start j)).console = s.console ∧
      (s.step (.start j)).history = s.history ++ [.finish s.started o]

/-- What has become by `s'` of a console to which the task `id` came in the session `s`, in order to
close it, and which has ended with the outcome `o`. -/
structure Shuts (s : Session) (id : TaskId) (m : Move) (o : Outcome) (s' : Session) : Prop where
  comes : s.ComesToConsole id m
  released : s'.console.Released ↔ ¬s.console.HasFailed
  again : ¬s.console.HasFailed → s'.ClosesWith (.ok .nothing)
  failed : ∀ i, s.console.reader = .failed i → o = .failed (.outside i) ∧
    (s.step m).console = s.console ∧ s'.ClosesWith (.failed (.outside i))

/-- Whether the task `id` has not ended since `s₀`. -/
structure Unended (s₀ : Session) (id : TaskId) (s : Session) : Prop where
  history : s₀.history <+: s.history
  ends : ∀ o, .finish id o ∉ s₀.since s

/-- Whether the task `id` has waited for the end of the client since `s₀`. -/
structure Retires (s₀ : Session) (id : TaskId) (s : Session) : Prop extends s₀.Unended id s where
  started : id < s.started
  stage : ∃ c, s.stage? id = some (.retiring c)

/-- Whether the task `id` has ended since `s₀`, with the outcome `o`. -/
structure Ended (s₀ : Session) (id : TaskId) (o : Outcome) (s : Session) : Prop where
  history : s₀.history <+: s.history
  started : id < s.started
  stage : s.stage? id = none
  ends : ∀ o', .finish id o' ∈ s₀.since s → o' = o

variable {s₀ s : Session} {id : TaskId} {m : Move} {moves : List Move} {o : Outcome} {i : Incident}

/-! ### The ends of a console -/

theorem wakeReader_ends {c : Console} (h : c.reader ≠ .waiting) (arrived : Bool) :
    (c.wakeReader arrived).ends = c.ends := congrArg Console.ends (if_neg h)

/-- A reader that has nothing to do any more is left alone, unless it is closed. -/
theorem ends_step (hr : s.console.reader ≠ .ready ∧ s.console.reader ≠ .waiting)
    (ha : s.actor? m = none) (hm : m ≠ .startReader) (hw : ∀ w, m ≠ .rig w) :
    (s.step m).console.ends = s.console.ends := by
  cases m with
  | receive data =>
    rw [step, withConsole, Console.receive]
    split_ifs
    · rfl
    · exact wakeReader_ends (c := { s.console with buffer := s.console.buffer ++ data }) hr.2 _
  | closeInput =>
    exact wakeReader_ends (c := { s.console with inputClosed := true }) hr.2 _
  | breakInput i =>
    exact wakeReader_ends (c := { s.console with inputFault := some i }) hr.2 _
  | read => rw [(read_of_not_ready hr.1).2]
  | rig w => exact absurd rfl (hw w)
  | startReader => exact absurd rfl hm
  | judge r type key =>
    rw [step, judge]
    split <;> rfl
  | acquire =>
    rw [step, acquire]
    split_ifs <;> rfl
  | reset | release | disconnect | pass | raise | lower => rfl
  | deal | notify | resume | expire | answer | start | abort => cases ha

theorem released_step (h : s.console.Released) (hm : m.keepsReleased = true) :
    (s.step m).console.Released := by
  cases ha : s.actor? m with
  | some id => exact (step_does ha).ends.elim (Console.released_of_ends · h) And.right
  | none =>
    by_cases hw : ∃ w, m = .rig w
    · obtain ⟨w, rfl⟩ := hw
      exact ⟨h.1, hm⟩
    · have hs : m ≠ .startReader := by
        rintro rfl
        cases hm
      exact Console.released_of_ends
        (ends_step (by simp [h.1]) ha hs fun w hw' => hw ⟨w, hw'⟩) h

theorem released_run (h : s.console.Released) (hm : ∀ m ∈ moves, m.keepsReleased = true) :
    (s.run moves).console.Released := by
  induction moves generalizing s with
  | nil => exact h
  | cons m moves ih =>
    obtain ⟨hfirst, hrest⟩ := List.forall_mem_cons.1 hm
    exact ih (released_step h hfirst) hrest

/-- A failed reader is never taken away. -/
theorem failed_step (h : s.console.reader = .failed i) (m : Move) :
    (s.step m).console.reader = .failed i := by
  cases ha : s.actor? m with
  | some id =>
    rcases (step_does ha).ends with he | ⟨hno, -⟩
    · exact (congrArg Prod.fst he).trans h
    · exact absurd ⟨i, h⟩ hno
  | none =>
    by_cases hw : ∃ w, m = .rig w
    · obtain ⟨w, rfl⟩ := hw
      exact h
    · by_cases hs : m = .startReader
      · subst hs
        rw [step, withConsole, Console.startReader, if_neg (by simp [h])]
        exact h
      · have he := ends_step (by simp [h]) ha hs fun w hw' => hw ⟨w, hw'⟩
        exact (congrArg Prod.fst he).trans h

theorem failed_run (h : s.console.reader = .failed i) (moves : List Move) :
    (s.run moves).console.reader = .failed i := by
  induction moves generalizing s with
  | nil => exact h
  | cons m moves ih => exact ih (failed_step h m)

/-! ### Closing the console -/

theorem closeConsole_of_failed (hp : s.plugged = true) (h : s.console.reader = .failed i)
    (id : TaskId) : s.closeConsole id = s.fail id (.outside i) := by
  rw [closeConsole, if_neg (by simp [hp]), Console.stopReader_of_failed h]

theorem closeConsole_of_released (hp : s.plugged = true) (h : s.console.Released) (id : TaskId) :
    s.closeConsole id = s.succeed id .nothing := by
  have hstop : s.console.stopReader = .ok (s.console, []) := by
    rw [Console.stopReader, h.1]
  rw [closeConsole, if_neg (by simp [hp]), hstop]
  dsimp only
  rw [if_pos h.2, tell_nil]

theorem closeConsole_released (hp : s.plugged = true) (h : ¬s.console.HasFailed) (id : TaskId) :
    (s.closeConsole id).console.Released := by
  rw [closeConsole, if_neg (by simp [hp])]
  split
  · rename_i i hstop
    exact absurd ⟨i, Console.failed_of_stopReader hstop⟩ h
  · rename_i c rs hstop
    obtain ⟨-, hreader, -⟩ := Console.of_stopReader hstop
    dsimp only
    split_ifs with hw
    · exact ⟨hreader, hw⟩
    · split
      · exact ⟨hreader, rfl⟩
      · split_ifs <;> exact ⟨hreader, rfl⟩
      · exact ⟨hreader, rfl⟩

theorem clientClosed_eq {c : ClientId} (hs : s.stage? id = some (.retiring c))
    (answer : Except Incident Unit) : s.step (.answer id (.clientClosed answer)) =
      s.goOn id (.retiring c) (.clientClosed answer) := by
  obtain ⟨t, ht, hstage⟩ := stage?_eq_some.1 hs
  obtain ⟨rs, hrs, he⟩ := exists_answer_tell s id (.clientClosed answer)
  rw [hrs (by simp), tell_nil, withTask_of_some ht, hstage] at he
  exact he

/-- A move with which a task comes to the console. -/
theorem ComesToConsole.exists_step_eq (h : s.ComesToConsole id m) : ∃ s₁ : Session,
    s.step m = s₁.closeConsole id ∧ s₁.console = s.console ∧ s₁.plugged = s.plugged ∧
      s₁.history = s.history ∧ (m ≠ .start .closeConsole → s₁.client = none) := by
  cases h with
  | console hm hid =>
    subst hm hid
    exact ⟨{ s with started := s.started + 1 }, rfl, rfl, rfl, rfl, fun h => absurd rfl h⟩
  | session hm hid client =>
    subst hm hid
    rcases close_cases s with ⟨c, hc, -⟩ | ⟨-, hs⟩
    · cases hc.symm.trans client
    · exact ⟨_, hs, rfl, rfl, rfl, fun _ => client⟩
  | retired c hm stage =>
    subst hm
    exact ⟨{ s with client := none }, clientClosed_eq stage (.ok ()), rfl, rfl, rfl, fun _ => rfl⟩

theorem comesToConsole_of_start {j : Job} (hj : j = .closeConsole ∨ j = .close ∧ s.client = none) :
    s.ComesToConsole s.started (.start j) := by
  rcases hj with rfl | ⟨rfl, hnone⟩
  · exact .console rfl rfl
  · exact .session rfl rfl hnone

theorem closesWith_of_failed (hp : s.plugged = true) (h : s.console.reader = .failed i) :
    s.ClosesWith (.failed (.outside i)) := by
  intro j hj
  obtain ⟨s₁, hs, hc, hp₁, hh, -⟩ := (comesToConsole_of_start hj).exists_step_eq
  rw [hs, closeConsole_of_failed (hp₁.trans hp) (hc ▸ h)]
  exact ⟨hc, congrArg (· ++ _) hh⟩

theorem closesWith_of_released (hp : s.plugged = true) (h : s.console.Released) :
    s.ClosesWith (.ok .nothing) := by
  intro j hj
  obtain ⟨s₁, hs, hc, hp₁, hh, -⟩ := (comesToConsole_of_start hj).exists_step_eq
  rw [hs, closeConsole_of_released (hp₁.trans hp) (hc ▸ h)]
  exact ⟨hc, congrArg (· ++ _) hh⟩

/-! ### The task that closes -/

theorem Unended.ended (h : s₀.Unended id s) (hid : id < s.started) (o : Outcome) :
    s₀.Ended id o (s.finish id o) := by
  refine ⟨h.history.trans (List.prefix_append ..), hid, by simp, fun o' ho => ?_⟩
  rw [since_append h.history (finish_history s id o)] at ho
  rcases List.mem_append.1 ho with ho | ho
  · exact absurd ho (h.ends o')
  · cases List.mem_singleton.1 ho
    rfl

theorem Unended.step (h : s₀.Unended id s) (ha : s.actor? m ≠ some id) :
    s₀.Unended id (s.step m) := by
  obtain ⟨acts, hacts, hactor⟩ := exists_acts s m
  refine ⟨h.history.trans (hacts ▸ List.prefix_append ..), fun o ho => ?_⟩
  rw [since_append h.history hacts] at ho
  rcases List.mem_append.1 ho with ho | ho
  · exact h.ends o ho
  · exact ha (hactor _ ho id rfl)

theorem Ended.step (h : s₀.Ended id o s) (m : Move) : s₀.Ended id o (s.step m) := by
  obtain ⟨acts, hacts, hactor⟩ := exists_acts s m
  have hends : ∀ o', .finish id o' ∈ acts → s.actor? m = some id := fun o' ho => hactor _ ho id rfl
  refine ⟨h.history.trans (hacts ▸ List.prefix_append ..),
    h.started.trans_le (started_le_step s m), ?_, fun o' ho => ?_⟩
  · by_cases ha : s.actor? m = some id
    · exact (gone_step h.started ha h.stage).1
    · exact (stage?_step_of_ne ha).trans h.stage
  · rw [since_append h.history hacts] at ho
    rcases List.mem_append.1 ho with ho | ho
    · exact h.ends o' ho
    · exact absurd ho ((gone_step h.started (hends o' ho) h.stage).2 acts hacts o')

theorem Ended.run (h : s₀.Ended id o s) (moves : List Move) : s₀.Ended id o (s.run moves) := by
  induction moves generalizing s with
  | nil => exact h
  | cons m moves ih => exact ih (h.step m)

theorem retires_of_client {c : ClientId} (hc : s.client = some c) :
    s.Retires s.started (s.step (.start .close)) := by
  rcases close_cases s with ⟨c', -, hs⟩ | ⟨hnone, -⟩
  · rw [hs]
    refine ⟨⟨List.prefix_append .., fun o ho => ?_⟩, Nat.lt_succ_self _, c', ?_⟩
    · rw [since_of_history rfl] at ho
      cases List.mem_singleton.1 ho
    · rw [stage?_emit, stage?_suspend, if_pos rfl]
  · cases hc.symm.trans hnone

/-- The client is waited for until the task comes to the console or fails. -/
theorem Retires.step (h : s₀.Retires id s) (m : Move) :
    s₀.Retires id (s.step m) ∨ s.ComesToConsole id m ∨ ∃ o, s.FailsBefore id m o := by
  obtain ⟨c, hstage⟩ := h.stage
  have hid := h.started.trans_le (started_le_step s m)
  by_cases ha : s.actor? m = some id
  · cases ending_of_stage hstage (.inr rfl) h.started ha with
    | rests rs hs =>
      rw [hs] at hid ⊢
      refine .inl ⟨⟨h.history.trans (List.prefix_append ..), fun o ho => ?_⟩, hid, c, hstage⟩
      rw [since_append h.history (tell_history s rs)] at ho
      rcases List.mem_append.1 ho with ho | ho
      · exact h.ends o ho
      · obtain ⟨r, -, hr⟩ := List.mem_map.1 ho
        cases hr
    | answered answer hm =>
      cases answer with
      | ok => exact .inr (.inl (.retired c hm hstage))
      | error i => exact .inr (.inr ⟨_, .raised c i hm hstage⟩)
    | aborted hm => exact .inr (.inr ⟨_, .aborted c hm hstage⟩)
  · exact .inl ⟨h.toUnended.step ha, hid, c, (stage?_step_of_ne ha).trans hstage⟩

/-- A task that fails before it comes to the console has left it alone. -/
theorem FailsBefore.step_eq (h : s.FailsBefore id m o) : s.step m = s.finish id o := by
  cases h with
  | raised c i hm stage =>
    subst hm
    exact clientClosed_eq stage (.error i)
  | aborted c hm stage =>
    subst hm
    obtain ⟨t, ht, hstage⟩ := stage?_eq_some.1 stage
    obtain rfl := id_of_task? ht
    rw [Session.step, withTask_of_some ht, abort, hstage]

theorem client_run (hc : s.closed = true) (hn : s.client = none) (moves : List Move) :
    (s.run moves).client = none := by
  induction moves generalizing s with
  | nil => exact hn
  | cons m moves ih =>
    obtain ⟨id, ha⟩ := exists_actor s m
    have hw := step_winds hc ha
    exact ih hw.closed (hw.client.elim (·.trans hn) fun h => h)

theorem plugged_run (s : Session) (moves : List Move) : (s.run moves).plugged = s.plugged := by
  induction moves generalizing s with
  | nil => rfl
  | cons m moves ih => exact (ih (s.step m)).trans (step_preserves s m).plugged

/-- What becomes of the console when a task comes to it to close it. -/
theorem ComesToConsole.shuts (h : s.ComesToConsole id m) (hu : s₀.Unended id s)
    (hid : id < (s.step m).started) (hp : s.plugged = true)
    (hm : ∀ m ∈ moves, m.keepsReleased = true)
    (ho : .finish id o ∈ s₀.since ((s.step m).run moves)) :
    s.Shuts id m o ((s.step m).run moves) := by
  obtain ⟨s₁, hs, hc, hp₁, hh, -⟩ := h.exists_step_eq
  have hp' : ((s.step m).run moves).plugged = true :=
    (plugged_run _ moves).trans ((step_preserves s m).plugged.trans hp)
  have released (hno : ¬s.console.HasFailed) : ((s.step m).run moves).console.Released := by
    refine released_run ?_ hm
    rw [hs]
    exact closeConsole_released (hp₁.trans hp) (hc ▸ hno) id
  refine ⟨h, ⟨fun hr => ?_, released⟩, fun hno => closesWith_of_released hp' (released hno),
    fun i hi => ?_⟩
  · rintro ⟨i, hi⟩
    exact hr.not_hasFailed ⟨i, failed_run (failed_step hi m) moves⟩
  · have hfail : s.step m = s₁.finish id (.failed (.outside i)) :=
      hs.trans (closeConsole_of_failed (hp₁.trans hp) (hc ▸ hi) id)
    have hu₁ : s₀.Unended id s₁ := ⟨hh ▸ hu.history, by rw [since, hh]; exact hu.ends⟩
    have hid₁ : id < s₁.started := by
      rw [hfail] at hid
      exact hid
    have hended := (hu₁.ended hid₁ (.failed (.outside i))).run moves
    rw [← hfail] at hended
    exact ⟨hended.ends o ho, by rw [hfail]; exact hc,
      closesWith_of_failed hp' (failed_run (failed_step hi m) moves)⟩

/-- A session that is closed by a task that came to the console has no client any more. -/
theorem ComesToConsole.client_eq_none (h : s.ComesToConsole id m) (hm : m ≠ .start .closeConsole)
    (hc : (s.step m).closed = true) (moves : List Move) :
    ((s.step m).run moves).client = none := by
  obtain ⟨s₁, hs, -, -, -, hnone⟩ := h.exists_step_eq
  refine client_run hc ?_ moves
  rw [hs, (closeConsole_apart (.refl s₁ m id)).client]
  exact hnone hm

theorem Until.exists_split {p : Session → Prop} {q : Session → Move → Prop}
    (h : s.Until p q moves) : p (s.run moves) ∨ ∃ before m after,
      moves = before ++ m :: after ∧ p (s.run before) ∧ q (s.run before) m := by
  induction moves generalizing s with
  | nil => exact .inl h
  | cons m moves ih =>
    obtain ⟨hp, hq | hrest⟩ := h
    · exact .inr ⟨[], m, moves, rfl, hp, hq⟩
    · refine (ih hrest).imp_right ?_
      rintro ⟨before, m', after, rfl, hp', hq⟩
      exact ⟨m :: before, m', after, rfl, hp', hq⟩

/-- Closing a session or its console releases the reader and the writer.  A task that has ended has
either failed before it came to the console, when the close of the client raised or the task was
ended by its caller, or has come to it.  From then on, unless a reader is started again, the console
is released just if its reader had not been ended by an incident.  In that case, closing it again
does nothing; else this and every later attempt raises the incident and leaves the writer as it
is. -/
theorem released_iff {j : Job} (hp : s.plugged = true) (hj : j = .close ∨ j = .closeConsole)
    (hm : ∀ m ∈ moves, m.keepsReleased = true) :
    let id := s.started
    let s' := (s.step (.start j)).run moves
    ∀ o, .finish id o ∈ s.since s' →
      ∃ before m after, Move.start j :: moves = before ++ m :: after ∧
        let t := s.run before
        (t.FailsBefore id m o ∧ (t.step m).console = t.console ∨
          t.Shuts id m o s' ∧ (j = .close → s'.client = none)) := by
  intro id s' o ho
  by_cases hfirst : s.ComesToConsole id (.start j)
  · have hu : s.Unended id s := ⟨List.prefix_refl _, fun o ho => by simp [since] at ho⟩
    have hid : id < (s.step (.start j)).started :=
      (Nat.lt_succ_self _).trans_le (start_only s j).started
    refine ⟨[], .start j, moves, rfl, .inr ⟨hfirst.shuts hu hid hp hm ho, ?_⟩⟩
    rintro rfl
    exact hfirst.client_eq_none (by simp) (close_aftermath s).closed moves
  -- Else the session has a client, for whose end the task waits first.
  obtain ⟨rfl, c, hc⟩ : j = .close ∧ ∃ c, s.client = some c := by
    rcases hj with rfl | rfl
    · cases hc : s.client with
      | none => exact absurd (.session rfl rfl hc) hfirst
      | some c => exact ⟨rfl, c, rfl⟩
    · exact absurd (.console rfl rfl) hfirst
  rcases (until_of_step (retires_of_client hc) fun s m h => h.step m).exists_split with hend | hsplit
  · exact absurd ho (hend.ends o)
  obtain ⟨before, m, after, rfl, hretires, hq⟩ := hsplit
  have hs' : s' = (((s.step (.start .close)).run before).step m).run after := run_append _ _ _
  refine ⟨.start .close :: before, m, after, rfl, ?_⟩
  rw [hs'] at ho ⊢
  have hafter : ∀ m ∈ after, m.keepsReleased = true := fun m' hm' =>
    hm m' (List.mem_append_right _ (List.mem_cons_of_mem m hm'))
  rcases hq with hcomes | ⟨o', hfails⟩
  · have hid := hretires.started.trans_le (started_le_step _ m)
    have hclosed := closed_step (((close_aftermath s).run before).closed) m
    have hplug := (plugged_run s (.start .close :: before)).trans hp
    refine .inr ⟨hcomes.shuts hretires.toUnended hid hplug hafter ho, fun _ => ?_⟩
    refine hcomes.client_eq_none ?_ hclosed after
    rintro rfl
    cases hcomes with
    | console _ hid' => exact hretires.started.ne hid'
    | session hm' => cases hm'
    | retired _ hm' => cases hm'
  · have hs := hfails.step_eq
    have hended := (hretires.toUnended.ended hretires.started o').run after
    rw [← hs] at hended
    obtain rfl := hended.ends o ho
    refine .inl ⟨hfails, ?_⟩
    show (((s.step (.start .close)).run before).step m).console = _
    rw [hs]
    rfl

/-- A console with a reader that waits is released when the session is closed, and may be closed
again. -/
theorem released_iff_sample :
    let s' := sample.step (.start .close)
    s'.console.Released ∧ s'.ClosesWith (.ok .nothing) := by
  intro s'
  have ho : .finish sample.started (.ok .nothing) ∈ sample.since s' :=
    finish_mem_since (by decide +kernel)
  obtain ⟨before, m, after, hsplit, h⟩ :=
    @released_iff sample [] .close rfl (.inl rfl) (List.forall_mem_nil _) _ ho
  obtain ⟨rfl, rfl, rfl⟩ : before = [] ∧ m = .start .close ∧ after = [] := by
    cases before with
    | nil =>
      cases hsplit
      exact ⟨rfl, rfl, rfl⟩
    | cons m' before => simp at hsplit
  have hno : ¬sample.console.HasFailed := by
    rintro ⟨i, hi⟩
    cases hi
  rcases h with ⟨hfails, -⟩ | ⟨hshuts, -⟩
  · cases hfails
  · exact ⟨hshuts.released.2 hno, hshuts.again hno⟩

/-- A reader that was ended by an incident keeps the console from being closed, and so does a client
whose close raises. -/
theorem close_leaves_writer_open :
    let i : Incident := ⟨.runtime, "boom"⟩
    let failed : Outcome := .failed (.outside i)
    (let s := sample.run [.breakInput i, .read]
      let s' := (s.step (.start .closeConsole)).step (.start .closeConsole)
      s.since s' = [.finish 1 failed, .finish 2 failed] ∧ s'.console.writer.closing = false) ∧
    (let s : Session := { sample with client := some 0 }
      let s' := (s.step (.start .close)).step (.answer 1 (.clientClosed (.error i)))
      s.since s' = [.retireClient 1 0, .finish 1 failed] ∧ s'.console.reader = .waiting ∧
        s'.console.writer.closing = false) := by
  exact ⟨⟨rfl, rfl⟩, rfl, rfl, rfl⟩

end Session

end GuestLink
