import GuestLink.Proofs.Session.Attendance

/-!
# Settling

A task that can go on does so finitely often (`exists_quiet`): each time it uses up a line, ends, or
comes to wait for something outside.
-/

namespace GuestLink

/-- How often a stage may be left for another one without a line. -/
def Stage.weight : Stage → Nat
  | .capturing .. => 2
  | _ => 1

namespace Session

open Serial

variable {s s' : Session} {id : TaskId} {t : Task}

/-- How often a task may go on before it waits for something outside. -/
def slack (s : Session) (id : TaskId) : Nat :=
  2 * s.console.lines.length +
    match s.task? id with
    | none => 0
    | some t => t.stage.weight + t.hand.toList.length

/-- Whether the console of `s'` has no more lines than that of `s`, and the same reader. -/
structure Shrinks (s s' : Session) : Prop where
  lines : s'.console.lines.length ≤ s.console.lines.length
  reader : s'.console.reader = s.console.reader

/-- Whether a task has gone on from `s` to `s'`, where it waits, if at all, for a new line or for
something outside. -/
structure GoneOn (s s' : Session) (id : TaskId) : Prop extends s.Shrinks s' where
  slack : s'.slack id ≤ 2 * s'.console.lines.length + 1

theorem Shrinks.tell (h : s.Shrinks s') (rs : List Log.Record) : s.Shrinks (s'.tell rs) :=
  ⟨h.lines, h.reader⟩

theorem Shrinks.emit (h : s.Shrinks s') (a : Act) : s.Shrinks (s'.emit a) := ⟨h.lines, h.reader⟩

theorem Shrinks.release (h : s.Shrinks s') : s.Shrinks s'.release := ⟨h.lines, h.reader⟩

namespace GoneOn

theorem finish (h : s.Shrinks s') (o : Outcome) : s.GoneOn (s'.finish id o) id := by
  refine ⟨⟨h.lines, h.reader⟩, ?_⟩
  rw [Session.slack, task?_finish_self]
  exact Nat.le_succ _

theorem suspend (h : s.Shrinks s') {stage : Stage} (hs : stage.weight = 1) :
    s.GoneOn (s'.suspend id stage) id := by
  refine ⟨⟨h.lines, h.reader⟩, ?_⟩
  rw [Session.slack, task?_suspend_self]
  simp [hs]

theorem beginConnect (h : s.Shrinks s') (identity : Identity) (keys : HostKeys) (boot : Bool) :
    s.GoneOn (s'.beginConnect id identity keys boot) id := by
  let r : ConnectRequest :=
    { host := s'.host, port := s'.port, user := s'.settings.user
      timeout := s'.settings.connectTimeout, key := identity.key, hostKeys := keys }
  have hc : s.GoneOn (s'.suspend id (.connecting s'.clients r boot)) id := suspend h rfl
  exact ⟨⟨hc.lines, hc.reader⟩, hc.slack⟩

theorem beginCommand (h : s.Shrinks s') (errand : Errand) (line : Bytes) (timeout : Binary64) :
    s.GoneOn (s'.beginCommand id errand line timeout) id := by
  have hreset : s.Shrinks { s' with console := s'.console.reset.1 } := ⟨Nat.zero_le _, h.reader⟩
  have howned : s.Shrinks { s' with console := { s'.console.reset.1 with owned := true } } :=
    ⟨hreset.lines, hreset.reader⟩
  unfold Session.beginCommand
  split_ifs
  · exact finish h _
  · exact finish h _
  · exact finish h _
  dsimp only
  split
  · exact finish (hreset.tell _) _
  · exact finish (hreset.tell _) _
  · exact finish ((hreset.tell _).emit _) _
  · exact suspend ((howned.tell _).emit _) rfl
  · exact suspend ((howned.tell _).emit _) rfl

theorem afterSuccess (h : s.Shrinks s') (errand : Errand) (e : Exchange) :
    s.GoneOn (s'.afterSuccess id errand e) id := by
  have ht : s.Shrinks (s'.tell [e.succeededRecord]) := h.tell _
  unfold Session.afterSuccess
  split
  · rename_i identity boot
    have hi : s.Shrinks { s'.tell [e.succeededRecord] with identity := some identity } :=
      ⟨ht.lines, ht.reader⟩
    dsimp only
    split_ifs
    · exact beginCommand (hi.tell _) _ _ _
    · exact finish (hi.tell _) _
  · exact finish ht _
  · split
    · exact finish ht _
    · exact beginConnect (ht.tell _) _ _ _

theorem acceptLine (h : s.Shrinks s') (errand : Errand) (e : Exchange) (line : Bytes) :
    s.GoneOn (s'.acceptLine id errand e line) id := by
  unfold Session.acceptLine
  split
  · exact suspend h rfl
  · exact afterSuccess h.release _ _
  · exact finish (h.release.tell _) _
  · exact finish (h.release.tell _) _

theorem consume (h : s.Shrinks s') {signal : Signal} (ht : t.stage.lineSignal? = some signal)
    (line : Bytes) : s.GoneOn (s'.consume t line) t.id := by
  unfold Session.consume
  split
  · exact finish h _
  · split_ifs
    · exact finish h _
    · exact suspend h rfl
  · exact acceptLine h _ _ _
  · rename_i hnext htake hreply
    cases hs : t.stage with
    | next signal => exact absurd hs (hnext signal)
    | take signal left got => exact absurd hs (htake signal left got)
    | reply errand e => exact absurd hs (hreply errand e)
    | _ => rw [hs] at ht; cases ht

theorem giveUp (h : s.Shrinks s') (t : Task) (o : Outcome) :
    s.GoneOn ((s'.giveUp t).finish t.id o) t.id := by
  unfold Session.giveUp
  split
  · exact finish h.release o
  · exact finish h o

end GoneOn

/-! ### Going on -/

theorem slack_of_task? (ht : s.task? id = some t) :
    s.slack id = 2 * s.console.lines.length + (t.stage.weight + t.hand.toList.length) := by
  rw [slack, ht]

theorem weight_pos (stage : Stage) : 0 < stage.weight := by
  cases stage <;> exact Nat.succ_pos _

theorem slack_finish (s : Session) (id : TaskId) (o : Outcome) :
    (s.finish id o).slack id = 2 * s.console.lines.length := by
  rw [slack, task?_finish_self]
  rfl

/-- A task that waits for a line may take one from the queue. -/
theorem slack_deal_lt (ht : s.task? id = some t) (hs : t.stage.lineSignal? ≠ none)
    (hh : t.hand = none) (hl : s.console.lines ≠ []) :
    (s.step (.deal id)).slack id < s.slack id ∧
      (s.step (.deal id)).console.reader = s.console.reader := by
  obtain ⟨l, rest, hl⟩ := List.exists_cons_of_ne_nil hl
  obtain ⟨signal, hs⟩ := Option.ne_none_iff_exists'.1 hs
  let s₁ : Session := { s with
    console := { s.console with lines := rest }
    tasks := s.tasks.map fun u => if u.id = id then { u with hand := some l } else u }
  have hd : s.step (.deal id) = s₁ := by
    rw [step, withTask_of_some ht, deal, hl, hs, hh, id_of_task? ht]
  have hs₁ : s₁.slack id = 2 * rest.length + (t.stage.weight + 1) :=
    slack_of_task? (s := s₁) (task?_handOver ht l)
  rw [hd, hs₁, slack_of_task? ht, hl, List.length_cons]
  exact ⟨by omega, rfl⟩

/-- A task that waits for a line goes on with one that it has, or ends. -/
theorem slack_resumeWait_lt (ht : s.task? t.id = some t) {signal : Signal}
    (hs : t.stage.lineSignal? = some signal) (hc : s.canResume t = true) :
    (s.resumeWait t).slack t.id < s.slack t.id ∧
      (s.resumeWait t).console.reader = s.console.reader := by
  have hw := weight_pos t.stage
  have hg : (s.giveUp t).console.lines = s.console.lines ∧
      (s.giveUp t).console.reader = s.console.reader := by
    unfold giveUp
    split <;> exact ⟨rfl, rfl⟩
  rw [slack_of_task? ht]
  unfold resumeWait
  split_ifs with hr
  · rw [fail_eq, slack_finish, hg.1]
    exact ⟨by omega, hg.2⟩
  split
  · rename_i l hh
    have hg := GoneOn.consume (s := s) ⟨le_rfl, rfl⟩ hs l
    have hslack := hg.slack
    have hlines := hg.lines
    refine ⟨?_, hg.reader⟩
    rw [hh, Option.toList_some, List.length_singleton]
    omega
  · rename_i l rest hh he hl
    have hg := GoneOn.consume (s := s.withLines rest) ⟨le_rfl, rfl⟩ hs l
    have hslack := hg.slack
    have hlines : _ ≤ rest.length := hg.lines
    refine ⟨?_, hg.reader⟩
    rw [hl, List.length_cons]
    exact Nat.lt_of_le_of_lt hslack (by omega)
  · rw [fail_eq, slack_finish, hg.1]
    exact ⟨by omega, hg.2⟩
  · rename_i hh he
    simp [canResume, hs, hr, hh, he] at hc

/-- A task that waits may go on. -/
theorem slack_resume_lt (ht : s.task? id = some t) (hc : s.canResume t = true) :
    (s.step (.resume id)).slack id < s.slack id ∧
      (s.step (.resume id)).console.reader = s.console.reader := by
  obtain rfl := id_of_task? ht
  rw [step, withTask_of_some ht]
  unfold resume
  split
  · rename_i signal hs
    exact slack_resumeWait_lt ht hs hc
  · rename_i channel command signal hl hs
    rw [canResume, hl, Option.isSome_none, Bool.false_and, Bool.or_false] at hc
    have he : s.Shrinks (s.emit (.closeChannel channel)) := ⟨le_rfl, rfl⟩
    have hg : s.GoneOn ((s.emit (.closeChannel channel)).suspend t.id (.abandoning channel command))
        t.id := .suspend he rfl
    have hslack := hg.slack
    have hlines := hg.lines
    rw [if_pos hc, slack_of_task? ht, hs]
    exact ⟨by simp only [Stage.weight]; omega, hg.reader⟩
  · rename_i hl hcap
    rw [canResume, hl, Option.isSome_none, Bool.false_and, Bool.or_false, isCalledOff,
      Stage.signal?_eq_none hl fun channel command signal hs => hcap channel command signal hs] at hc
    cases hc

/-- A task whose time has run out ends. -/
theorem slack_expire_lt (ht : s.task? id = some t) (hc : s.canExpire t = true) :
    (s.step (.expire id)).slack id < s.slack id ∧
      (s.step (.expire id)).console.reader = s.console.reader := by
  obtain rfl := id_of_task? ht
  have hw := weight_pos t.stage
  rw [step, withTask_of_some ht, slack_of_task? ht, expire, if_pos hc]
  unfold canExpire at hc
  split
  · rw [fail_eq, slack_finish]
    exact ⟨by simp only [tell_console, release_console]; omega, rfl⟩
  · rw [succeed_eq, slack_finish]
    exact ⟨by omega, rfl⟩
  · rw [fail_eq, slack_finish]
    exact ⟨by omega, rfl⟩
  · rename_i hreply hclosing hdialing
    cases hs : t.stage with
    | reply errand e => exact absurd hs (hreply errand e)
    | closingWriter d => exact absurd hs (hclosing d)
    | dialing path d => exact absurd hs (hdialing path d)
    | _ => rw [hs] at hc; cases hc

/-- Whether a move is one that a task makes of itself. -/
def IsTurn (id : TaskId) (m : Move) : Prop := m = .deal id ∨ m = .resume id ∨ m = .expire id

/-- Where the reader has nothing to do, a task goes on until it has nothing to do either. -/
theorem exists_quiet (hr : s.console.reader ≠ .ready) (id : TaskId) :
    ∃ moves, (∀ m ∈ moves, IsTurn id m) ∧ (s.run moves).Quiet id := by
  induction hn : s.slack id using Nat.strong_induction_on generalizing s with
  | _ n ih =>
    by_cases hq : s.Quiet id
    · exact ⟨[], fun m hm => absurd hm List.not_mem_nil, hq⟩
    obtain ⟨m, hm, hlt, hr'⟩ : ∃ m, IsTurn id m ∧ (s.step m).slack id < s.slack id ∧
        (s.step m).console.reader = s.console.reader := by
      by_contra hno
      refine hq ⟨hr, fun t ht => ⟨fun hs hh => ?_, ?_, ?_⟩⟩
      · by_contra hl
        exact hno ⟨.deal id, .inl rfl, slack_deal_lt ht hs hh hl⟩
      · rw [Bool.eq_false_iff]
        intro hc
        exact hno ⟨.resume id, .inr (.inl rfl), slack_resume_lt ht hc⟩
      · rw [Bool.eq_false_iff]
        intro hc
        exact hno ⟨.expire id, .inr (.inr rfl), slack_expire_lt ht hc⟩
    obtain ⟨moves, hall, hq'⟩ := ih _ (hn ▸ hlt) (hr' ▸ hr) rfl
    refine ⟨m :: moves, fun m' hm' => ?_, hq'⟩
    rcases List.mem_cons.1 hm' with rfl | hm'
    exacts [hm, hall m' hm']

theorem happenings_of_isTurn {moves : List Move} (h : ∀ m ∈ moves, IsTurn id m) :
    s.happenings moves = [] := by
  induction moves generalizing s with
  | nil => rfl
  | cons m moves ih =>
    have hm : s.happening m = [] := by
      rcases h m List.mem_cons_self with rfl | rfl | rfl <;> rfl
    rw [happenings, hm, List.nil_append]
    exact ih fun m' hm' => h m' (List.mem_cons_of_mem _ hm')

theorem attended_of_isTurn {moves : List Move} (h : ∀ m ∈ moves, IsTurn id m) :
    s.Attended id moves := by
  induction moves generalizing s with
  | nil => trivial
  | cons m moves ih =>
    refine ⟨?_, ih fun m' hm' => h m' (List.mem_cons_of_mem _ hm')⟩
    rcases h m List.mem_cons_self with rfl | rfl | rfl <;> trivial

end Session

end GuestLink
