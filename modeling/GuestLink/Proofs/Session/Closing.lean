import GuestLink.Proofs.Session.Dealing

/-!
# After the session is closed

Closing a session raises its signal for good, and nothing is begun behind it
(`nothing_after_close`).  A command that waits is called off whatever has arrived, a client that
connects too late is closed again, and once the closing task has ended there is no client.
-/

namespace GuestLink

open Serial

/-- Whether a trouble is reported as the session having been closed. -/
def Trouble.IsCancelled (t : Trouble) : Prop := ∃ r, t.failure = .report r ∧ r.kind = .cancelled

/-- Whether a task has a command under way and still waits for output, at the latest for a line that
follows on the one that it was told of: it has not been told of its status line or of the end of the
console. -/
def Task.AwaitsOutput (t : Task) (errand : Errand) : Prop :=
  (∃ timeout, t.stage = .flushing errand timeout) ∨
    (∃ e, t.stage = .reply errand e) ∧
      (t.notice = some .ready → ∃ line, t.hand = some line ∧ status? line = none)

/-- The task that an act ends with success and without a result. -/
def Act.settles? : Act → Option TaskId
  | .finish id (.ok .nothing) => some id
  | _ => none

theorem Act.eq_of_settles? {a : Act} {id : TaskId} (h : a.settles? = some id) :
    a = .finish id (.ok .nothing) := by
  unfold settles? at h
  split at h <;> cases h
  rfl

namespace Session

/-- What was done from `s` to `s'`. -/
def since (s s' : Session) : List Act := s'.history.drop s.history.length

/-- Whether a run keeps to sessions as `p` tells until it makes a move as `q` tells, if it does. -/
def Until (p : Session → Prop) (q : Session → Move → Prop) (s : Session) : List Move → Prop
  | [] => p s
  | m :: moves => p s ∧ (q s m ∨ (s.step m).Until p q moves)

variable {s s' : Session} {id : TaskId} {m : Move} {moves : List Move} {errand : Errand}
  {e : Exchange} {c : ClientId}

theorem finish_mem_since (h : (s.since s').any (·.settles? == some id) = true) :
    .finish id (.ok .nothing) ∈ s.since s' := by
  obtain ⟨a, ha, hend⟩ := List.any_eq_true.1 h
  exact Act.eq_of_settles? (beq_iff_eq.1 hend) ▸ ha

theorem until_of_step {p : Session → Prop} {q : Session → Move → Prop} (hp : p s)
    (hstep : ∀ s m, p s → p (s.step m) ∨ q s m) : s.Until p q moves := by
  induction moves generalizing s with
  | nil => exact hp
  | cons m moves ih => exact ⟨hp, (hstep s m hp).symm.imp_right ih⟩

/-! ### What a closed session still does -/

/-- Whether from `s` to `s'` a closed session has stayed closed and a move has begun nothing: no
client was taken, nothing was handed to the writer of the console but by hand, and no task has ended
but `id`. -/
structure Winds (s s' : Session) (m : Move) (id : TaskId) : Prop where
  closed : s'.closed = true
  client : s'.client = s.client ∨ s'.client = none
  except : s'.except id = s.except id
  acts : ∃ acts, s'.history = s.history ++ acts ∧
    ∀ a ∈ acts, (a.isSend = true → ∃ data, m = .start (.write data)) ∧ ∀ id' ∈ a.ends?, id' = id

namespace Winds

theorem refl (hc : s.closed = true) (m : Move) (id : TaskId) : s.Winds s m id :=
  ⟨hc, .inl rfl, rfl, [], (List.append_nil _).symm, List.forall_mem_nil _⟩

theorem tell (h : s.Winds s' m id) (rs : List Log.Record) : s.Winds (s'.tell rs) m id := by
  obtain ⟨acts, hacts, hwinds⟩ := h.acts
  refine ⟨h.closed, h.client, h.except, acts ++ rs.map .log, ?_, fun a ha => ?_⟩
  · rw [tell_history, hacts, List.append_assoc]
  · rcases List.mem_append.1 ha with ha | ha
    · exact hwinds a ha
    · obtain ⟨r, -, rfl⟩ := List.mem_map.1 ha
      exact ⟨nofun, nofun⟩

theorem emit (h : s.Winds s' m id) (a : Act) (hs : a.isSend = false)
    (he : ∀ id' ∈ a.ends?, id' = id) : s.Winds (s'.emit a) m id := by
  obtain ⟨acts, hacts, hwinds⟩ := h.acts
  refine ⟨h.closed, h.client, h.except, acts ++ [a], ?_, fun b hb => ?_⟩
  · rw [emit_history, hacts, List.append_assoc]
  · rcases List.mem_append.1 hb with hb | hb
    · exact hwinds b hb
    · obtain rfl := List.mem_singleton.1 hb
      exact ⟨fun hb => absurd hb (by simp [hs]), he⟩

theorem finish (h : s.Winds s' m id) (o : Outcome) : s.Winds (s'.finish id o) m id := by
  have he := h.emit (.finish id o) rfl fun _ hid => (Option.some.inj hid).symm
  exact ⟨h.closed, h.client, (except_finish s' id o).trans h.except, he.acts⟩

theorem suspend (h : s.Winds s' m id) (stage : Stage) : s.Winds (s'.suspend id stage) m id :=
  ⟨h.closed, h.client, (except_suspend s' id stage).trans h.except, h.acts⟩

theorem of_keeps {s₁ : Session} (hc : s₁.closed = true) (hh : s₁.history = s.history)
    (hclient : s₁.client = s.client ∨ s₁.client = none) (he : s₁.except id = s.except id)
    (h : s₁.Keeps s' m id) : s.Winds s' m id := by
  obtain ⟨acts, hacts, hplain⟩ := h.acts
  exact ⟨h.closed.trans hc, hclient.imp h.client.trans h.client.trans, h.except.trans he, acts,
    hh ▸ hacts, fun a ha => ⟨(hplain a ha).sends hc, (hplain a ha).ends⟩⟩

theorem sends (h : s.Winds s' m id) (hm : ∀ data, m ≠ .start (.write data)) :
    s'.sends = s.sends := by
  obtain ⟨acts, hacts, hwinds⟩ := h.acts
  have hnone : acts.countP Act.isSend = 0 := List.countP_eq_zero.2 fun a ha hs => by
    obtain ⟨data, hd⟩ := (hwinds a ha).1 hs
    exact hm data hd
  rw [Session.sends, hacts, List.countP_append, hnone]
  rfl

end Winds

theorem Idles.winds (h : s.Idles s' m) (hc : s.closed = true) (id : TaskId) : s.Winds s' m id := by
  obtain ⟨acts, hacts, hidle⟩ := h.acts
  refine ⟨h.closed.trans hc, .inl h.client, by rw [Session.except, h.tasks, Session.except], acts,
    hacts, fun a ha => ?_⟩
  obtain ⟨r, rfl⟩ := hidle a ha
  exact ⟨fun hs => absurd hs Bool.false_ne_true, fun _ hid => absurd hid (Option.not_mem_none _)⟩

/-- A closed session begins nothing with a move. -/
theorem step_winds (hc : s.closed = true) (ha : ∀ id' ∈ s.actor? m, id' = id) :
    s.Winds (s.step m) m id := by
  have hr := Winds.refl hc m id
  have hstarted : s.Winds { s with started := s.started + 1, closed := true } m id :=
    ⟨rfl, .inl rfl, rfl, [], (List.append_nil _).symm, List.forall_mem_nil _⟩
  cases step_dealing s m with
  | idle idle => exact idle.winds hc id
  | apart id' actor _ apart =>
    obtain rfl := ha id' actor
    exact .of_keeps hc rfl (.inl rfl) rfl apart.toKeeps
  | refused t c r boot f _ _ hm step =>
    obtain rfl := ha t.id (by rw [hm]; rfl)
    rw [step]
    exact (hr.emit (.closeClient c) rfl nofun).finish _
  | late t c r _ _ _ hm step =>
    obtain rfl := ha t.id (by rw [hm]; rfl)
    rw [step]
    exact ((hr.tell _).suspend _).emit (.retireClient t.id c) rfl nofun
  | gained t c r opened => exact absurd hc (by simp [opened])
  | handed t c r _ _ hm step =>
    obtain rfl := ha t.id (by rw [hm]; rfl)
    rw [step]
    exact (hr.tell _).finish _
  | dropped t c r boot _ _ hm step =>
    obtain rfl := ha t.id (by rw [hm]; rfl)
    rw [step]
    exact (hr.emit (.closeClient c) rfl nofun).finish _
  | failed t c o _ _ hm _ step =>
    obtain rfl := ha t.id (by rcases hm with rfl | ⟨answer, rfl⟩ <;> rfl)
    rw [step]
    exact hr.finish _
  | retired t c _ _ hm step =>
    obtain rfl := ha t.id (by rw [hm]; rfl)
    let s₁ : Session := { s with client := none }
    have h : s₁.Keeps (s₁.closeConsole t.id) m t.id :=
      (closeConsole_apart (.refl s₁ m t.id)).toKeeps
    rw [step]
    exact .of_keeps (show s₁.closed = true from hc) rfl (.inr rfl) rfl h
  | retires c _ hm step =>
    obtain rfl := ha s.started (by rw [hm]; rfl)
    rw [step]
    exact (hstarted.suspend _).emit (.retireClient s.started c) rfl nofun
  | closes _ hm step =>
    obtain rfl := ha s.started (by rw [hm]; rfl)
    let s₁ : Session := { s with started := s.started + 1, closed := true }
    have h : s₁.Keeps (s₁.closeConsole s.started) m s.started :=
      (closeConsole_apart (.refl s₁ m s.started)).toKeeps
    rw [step]
    exact .of_keeps (show s₁.closed = true from rfl) rfl (.inl rfl) rfl h

theorem exists_actor (s : Session) (m : Move) : ∃ id, ∀ id' ∈ s.actor? m, id' = id := by
  cases s.actor? m with
  | none => exact ⟨0, nofun⟩
  | some id => exact ⟨id, fun _ h => (Option.some.inj h).symm⟩

theorem closed_step (hc : s.closed = true) (m : Move) : (s.step m).closed = true := by
  obtain ⟨id, ha⟩ := exists_actor s m
  exact (step_winds hc ha).closed

/-- Nothing is handed to the writer of a closed session's console, unless by hand. -/
theorem sends_run (hc : s.closed = true) (hm : ∀ data, .start (.write data) ∉ moves) :
    (s.run moves).sends = s.sends := by
  induction moves generalizing s with
  | nil => rfl
  | cons m moves ih =>
    obtain ⟨id, ha⟩ := exists_actor s m
    have hsend : ∀ data, m ≠ .start (.write data) := fun data hd =>
      hm data (hd ▸ List.mem_cons_self)
    exact (ih (closed_step hc m) fun data hd => hm data (List.mem_cons_of_mem _ hd)).trans
      ((step_winds hc ha).sends hsend)

/-! ### The task that closes -/

/-- What is known from the moment on at which the session `s` was closed by the task `id`.  As long
as there is a client, that task waits for its end, or has failed. -/
structure Aftermath (s : Session) (id : TaskId) (s' : Session) : Prop where
  closed : s'.closed = true
  client : s'.client = s.client ∨ s'.client = none
  started : id < s'.started
  history : s.history <+: s'.history
  ends : s'.client = none ∨ (∀ stage ∈ s'.stage? id, ∃ c, stage = .retiring c) ∧
    ∀ o, .finish id o ∈ s.since s' → o.isFailure = true

theorem since_append {acts : List Act} {s₁ : Session} (h : s.history <+: s₁.history)
    (hacts : s'.history = s₁.history ++ acts) : s.since s' = s.since s₁ ++ acts := by
  rw [since, hacts, List.drop_append_of_le_length h.length_le, since]

theorem since_of_history {acts : List Act} (h : s'.history = s.history ++ acts) :
    s.since s' = acts := by
  rw [since, h, List.drop_left]

theorem close_aftermath (s : Session) : s.Aftermath s.started (s.step (.start .close)) := by
  let s₁ : Session := { s with started := s.started + 1, closed := true }
  have hid : s.started < (s.step (.start .close)).started :=
    (Nat.lt_succ_self _).trans_le (start_only s .close).started
  rcases close_cases s with ⟨c, -, hstep⟩ | ⟨hnone, hstep⟩
  · rw [hstep] at hid ⊢
    refine ⟨rfl, .inl rfl, hid, List.prefix_append .., .inr ⟨?_, ?_⟩⟩
    · intro stage hstage
      obtain ⟨t, ht, rfl⟩ := stage?_eq_some.1 hstage
      cases (task?_suspend_self (s := s₁) _).symm.trans ht
      exact ⟨c, rfl⟩
    · intro o ho
      rw [since_of_history rfl] at ho
      cases List.mem_singleton.1 ho
  · rw [hstep] at hid ⊢
    have hw : s₁.Winds (s₁.closeConsole s.started) (.start .close) s.started :=
      .of_keeps rfl rfl (.inl rfl) rfl (closeConsole_apart (.refl s₁ _ s.started)).toKeeps
    obtain ⟨acts, hacts, -⟩ := hw.acts
    exact ⟨hw.closed, hw.client, hid, hacts ▸ List.prefix_append ..,
      .inl (hw.client.elim (·.trans hnone) fun h => h)⟩

/-- A task that waits for the end of the client and makes a move still waits, has failed, or the
client is gone. -/
theorem retiring_step (hid : id < s.started) (ha : s.actor? m = some id)
    (hstage : s.stage? id = some (.retiring c)) :
    (s.step m).client = none ∨ (∀ stage ∈ (s.step m).stage? id, stage = .retiring c) ∧
      ∀ acts, (s.step m).history = s.history ++ acts →
        ∀ o, .finish id o ∈ acts → o.isFailure = true := by
  have ends {o : Outcome} (ho : o.isFailure = true) (hs : s.step m = s.finish id o) :
      (∀ stage ∈ (s.step m).stage? id, stage = .retiring c) ∧
        ∀ acts, (s.step m).history = s.history ++ acts →
          ∀ o, .finish id o ∈ acts → o.isFailure = true := by
    rw [hs]
    refine ⟨fun stage hs => ?_, fun acts hacts o' ho' => ?_⟩
    · rw [stage?, task?_finish_self] at hs
      cases hs
    · obtain rfl := List.append_cancel_left hacts
      cases List.mem_singleton.1 ho'
      exact ho
  cases ending_of_stage hstage (.inr rfl) hid ha with
  | rests rs hs =>
    rw [hs]
    refine .inr ⟨fun stage h => Option.some.inj (h.symm.trans hstage), fun acts hacts o ho => ?_⟩
    obtain rfl := List.append_cancel_left hacts
    obtain ⟨r, -, hr⟩ := List.mem_map.1 ho
    cases hr
  | answered answer _ hs =>
    cases answer with
    | error i => exact .inr (ends rfl hs)
    | ok =>
      rw [hs]
      exact .inl (closeConsole_apart (.refl { s with client := none } m id)).client
  | aborted _ hs => exact .inr (ends rfl hs)

/-- A task that has ended does not end once more. -/
theorem gone_step (hid : id < s.started) (ha : s.actor? m = some id) (hs : s.stage? id = none) :
    (s.step m).stage? id = none ∧
      ∀ acts, (s.step m).history = s.history ++ acts → ∀ o, .finish id o ∉ acts := by
  obtain ⟨rs, hstep⟩ := exists_tell_of_gone (Option.map_eq_none_iff.1 hs) hid ha
  rw [hstep]
  refine ⟨hs, fun acts hacts o ho => ?_⟩
  obtain rfl := List.append_cancel_left hacts
  obtain ⟨r, -, hr⟩ := List.mem_map.1 ho
  cases hr

theorem Aftermath.step (h : s.Aftermath id s') (m : Move) : s.Aftermath id (s'.step m) := by
  obtain ⟨id', ha⟩ := exists_actor s' m
  have hw := step_winds h.closed ha
  obtain ⟨acts, hacts, hends⟩ := hw.acts
  refine ⟨hw.closed, ?_, h.started.trans_le (started_le_step s' m),
    h.history.trans (hacts ▸ List.prefix_append ..), ?_⟩
  · exact hw.client.elim (fun hc => h.client.imp hc.trans hc.trans) .inr
  rcases h.ends with hnone | ⟨hstage, hfail⟩
  · exact .inl (hw.client.elim (·.trans hnone) fun hc => hc)
  have hsince (hnew : ∀ o, .finish id o ∈ acts → o.isFailure = true) (o : Outcome)
      (ho : .finish id o ∈ s.since (s'.step m)) : o.isFailure = true := by
    rw [since_append h.history hacts] at ho
    exact (List.mem_append.1 ho).elim (hfail o) (hnew o)
  by_cases hid : s'.actor? m = some id
  · cases hs : s'.stage? id with
    | none =>
      obtain ⟨hgone, hnot⟩ := gone_step h.started hid hs
      refine .inr ⟨fun stage hstage => ?_, hsince fun o ho => absurd ho (hnot acts hacts o)⟩
      cases hgone.symm.trans hstage
    | some stage =>
      obtain ⟨c, rfl⟩ := hstage stage hs
      exact (retiring_step h.started hid hs).imp_right fun hr =>
        ⟨fun stage hs => ⟨c, hr.1 stage hs⟩, hsince (hr.2 acts hacts)⟩
  · refine .inr ⟨fun stage hs => hstage stage ?_, hsince fun o ho => ?_⟩
    · rwa [stage?_step_of_ne hid] at hs
    · cases hactor : s'.actor? m with
      | none =>
        have hw' : s'.Winds (s'.step m) m (id + 1) :=
          step_winds h.closed (by rw [hactor]; nofun)
        obtain ⟨acts', hacts', hends'⟩ := hw'.acts
        obtain rfl := List.append_cancel_left (hacts.symm.trans hacts')
        exact absurd ((hends' _ ho).2 id rfl) (Nat.succ_ne_self id).symm
      | some i =>
        obtain rfl := ha i hactor
        exact absurd (hactor.trans (congrArg some ((hends _ ho).2 id rfl).symm)) hid

theorem Aftermath.run (h : s.Aftermath id s') (moves : List Move) :
    s.Aftermath id (s'.run moves) := by
  induction moves generalizing s' with
  | nil => exact h
  | cons m moves ih => exact ih (h.step m)

theorem sends_close (s : Session) : (s.step (.start .close)).sends = s.sends := by
  have hs : s.Steady { s with started := s.started + 1 } := ⟨rfl, rfl, rfl, rfl, Nat.le_succ _⟩
  have ha : s.Aside (s.step (.start .close)) s.started := beginClose_aside hs
  exact ha.sends

/-! ### Commands and connections under way -/

/-- Where the command of a task stands that will be called off. -/
inductive Stand (id : TaskId) (errand : Errand) (s : Session) : Prop
  /-- Its line is to be flushed. -/
  | flushing (timeout : Binary64) (stage : s.stage? id = some (.flushing errand timeout))
  /-- It was told of a line that is no status line, and can look at it. -/
  | told (e : Exchange) (line : Bytes)
      (task : s.task? id =
        some { id, stage := .reply errand e, hand := some line, notice := some .ready })
      (plain : status? line = none)
  /-- It can go on, and is called off then. -/
  | off (e : Exchange) (hand : Option Bytes) (notice : Option Notice)
      (task : s.task? id = some { id, stage := .reply errand e, hand, notice })
      (off : s.isCalledOff { id, stage := .reply errand e, hand, notice } = true)

/-- Whether the command of the task `id` of a closed session will be called off. -/
structure CalledOff (id : TaskId) (errand : Errand) (s : Session) : Prop where
  closed : s.closed = true
  started : id < s.started
  stand : Stand id errand s

/-- How a command ends that is called off: as soon as its task goes on, which fails then.  Else its
line could not be flushed, or the caller has ended it. -/
inductive CallOff (id : TaskId) (s : Session) (m : Move) : Prop
  | cancelled (t : Trouble) (hm : m = .resume id) (kind : t.IsCancelled)
      (step : s.step m = s.release.fail id t)
  | unsent (i : Incident) (hm : m = .answer id (.flushed (.error i)))
      (step : s.step m = s.release.fail id (.send i))
  | aborted (hm : m = .abort id)

/-- Whether the time of a task has run out at no point of a run. -/
def InTime (s : Session) (id : TaskId) : List Move → Prop
  | [] => ∀ t ∈ s.task? id, s.canExpire t = false
  | m :: moves => (∀ t ∈ s.task? id, s.canExpire t = false) ∧ (s.step m).InTime id moves

instance : (s : Session) → (id : TaskId) → (moves : List Move) → Decidable (s.InTime id moves)
  | s, id, [] => inferInstanceAs (Decidable (∀ t ∈ s.task? id, s.canExpire t = false))
  | s, id, m :: moves =>
    have : Decidable ((s.step m).InTime id moves) := instDecidableInTime (s.step m) id moves
    inferInstanceAs (Decidable ((∀ t ∈ s.task? id, s.canExpire t = false) ∧ _))

/-- Whether the task `id` of a closed session waits for the end of a client that connected late. -/
structure Discarding (id : TaskId) (c : ClientId) (s : Session) : Prop where
  closed : s.closed = true
  started : id < s.started
  stage : s.stage? id = some (.discarding c)

/-- How the wait for the end of such a client ends. -/
inductive Discarded (id : TaskId) (s : Session) (m : Move) : Prop
  | cancelled (t : Trouble) (hm : m = .answer id (.clientClosed (.ok ()))) (kind : t.IsCancelled)
      (step : s.step m = s.fail id t)
  | raised (i : Incident) (hm : m = .answer id (.clientClosed (.error i)))
  | aborted (hm : m = .abort id)

theorem Stand.of_reply {t : Task} (hc : s.closed = true) (ht : s.task? id = some t)
    (hs : t.stage = .reply errand e)
    (hplain : t.notice = some .ready → ∃ line, t.hand = some line ∧ status? line = none) :
    Stand id errand s := by
  obtain ⟨id', stage, hand, notice⟩ := t
  obtain rfl := id_of_task? ht
  obtain rfl : stage = .reply errand e := hs
  cases notice with
  | none => exact .off e hand none ht hc
  | some n =>
    cases n with
    | calledOff => exact .off e hand (some .calledOff) ht rfl
    | ready =>
      obtain ⟨line, hh, hp⟩ := hplain rfl
      obtain rfl : hand = some line := hh
      exact .told e line ht hp

/-- A command stands where it stood as long as its task is as it was. -/
theorem CalledOff.of_task (h : s.CalledOff id errand) (hc : s'.closed = true)
    (hs : s.started ≤ s'.started) (ht : s'.task? id = s.task? id) : s'.CalledOff id errand := by
  refine ⟨hc, h.started.trans_le hs, ?_⟩
  cases h.stand with
  | flushing timeout stage => exact .flushing timeout (by rw [stage?, ht]; exact stage)
  | told e line task plain => exact .told e line (ht.trans task) plain
  | off e hand notice task off =>
    refine .off e hand notice (ht.trans task) ?_
    cases notice with
    | none => exact hc
    | some n => exact off

/-- A move of a command that is called off. -/
theorem CalledOff.step_off {hand : Option Bytes} {notice : Option Notice}
    (h : s.CalledOff id errand)
    (ht : s.task? id = some { id, stage := .reply errand e, hand, notice })
    (hoff : s.isCalledOff { id, stage := .reply errand e, hand, notice } = true)
    (hx : s.canExpire { id, stage := .reply errand e, hand, notice } = false)
    (ha : s.actor? m = some id) : (s.step m).CalledOff id errand ∨ s.CallOff id m := by
  have hc := closed_step h.closed m
  have stays {t : Task} (ht : (s.step m).task? id = some t) (hs : t.stage = .reply errand e)
      (hn : t.notice ≠ some .ready) : (s.step m).CalledOff id errand :=
    ⟨hc, h.started.trans_le (started_le_step s m), .of_reply hc ht hs fun hn' => absurd hn' hn⟩
  have hnotice : notice ≠ some .ready := by
    rintro rfl
    cases hoff
  cases m with
  | deal =>
    cases ha
    rcases deal_of_reply ht with hs | ⟨rfl, l, rest, -, hs⟩
    · exact .inl (hs.symm ▸ h)
    · have ht' : (s.step (.deal id)).task? id =
          some { id, stage := .reply errand e, hand := some l, notice } := by
        rw [hs]
        exact task?_handOver ht l
      exact .inl (stays ht' rfl hnotice)
  | notify =>
    cases ha
    rcases step_notify ht with hs | ⟨-, hs⟩
    · exact .inl (hs.symm ▸ h)
    · refine .inl (stays (by rw [hs]; exact task?_inform ht _) rfl ?_)
      rw [Session.notice, if_pos hoff]
      nofun
  | resume =>
    cases ha
    refine .inr (.cancelled .waitCancelled rfl ⟨_, rfl, rfl⟩ ?_)
    rw [Session.step, withTask_of_some ht]
    exact if_pos hoff
  | expire =>
    cases ha
    have hs : s.step (.expire id) = s := by
      rw [Session.step, withTask_of_some ht, expire]
      exact if_neg (by simp [hx])
    exact .inl (hs.symm ▸ h)
  | abort =>
    cases ha
    exact .inr (.aborted rfl)
  | answer _ reply =>
    cases ha
    obtain ⟨rs, hs⟩ := answer_of_reply ht reply
    exact .inl (stays (by rw [hs]; exact ht) rfl hnotice)
  | start j => exact absurd (Option.some.inj ha) h.started.ne'
  | _ => cases ha

/-- A move of a command that was told of a line which answers nothing: it looks at the line, and
what it waits for then calls it off. -/
theorem CalledOff.step_told {line : Bytes} (h : s.CalledOff id errand)
    (ht : s.task? id =
      some { id, stage := .reply errand e, hand := some line, notice := some .ready })
    (hp : status? line = none)
    (hx : s.canExpire { id, stage := .reply errand e, hand := some line, notice := some .ready } =
      false)
    (ha : s.actor? m = some id) : (s.step m).CalledOff id errand ∨ s.CallOff id m := by
  have hc := closed_step h.closed m
  have hid := h.started.trans_le (started_le_step s m)
  have stays (hs : s.step m = s) : (s.step m).CalledOff id errand := hs.symm ▸ h
  cases m with
  | deal =>
    cases ha
    rcases deal_of_reply ht with hs | ⟨⟨⟩, -⟩
    exact .inl (stays hs)
  | notify =>
    cases ha
    rcases step_notify ht with hs | ⟨-, hs⟩
    · exact .inl (stays hs)
    · exact .inl ⟨hc, hid, .told e line (by rw [hs]; exact task?_inform ht _) hp⟩
  | resume =>
    cases ha
    have hs : s.step (.resume id) = s.acceptLine id errand e line := by
      rw [Session.step, withTask_of_some ht]
      rfl
    rw [acceptLine_of_none hp] at hs
    have ht' : (s.step (.resume id)).task? id =
        some { id, stage := .reply errand { e with seen := line :: e.seen } } := by
      rw [hs]
      exact task?_suspend_self _
    exact .inl ⟨hc, hid, .of_reply hc ht' rfl (by simp)⟩
  | expire =>
    cases ha
    refine .inl (stays ?_)
    rw [Session.step, withTask_of_some ht, expire]
    exact if_neg (by simp [hx])
  | abort =>
    cases ha
    exact .inr (.aborted rfl)
  | answer _ reply =>
    cases ha
    obtain ⟨rs, hs⟩ := answer_of_reply ht reply
    exact .inl ⟨hc, hid, .told e line (by rw [hs]; exact ht) hp⟩
  | start j => exact absurd (Option.some.inj ha) h.started.ne'
  | _ => cases ha

/-- A move of a command whose line is to be flushed. -/
theorem CalledOff.step_flushing {timeout : Binary64} (h : s.CalledOff id errand)
    (hs : s.stage? id = some (.flushing errand timeout)) (ha : s.actor? m = some id) :
    (s.step m).CalledOff id errand ∨ s.CallOff id m := by
  have hc := closed_step h.closed m
  have hid := h.started.trans_le (started_le_step s m)
  obtain ⟨t, ht, hstage⟩ := stage?_eq_some.1 hs
  obtain rfl := id_of_task? ht
  cases flushMove ht hstage h.started ha with
  | rests unflushed kept rs tells =>
    exact .inl ⟨hc, hid, .flushing timeout (by rw [tells]; exact hs)⟩
  | flushed hm awaits =>
    refine .inl ⟨hc, hid, ?_⟩
    rw [awaits] at hc ⊢
    exact .of_reply hc (task?_suspend_self _) rfl nofun
  | fails i hm finishes => exact .inr (.unsent i hm finishes)
  | aborts hm finishes => exact .inr (.aborted hm)

theorem CalledOff.step (h : s.CalledOff id errand)
    (hx : ∀ t ∈ s.task? id, s.canExpire t = false) (m : Move) :
    (s.step m).CalledOff id errand ∨ s.CallOff id m := by
  by_cases ha : s.actor? m = some id
  · cases h.stand with
    | flushing timeout stage => exact h.step_flushing stage ha
    | told e line task plain => exact h.step_told task plain (hx _ task) ha
    | off e hand notice task off => exact h.step_off task off (hx _ task) ha
  · exact .inl (h.of_task (closed_step h.closed m) (started_le_step s m) (task?_step_of_ne ha))

theorem CalledOff.until (h : s.CalledOff id errand) (ht : s.InTime id moves) :
    s.Until (·.CalledOff id errand) (·.CallOff id ·) moves := by
  induction moves generalizing s with
  | nil => exact h
  | cons m moves ih =>
    obtain ⟨hx, ht⟩ := ht
    exact ⟨h, (h.step hx m).symm.imp_right fun h' => ih h' ht⟩

theorem Discarding.step (h : s.Discarding id c) (m : Move) :
    (s.step m).Discarding id c ∨ s.Discarded id m := by
  have hstay (hs : (s.step m).stage? id = s.stage? id) : (s.step m).Discarding id c :=
    ⟨closed_step h.closed m, h.started.trans_le (started_le_step s m), hs.trans h.stage⟩
  by_cases ha : s.actor? m = some id
  · cases ending_of_stage h.stage (.inl rfl) h.started ha with
    | rests rs hs => exact .inl (hstay (by rw [hs]; rfl))
    | answered answer hm hs =>
      cases answer with
      | error i => exact .inr (.raised i hm)
      | ok => exact .inr (.cancelled .closedConnecting hm ⟨_, rfl, rfl⟩ hs)
    | aborted hm => exact .inr (.aborted hm)
  · exact .inl (hstay (stage?_step_of_ne ha))

/-- A client that connects after the session was closed is asked to close. -/
theorem discarding_of_connecting {r : ConnectRequest} (hc : s.closed = true) (hid : id < s.started)
    (hs : s.stage? id = some (.connecting c r true)) :
    let s' := s.step (.answer id (.connected (.ok ())))
    (∃ rs : List Log.Record, s'.history = s.history ++ rs.map .log ++ [.retireClient id c]) ∧
      s'.client = s.client ∧ s'.Discarding id c := by
  intro s'
  have hs' : s' = ((s.tell [establishedRecord r]).suspend id (.discarding c)).emit
      (.retireClient id c) := (connected_eq hs (.ok ())).trans (if_pos hc)
  rw [hs']
  exact ⟨⟨[establishedRecord r], rfl⟩, rfl, hc, hid,
    congrArg (Option.map Task.stage) (task?_suspend_self _)⟩

end Session

end GuestLink
