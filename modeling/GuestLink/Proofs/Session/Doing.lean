import GuestLink.Proofs.Session.Dealing

/-!
# What a move does

Acts that name a task are done by moves of that task (`actor_of_act`), and the reader and the writer
of a console are left alone by tasks unless they are closed (`step_does`).
-/

namespace GuestLink

/-- The task for which an act is done, if the act names one. -/
def Act.task? : Act → Option TaskId
  | .generate id _ | .connect id .. | .retireClient id _ | .openChannel id _ | .capture id .. |
    .dial id _ | .finish id _ => some id
  | _ => none

namespace Console

/-- The reader and the writer of a console. -/
def ends (c : Console) : ReaderTask × Writer := (c.reader, c.writer)

/-- Whether a console has no reader and its writer is closed. -/
def Released (c : Console) : Prop := c.reader = .absent ∧ c.writer.closing = true

/-- Whether the reader of a console was ended by an incident. -/
def HasFailed (c : Console) : Prop := ∃ i, c.reader = .failed i

variable {c c' : Console} {rs : List Log.Record}

theorem released_of_ends (h : c'.ends = c.ends) (hc : c.Released) : c'.Released := by
  obtain ⟨hr, hw⟩ := Prod.mk.inj h
  exact ⟨hr.trans hc.1, by rw [hw]; exact hc.2⟩

theorem Released.not_hasFailed (h : c.Released) : ¬c.HasFailed := by
  rintro ⟨i, hi⟩
  cases hi.symm.trans h.1

theorem stopReader_of_failed {i : Incident} (h : c.reader = .failed i) :
    c.stopReader = .error i := by
  rw [stopReader, h]

theorem failed_of_stopReader {i : Incident} (h : c.stopReader = .error i) :
    c.reader = .failed i := by
  unfold stopReader at h
  split at h <;> cases h
  assumption

theorem of_stopReader (h : c.stopReader = .ok (c', rs)) :
    ¬c.HasFailed ∧ c'.reader = .absent ∧ c'.writer = c.writer := by
  have hnot : ¬c.HasFailed := by
    rintro ⟨i, hi⟩
    cases (stopReader_of_failed hi).symm.trans h
  unfold stopReader at h
  split at h <;> cases h
  · exact ⟨hnot, ‹_›, rfl⟩
  · exact ⟨hnot, rfl, rfl⟩
  · exact ⟨hnot, rfl, rfl⟩
  · exact ⟨hnot, rfl, rfl⟩

end Console

namespace Session

/-- Whether from `s` to `s'` no acts were done for other tasks than `id`, and the reader and the
writer of the console were left alone. -/
structure Minds (s s' : Session) (id : TaskId) : Prop where
  ends : s'.console.ends = s.console.ends
  acts : ∃ acts, s'.history = s.history ++ acts ∧ ∀ a ∈ acts, ∀ k ∈ a.task?, k = id

/-- Whether from `s` to `s'` no acts were done for other tasks than `id`, and the reader and the
writer of the console were left alone or closed. -/
structure Does (s s' : Session) (id : TaskId) : Prop where
  ends : s'.console.ends = s.console.ends ∨ ¬s.console.HasFailed ∧ s'.console.Released
  acts : ∃ acts, s'.history = s.history ++ acts ∧ ∀ a ∈ acts, ∀ k ∈ a.task?, k = id

variable {s s₁ s' : Session} {id : TaskId} {t : Task} {m : Move}

theorem Minds.does (h : s.Minds s' id) : s.Does s' id := ⟨.inl h.ends, h.acts⟩

namespace Minds

theorem refl (s : Session) (id : TaskId) : s.Minds s id :=
  ⟨rfl, [], (List.append_nil _).symm, List.forall_mem_nil _⟩

theorem of_eq (h : s.Minds s₁ id) (s' : Session) (he : s'.console.ends = s₁.console.ends)
    (hh : s'.history = s₁.history) : s.Minds s' id := by
  obtain ⟨acts, hacts, hid⟩ := h.acts
  exact ⟨he.trans h.ends, acts, hh.trans hacts, hid⟩

theorem append (h : s.Minds s₁ id) {acts : List Act} (hc : s'.console = s₁.console)
    (hh : s'.history = s₁.history ++ acts) (hid : ∀ a ∈ acts, ∀ k ∈ a.task?, k = id) :
    s.Minds s' id := by
  obtain ⟨old, hold, hold'⟩ := h.acts
  refine ⟨(congrArg Console.ends hc).trans h.ends, old ++ acts, ?_, ?_⟩
  · rw [hh, hold, List.append_assoc]
  · intro a ha
    exact (List.mem_append.1 ha).elim (hold' a) (hid a)

theorem tell (h : s.Minds s₁ id) (rs : List Log.Record) : s.Minds (s₁.tell rs) id := by
  refine h.append rfl rfl fun a ha k hk => ?_
  obtain ⟨r, -, rfl⟩ := List.mem_map.1 ha
  cases hk

theorem emit_free (h : s.Minds s₁ id) {a : Act} (ha : a.task? = none) : s.Minds (s₁.emit a) id := by
  refine h.append rfl rfl fun b hb k hk => ?_
  rw [List.mem_singleton.1 hb, ha] at hk
  cases hk

theorem emit_own (h : s.Minds s₁ id) {a : Act} (ha : a.task? = some id) :
    s.Minds (s₁.emit a) id := by
  refine h.append rfl rfl fun b hb k hk => ?_
  rw [List.mem_singleton.1 hb, ha] at hk
  exact (Option.some.inj hk).symm

theorem finish (h : s.Minds s₁ id) (o : Outcome) : s.Minds (s₁.finish id o) id :=
  (h.of_eq { s₁ with tasks := s₁.tasks.filter (·.id != id) } rfl rfl).emit_own rfl

theorem suspend (h : s.Minds s₁ id) (stage : Stage) : s.Minds (s₁.suspend id stage) id :=
  h.of_eq _ rfl rfl

end Minds

/-! ### What tasks do -/

theorem beginCommand_minds (h : s.Minds s₁ id) (errand : Errand) (line : Bytes)
    (timeout : Binary64) : s.Minds (s₁.beginCommand id errand line timeout) id := by
  unfold beginCommand
  split_ifs
  · exact h.finish _
  · exact h.finish _
  · exact h.finish _
  have hr : s.Minds ({ s₁ with console := s₁.console.reset.1 }.tell s₁.console.reset.2) id :=
    (h.of_eq { s₁ with console := s₁.console.reset.1 } rfl rfl).tell _
  have hsent : s.Minds (({ s₁ with console := s₁.console.reset.1 }.tell s₁.console.reset.2).emit
      (.send line)) id := hr.emit_free rfl
  dsimp only
  split
  · exact hr.finish _
  · exact hr.finish _
  · exact hsent.finish _
  · exact hsent.of_eq _ rfl rfl
  · exact hsent.of_eq _ rfl rfl

theorem beginScan_minds (h : s.Minds s₁ id) (boot : Option Identity) :
    s.Minds (s₁.beginScan id boot) id := beginCommand_minds h _ _ _

theorem beginSetup_minds (h : s.Minds s₁ id) (identity : Identity) (boot : Bool) :
    s.Minds (s₁.beginSetup id identity boot) id := by
  unfold beginSetup
  split
  · exact h.finish _
  · exact beginCommand_minds h _ _ _

theorem beginConnect_minds (h : s.Minds s₁ id) (identity : Identity) (keys : HostKeys)
    (boot : Bool) : s.Minds (s₁.beginConnect id identity keys boot) id := by
  have hn : s.Minds (({ s₁ with clients := s₁.clients + 1 }.emit (.newClient s₁.clients)).emit
      (.pin s₁.clients)) id :=
    ((h.of_eq { s₁ with clients := s₁.clients + 1 } rfl rfl).emit_free rfl).emit_free rfl
  exact (hn.suspend _).emit_own rfl

theorem afterSuccess_minds (h : s.Minds s₁ id) (errand : Errand) (e : Serial.Exchange) :
    s.Minds (s₁.afterSuccess id errand e) id := by
  unfold afterSuccess
  split
  · rename_i identity boot
    have hi : s.Minds ({ s₁.tell [e.succeededRecord] with identity := some identity }.tell
        [Log.record .info .session "Guest sshd configured over serial console"]) id :=
      ((h.tell _).of_eq { s₁.tell [e.succeededRecord] with identity := some identity }
        rfl rfl).tell _
    dsimp only
    split_ifs
    · exact beginScan_minds hi _
    · exact hi.finish _
  · exact (h.tell _).finish _
  · split
    · exact (h.tell _).finish _
    · exact beginConnect_minds ((h.tell _).tell _) _ _ _

theorem release_minds (h : s.Minds s₁ id) : s.Minds s₁.release id := h.of_eq _ rfl rfl

theorem acceptLine_minds (h : s.Minds s₁ id) (errand : Errand) (e : Serial.Exchange)
    (line : Bytes) : s.Minds (s₁.acceptLine id errand e line) id := by
  unfold acceptLine
  split
  · exact h.suspend _
  · exact afterSuccess_minds (release_minds h) _ _
  · exact ((release_minds h).tell _).finish _
  · exact ((release_minds h).tell _).finish _

theorem afterConnect_minds (h : s.Minds s₁ id) (c : ClientId) (r : ConnectRequest) (boot : Bool)
    (answer : Except ConnectFault Unit) : s.Minds (s₁.afterConnect id c r boot answer) id := by
  unfold afterConnect
  split
  · exact (h.emit_free rfl).finish _
  · dsimp only
    split_ifs
    · exact ((h.tell _).suspend _).emit_own rfl
    · exact ((h.tell _).of_eq { s₁.tell _ with client := some c } rfl rfl).finish _
    · exact (h.tell _).finish _

theorem beginRun_minds (h : s.Minds s₁ id) (c : ClientId) (command : String)
    (signal : Option Signal) : s.Minds (s₁.beginRun id c command signal) id := by
  unfold beginRun
  split_ifs
  · exact h.finish _
  · exact (h.suspend _).emit_own rfl

theorem endRun_minds (h : s.Minds s₁ id) (command : String) (result : CommandResult) :
    s.Minds (s₁.endRun id command result) id := by
  unfold endRun
  split_ifs
  · exact (h.tell _).finish _
  · exact h.finish _

theorem Minds.does_of_released {c : Console} (h : s.Minds s₁ id) (hc : ¬s.console.HasFailed)
    (hr : c.Released) (h' : { s₁ with console := c }.Minds s' id) : s.Does s' id := by
  obtain ⟨old, hold, hold'⟩ := h.acts
  obtain ⟨new, hnew, hnew'⟩ := h'.acts
  refine ⟨.inr ⟨hc, Console.released_of_ends h'.ends hr⟩, old ++ new, ?_, ?_⟩
  · rw [hnew, ← List.append_assoc, ← hold]
  · intro a ha
    exact (List.mem_append.1 ha).elim (hold' a) (hnew' a)

theorem closeConsole_does (h : s.Minds s₁ id) : s.Does (s₁.closeConsole id) id := by
  unfold closeConsole
  split_ifs
  · exact (h.finish _).does
  split
  · exact (h.finish _).does
  rename_i c rs hc
  obtain ⟨hnot, hreader, -⟩ := Console.of_stopReader hc
  have hok : ¬s.console.HasFailed := by
    rintro ⟨i, hi⟩
    exact hnot ⟨i, (congrArg Prod.fst h.ends).trans hi⟩
  dsimp only
  split_ifs with hw
  · exact h.does_of_released hok ⟨hreader, hw⟩ (((Minds.refl _ id).tell rs).finish _)
  let closing : Console := { c with writer := { c.writer with closing := true } }
  have hclosed : { s₁ with console := closing }.Minds
      ({ { s₁ with console := c }.tell rs with console := closing }.emit .closeWriter) id :=
    ((Minds.refl { s₁ with console := closing } id).tell rs).emit_free rfl
  have hr : closing.Released := ⟨hreader, rfl⟩
  split
  · exact h.does_of_released hok hr (hclosed.finish _)
  · split_ifs
    · exact h.does_of_released hok hr (hclosed.finish _)
    · exact h.does_of_released hok hr (hclosed.finish _)
  · exact h.does_of_released hok hr (hclosed.suspend _)

theorem goOn_does (h : s.Minds s₁ id) (stage : Stage) (reply : Reply) :
    s.Does (s₁.goOn id stage reply) id := by
  have hchannel (channel : ChannelId) : s.Minds (s₁.emit (.closeChannel channel)) id :=
    h.emit_free rfl
  unfold goOn
  split
  · exact (h.finish _).does
  · exact (h.finish _).does
  · exact (h.suspend _).does
  · exact ((release_minds h).finish _).does
  · split
    · exact (h.finish _).does
    · exact (beginSetup_minds h _ _).does
  · exact (afterConnect_minds h _ _ _ _).does
  · exact (h.finish _).does
  · exact closeConsole_does (h.of_eq { s₁ with client := none } rfl rfl)
  · exact (h.finish _).does
  · exact (h.finish _).does
  · exact (h.finish _).does
  · exact ((h.suspend _).emit_own rfl).does
  · exact ((hchannel _).finish _).does
  · exact (endRun_minds (hchannel _) _ _).does
  · exact ((hchannel _).finish _).does
  · exact (h.finish _).does
  · exact ((h.tell _).finish _).does
  · exact h.does

theorem beginWrite_minds (h : s.Minds s₁ id) (data : Bytes) :
    s.Minds (s₁.beginWrite id data) id := by
  have hsent : s.Minds (s₁.emit (.send data)) id := h.emit_free rfl
  unfold beginWrite
  split_ifs
  · exact h.finish _
  · split
    exacts [h.finish _, h.finish _, hsent.finish _, hsent.suspend _, hsent.finish _]

theorem beginJob_does (h : s.Minds s₁ id) (j : Job) : s.Does (s₁.beginJob id j) id := by
  unfold beginJob
  split
  · split_ifs
    · exact (h.suspend _).does
    · exact (h.finish _).does
  · split_ifs
    · exact (h.finish _).does
    · exact (h.suspend _).does
    · exact (h.finish _).does
  · exact (beginWrite_minds h _).does
  · exact closeConsole_does h
  · split
    · exact (h.finish _).does
    · dsimp only
      split_ifs
      · exact (h.finish _).does
      · exact ((h.suspend _).emit_own rfl).does
  · have hn : s.Minds ({ s₁ with clients := s₁.clients + 1 }.emit (.newClient s₁.clients)) id :=
      (h.of_eq { s₁ with clients := s₁.clients + 1 } rfl rfl).emit_free rfl
    exact (beginRun_minds hn _ _ _).does
  · exact ((h.suspend _).emit_own rfl).does
  · exact ((h.suspend _).emit_own rfl).does
  · exact (beginScan_minds h _).does
  · exact (beginConnect_minds h _ _ _).does
  · split_ifs
    · exact (h.finish _).does
    · split
      · exact (h.finish _).does
      · exact (beginRun_minds h _ _ _).does
  · have hc : s.Minds { s₁ with closed := true } id := h.of_eq _ rfl rfl
    unfold beginClose
    dsimp only
    split
    · exact ((hc.suspend _).emit_own rfl).does
    · exact closeConsole_does hc

theorem deal_minds (s : Session) (t : Task) : s.Minds (s.deal t) t.id := by
  unfold deal
  split
  · exact (Minds.refl s t.id).of_eq _ rfl rfl
  · exact .refl s t.id

theorem notify_minds (s : Session) (t : Task) : s.Minds (s.notify t) t.id := by
  unfold notify
  split
  · exact (Minds.refl s t.id).of_eq _ rfl rfl
  · exact .refl s t.id

theorem consume_minds (h : s.Minds s₁ t.id) (line : Bytes) : s.Minds (s₁.consume t line) t.id := by
  unfold consume
  split
  · exact h.finish _
  · split_ifs
    · exact h.finish _
    · exact h.suspend _
  · exact acceptLine_minds h _ _ _
  · exact h

theorem giveUp_minds (s : Session) (t : Task) : s.Minds (s.giveUp t) t.id := by
  unfold giveUp
  split
  · exact release_minds (.refl s t.id)
  · exact .refl s t.id

theorem resume_minds (s : Session) (t : Task) : s.Minds (s.resume t) t.id := by
  unfold resume
  split
  · unfold resumeWait
    split_ifs
    · exact (giveUp_minds s t).finish _
    · split
      · exact consume_minds (.refl s t.id) _
      · rename_i rest _ _ _
        have hl : s.Minds (s.withLines rest) t.id := (Minds.refl s t.id).of_eq _ rfl rfl
        exact consume_minds hl _
      · exact (giveUp_minds s t).finish _
      · exact .refl s t.id
  · split_ifs
    · exact ((Minds.refl s t.id).emit_free rfl).suspend _
    · exact .refl s t.id
  · exact .refl s t.id

theorem expire_minds (s : Session) (t : Task) : s.Minds (s.expire t) t.id := by
  have h := Minds.refl s t.id
  unfold expire
  split_ifs
  · split
    · exact ((release_minds h).tell _).finish _
    · exact h.finish _
    · exact h.finish _
    · exact h
  · exact h

theorem abort_minds (s : Session) (t : Task) : s.Minds (s.abort t) t.id := by
  have h := Minds.refl s t.id
  unfold abort
  dsimp only
  split
  · exact (release_minds h).finish _
  · exact (release_minds h).finish _
  · exact (h.emit_free rfl).finish _
  · exact (h.emit_free rfl).finish _
  · exact (h.emit_free rfl).finish _
  · exact h.finish _

/-! ### Moves -/

/-- A move of a task. -/
theorem step_does (ha : s.actor? m = some id) : s.Does (s.step m) id := by
  have turn {f : Task → Session} (hf : ∀ t, s.Minds (f t) t.id) : s.Does (s.withTask id f) id :=
    withTask_cases (p := fun s' => s.Does s' id) (Minds.refl s id).does fun t ht =>
      id_of_task? ht ▸ (hf t).does
  cases m with
  | deal => cases ha; exact turn (deal_minds s)
  | notify => cases ha; exact turn (notify_minds s)
  | resume => cases ha; exact turn (resume_minds s)
  | expire => cases ha; exact turn (expire_minds s)
  | abort => cases ha; exact turn (abort_minds s)
  | answer _ reply =>
    cases ha
    obtain ⟨rs, -, he⟩ := exists_answer_tell s id reply
    have ht := (Minds.refl s id).tell rs
    rw [Session.step, he]
    exact withTask_cases (p := fun s' => s.Does s' id) ht.does fun t _ => goOn_does ht t.stage reply
  | start j =>
    cases ha
    have hs : s.Minds { s with started := s.started + 1 } s.started :=
      (Minds.refl s s.started).of_eq _ rfl rfl
    exact beginJob_does hs j
  | _ => cases ha

/-- A move of no task does nothing for any. -/
theorem exists_acts_of_no_actor (ha : s.actor? m = none) :
    ∃ acts, (s.step m).history = s.history ++ acts ∧ ∀ a ∈ acts, a.task? = none := by
  have absurd_of (id : TaskId) (h : s.actor? m = some id) : False := by
    cases ha.symm.trans h
  cases step_dealing s m with
  | idle idle =>
    obtain ⟨acts, hacts, hidle⟩ := idle.acts
    refine ⟨acts, hacts, fun a ha => ?_⟩
    obtain ⟨r, rfl⟩ := hidle a ha
    rfl
  | apart id actor => exact (absurd_of id actor).elim
  | failed t c o _ _ hm =>
    refine (absurd_of t.id ?_).elim
    rcases hm with rfl | ⟨answer, rfl⟩ <;> rfl
  | refused t _ _ _ _ _ _ hm => exact (absurd_of t.id (by rw [hm]; rfl)).elim
  | late t _ _ _ _ _ hm => exact (absurd_of t.id (by rw [hm]; rfl)).elim
  | gained t _ _ _ _ _ hm => exact (absurd_of t.id (by rw [hm]; rfl)).elim
  | handed t _ _ _ _ hm => exact (absurd_of t.id (by rw [hm]; rfl)).elim
  | dropped t _ _ _ _ _ hm => exact (absurd_of t.id (by rw [hm]; rfl)).elim
  | retired t _ _ _ hm => exact (absurd_of t.id (by rw [hm]; rfl)).elim
  | retires _ _ hm => exact (absurd_of s.started (by rw [hm]; rfl)).elim
  | closes _ hm => exact (absurd_of s.started (by rw [hm]; rfl)).elim

/-- An act for a task is done by a move of that task. -/
theorem exists_acts (s : Session) (m : Move) : ∃ acts, (s.step m).history = s.history ++ acts ∧
    ∀ a ∈ acts, ∀ id ∈ a.task?, s.actor? m = some id := by
  cases ha : s.actor? m with
  | none =>
    obtain ⟨acts, hacts, hnone⟩ := exists_acts_of_no_actor ha
    refine ⟨acts, hacts, fun a ha id hid => ?_⟩
    rw [hnone a ha] at hid
    cases hid
  | some k =>
    obtain ⟨acts, hacts, hk⟩ := (step_does ha).acts
    exact ⟨acts, hacts, fun a ha id hid => congrArg some (hk a ha id hid).symm⟩

end Session

end GuestLink
