import GuestLink.Proofs.Session.Transcript

/-!
# Owning the console

As long as the caller does not use the console by hand, at most one task is engaged with it, and
this one owns it: its command is to be flushed or waits for an answer.  `Owns.course`,
`Flushes.course` and `Unawaited.course` list everything that a move can do to the lines then.
-/

namespace GuestLink.Session

open Serial

/-- Whether no task is engaged with the console. -/
def Unawaited (s : Session) : Prop := ∀ t ∈ s.tasks, t.stage.isEngaged = false

/-- Whether a task in a stage owns the console, with which no other task is engaged. -/
structure Holds (s : Session) (id : TaskId) (stage : Stage) (hand : Option Bytes) : Prop where
  task : ∃ notice, s.task? id = some { id, stage, hand, notice }
  started : id < s.started
  others : ∀ t ∈ s.tasks, t.id ≠ id → t.stage.isEngaged = false
  owned : s.console.owned = true

/-- Whether a task owns the console and waits for the answer to its command. -/
abbrev Owns (s : Session) (id : TaskId) (errand : Errand) (e : Exchange) (hand : Option Bytes) :
    Prop := s.Holds id (.reply errand e) hand

/-- Whether a task owns the console and its command is to be flushed. -/
abbrev Flushes (s : Session) (id : TaskId) (errand : Errand) (timeout : Binary64) : Prop :=
  s.Holds id (.flushing errand timeout) none

/-- Whether a task owns the console with a command under way and holds `hand`. -/
inductive Busy (s : Session) (id : TaskId) : Option Bytes → Prop
  | flushing {errand : Errand} {timeout : Binary64} (flushes : s.Flushes id errand timeout) :
    s.Busy id none
  | waiting {errand : Errand} {e : Exchange} {hand : Option Bytes}
    (owns : s.Owns id errand e hand) : s.Busy id hand

/-- Whether the tasks bear numbers that were given out. -/
def Numbered (s : Session) : Prop := ∀ t ∈ s.tasks, t.id < s.started

/-- What a move does to the lines while a task owns the console. -/
inductive Course (s : Session) (id : TaskId) (errand : Errand) (e : Exchange) (hand : Option Bytes)
    (m : Move) : Prop
  | stays (looks : ∀ id', s.looksAt? id' m = none) (hm : m ≠ .read)
      (lines : (s.step m).console.lines = s.console.lines) (sends : (s.step m).sends = s.sends)
      (owns : (s.step m).Owns id errand e hand)
  | reads (hm : m = .read) (sends : (s.step m).sends = s.sends)
      (owns : (s.step m).Owns id errand e hand)
  | takes (l : Bytes) (rest : List Bytes) (hm : m = .deal id) (empty : hand = none)
      (before : s.console.lines = l :: rest) (lines : (s.step m).console.lines = rest)
      (sends : (s.step m).sends = s.sends) (owns : (s.step m).Owns id errand e (some l))
  | looks (l : Bytes) (rest : List Bytes) (hm : m = .resume id) (look : s.looksAt? id m = some l)
      (before : hand.toList ++ s.console.lines = l :: rest) (plain : status? l = none)
      (lines : (s.step m).console.lines = rest) (sends : (s.step m).sends = s.sends)
      (owns : (s.step m).Owns id errand { e with seen := l :: e.seen } none)
  | answered (l : Bytes) (rest : List Bytes) (status : Option UInt8) (hm : m = .resume id)
      (look : s.looksAt? id m = some l) (before : hand.toList ++ s.console.lines = l :: rest)
      (mark : status? l = some status)
      (concludes : s.step m = (s.withLines rest).conclude id errand { e with seen := l :: e.seen }
        (.answered status))
  | gives (looks : ∀ id', s.looksAt? id' m = none) (hm : m ≠ .read)
      (lines : (s.step m).console.lines = s.console.lines) (sends : (s.step m).sends = s.sends)
      (gone : (s.step m).task? id = none) (idle : (s.step m).Unawaited)

/-- What a move does to the lines while the command of a task is to be flushed. -/
inductive Flushing (s : Session) (id : TaskId) (errand : Errand) (timeout : Binary64) (m : Move) :
    Prop
  | stays (looks : ∀ id', s.looksAt? id' m = none) (hm : m ≠ .read)
      (lines : (s.step m).console.lines = s.console.lines) (sends : (s.step m).sends = s.sends)
      (flushes : (s.step m).Flushes id errand timeout)
  | reads (hm : m = .read) (sends : (s.step m).sends = s.sends)
      (flushes : (s.step m).Flushes id errand timeout)
  | flushed (hm : m = .answer id (.flushed (.ok ())))
      (awaits : s.step m = s.awaitReply id errand timeout)
      (owns : (s.step m).Owns id errand (exchange errand ⟨s.now, timeout⟩ []) none)
  | gives (looks : ∀ id', s.looksAt? id' m = none) (hm : m ≠ .read)
      (lines : (s.step m).console.lines = s.console.lines) (sends : (s.step m).sends = s.sends)
      (gone : (s.step m).task? id = none) (idle : (s.step m).Unawaited)

/-- What becomes of the lines when a task has acted that has no command under way. -/
inductive Outset (s s' : Session) (id : TaskId) : Prop
  | rests (lines : s'.console.lines = s.console.lines) (sends : s'.sends = s.sends)
      (idle : s'.Unawaited)
  | fails (lines : s'.console.lines = []) (sends : s'.sends = s.sends ∨ s'.sends = s.sends + 1)
      (idle : s'.Unawaited)
  | begins (lines : s'.console.lines = []) (sends : s'.sends = s.sends + 1)
      (busy : s'.Busy id none) (untold : ∀ t ∈ s'.task? id, t.notice = none)

variable {s s' : Session} {id id' : TaskId} {errand : Errand} {e : Exchange} {stage : Stage}
  {timeout : Binary64} {hand : Option Bytes} {m : Move} {l : Bytes}

theorem read_owned (s : Session) : (s.step .read).console.owned = s.console.owned := by
  rw [step, read, tell_console]
  unfold Console.read
  split <;> rfl

theorem sends_read (s : Session) : (s.step .read).sends = s.sends :=
  sends_tell { s with console := s.console.read.1 } s.console.read.2

theorem looksAt?_of_lineSignal? (h : ∀ t ∈ s.tasks, t.id = id → t.stage.lineSignal? = none)
    (m : Move) : s.looksAt? id m = none := by
  cases m with
  | resume id' =>
    rw [looksAt?]
    split_ifs
    · cases ht : s.task? id with
      | none => rfl
      | some t =>
        rw [Option.bind_some, lookedAt?, h t (mem_of_task? ht) (id_of_task? ht)]
        rfl
    · rfl
  | _ => rfl

theorem looksAt?_of_actor? (ha : s.actor? m = some id) (hl : s.looksAt? id m = none)
    (id' : TaskId) : s.looksAt? id' m = none := by
  by_cases hid : id' = id
  · rw [hid, hl]
  · exact looksAt?_of_ne fun ha' => hid (Option.some.inj (ha'.symm.trans ha))

theorem unawaited_of_except (he : s'.except id = s.except id)
    (h : ∀ t ∈ s.tasks, t.id ≠ id → t.stage.isEngaged = false)
    (hid : ∀ t ∈ s'.tasks, t.id = id → t.stage.isEngaged = false) : s'.Unawaited := by
  intro t ht
  by_cases hti : t.id = id
  · exact hid t ht hti
  · have hm : t ∈ s.except id := he ▸ mem_except.2 ⟨ht, hti⟩
    exact h t (mem_except.1 hm).1 hti

/-- The other tasks are not engaged after a move of the task `id` if they were not before. -/
theorem others_of_except (he : s'.except id = s.except id)
    (h : ∀ t ∈ s.tasks, t.id ≠ id → t.stage.isEngaged = false) :
    ∀ t ∈ s'.tasks, t.id ≠ id → t.stage.isEngaged = false := fun t ht hti => by
  have hm : t ∈ s.except id := he ▸ mem_except.2 ⟨ht, hti⟩
  exact h t (mem_except.1 hm).1 hti

theorem Holds.busy (h : s.Holds id stage none) (hs : stage.isCommand = true) : s.Busy id none := by
  cases stage with
  | flushing errand timeout => exact .flushing h
  | reply errand e => exact .waiting h
  | _ => cases hs

theorem Outset.of_acts (ha : s.Acts s' id)
    (h : ∀ t ∈ s.tasks, t.id ≠ id → t.stage.isEngaged = false)
    (hid : ∀ t ∈ s'.tasks, t.id = id → id < s'.started) : s.Outset s' id := by
  rcases ha with ha | hb
  · exact .rests ha.lines ha.sends (unawaited_of_except ha.except h ha.own)
  · rcases hb.outcome with ⟨ht, hsends⟩ | ⟨stage, hs, ht, howned, hsends⟩
    · refine .fails hb.lines hsends (unawaited_of_except hb.except h fun t hm hti => ?_)
      exact absurd hti (ne_of_task?_eq_none ht t hm)
    · have hholds : s'.Holds id stage none :=
        ⟨⟨none, ht⟩, hid _ (mem_of_task? ht) rfl, others_of_except hb.except h, howned⟩
      refine .begins hb.lines hsends (hholds.busy hs) fun t hm => ?_
      cases ht.symm.trans hm
      rfl

namespace Holds

theorem of_tasks_eq (h : s.Holds id stage hand) (ht : s'.tasks = s.tasks)
    (hs : s.started ≤ s'.started) (ho : s'.console.owned = s.console.owned) :
    s'.Holds id stage hand :=
  ⟨h.task.imp fun _ => (task?_of_tasks_eq ht id).trans, h.started.trans_le hs,
    fun t hm => h.others t (ht ▸ hm), ho.trans h.owned⟩

theorem of_steady (h : s.Holds id stage hand) (hs : s.Steady s') : s'.Holds id stage hand :=
  h.of_tasks_eq hs.tasks hs.started hs.owned

/-- A task that acts beside the one that owns the console. -/
theorem of_acts (h : s.Holds id stage hand) (hne : id' ≠ id) (ha : s.Acts s' id') :
    s'.console.lines = s.console.lines ∧ s'.sends = s.sends ∧ s'.Holds id stage hand := by
  rcases ha with ha | hb
  · refine ⟨ha.lines, ha.sends, ⟨h.task.imp fun _ =>
      (task?_eq_of_except ha.except hne.symm).trans, h.started.trans_le ha.started, ?_,
      ha.owned.trans h.owned⟩⟩
    intro t ht hti
    by_cases hti' : t.id = id'
    · exact ha.own t ht hti'
    · have hm : t ∈ s.except id' := ha.except ▸ mem_except.2 ⟨ht, hti'⟩
      exact h.others t (mem_except.1 hm).1 hti
  · cases hb.unowned.symm.trans h.owned

/-- The owner takes its next step and goes on owning the console. -/
theorem suspend (h : s.Holds id stage hand) (stage' : Stage) :
    (s.suspend id stage').Holds id stage' none :=
  ⟨⟨none, task?_suspend_self _⟩, h.started, others_of_except (except_suspend s id stage') h.others,
    h.owned⟩

/-- A move of another task, or of none. -/
theorem step_other (h : s.Holds id stage hand) (hm : m.isManual = false)
    (hid : s.actor? m ≠ some id) : (s.step m).sends = s.sends ∧ (s.step m).Holds id stage hand ∧
      (m ≠ .read → (s.step m).console.lines = s.console.lines ∧
        ∀ id', s.looksAt? id' m = none) := by
  cases ha : s.actor? m with
  | none =>
    by_cases hr : m = .read
    · subst hr
      exact ⟨sends_read s, h.of_tasks_eq rfl le_rfl (read_owned s), fun hr => absurd rfl hr⟩
    · have hs := step_steady hm ha hr
      exact ⟨hs.sends, h.of_steady hs, fun _ =>
        ⟨hs.lines, fun id' => looksAt?_of_ne (by simp [ha])⟩⟩
  | some id' =>
    have hne : id' ≠ id := fun he => hid (ha.trans (congrArg some he))
    have hother : ∀ t ∈ s.tasks, t.id = id' → t.stage.isEngaged = false :=
      fun t ht hti => h.others t ht fun hti' => hne (hti.symm.trans hti')
    obtain ⟨hlines, hsends, hholds⟩ := h.of_acts hne (step_acts hm ha hother)
    refine ⟨hsends, hholds, fun _ => ⟨hlines, looksAt?_of_actor? ha ?_⟩⟩
    exact looksAt?_of_lineSignal?
      (fun t ht hti => Stage.lineSignal?_of_not_isEngaged (hother t ht hti)) m

/-- The owner ends and gives up the console. -/
theorem unawaited_of_finish (h : s.Holds id stage hand) (rs : List Log.Record) (o : Outcome) :
    ((s.release.tell rs).finish id o).Unawaited := fun t ht =>
  h.others t (mem_except.1 ht).1 (mem_except.1 ht).2

end Holds

namespace Owns

theorem listens (h : s.Owns id errand e hand) : s.Listens id errand e hand := ⟨h.task, h.started⟩

/-- The owner ends without an answer. -/
theorem gives_of_finish (h : s.Owns id errand e hand) (looks : ∀ id', s.looksAt? id' m = none)
    (hm : m ≠ .read) (rs : List Log.Record) (o : Outcome)
    (hs : s.step m = (s.release.tell rs).finish id o) : s.Course id errand e hand m := by
  refine .gives looks hm (by rw [hs]; rfl) ?_ (by rw [hs]; exact task?_finish_self o)
    (hs ▸ h.unawaited_of_finish rs o)
  rw [hs, sends_finish, sends_tell]
  rfl

theorem inform (h : s.Owns id errand e hand) (notice : Notice) :
    (s.inform id notice).Owns id errand e hand := by
  obtain ⟨notice₀, ht⟩ := h.task
  exact ⟨⟨some notice, task?_inform ht notice⟩, h.started,
    others_of_except (except_inform s id notice) h.others, h.owned⟩

theorem take (h : s.Owns id errand e none) {rest : List Bytes} (hs : s.HandsOver s' id l rest) :
    s'.Owns id errand e (some l) := by
  obtain ⟨notice, ht⟩ := h.task
  obtain ⟨-, rfl⟩ := hs
  exact ⟨⟨notice, task?_handOver ht l⟩, h.started, others_of_except
    (filter_update (f := ({ · with hand := some l })) (fun _ => rfl) s.tasks id) h.others, h.owned⟩

/-- A move of the owner. -/
theorem course_of_self (h : s.Owns id errand e hand) (ha : s.actor? m = some id) :
    s.Course id errand e hand m := by
  have looks := looksAt?_of_actor? ha
  have hr : m ≠ .read := by
    rintro rfl
    cases ha
  cases h.listens.ownMove ha with
  | rests hl rs hs =>
    have hsteady : s.Steady (s.step m) := hs ▸ (Steady.refl s).tell rs
    exact .stays (looks hl) hr hsteady.lines hsteady.sends (h.of_steady hsteady)
  | told notice hm hs =>
    exact .stays (looks (by rw [hm]; rfl)) hr (by rw [hs]; rfl) (by rw [hs]; rfl)
      (hs ▸ h.inform notice)
  | takes l rest hm empty hands =>
    subst hm empty
    have howns := h.take hands
    obtain ⟨hl, hs⟩ := hands
    exact .takes l rest rfl rfl hl (by rw [hs]) (by rw [hs]; rfl) howns
  | looks l rest hm hl hb hs =>
    cases hst : status? l with
    | some status =>
      exact .answered l rest status hm hl hb hst (hs.trans (acceptLine_of_some hst))
    | none =>
      rw [acceptLine_of_none hst] at hs
      have howns : (s.withLines rest).Owns id errand e hand := h.of_tasks_eq rfl le_rfl rfl
      exact .looks l rest hm hl hb hst (by rw [hs]; rfl) (by rw [hs]; rfl) (hs ▸ howns.suspend _)
  | ends hl rs o failure hs => exact h.gives_of_finish (looks hl) hr rs o hs

theorem course (h : s.Owns id errand e hand) (hm : m.isManual = false) :
    s.Course id errand e hand m := by
  by_cases ha : s.actor? m = some id
  · exact h.course_of_self ha
  · obtain ⟨hsends, howns, hlines⟩ := h.step_other hm ha
    by_cases hr : m = .read
    · exact .reads hr hsends howns
    · exact .stays (hlines hr).2 hr (hlines hr).1 hsends howns

/-- A command that is answered ends, and its task may begin another one. -/
theorem outset_of_answered (h : s.Owns id errand e hand) {rest : List Bytes} {e' : Exchange}
    {status : Option UInt8}
    (hs : s' = (s.withLines rest).conclude id errand e' (.answered status)) :
    (s.withLines rest).Outset s' id := by
  have hacts : (s.withLines rest).release.Acts s' id := by
    subst hs
    unfold conclude
    cases status with
    | none => exact .inl (.finish ((Steady.refl _).tell _) _)
    | some b =>
      dsimp only
      split_ifs
      · exact afterSuccess_acts errand e'
      · exact .inl (.finish ((Steady.refl _).tell _) _)
  have hid : id < s'.started := by
    rcases hacts with ha | hb
    exacts [h.started.trans_le ha.started, h.started.trans_le hb.started]
  rcases Outset.of_acts hacts h.others fun _ _ _ => hid with _ | _ | ⟨lines, sends, busy, untold⟩
  · exact .rests ‹_› ‹_› ‹_›
  · exact .fails ‹_› ‹_› ‹_›
  · exact .begins lines sends busy untold

end Owns

/-- What a task does with its move whose command is to be flushed. -/
inductive FlushMove (s : Session) (id : TaskId) (errand : Errand) (timeout : Binary64) (m : Move) :
    Prop
  | rests (unflushed : ∀ a, m ≠ .answer id (.flushed a)) (kept : m ≠ .abort id)
      (rs : List Log.Record) (tells : s.step m = s.tell rs)
  | flushed (hm : m = .answer id (.flushed (.ok ())))
      (awaits : s.step m = s.awaitReply id errand timeout)
  | fails (i : Incident) (hm : m = .answer id (.flushed (.error i)))
      (finishes : s.step m = s.release.finish id (.failed (.send i)))
  | aborts (hm : m = .abort id) (finishes : s.step m = s.release.finish id .aborted)

theorem flushMove {t : Task} (ht : s.task? id = some t) (hs : t.stage = .flushing errand timeout)
    (hid : id < s.started) (ha : s.actor? m = some id) : s.FlushMove id errand timeout m := by
  have rests {f : Task → Session} (unflushed : ∀ a, m ≠ .answer id (.flushed a))
      (kept : m ≠ .abort id) (hm : s.step m = s.withTask id f) (hf : f t = s) :
      s.FlushMove id errand timeout m :=
    .rests unflushed kept [] (by rw [hm, withTask_of_some ht, hf, tell_nil])
  cases m with
  | deal =>
    cases ha
    refine rests (f := s.deal) (by simp) (by simp) rfl ?_
    rw [deal, hs]
    cases s.console.lines <;> rfl
  | notify =>
    cases ha
    refine rests (f := s.notify) (by simp) (by simp) rfl ?_
    rw [notify, canResume, isCalledOff, hs]
    rfl
  | resume =>
    cases ha
    refine rests (f := s.resume) (by simp) (by simp) rfl ?_
    rw [resume, hs]
    rfl
  | expire =>
    cases ha
    refine rests (f := s.expire) (by simp) (by simp) rfl ?_
    rw [expire, canExpire, hs]
    rfl
  | abort =>
    cases ha
    obtain rfl := id_of_task? ht
    exact .aborts rfl (by rw [step, withTask_of_some ht, abort, hs])
  | answer _ reply =>
    cases ha
    rcases answer_of_flushing ht hs reply with ⟨rfl, hs⟩ | ⟨i, rfl, hs⟩ | ⟨hr, rs, hs⟩
    · exact .flushed rfl hs
    · exact .fails i rfl hs
    · exact .rests (fun a hm => hr a (Move.answer.inj hm).2) (by simp) rs hs
  | start j => exact absurd (Option.some.inj ha) hid.ne'
  | _ => cases ha

namespace Flushes

/-- A move of the owner. -/
theorem course_of_self (h : s.Flushes id errand timeout) (ha : s.actor? m = some id) :
    s.Flushing id errand timeout m := by
  have hr : m ≠ .read := by
    rintro rfl
    cases ha
  obtain ⟨notice, ht⟩ := h.task
  have looks : ∀ id', s.looksAt? id' m = none := by
    refine looksAt?_of_actor? ha ?_
    cases m with
    | resume id' =>
      rw [looksAt?, ht]
      exact ite_self none
    | _ => rfl
  have ends {o : Outcome} (hs : s.step m = s.release.finish id o) :
      s.Flushing id errand timeout m := by
    have hidle := h.unawaited_of_finish [] o
    rw [tell_nil] at hidle
    refine .gives looks hr (by rw [hs]; rfl) ?_ (by rw [hs]; exact task?_finish_self o)
      (hs ▸ hidle)
    rw [hs, sends_finish]
    rfl
  cases flushMove ht rfl h.started ha with
  | rests unflushed kept rs tells =>
    have hsteady : s.Steady (s.step m) := tells ▸ (Steady.refl s).tell rs
    exact .stays looks hr hsteady.lines hsteady.sends (h.of_steady hsteady)
  | flushed hm awaits => exact .flushed hm awaits (awaits ▸ h.suspend _)
  | fails i hm finishes => exact ends finishes
  | aborts hm finishes => exact ends finishes

theorem course (h : s.Flushes id errand timeout) (hm : m.isManual = false) :
    s.Flushing id errand timeout m := by
  by_cases ha : s.actor? m = some id
  · exact h.course_of_self ha
  · obtain ⟨hsends, hflushes, hlines⟩ := h.step_other hm ha
    by_cases hr : m = .read
    · exact .reads hr hsends hflushes
    · exact .stays (hlines hr).2 hr (hlines hr).1 hsends hflushes

end Flushes

theorem Numbered.step (h : s.Numbered) (m : Move) : (s.step m).Numbered := by
  intro t ht
  cases ha : s.actor? m with
  | none =>
    obtain ⟨htasks, hstarted, -⟩ := step_tasks ha
    exact (h t (htasks ▸ ht)).trans_le hstarted
  | some id =>
    have ho := step_only ha
    by_cases hti : t.id = id
    · by_cases hm : ∃ j, m = .start j
      · obtain ⟨j, rfl⟩ := hm
        rw [hti, ← Option.some.inj ha]
        exact (start_only s j).started
      · cases ht₀ : s.task? id with
        | none =>
          have hn := task?_step_of_none ht₀ fun j hj => absurd ⟨j, hj⟩ hm
          exact absurd hti (ne_of_task?_eq_none hn t ht)
        | some t₀ =>
          have hid := h t₀ (mem_of_task? ht₀)
          rw [id_of_task? ht₀] at hid
          exact hti ▸ hid.trans_le ho.started
    · have hm : t ∈ s.except id := ho.except ▸ mem_except.2 ⟨ht, hti⟩
      exact (h t (mem_except.1 hm).1).trans_le ho.started

theorem Numbered.run (h : s.Numbered) (moves : List Move) : (s.run moves).Numbered := by
  induction moves generalizing s with
  | nil => exact h
  | cons m moves ih => exact ih (h.step m)

namespace Unawaited

theorem looksAt?_eq_none (h : s.Unawaited) (id : TaskId) (m : Move) : s.looksAt? id m = none :=
  looksAt?_of_lineSignal? (fun t ht _ => Stage.lineSignal?_of_not_isEngaged (h t ht)) m

/-- What a move does while no task is engaged with the console. -/
theorem course (h : s.Unawaited) (hn : s.Numbered) (hm : m.isManual = false) (hr : m ≠ .read) :
    (∃ id, s.actor? m = some id ∧ s.Outset (s.step m) id) ∨
      (s.step m).console.lines = s.console.lines ∧ (s.step m).sends = s.sends ∧
        (s.step m).Unawaited := by
  cases ha : s.actor? m with
  | none =>
    have hs := step_steady hm ha hr
    exact .inr ⟨hs.lines, hs.sends, fun t ht => h t (hs.tasks ▸ ht)⟩
  | some id =>
    have hacts := step_acts hm ha fun t ht _ => h t ht
    exact .inl ⟨id, rfl, .of_acts hacts (fun t ht _ => h t ht) fun t ht hti => hti ▸ hn.step m t ht⟩

theorem read (h : s.Unawaited) : (s.step .read).Unawaited := h

end Unawaited

/-! ### Sending -/

section

variable (hs : s.MaySend id) (errand : Errand) (line : Bytes) (timeout : Binary64)
include hs

theorem MaySend.lines_eq_nil : (s.beginCommand id errand line timeout).console.lines = [] := by
  rw [hs.beginCommand_eq]
  rfl

theorem MaySend.listens : (s.beginCommand id errand line timeout).Listens id errand
    (exchange errand ⟨s.now, timeout⟩ []) none := by
  rw [hs.beginCommand_eq]
  exact ⟨⟨none, task?_suspend_self _⟩, hs.started⟩

/-- A task that has sent a command owns the console. -/
theorem MaySend.owns (hothers : ∀ t ∈ s.tasks, t.id ≠ id → t.stage.isEngaged = false) :
    (s.beginCommand id errand line timeout).Owns id errand (exchange errand ⟨s.now, timeout⟩ [])
      none := by
  rw [hs.beginCommand_eq]
  exact ⟨⟨none, task?_suspend_self _⟩, hs.started, others_of_except (except_suspend _ id _) hothers,
    rfl⟩

end

/-! ### Lines that come to be looked at -/

/-- Whether a move is no use of the console by hand, and none of the reader without room for all
lines that have arrived. -/
def Spares (s : Session) : Move → Prop
  | .read => s.console.lines.length + s.console.arriving ≤ queueDepth
  | m => m.isManual = false

instance (s : Session) (m : Move) : Decidable (s.Spares m) := by
  unfold Spares
  split <;> infer_instance

theorem Spares.isManual_eq_false (h : s.Spares m) : m.isManual = false := by
  cases m with
  | read => rfl
  | _ => exact h

/-- Whether in a run nobody uses the console by hand, and the reader has room whenever it reads. -/
def Serves (s : Session) : List Move → Prop
  | [] => True
  | m :: moves => s.Spares m ∧ (s.step m).Serves moves

instance : (s : Session) → (moves : List Move) → Decidable (s.Serves moves)
  | _, [] => .isTrue trivial
  | s, m :: moves =>
    have : Decidable ((s.step m).Serves moves) := instDecidableServes (s.step m) moves
    inferInstanceAs (Decidable (s.Spares m ∧ (s.step m).Serves moves))

theorem linesOf_happening (hm : m ≠ .read) : linesOf (s.happening m) = [] := by
  cases m with
  | read => exact absurd rfl hm
  | start j => cases j <;> rfl
  | _ => rfl

/-- What a command is answered with are the lines that stood in the queue and have arrived since,
from the first one on. -/
theorem Owns.prefix_arrivals {moves : List Move} {body : List Bytes} {mark : Bytes}
    (h : s.Owns id errand e hand) (hserves : s.Serves moves)
    (hpre : body ++ [mark] <+: s.transcript id moves) (hbody : ∀ l ∈ body, status? l = none)
    (hmark : status? mark ≠ none) :
    body ++ [mark] <+: hand.toList ++ s.console.lines ++ linesOf (s.happenings moves) := by
  induction moves generalizing s e hand body with
  | nil => exact absurd hpre not_concat_isPrefix_nil
  | cons m moves ih =>
    rw [transcript] at hpre
    rw [happenings, linesOf_append]
    cases h.course hserves.1.isManual_eq_false with
    | stays looks hm lines sends owns =>
      rw [looks] at hpre
      rw [linesOf_happening hm, List.nil_append, ← lines]
      exact ih owns hserves.2 hpre hbody
    | reads hm sends owns =>
      subst hm
      obtain ⟨n, hn, hroom⟩ := exists_drop_read s
      rw [hroom hserves.1, List.drop_zero] at hn
      rw [← List.append_assoc, List.append_assoc hand.toList, ← hn]
      exact ih owns hserves.2 hpre hbody
    | takes l rest hm empty before lines sends owns =>
      subst hm empty
      rw [before, linesOf_happening (m := .deal id) (by simp), List.nil_append, ← lines]
      exact ih owns hserves.2 hpre hbody
    | looks l rest hm look before plain lines sends owns =>
      subst hm
      rw [look] at hpre
      rw [before, linesOf_happening (m := .resume id) (by simp), List.nil_append, ← lines]
      rcases concat_isPrefix_cons hpre with ⟨rfl, rfl⟩ | ⟨body, rfl, hpre'⟩
      · exact absurd plain hmark
      · exact List.cons_prefix_cons.2
          ⟨rfl, ih owns hserves.2 hpre' fun l hl => hbody l (List.mem_cons_of_mem _ hl)⟩
    | answered l rest status hm look before mark' concludes =>
      rw [look] at hpre
      rw [before]
      rcases concat_isPrefix_cons hpre with ⟨rfl, rfl⟩ | ⟨body, rfl, -⟩
      · exact List.cons_prefix_cons.2 ⟨rfl, List.nil_prefix⟩
      · cases mark'.symm.trans (hbody l List.mem_cons_self)
    | gives looks hm lines sends gone idle =>
      rw [looks, transcript_of_none gone (h.started.trans_le (started_le_step s m))] at hpre
      exact absurd hpre not_concat_isPrefix_nil

end GuestLink.Session
