import GuestLink.Proofs.Session.Settling
import GuestLink.Proofs.Session.Transcript

/-!
# The outcome of a serial command

`command_decided` says how a command ends that a session attends to: as whatever comes first on its
timeline decides.  The invariant of the proof (`Pending`) is that the timeline so far decides what
it would decide if only the lines were looked at that have arrived.
-/

namespace GuestLink.Session

open Serial

variable {s : Session} {id id' : TaskId} {errand : Errand} {d : Deadline} {past : Timeline}
  {seen : List Bytes} {hand : Option Bytes} {m : Move}

/-- What a waiting command will find if nothing else happens. -/
def outlook (s : Session) (hand : Option Bytes) : Timeline :=
  if s.closed then [(s.now, .closed)]
  else
    (s.now, .nothing) :: (hand.toList ++ s.console.lines).map (s.now, .line ·) ++
      if s.console.ended then [(s.now, .ended)] else []

/-- Whether nothing that has arrived is left to look at. -/
structure Idle (s : Session) (hand : Option Bytes) : Prop where
  hand : hand = none
  lines : s.console.lines = []
  reads : s.console.ended = false
  opened : s.closed = false
  reader : s.console.reader ≠ .ready

/-- What a task has been told. -/
def notice? (s : Session) (id : TaskId) : Option Notice := (s.task? id).bind Task.notice

/-- Whether the task `id` waits for the answer to a command, `past` the timeline so far. -/
structure Pending (s : Session) (id : TaskId) (errand : Errand) (d : Deadline) (past : Timeline)
    (seen : List Bytes) (hand : Option Bytes) : Prop where
  awaits : s.Awaits id errand (exchange errand d seen) hand
  /-- What the task has been told is so. -/
  told : ∀ n ∈ s.notice? id, (n = .calledOff ↔ s.closed = true) ∧
    (s.closed = true ∨ hand ≠ none ∨ s.console.ended = true)
  foreseen : decision d [] past = decision d seen (s.outlook hand)
  late : d.due s.now = true → s.Idle hand
  atEnd : s.console.ended = true → s.console.reader ≠ .ready ∧ s.console.reader ≠ .waiting

/-- Whether a move decides the command of a task. -/
def Decides (s : Session) (id : TaskId) (errand : Errand) (d : Deadline) (past : Timeline)
    (m : Move) : Prop :=
  ∃ verdict seen lines, verdict ≠ .pending ∧
    decision d [] (past ++ s.happening m) = (verdict, seen) ∧
    s.step m = (s.withLines lines).conclude id errand (exchange errand d seen) verdict

/-! ### Moves that leave the command alone -/

namespace Pending

theorem due_eq_false (h : s.Pending id errand d past seen hand) (hi : ¬s.Idle hand) :
    d.due s.now = false := by
  by_contra hd
  exact hi (h.late (by simpa using hd))

theorem of_alike {s' : Session} (h : s.Pending id errand d past seen hand)
    (ha : s'.Awaits id errand (exchange errand d seen) hand) (ht : s'.task? id = s.task? id)
    (hs : s.Alike s') : s'.Pending id errand d past seen hand := by
  refine ⟨ha, ?_, ?_, ?_, ?_⟩
  · rw [notice?, ht, hs.closed, hs.console]
    exact h.told
  · rw [h.foreseen, outlook, outlook, hs.closed, hs.now, hs.console]
  · rw [hs.now]
    intro hd
    have hi := h.late hd
    exact ⟨hi.hand, hs.console ▸ hi.lines, hs.console ▸ hi.reads, hs.closed ▸ hi.opened,
      hs.console ▸ hi.reader⟩
  · rw [hs.console]
    exact h.atEnd

/-- The input of the console may change while the command is not late. -/
theorem of_input (h : s.Pending id errand d past seen hand) (hd : d.due s.now = false)
    {f : Console → Console} (hl : (f s.console).lines = s.console.lines)
    (he : (f s.console).ended = s.console.ended)
    (hr : s.console.reader ≠ .waiting → (f s.console).reader = s.console.reader) :
    (s.withConsole f).Pending id errand d past seen hand := by
  refine ⟨h.awaits.of_tasks_eq rfl le_rfl, ?_, ?_, fun hd' => ?_, fun he' => ?_⟩
  · have ht := h.told
    rw [← he] at ht
    exact ht
  · rw [h.foreseen, outlook, outlook]
    simp only [withConsole, hl, he]
  · rw [show (s.withConsole f).now = s.now from rfl, hd] at hd'
    cases hd'
  · have hs := h.atEnd (he ▸ he')
    rw [show (s.withConsole f).console = f s.console from rfl, hr hs.2]
    exact hs

end Pending

theorem wakeReader_reader {c : Console} (h : c.reader ≠ .waiting) (arrived : Bool) :
    (c.wakeReader arrived).reader = c.reader := by
  rw [Console.wakeReader, if_neg h]

namespace Pending

theorem receive (h : s.Pending id errand d past seen hand) (hd : d.due s.now = false)
    (data : Bytes) : (s.step (.receive data)).Pending id errand d past seen hand := by
  by_cases hc : s.console.inputClosed
  · rw [step, withConsole, Console.receive, if_pos hc]
    exact h
  · rw [step, withConsole, Console.receive, if_neg hc]
    exact h.of_input hd (f := fun c => { c with buffer := c.buffer ++ data }.wakeReader true)
      (wakeReader_lines ..) (wakeReader_ended ..)
      fun hr => wakeReader_reader (c := { s.console with buffer := s.console.buffer ++ data }) hr _

theorem closeInput (h : s.Pending id errand d past seen hand) (hd : d.due s.now = false) :
    (s.step .closeInput).Pending id errand d past seen hand :=
  h.of_input hd (f := Console.closeInput) (wakeReader_lines ..) (wakeReader_ended ..)
    fun hr => wakeReader_reader (c := { s.console with inputClosed := true }) hr _

theorem breakInput (h : s.Pending id errand d past seen hand) (hd : d.due s.now = false)
    (i : Incident) : (s.step (.breakInput i)).Pending id errand d past seen hand :=
  h.of_input hd (f := (·.breakInput i)) (wakeReader_lines ..) (wakeReader_ended ..)
    fun hr => wakeReader_reader (c := { s.console with inputFault := some i }) hr _

end Pending

/-! ### The reader -/

theorem outlook_of_closed (hc : s.closed = true) (hand : Option Bytes) :
    s.outlook hand = [(s.now, .closed)] := by
  rw [outlook, if_pos hc]

theorem outlook_of_open (hc : s.closed = false) (hand : Option Bytes) :
    s.outlook hand = (s.now, .nothing) ::
      (hand.toList ++ s.console.lines).map (s.now, .line ·) ++
        if s.console.ended then [(s.now, .ended)] else [] := by
  rw [outlook, if_neg (by simp [hc])]

theorem outlook_eq_nothing (hc : s.closed = false) (hl : s.console.lines = [])
    (he : s.console.ended = false) : s.outlook none = [(s.now, .nothing)] := by
  rw [outlook_of_open hc, hl, he]
  rfl

theorem Pending.read (h : s.Pending id errand d past seen hand)
    (hroom : s.console.lines.length + s.console.arriving ≤ queueDepth) :
    (s.step .read).Pending id errand d (past ++ s.happening .read) seen hand := by
  by_cases hr : s.console.reader ≠ .ready
  · obtain ⟨hh, hs⟩ := read_of_not_ready hr
    rw [hh, hs, List.append_nil]
    exact h
  rw [not_not] at hr
  have hd : d.due s.now = false := h.due_eq_false fun hi => hi.reader hr
  have he : s.console.ended = false := by
    by_contra he
    exact (h.atEnd (Bool.not_eq_false _ ▸ he)).1 hr
  obtain ⟨lines, stop, hh, hlines, hended, hready, hwaiting⟩ := read_of_ready hr hroom
  have hnow : (s.step .read).now = s.now := rfl
  have hclosed : (s.step .read).closed = s.closed := rfl
  refine ⟨h.awaits.of_tasks_eq rfl le_rfl, fun n hn => ?_, ?_, fun hd' => ?_, fun he' => ?_⟩
  · rw [hended]
    exact (h.told n hn).imp_right (·.imp_right (·.imp_right fun he => by rw [he, Bool.true_or]))
  · cases hc : s.closed with
    | true =>
      have hf := h.foreseen
      rw [outlook_of_closed hc, decision_closed hd] at hf
      rw [decision_append_of_ne hf (by simp), outlook_of_closed (hclosed.trans hc), hnow,
        decision_closed hd]
    | false =>
      -- what arrives now stands behind the lines that have arrived before
      rw [decision_append_congr h.foreseen, outlook_of_open hc, outlook_of_open (hclosed.trans hc),
        hh, he, hlines, hended, he, hnow]
      simp
  · rw [hnow, hd] at hd'
    cases hd'
  · rw [hended, he, Bool.false_or] at he'
    exact ⟨hready, hwaiting he'⟩

/-! ### The task -/

namespace Pending

/-- The task looks at the oldest line that has arrived. -/
theorem accept (h : s.Pending id errand d past seen hand) (hc : s.closed = false) {l : Bytes}
    {rest : List Bytes} (hb : hand.toList ++ s.console.lines = l :: rest) (hm : s.happening m = [])
    (hs : s.step m = (s.withLines rest).acceptLine id errand (exchange errand d seen) l) :
    (∃ seen' hand', (s.step m).Pending id errand d (past ++ s.happening m) seen' hand') ∨
      s.Decides id errand d past m := by
  have hd : d.due s.now = false := h.due_eq_false fun hi => by
    rw [hi.hand, hi.lines] at hb
    cases hb
  have hf := h.foreseen
  rw [outlook_of_open hc, hb, List.cons_append, decision_nothing hd, List.map_cons,
    List.cons_append] at hf
  rw [Decides, hm, List.append_nil]
  cases hl : status? l with
  | some status =>
    rw [decision_line_of_some hd hl] at hf
    exact .inr ⟨.answered status, l :: seen, rest, by simp, hf, hs.trans (acceptLine_of_some hl)⟩
  | none =>
    rw [decision_line_of_none hd hl] at hf
    rw [acceptLine_of_none hl] at hs
    refine .inl ⟨l :: seen, none, ?_⟩
    rw [hs]
    have ho := outlook_of_open (s := (s.withLines rest).suspend id (.reply errand
      (exchange errand d (l :: seen)))) hc none
    refine ⟨.suspend_self h.awaits.others h.awaits.started, ?_, ?_, fun hd' => ?_, h.atEnd⟩
    · rw [notice?, task?_suspend_self]
      nofun
    · refine hf.trans (Eq.trans ?_ (congrArg _ ho).symm)
      exact (decision_nothing hd _).symm
    · cases hd.symm.trans hd'

/-- The task is called off as soon as the session is closed. -/
theorem isCalledOff_eq (h : s.Pending id errand d past seen hand) {notice : Option Notice}
    (ht : s.task? id = some { id, stage := .reply errand (exchange errand d seen), hand, notice }) :
    s.isCalledOff { id, stage := .reply errand (exchange errand d seen), hand, notice } =
      s.closed := by
  cases notice with
  | none => rfl
  | some n =>
    have hn := (h.told n (by rw [notice?, ht]; rfl)).1
    rw [isCalledOff]
    exact Bool.eq_iff_iff.2 (beq_iff_eq.trans hn)

/-- The task is told that its wait is over. -/
theorem notify (h : s.Pending id errand d past seen hand) :
    (s.step (.notify id)).Pending id errand d past seen hand := by
  obtain ⟨notice, ht⟩ := h.awaits.task
  have hoff := h.isCalledOff_eq ht
  rcases step_notify ht with hs | ⟨hc, hs⟩ <;> rw [hs]
  · exact h
  · refine ⟨h.awaits.inform id _, fun n hn => ?_, h.foreseen, fun hd => ?_, h.atEnd⟩
    · rw [notice?, task?_inform ht] at hn
      obtain rfl := Option.some.inj hn
      rw [canResume, hoff, Bool.or_eq_true, Bool.and_eq_true, Bool.or_eq_true,
        Option.isSome_iff_ne_none (o := hand)] at hc
      refine ⟨?_, hc.imp_right (·.2)⟩
      rw [Session.notice, hoff]
      change (if s.closed then Notice.calledOff else Notice.ready) = .calledOff ↔ s.closed = true
      split <;> simp [*]
    · have hi := h.late hd
      exact ⟨hi.1, hi.2, hi.3, hi.4, hi.5⟩

/-- The task is handed a line, if there is one. -/
theorem deal (h : s.Pending id errand d past seen hand) :
    ∃ hand', (s.step (.deal id)).Pending id errand d past seen hand' := by
  obtain ⟨notice, ht⟩ := h.awaits.task
  obtain hs | ⟨rfl, l, rest, hl, hs⟩ := deal_of_reply ht <;> rw [hs]
  · exact ⟨hand, h⟩
  have hd : d.due s.now = false := h.due_eq_false fun hi => by
    rw [hi.lines] at hl
    cases hl
  refine ⟨some l, h.awaits.take l rest, fun n hn => ?_, ?_, fun hd' => ?_, h.atEnd⟩
  · rw [notice?, task?, task?_handOver ht l] at hn
    have htold := h.told n (by rw [notice?, ht]; exact hn)
    exact htold.imp_right fun _ => .inr (.inl (by simp))
  · rw [h.foreseen, outlook, outlook, hl]
    rfl
  · cases hd.symm.trans hd'

theorem resume (h : s.Pending id errand d past seen hand) :
    (∃ seen' hand', (s.step (.resume id)).Pending id errand d (past ++ s.happening (.resume id))
        seen' hand') ∨
      s.Decides id errand d past (.resume id) := by
  have hm : s.happening (.resume id) = [] := rfl
  obtain ⟨notice, ht⟩ := h.awaits.task
  have hs : s.step (.resume id) =
      s.resumeWait { id, stage := .reply errand (exchange errand d seen), hand, notice } := by
    rw [step, withTask_of_some ht]
    rfl
  have hf := h.foreseen
  rw [resumeWait, h.isCalledOff_eq ht] at hs
  cases hc : s.closed with
  | true =>
    -- the signal comes before any line
    have hd : d.due s.now = false := h.due_eq_false fun hi => by
      cases hi.opened.symm.trans hc
    rw [outlook_of_closed hc, decision_closed hd] at hf
    rw [if_pos hc] at hs
    exact .inr ⟨.closed, seen, s.console.lines, by simp, by rw [hm, List.append_nil, hf], hs⟩
  | false =>
    rw [if_neg (by simp [hc])] at hs
    split at hs
    · rename_i l hh
      obtain rfl : hand = some l := hh
      exact h.accept hc rfl hm hs
    · rename_i l rest hh he hl
      obtain rfl : hand = none := hh
      exact h.accept hc hl hm hs
    · rename_i hh he hl
      obtain rfl : hand = none := hh
      have hd : d.due s.now = false := h.due_eq_false fun hi => by
        cases hi.reads.symm.trans he
      rw [outlook_of_open hc, he, hl, List.cons_append, decision_nothing hd] at hf
      refine .inr ⟨.ended, seen, s.console.lines, by simp, ?_, hs⟩
      rw [hm, List.append_nil, hf]
      exact decision_ended hd []
    · rw [hs, hm, List.append_nil]
      exact .inl ⟨seen, hand, h⟩

theorem expire (h : s.Pending id errand d past seen hand) :
    (s.step (.expire id)).Pending id errand d past seen hand ∨ s.Decides id errand d past
      (.expire id) := by
  have hs : s.step (.expire id) = if d.due s.now then
      (s.release.tell [(exchange errand d seen).failedRecord "timeout"]).fail id
        (.timedOut (exchange errand d seen)) else s := by
    obtain ⟨notice, ht⟩ := h.awaits.task
    rw [step, withTask_of_some ht]
    rfl
  cases hd : d.due s.now with
  | false =>
    rw [hs, if_neg (by simp [hd])]
    exact .inl h
  | true =>
    rw [if_pos hd] at hs
    refine .inr ⟨.late, seen, s.console.lines, by simp, ?_, hs⟩
    rw [show s.happening (.expire id) = [] from rfl, List.append_nil, h.foreseen,
      outlook_of_open (h.late hd).opened, List.cons_append, decision_cons_of_due hd]

end Pending

/-! ### Time and the end of the session -/

theorem reader_of_stopReader {c c' : Console} {rs : List Log.Record}
    (h : c.stopReader = .ok (c', rs)) : c'.reader = .absent := by
  unfold Console.stopReader at h
  split at h <;> cases h
  · assumption
  all_goals rfl

/-- Closing the console as another task touches neither the task nor the time, and if it touches the
console, it ends the reader. -/
theorem Awaits.closeConsole {e : Exchange} (h : s.Awaits id errand e hand) (hne : id' ≠ id) :
    (s.closeConsole id').Awaits id errand e hand ∧ (s.closeConsole id').now = s.now ∧
      (s.closeConsole id').closed = s.closed ∧
      ((s.closeConsole id').console = s.console ∨
        (s.closeConsole id').console.reader = .absent) := by
  unfold Session.closeConsole
  split_ifs
  · exact ⟨h.finish hne _, rfl, rfl, .inl rfl⟩
  split
  · exact ⟨h.finish hne _, rfl, rfl, .inl rfl⟩
  rename_i c rs hc
  have hr := reader_of_stopReader hc
  have ha {c' : Console} {acts : List Act} : ({ s with console := c', history := acts } :
      Session).Awaits id errand e hand := h.of_tasks_eq rfl le_rfl
  dsimp only
  split_ifs
  · exact ⟨ha.finish hne _, rfl, rfl, .inr hr⟩
  split
  · exact ⟨ha.finish hne _, rfl, rfl, .inr hr⟩
  · split_ifs <;> exact ⟨ha.finish hne _, rfl, rfl, .inr hr⟩
  · exact ⟨ha.suspend hne rfl, rfl, rfl, .inr hr⟩

namespace Pending

theorem idle_of_quiet (h : s.Pending id errand d past seen hand) (hq : s.Quiet id) :
    s.Idle hand ∧ d.due s.now = false := by
  obtain ⟨notice, htask⟩ := h.awaits.task
  obtain ⟨hr, ht⟩ := hq
  obtain ⟨hl, hc, hx⟩ := ht _ htask
  simp only [canResume, h.isCalledOff_eq htask, Stage.lineSignal?, Option.isSome_some, Bool.true_and,
    Bool.or_eq_false_iff, Option.isSome_eq_false_iff, Option.isNone_iff_eq_none] at hc
  obtain ⟨hc, rfl, he⟩ := hc
  exact ⟨⟨rfl, hl (by simp [Stage.lineSignal?]) rfl, he, hc, hr⟩, hx⟩

/-- In a quiet session, the task has been told nothing. -/
theorem notice?_eq_none (h : s.Pending id errand d past seen hand) (hi : s.Idle hand) :
    s.notice? id = none := by
  by_contra hn
  obtain ⟨n, hn⟩ := Option.ne_none_iff_exists'.1 hn
  rcases (h.told n hn).2 with hc | hh | he
  · cases hi.opened.symm.trans hc
  · exact hh hi.hand
  · cases hi.reads.symm.trans he

/-- In a quiet session, the timeline so far decides nothing. -/
theorem decision_of_quiet (h : s.Pending id errand d past seen hand) (hq : s.Quiet id) :
    decision d [] past = (.pending, seen) := by
  obtain ⟨hi, hd⟩ := h.idle_of_quiet hq
  rw [h.foreseen, hi.hand, outlook_eq_nothing hi.opened hi.lines hi.reads, decision_nothing hd]
  rfl

theorem pass (h : s.Pending id errand d past seen hand) (hq : s.Quiet id) (nanos : Nat) :
    (s.step (.pass nanos)).Pending id errand d (past ++ s.happening (.pass nanos)) seen hand := by
  obtain ⟨hi, -⟩ := h.idle_of_quiet hq
  refine ⟨h.awaits.of_tasks_eq rfl le_rfl, h.told, ?_, fun _ => ⟨hi.1, hi.2, hi.3, hi.4, hi.5⟩,
    h.atEnd⟩
  rw [decision_append, h.decision_of_quiet hq, hi.hand,
    outlook_eq_nothing (s := s.step (.pass nanos)) hi.opened hi.lines hi.reads]
  rfl

theorem close (h : s.Pending id errand d past seen hand) (hq : s.Quiet id) :
    (s.step (.start .close)).Pending id errand d (past ++ s.happening (.start .close)) seen
      hand := by
  obtain ⟨hi, hd⟩ := h.idle_of_quiet hq
  have hne : s.started ≠ id := h.awaits.started.ne'
  let s₁ : Session := { s with started := s.started + 1, closed := true }
  have ha : s₁.Awaits id errand (exchange errand d seen) hand :=
    h.awaits.of_tasks_eq rfl (Nat.le_succ _)
  obtain ⟨ha', hnow, hclosed, hover⟩ : (s.step (.start .close)).Awaits id errand
      (exchange errand d seen) hand ∧ (s.step (.start .close)).now = s.now ∧
      (s.step (.start .close)).closed = true ∧
      ((s.step (.start .close)).console = s.console ∨
        (s.step (.start .close)).console.reader = .absent) := by
    have hs : s.step (.start .close) = s₁.client.elim (s₁.closeConsole s.started) fun c =>
        (s₁.suspend s.started (.retiring c)).emit (.retireClient s.started c) := by
      cases hcl : s.client <;> simp [Session.step, start, beginJob, beginClose, s₁, hcl]
    rw [hs]
    cases s₁.client with
    | some c => exact ⟨(ha.suspend hne rfl).of_tasks_eq rfl le_rfl, rfl, rfl, .inl rfl⟩
    | none => exact ha.closeConsole hne
  have htask : (s.step (.start .close)).task? id = s.task? id :=
    task?_step_of_ne fun hid => hne (Option.some.inj hid)
  refine ⟨ha', fun n hn => ?_, ?_, fun hd' => ?_, fun he => ?_⟩
  · rw [notice?, htask, ← notice?, h.notice?_eq_none hi] at hn
    cases hn
  · rw [decision_append, h.decision_of_quiet hq, outlook_of_closed hclosed, hnow]
    rfl
  · rw [hnow] at hd'
    cases hd.symm.trans hd'
  · rcases hover with hover | hover
    · rw [hover, hi.reads] at he
      cases he
    · rw [hover]
      simp

/-- One move keeps the command waiting or decides it. -/
theorem step (h : s.Pending id errand d past seen hand) (hm : s.Admits id m) :
    (∃ seen' hand', (s.step m).Pending id errand d (past ++ s.happening m) seen' hand') ∨
      s.Decides id errand d past m := by
  have waits {seen' hand'} (hp : (s.step m).Pending id errand d past seen' hand')
      (hh : s.happening m = []) : ∃ seen' hand', (s.step m).Pending id errand d
        (past ++ s.happening m) seen' hand' := by
    rw [hh, List.append_nil]
    exact ⟨seen', hand', hp⟩
  have due (hx : ∀ t, s.task? id = some t → s.canExpire t = false) : d.due s.now = false :=
    h.awaits.task.elim fun _ => hx _
  have other (id' : TaskId) (hne : id' ≠ id) (f : Task → Session) (ha : s.actor? m = some id')
      (hs : s.step m = s.withTask id' f)
      (hf : ∀ t, s.task? id' = some t → (f t).Awaits id errand (exchange errand d seen) hand ∧
        s.Alike (f t)) : (s.step m).Pending id errand d past seen hand := by
    obtain ⟨hawaits, halike⟩ := withTask_cases (p := fun s' => s'.Awaits id errand
      (exchange errand d seen) hand ∧ s.Alike s') ⟨h.awaits, rfl, rfl, rfl⟩ hf
    rw [← hs] at hawaits halike
    exact h.of_alike hawaits (task?_step_of_ne (by simp [ha, hne])) halike
  cases m with
  | receive data => exact .inl (waits (h.receive (due hm) data) rfl)
  | closeInput => exact .inl (waits (h.closeInput (due hm)) rfl)
  | breakInput i => exact .inl (waits (h.breakInput (due hm) i) rfl)
  | read => exact .inl ⟨seen, hand, h.read hm⟩
  | pass nanos => exact .inl ⟨seen, hand, h.pass hm nanos⟩
  | deal id' =>
    by_cases hne : id' = id
    · subst hne
      obtain ⟨hand', hp⟩ := h.deal
      exact .inl (waits hp rfl)
    · refine .inl (waits (other id' hne s.deal rfl rfl fun t ht => ?_) rfl)
      rw [h.awaits.deal_other hne ht]
      exact ⟨h.awaits, rfl, rfl, rfl⟩
  | notify id' =>
    by_cases hne : id' = id
    · subst hne
      exact .inl (waits h.notify rfl)
    · refine .inl (waits (other id' hne s.notify rfl rfl fun t ht => ?_) rfl)
      exact ⟨h.awaits.notify t, notify_alike s t⟩
  | resume id' =>
    by_cases hne : id' = id
    · subst hne
      exact h.resume
    · exact .inl (waits (other id' hne s.resume rfl rfl fun t => h.awaits.resume_other hne) rfl)
  | expire id' =>
    by_cases hne : id' = id
    · subst hne
      rcases h.expire with hp | hd
      exacts [.inl (waits hp rfl), .inr hd]
    · exact .inl (waits (other id' hne s.expire rfl rfl fun t => h.awaits.expire_other hne) rfl)
  | start j =>
    cases j with
    | close => exact .inl ⟨seen, hand, h.close hm⟩
    | _ => exact hm.elim
  | _ => exact hm.elim

/-- A run keeps the command waiting or has a move that decides it. -/
theorem run (h : s.Pending id errand d past seen hand) {moves : List Move}
    (hm : s.Attended id moves) :
    (∃ seen' hand', (s.run moves).Pending id errand d (past ++ s.happenings moves) seen' hand') ∨
      ∃ before m after seen' hand', moves = before ++ m :: after ∧
        (s.run before).Pending id errand d (past ++ s.happenings before) seen' hand' ∧
        (s.run before).Decides id errand d (past ++ s.happenings before) m := by
  induction moves generalizing s past seen hand with
  | nil => exact .inl ⟨seen, hand, by rwa [happenings, List.append_nil]⟩
  | cons m moves ih =>
    rcases h.step hm.1 with ⟨seen', hand', hp⟩ | hd
    · rw [happenings, ← List.append_assoc]
      rcases ih hp hm.2 with hp | ⟨before, m', after, seen', hand', rfl, hb, hd⟩
      · exact .inl hp
      · refine .inr ⟨m :: before, m', after, seen', hand', rfl, ?_⟩
        rw [happenings, ← List.append_assoc]
        exact ⟨hb, hd⟩
    · refine .inr ⟨[], m, moves, seen, hand, rfl, ?_⟩
      rw [happenings, List.append_nil]
      exact ⟨h, hd⟩

end Pending

/-! ### The whole command -/

/-- A command that was sent is pending, and nothing but time has happened to it. -/
theorem CanSend.pending (hs : s.CanSend id) {timeout : Binary64}
    (ht : (Deadline.mk s.now timeout).due s.now = true → s.console.reader ≠ .ready) (line : Bytes) :
    (s.beginCommand id errand line timeout).Pending id errand ⟨s.now, timeout⟩
      [(s.now, .nothing)] [] none := by
  rw [hs.beginCommand_eq]
  refine ⟨.suspend_self hs.others hs.started, ?_, ?_, fun hd => ?_, fun he => ?_⟩
  · rw [notice?, task?_suspend_self]
    nofun
  · refine congrArg _ (Eq.trans ?_ (outlook_eq_nothing ?_ ?_ ?_).symm)
    exacts [rfl, hs.opened, rfl, hs.reads]
  · exact ⟨rfl, rfl, hs.reads, hs.opened, ht hd⟩
  · cases hs.reads.symm.trans he

theorem CanSend.timeline_eq (hs : s.CanSend id) (timeout : Binary64) (line : Bytes)
    (moves : List Move) : (s.beginCommand id errand line timeout).timeline moves =
      [(s.now, .nothing)] ++ (s.beginCommand id errand line timeout).happenings moves := by
  have hnow : (s.beginCommand id errand line timeout).now = s.now := by
    rw [hs.beginCommand_eq]
    rfl
  rw [timeline, hnow]
  rfl

variable {timeout : Binary64} {line : Bytes} {moves : List Move}

/-- In a quiet session, a command that its timeline does not decide waits. -/
theorem CanSend.awaits (hs : s.CanSend id)
    (ht : (Deadline.mk s.now timeout).due s.now = true → s.console.reader ≠ .ready)
    (hm : (s.beginCommand id errand line timeout).Attended id moves)
    (hq : ((s.beginCommand id errand line timeout).run moves).Quiet id)
    (hd : decision ⟨s.now, timeout⟩ [] ((s.beginCommand id errand line timeout).timeline moves) =
      (.pending, seen)) :
    ((s.beginCommand id errand line timeout).run moves).Awaits id errand
      (exchange errand ⟨s.now, timeout⟩ seen) none := by
  rw [hs.timeline_eq] at hd
  rcases (hs.pending ht line).run hm with ⟨seen', hand', hp⟩ | ⟨before, m, after, -, -, rfl, -, hx⟩
  · rw [hp.decision_of_quiet hq] at hd
    obtain ⟨-, rfl⟩ := Prod.mk.inj hd
    rw [← (hp.idle_of_quiet hq).1.hand]
    exact hp.awaits
  · obtain ⟨verdict, seen', lines, hne, hdecision, -⟩ := hx
    rw [happenings_append, happenings, ← List.append_assoc, ← List.append_assoc,
      decision_append_of_ne hdecision hne] at hd
    exact absurd (Prod.mk.inj hd).1 hne

/-- In a quiet session, a command that its timeline decides has ended in the move that decides. -/
theorem CanSend.ends (hs : s.CanSend id)
    (ht : (Deadline.mk s.now timeout).due s.now = true → s.console.reader ≠ .ready)
    (hm : (s.beginCommand id errand line timeout).Attended id moves)
    (hq : ((s.beginCommand id errand line timeout).run moves).Quiet id) {verdict : Decision}
    (hd : decision ⟨s.now, timeout⟩ [] ((s.beginCommand id errand line timeout).timeline moves) =
      (verdict, seen)) (hv : verdict ≠ .pending) :
    ∃ before m after, moves = before ++ m :: after ∧
      ((s.beginCommand id errand line timeout).run before).Ends id errand
        (exchange errand ⟨s.now, timeout⟩ seen) verdict m := by
  rw [hs.timeline_eq] at hd
  rcases (hs.pending ht line).run hm with ⟨seen', hand', hp⟩ | ⟨before, m, after, _, _, rfl, hb, hx⟩
  · rw [hp.decision_of_quiet hq] at hd
    exact absurd (Prod.mk.inj hd).1.symm hv
  · obtain ⟨verdict', seen', lines, hne, hdecision, hstep⟩ := hx
    -- what was decided by then is what the whole timeline decides
    rw [happenings_append, happenings, ← List.append_assoc, ← List.append_assoc,
      decision_append_of_ne hdecision hne] at hd
    obtain ⟨rfl, rfl⟩ := Prod.mk.inj hd
    refine ⟨before, m, after, rfl, ⟨_, _, hb.awaits⟩, ⟨lines, hstep⟩, fun kind details hr => ?_⟩
    rw [hstep]
    exact conclude_fails hr

/-- The lines of an answered command: its output are those that it keeps of the lines before the
status line. -/
theorem exists_body_of_answered (errand : Errand) {timeline : Timeline} {status : Option UInt8}
    (hd : decision d [] timeline = (.answered status, seen)) :
    ∃ (body : List Bytes) (mark : Bytes), body ++ [mark] <+: linesOf timeline ∧
      seen.reverse = body ++ [mark] ∧ status? mark = some status ∧
      (∀ l ∈ body, status? l = none) ∧
      (exchange errand d seen).output = [10].intercalate (body.filter errand.operation.keeps) := by
  obtain ⟨body, mark, hpre, hseen, hmark, hbody⟩ := decision_answered hd
  rw [List.append_nil] at hseen
  refine ⟨body, mark, hpre, ?_, hmark, hbody, output_of_answered hseen hmark⟩
  rw [hseen, List.reverse_cons, List.reverse_reverse]

/-- A command that the session attends to ends as decided by what comes first on its timeline: once
nothing is left to do, it waits if nothing has decided it, and else has ended in the move that
decided it.  The task gets there of itself whenever the reader has nothing to do. -/
theorem command_decided (hs : s.CanSend id)
    (ht : (Deadline.mk s.now timeout).due s.now = true → s.console.reader ≠ .ready)
    (hm : (s.beginCommand id errand line timeout).Attended id moves) :
    let s₁ := s.beginCommand id errand line timeout
    let verdict := (decision ⟨s.now, timeout⟩ [] (s₁.timeline moves)).1
    let seen := (decision ⟨s.now, timeout⟩ [] (s₁.timeline moves)).2
    let e : Exchange := { operation := errand.operation, deadline := ⟨s.now, timeout⟩, seen }
    ((s₁.run moves).Quiet id →
      (verdict = .pending → (s₁.run moves).Awaits id errand e none) ∧
      (verdict ≠ .pending → ∃ before m after, moves = before ++ m :: after ∧
        (s₁.run before).Ends id errand e verdict m)) ∧
    ((s₁.run moves).console.reader ≠ .ready → ∃ more, (∀ m ∈ more, IsTurn id m) ∧
      s₁.Attended id (moves ++ more) ∧ s₁.timeline (moves ++ more) = s₁.timeline moves ∧
      (s₁.run (moves ++ more)).Quiet id) ∧
    e.consoleLog = String.ofList (['\n'].intercalate (seen.reverse.map Utf8.decodeLossy)) ∧
    ∀ status, verdict = .answered status → ∃ (body : List Bytes) (mark : Bytes),
      seen.reverse = body ++ [mark] ∧ status? mark = some status ∧
      (∀ l ∈ body, status? l = none) ∧
      e.output = [10].intercalate (body.filter errand.operation.keeps) := by
  intro s₁ verdict seen e
  have hd : decision ⟨s.now, timeout⟩ [] (s₁.timeline moves) = (verdict, seen) := rfl
  refine ⟨fun hq => ⟨fun hv => ?_, hs.ends ht hm hq hd⟩, fun hr => ?_, rfl, fun status hv => ?_⟩
  · exact hs.awaits ht hm hq (hv ▸ hd)
  · obtain ⟨more, hown, hq⟩ := exists_quiet hr id
    refine ⟨more, hown, attended_append.2 ⟨hm, attended_of_isTurn hown⟩, ?_, run_append .. ▸ hq⟩
    rw [timeline, happenings_append, happenings_of_isTurn hown, List.append_nil, timeline]
  · obtain ⟨body, mark, -, h⟩ := exists_body_of_answered errand (hv ▸ hd)
    exact ⟨body, mark, h⟩

/-- The answer to a scan, looked at line by line. -/
def sampleMoves : List Move :=
  [.pass 1000, .receive (utf8 "ssh-keyscan\n|1|x\nSERIAL STATUS: 0\n"), .read, .deal 0, .resume 0,
    .deal 0, .resume 0, .deal 0, .resume 0]

theorem command_decided_sample :
    let s₁ := sample.beginCommand 0 (.scan none) (utf8 scanCommand) (.ofInt 5)
    let e : Exchange := { operation := .scan, deadline := ⟨0, .ofInt 5⟩, seen :=
      [utf8 "SERIAL STATUS: 0", utf8 "|1|x", utf8 "ssh-keyscan"] }
    sample.CanSend 0 ∧ s₁.Attended 0 sampleMoves ∧ ∃ before m after,
      sampleMoves = before ++ m :: after ∧
        (s₁.run before).Ends 0 (.scan none) e (.answered (some 48)) m := by
  intro s₁ e
  have hs : sample.CanSend 0 :=
    ⟨⟨rfl, rfl, rfl, rfl, Nat.zero_lt_one⟩, rfl, fun t ht => absurd ht List.not_mem_nil⟩
  have ht : (Deadline.mk sample.now (.ofInt 5)).due sample.now = true →
      sample.console.reader ≠ .ready := by decide +kernel
  have hm : s₁.Attended 0 sampleMoves := by decide +kernel
  have hq : (s₁.run sampleMoves).Quiet 0 := by decide +kernel
  have hd : decision ⟨sample.now, .ofInt 5⟩ [] (s₁.timeline sampleMoves) =
      (.answered (some 48), e.seen) := by decide +kernel
  have h := ((command_decided hs ht hm).1 hq).2 (by rw [hd]; nofun)
  rw [hd] at h
  exact ⟨hs, hm, h⟩

end GuestLink.Session
