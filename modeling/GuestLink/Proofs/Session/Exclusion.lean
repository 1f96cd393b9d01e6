import GuestLink.Proofs.Serial.Setup
import GuestLink.Proofs.Session.Bootstrap
import GuestLink.Proofs.Session.Upstream

/-!
# One command at a time

As long as the caller does not use the console by hand, it belongs to the one task that has a
command in progress, or to nobody (`Exclusive.step`).  What a move of this task does depends on the
console, the clock and whether the session is closed, and on nothing else (`attend`).  Other tasks
leave the console alone meanwhile, and a command that one of them begins is refused
(`refused_of_requests`).
-/

namespace GuestLink

open Serial

/-- Whether a trouble is reported as the console being owned by another command. -/
def Trouble.IsBusy (t : Trouble) : Prop := ∃ r, t.failure = .report r ∧ r.kind = .consoleBusy

/-- The command of a stage. -/
def Stage.errand? : Stage → Option Errand
  | .flushing errand _ | .reply errand _ => some errand
  | _ => none

/-- How a command comes to its end. -/
inductive Finale where
  /-- Its line could not be flushed. -/
  | unsent (i : Incident)
  /-- A status line answers it. -/
  | answered (status : Option UInt8)
  /-- The session is closed. -/
  | closed
  /-- The console is at its end. -/
  | ended
  /-- Its time has run out. -/
  | late
  /-- The caller ends it. -/
  | aborted
  deriving DecidableEq, Repr

/-- What a task does once its command has succeeded, up to the next step of a bootstrap. -/
def Errand.success (id : TaskId) (e : Exchange) : Errand → List Act
  | .setup i boot =>
    .log (Log.record .info .session "Guest sshd configured over serial console") ::
      if boot then [] else [.finish id (.ok (.identity i))]
  | .scan none => [.finish id (.ok (.output e.output))]
  | .scan (some _) =>
    match HostKeys.parse e.output with
    | .error f => [.finish id (.failed (.scan f))]
    | .ok keys => [.log keys.parsedRecord]

/-- What a task does when its command comes to its end, up to the next step of a bootstrap. -/
def Finale.acts (id : TaskId) (errand : Errand) (e : Exchange) : Finale → List Act
  | .unsent i => [.finish id (.failed (.send i))]
  | .answered none => [.log (e.failedRecord "missing"), .finish id (.failed (.statusMissing e))]
  | .answered (some b) =>
    let status := String.ofList (Utf8.decodeLossy [b])
    if b = 48 then .log e.succeededRecord :: errand.success id e
    else [.log (e.failedRecord status), .finish id (.failed (.badStatus e status))]
  | .closed => [.finish id (.failed .waitCancelled)]
  | .ended => [.finish id (.failed .consoleEnded)]
  | .late => [.log (e.failedRecord "timeout"), .finish id (.failed (.timedOut e))]
  | .aborted => [.finish id .aborted]

/-- How far a command has come. -/
inductive Phase where
  /-- Its line is to be flushed. -/
  | flushing (timeout : Binary64)
  /-- It waits for its answer, and has been told so far what `notice` says. -/
  | waiting (e : Exchange) (notice : Option Notice)

/-- What a move of its task makes of a command; `lines` is what is left in the queue then. -/
inductive Attention where
  /-- It goes on. -/
  | goes (lines : List Bytes) (p : Phase) (hand : Option Bytes)
  | ends (lines : List Bytes) (e : Exchange) (x : Finale)

namespace Session

/-- A session in which the command of a task has come to its end. -/
def finale (s : Session) (id : TaskId) (errand : Errand) (e : Exchange) : Finale → Session
  | .unsent i => s.release.fail id (.send i)
  | .answered status => s.conclude id errand e (.answered status)
  | .closed => s.conclude id errand e .closed
  | .ended => s.conclude id errand e .ended
  | .late => s.conclude id errand e .late
  | .aborted => s.release.finish id .aborted

/-- The command of a task that is in progress. -/
def errand? (s : Session) (id : TaskId) : Option Errand := (s.stage? id).bind Stage.errand?

/-- Whether a command that has been told `notice` is called off. -/
def isOff (closed : Bool) : Option Notice → Bool
  | none => closed
  | some notice => notice == .calledOff

/-- What a command has been told when its task is notified. -/
def told (c : Console) (closed : Bool) (hand : Option Bytes) (notice : Option Notice) :
    Option Notice :=
  if isOff closed notice then some .calledOff
  else if hand.isSome || c.ended then some .ready
  else notice

/-- A command whose task looks at a line. -/
def look (e : Exchange) (l : Bytes) (lines : List Bytes) : Attention :=
  match status? l with
  | none => .goes lines (.waiting { e with seen := l :: e.seen } none) none
  | some status => .ends lines { e with seen := l :: e.seen } (.answered status)

/-- A command whose task is handed a line. -/
def takes (c : Console) (e : Exchange) (notice : Option Notice) (hand : Option Bytes) : Attention :=
  match c.lines, hand with
  | l :: rest, none => .goes rest (.waiting e notice) (some l)
  | lines, _ => .goes lines (.waiting e notice) hand

/-- A command whose task goes on and is not called off. -/
def goesOn (c : Console) (e : Exchange) (notice : Option Notice) (hand : Option Bytes) :
    Attention :=
  match hand, c.ended, c.lines with
  | some l, _, lines => look e l lines
  | none, true, l :: rest => look e l rest
  | none, true, [] => .ends [] e .ended
  | none, false, lines => .goes lines (.waiting e notice) none

/-- A command whose task waits for the answer and makes a move. -/
def attendWait (c : Console) (closed : Bool) (now : Instant) (e : Exchange)
    (notice : Option Notice) (hand : Option Bytes) : Move → Attention
  | .deal _ => takes c e notice hand
  | .notify _ => .goes c.lines (.waiting e (told c closed hand notice)) hand
  | .resume _ => if isOff closed notice then .ends c.lines e .closed else goesOn c e notice hand
  | .expire _ =>
    if e.deadline.due now then .ends c.lines e .late else .goes c.lines (.waiting e notice) hand
  | .abort _ => .ends c.lines e .aborted
  | _ => .goes c.lines (.waiting e notice) hand

/-- A command whose task makes a move. -/
def attend (c : Console) (closed : Bool) (now : Instant) (errand : Errand) (hand : Option Bytes) :
    Phase → Move → Attention
  | .waiting e notice, m => attendWait c closed now e notice hand m
  | .flushing timeout, .answer _ (.flushed (.ok ())) =>
    .goes c.lines (.waiting (exchange errand ⟨now, timeout⟩ []) none) none
  | .flushing timeout, .answer _ (.flushed (.error i)) =>
    .ends c.lines (exchange errand ⟨now, timeout⟩ []) (.unsent i)
  | .flushing timeout, .abort _ => .ends c.lines (exchange errand ⟨now, timeout⟩ []) .aborted
  | .flushing timeout, _ => .goes c.lines (.flushing timeout) none

/-- Whether a task owns the console, with a command that has come as far as `p`.  What it has been told
is so. -/
inductive Drives (s : Session) (id : TaskId) (errand : Errand) : Phase → Option Bytes → Prop
  | flushing {timeout : Binary64} (flushes : s.Flushes id errand timeout) :
      Drives s id errand (.flushing timeout) none
  | waiting {e : Exchange} {notice : Option Notice} {hand : Option Bytes}
      (owns : s.Owns id errand e hand)
      (task : s.task? id = some { id, stage := .reply errand e, hand, notice })
      (told : notice = some .ready → hand.isSome = true ∨ s.console.ended = true) :
      Drives s id errand (.waiting e notice) hand

/-- Whether with a move a task comes to send a command: a scan is asked for, or the key pair of a
setup or a bootstrap has come. -/
inductive Requests (s : Session) : TaskId → Move → Prop
  | scan : Requests s s.started (.start .scan)
  | setup {k : TaskId} {boot : Bool} {a : Except Incident KeyPair} {i : Identity}
      (stage : s.stage? k = some (.generating boot))
      (made : Identity.make Identity.defaultBits a = .ok i) : Requests s k (.answer k (.keyPair a))

/-- Whether from `s` to `s'` the task `k` was refused the console: it has failed, and has done
nothing but to keep records. -/
structure Refused (s s' : Session) (k : TaskId) : Prop where
  console : s'.console = s.console
  identity : s'.identity = s.identity
  client : s'.client = s.client
  except : s'.except k = s.except k
  gone : s'.task? k = none
  acts : ∃ (rs : List Log.Record) (t : Trouble), t.IsBusy ∧
    s'.history = s.history ++ rs.map .log ++ [.finish k (.failed t)]

/-- Whether the console is free after a command of the task `id`, but for the scan with which a
bootstrap goes on behind its setup. -/
def Frees (s : Session) (id : TaskId) (errand : Errand) (x : Finale) : Prop :=
  s.console.owned = false ∨ ∃ i p, errand = .setup i true ∧ x = .answered (some 48) ∧
    s.Drives id (.scan (some i)) p none

/-- Whether from `s` to `s'` the command of the task `id` comes to its end. -/
structure Completes (s s' : Session) (id : TaskId) (errand : Errand) (e : Exchange)
    (x : Finale) : Prop where
  step : ∃ lines, s' = (s.withLines lines).finale id errand e x
  acts : ∃ more, s'.history = s.history ++ x.acts id errand e ++ more ∧
    (more ≠ [] → x = .answered (some 48) ∧ (Stage.reply errand e).boots = true)
  frees : s'.Frees id errand x

/-- Whether the console belongs to the one task that has a command in progress, or to nobody if no
task has.  The session is closed when its client comes to its end. -/
structure Exclusive (s : Session) : Prop where
  numbered : s.Numbered
  closed : ∀ id c, s.stage? id = some (.retiring c) → s.closed = true
  owner : s.Unawaited ∧ s.console.owned = false ∨
    s.plugged = true ∧ ∃ id errand p hand, s.Drives id errand p hand

variable {s s' : Session} {id id' k : TaskId} {errand : Errand} {e e' : Exchange} {p : Phase}
  {hand : Option Bytes} {notice : Option Notice} {x : Finale} {m : Move}

theorem errand?_eq_some : s.errand? id = some errand ↔
    ∃ stage, s.stage? id = some stage ∧ stage.errand? = some errand := Option.bind_eq_some_iff

theorem Pursues.errand?_eq {seen : List Bytes} (h : s.Pursues id errand seen) :
    s.errand? id = some errand := by
  cases h with
  | flushing timeout stage => exact errand?_eq_some.2 ⟨_, stage, rfl⟩
  | waiting d hand task =>
    obtain ⟨notice, ht⟩ := task
    exact errand?_eq_some.2 ⟨_, stage?_eq_some.2 ⟨_, ht, rfl⟩, rfl⟩

theorem Stage.errand?_of_not_isEngaged {stage : Stage} (h : stage.isEngaged = false) :
    stage.errand? = none := by
  cases stage with
  | flushing | reply => cases h
  | _ => rfl

theorem Unawaited.errand?_eq_none (h : s.Unawaited) (id : TaskId) : s.errand? id = none := by
  rw [errand?, stage?]
  cases ht : s.task? id with
  | none => rfl
  | some t => exact Stage.errand?_of_not_isEngaged (h t (mem_of_task? ht))

namespace Drives

theorem task?_eq (h : s.Drives id errand p hand) : ∃ t, s.task? id = some t ∧
    t.stage.errand? = some errand := by
  cases h with
  | flushing flushes =>
    obtain ⟨notice, ht⟩ := flushes.task
    exact ⟨_, ht, rfl⟩
  | waiting owns task told => exact ⟨_, task, rfl⟩

theorem errand?_eq (h : s.Drives id errand p hand) : s.errand? id = some errand := by
  obtain ⟨t, ht, hs⟩ := h.task?_eq
  exact errand?_eq_some.2 ⟨_, stage?_eq_some.2 ⟨t, ht, rfl⟩, hs⟩

theorem busy (h : s.Drives id errand p hand) : s.Busy id hand := by
  cases h with
  | flushing flushes => exact .flushing flushes
  | waiting owns task told => exact .waiting owns

theorem started (h : s.Drives id errand p hand) : id < s.started := by
  cases h with
  | flushing flushes => exact flushes.started
  | waiting owns task told => exact owns.started

theorem owned (h : s.Drives id errand p hand) : s.console.owned = true := by
  cases h with
  | flushing flushes => exact flushes.owned
  | waiting owns task told => exact owns.owned

theorem others (h : s.Drives id errand p hand) :
    ∀ t ∈ s.tasks, t.id ≠ id → t.stage.isEngaged = false := by
  cases h with
  | flushing flushes => exact flushes.others
  | waiting owns task told => exact owns.others

theorem tell (h : s.Drives id errand p hand) (rs : List Log.Record) :
    (s.tell rs).Drives id errand p hand := by
  have hs := (Steady.refl s).tell rs
  cases h with
  | flushing flushes => exact .flushing (flushes.of_steady hs)
  | waiting owns task told => exact .waiting (owns.of_steady hs) task told

/-- A command that waits for its answer from now on. -/
theorem of_suspend {stage : Stage} (h : s.Holds id stage hand) (errand : Errand) (e : Exchange) :
    (s.suspend id (.reply errand e)).Drives id errand (.waiting e none) none :=
  .waiting (h.suspend _) (task?_suspend_self _) nofun

/-- No other task has a command in progress. -/
theorem eq_of_errand? (h : s.Drives id errand p hand) {errand' : Errand}
    (hs : s.errand? k = some errand') : k = id := by
  obtain ⟨stage, hstage, hs⟩ := errand?_eq_some.1 hs
  obtain ⟨t, ht, rfl⟩ := stage?_eq_some.1 hstage
  by_contra hk
  have hl := h.others t (mem_of_task? ht) (by rwa [id_of_task? ht])
  cases (Stage.errand?_of_not_isEngaged hl).symm.trans hs

end Drives

/-- A task that has begun a command has it in progress. -/
theorem Busy.exists_drives (h : s.Busy id hand) (hn : ∀ t ∈ s.task? id, t.notice = none) :
    ∃ errand p, s.Drives id errand p hand := by
  cases h with
  | flushing flushes => exact ⟨_, _, .flushing flushes⟩
  | waiting owns =>
    obtain ⟨notice, ht⟩ := owns.task
    obtain rfl : notice = none := hn _ ht
    exact ⟨_, _, .waiting owns ht nofun⟩

/-! ### The end of a command -/

theorem afterSuccess_history (s : Session) (id : TaskId) (errand : Errand) (e : Exchange) :
    ∃ more, (s.afterSuccess id errand e).history =
        s.history ++ .log e.succeededRecord :: errand.success id e ++ more ∧
      (more ≠ [] → (Stage.reply errand e).boots = true) := by
  cases errand with
  | setup i boot =>
    cases boot with
    | false => exact ⟨[], by simp [afterSuccess, Errand.success], nofun⟩
    | true =>
      let s₁ : Session := { s.tell [e.succeededRecord] with identity := some i }
      let s₂ := s₁.tell [Log.record .info .session "Guest sshd configured over serial console"]
      obtain ⟨more, hmore, -⟩ := (beginScan_apart (.refl s₂ .read id) (some i)).acts
      exact ⟨more, hmore.trans (by simp [s₂, s₁, Errand.success]), fun _ => rfl⟩
  | scan boot =>
    cases boot with
    | none => exact ⟨[], by simp [afterSuccess, Errand.success], nofun⟩
    | some i =>
      cases hk : HostKeys.parse e.output with
      | error f => exact ⟨[], by simp [afterSuccess, Errand.success, hk], nofun⟩
      | ok keys =>
        let s₁ := (s.tell [e.succeededRecord]).tell [keys.parsedRecord]
        obtain ⟨r, -, hr⟩ := beginConnect_history s₁ id i keys true
        have hs : s.afterSuccess id (.scan (some i)) e = s₁.beginConnect id i keys true := by
          simp only [afterSuccess, hk, s₁]
        refine ⟨[.newClient s₁.clients, .pin s₁.clients, .connect id s₁.clients r], ?_,
          fun _ => rfl⟩
        rw [hs, hr]
        simp [s₁, Errand.success, hk]

theorem finale_history (s : Session) (id : TaskId) (errand : Errand) (e : Exchange) (x : Finale) :
    ∃ more, (s.finale id errand e x).history = s.history ++ x.acts id errand e ++ more ∧
      (more ≠ [] → x = .answered (some 48) ∧ (Stage.reply errand e).boots = true) := by
  cases x with
  | unsent i => exact ⟨[], by simp [finale, Finale.acts], nofun⟩
  | answered status =>
    cases status with
    | none => exact ⟨[], by simp [finale, conclude, Finale.acts], nofun⟩
    | some b =>
      by_cases hb : b = 48
      · subst hb
        obtain ⟨more, hmore, hboots⟩ := afterSuccess_history s.release id errand e
        refine ⟨more, ?_, fun h => ⟨rfl, hboots h⟩⟩
        rw [finale, conclude, if_pos rfl, hmore, Finale.acts, if_pos rfl]
        rfl
      · exact ⟨[], by simp [finale, conclude, Finale.acts, hb], nofun⟩
  | closed => exact ⟨[], by simp [finale, conclude, Finale.acts], nofun⟩
  | ended => exact ⟨[], by simp [finale, conclude, Finale.acts], nofun⟩
  | late => exact ⟨[], by simp [finale, conclude, Finale.acts], nofun⟩
  | aborted => exact ⟨[], by simp [finale, Finale.acts], nofun⟩

/-- A setup that has succeeded as part of a bootstrap is followed by a scan, unless that fails. -/
theorem Owns.frees_of_setup (h : s.Owns id errand e hand) (lines : List Bytes) (i : Identity)
    (he : errand = .setup i true) :
    ((s.withLines lines).finale id errand e' (.answered (some 48))).Frees id errand
      (.answered (some 48)) := by
  subst he
  have hout : (s.withLines lines).Outset ((s.withLines lines).conclude id (.setup i true) e'
      (.answered (some 48))) id := h.outset_of_answered rfl
  obtain ⟨s₁, h₁, hs⟩ := exists_beginScan (s.withLines lines) id i e'
  have hstep : (s.withLines lines).finale id (.setup i true) e' (.answered (some 48)) =
      s₁.beginScan id (some i) := hs
  have ho : s₁.outline.owned = false := congrArg Outline.owned h₁
  rw [finale] at hstep ⊢
  cases beginCommand_begun s₁ id (.scan (some i)) (utf8 scanCommand) s₁.settings.scanTimeout with
  | unsent t gone outline =>
    rw [hstep]
    exact .inl ((congrArg Outline.owned outline).trans ho)
  | unflushed t gone outline =>
    rw [hstep]
    exact .inl ((congrArg Outline.owned outline).trans ho)
  | sent pursues outline =>
    have hp : ((s.withLines lines).conclude id (.setup i true) e' (.answered (some 48))).Pursues id
        (.scan (some i)) [] := hstep ▸ pursues
    cases hout with
    | rests _ _ idle => cases (idle.errand?_eq_none id).symm.trans hp.errand?_eq
    | fails _ _ idle => cases (idle.errand?_eq_none id).symm.trans hp.errand?_eq
    | begins _ _ busy untold =>
      obtain ⟨errand, p, hd⟩ := busy.exists_drives untold
      obtain rfl : errand = .scan (some i) := Option.some.inj (hd.errand?_eq.symm.trans hp.errand?_eq)
      exact .inr ⟨i, p, rfl, rfl, hd⟩

theorem Owns.frees (h : s.Owns id errand e hand) (lines : List Bytes) (e' : Exchange) (x : Finale) :
    ((s.withLines lines).finale id errand e' x).Frees id errand x := by
  cases x with
  | answered status =>
    rcases conclude_cases (s.withLines lines) id errand e' status with
      ⟨rfl, hs⟩ | ⟨-, rs, t, hs⟩
    · cases errand with
      | setup i boot =>
        cases boot with
        | true => exact h.frees_of_setup lines i rfl
        | false => exact .inl (congrArg (·.console.owned) hs)
      | scan boot =>
        cases boot with
        | none => exact .inl (congrArg (·.console.owned) hs)
        | some i =>
          obtain ⟨s₁, h₁, ⟨f, hs₁⟩ | ⟨keys, -, hs₁⟩⟩ :=
            exists_beginConnect (s.withLines lines) id i e'
          · exact .inl ((congrArg (·.console.owned) (hs.trans hs₁)).trans
              (congrArg Outline.owned h₁))
          · exact .inl ((congrArg (·.console.owned) (hs.trans hs₁)).trans
              (congrArg Outline.owned h₁))
    · exact .inl (congrArg (·.console.owned) hs)
  | unsent | closed | ended | late | aborted => exact .inl rfl

theorem Owns.completes (h : s.Owns id errand e hand) (lines : List Bytes) (e' : Exchange)
    (x : Finale) : s.Completes ((s.withLines lines).finale id errand e' x) id errand e' x :=
  ⟨⟨lines, rfl⟩, finale_history (s.withLines lines) id errand e' x, h.frees lines e' x⟩

/-! ### The owner -/

/-- Whether a move of its task has made of a command what `attend` says. -/
inductive Attends (s s' : Session) (id : TaskId) (errand : Errand) : Attention → Prop
  | goes {lines : List Bytes} {p : Phase} {hand : Option Bytes}
      (drives : s'.Drives id errand p hand) (console : s'.console = { s.console with lines })
      (closed : s'.closed = s.closed) (sends : s'.sends = s.sends) :
      Attends s s' id errand (.goes lines p hand)
  | ends {lines : List Bytes} {e : Exchange} {x : Finale}
      (completes : s.Completes s' id errand e x) : Attends s s' id errand (.ends lines e x)

theorem Drives.attends_tell (h : s.Drives id errand p hand) (rs : List Log.Record) :
    s.Attends (s.tell rs) id errand (.goes s.console.lines p hand) :=
  .goes (h.tell rs) rfl rfl (sends_tell s rs)

theorem Drives.attends_self (h : s.Drives id errand p hand) :
    s.Attends s id errand (.goes s.console.lines p hand) := .goes h rfl rfl rfl

section

variable (h : s.Owns id errand e hand)
include h

theorem Owns.attends_look (l : Bytes) (lines : List Bytes) :
    s.Attends ((s.withLines lines).acceptLine id errand e l) id errand (look e l lines) := by
  have howns : (s.withLines lines).Owns id errand e hand := h.of_tasks_eq rfl le_rfl rfl
  unfold look
  split
  · rename_i hl
    rw [acceptLine_of_none hl]
    exact .goes (.of_suspend howns errand _) rfl rfl rfl
  · rename_i status hl
    rw [acceptLine_of_some hl]
    exact .ends (h.completes lines _ (.answered status))

variable (ht : s.task? id = some { id, stage := .reply errand e, hand, notice })
  (htold : notice = some .ready → hand.isSome = true ∨ s.console.ended = true)
include ht htold

theorem Owns.attends_resume : s.Attends (s.step (.resume id)) id errand
    (attendWait s.console s.closed s.now e notice hand (.resume id)) := by
  have hs : s.step (.resume id) = s.resumeWait { id, stage := .reply errand e, hand, notice } :=
    withTask_of_some ht s.resume
  have hoff : s.isCalledOff { id, stage := .reply errand e, hand, notice } =
      isOff s.closed notice := by cases notice <;> rfl
  have hself : s.Drives id errand (.waiting e notice) hand := .waiting h ht htold
  rw [hs, resumeWait, attendWait.eq_def, hoff]
  dsimp only
  split_ifs
  · exact .ends (h.completes s.console.lines e .closed)
  · split
    · exact h.attends_look _ _
    · rename_i l rest he hl
      have hg : goesOn s.console e notice none = look e l rest := by simp only [goesOn, he, hl]
      rw [hg]
      exact h.attends_look l rest
    · rename_i he hl
      have hg : goesOn s.console e notice none = .ends s.console.lines e .ended := by
        simp only [goesOn, he, hl]
      rw [hg]
      exact .ends (h.completes s.console.lines e .ended)
    · rename_i he
      have hg : goesOn s.console e notice none =
          .goes s.console.lines (.waiting e notice) none := by simp only [goesOn, he]
      rw [hg]
      exact hself.attends_self

theorem Owns.attends_deal : s.Attends (s.step (.deal id)) id errand
    (takes s.console e notice hand) := by
  have hself : s.Drives id errand (.waiting e notice) hand := .waiting h ht htold
  have hs : s.step (.deal id) = s.deal { id, stage := .reply errand e, hand, notice } :=
    withTask_of_some ht s.deal
  cases hl : s.console.lines with
  | nil =>
    have hd : s.step (.deal id) = s := by rw [hs, deal, hl]
    have hg : takes s.console e notice hand = .goes s.console.lines (.waiting e notice) hand := by
      simp [takes, hl]
    rw [hd, hg]
    exact hself.attends_self
  | cons l rest =>
    cases hand with
    | some l' =>
      have hd : s.step (.deal id) = s := by rw [hs, deal, hl]; rfl
      have hg : takes s.console e notice (some l') =
          .goes s.console.lines (.waiting e notice) (some l') := by simp [takes, hl]
      rw [hd, hg]
      exact hself.attends_self
    | none =>
      have hands : s.HandsOver (s.step (.deal id)) id l rest := ⟨hl, by rw [hs, deal, hl]; rfl⟩
      have hg : takes s.console e notice none = .goes rest (.waiting e notice) (some l) := by
        simp only [takes, hl]
      have howns := h.take hands
      obtain ⟨-, hd⟩ := hands
      rw [hg]
      refine .goes (.waiting howns ?_ fun _ => .inl rfl) (by rw [hd]) (by rw [hd]) (by rw [hd]; rfl)
      rw [hd]
      exact task?_handOver ht l

theorem Owns.attends_notify : s.Attends (s.step (.notify id)) id errand
    (.goes s.console.lines (.waiting e (told s.console s.closed hand notice)) hand) := by
  let t : Task := { id, stage := .reply errand e, hand, notice }
  have hoff : s.isCalledOff t = isOff s.closed notice := by cases notice <;> rfl
  have hcan : s.canResume t = (isOff s.closed notice || (hand.isSome || s.console.ended)) :=
    congrArg (· || (hand.isSome || s.console.ended)) hoff
  have hs : s.step (.notify id) = s.notify t := withTask_of_some ht s.notify
  rw [hs, notify, hcan, told]
  cases hc : isOff s.closed notice with
  | true =>
    have hn : s.notice t = .calledOff := if_pos (hoff.trans hc)
    rw [hn]
    exact .goes (.waiting (h.inform .calledOff) (task?_inform ht .calledOff) (by simp)) rfl rfl rfl
  | false =>
    have hn : s.notice t = .ready := if_neg (by simp [hoff, hc])
    rw [hn, Bool.false_or, if_neg Bool.false_ne_true]
    split_ifs with hready
    · have hready := Bool.or_eq_true_iff.1 hready
      exact .goes (.waiting (h.inform .ready) (task?_inform ht .ready) fun _ => hready) rfl rfl rfl
    · exact Drives.attends_self (.waiting h ht htold)

theorem Owns.attends_expire : s.Attends (s.step (.expire id)) id errand
    (attendWait s.console s.closed s.now e notice hand (.expire id)) := by
  have hs : s.step (.expire id) = s.expire { id, stage := .reply errand e, hand, notice } :=
    withTask_of_some ht s.expire
  have hd : s.canExpire { id, stage := .reply errand e, hand, notice } = e.deadline.due s.now := rfl
  rw [hs, expire, attendWait.eq_def, hd]
  dsimp only
  split_ifs
  · exact .ends (h.completes s.console.lines e .late)
  · exact Drives.attends_self (.waiting h ht htold)

theorem Owns.attends (ha : s.actor? m = some id) : s.Attends (s.step m) id errand
    (attendWait s.console s.closed s.now e notice hand m) := by
  cases m with
  | deal =>
    cases ha
    exact h.attends_deal ht htold
  | notify =>
    cases ha
    exact h.attends_notify ht htold
  | resume =>
    cases ha
    exact h.attends_resume ht htold
  | expire =>
    cases ha
    exact h.attends_expire ht htold
  | abort =>
    cases ha
    rw [abort_of_reply ht]
    exact .ends (h.completes s.console.lines e .aborted)
  | answer _ reply =>
    cases ha
    obtain ⟨rs, hs⟩ := answer_of_reply ht reply
    rw [hs]
    exact Drives.attends_tell (.waiting h ht htold) rs
  | start j => exact absurd (Option.some.inj ha) h.started.ne'
  | _ => cases ha

end

/-- A command whose line is to be flushed goes on as long as it is neither flushed nor ended. -/
theorem attend_flushing {c : Console} {closed : Bool} {now : Instant} {timeout : Binary64}
    (ha : s.actor? m = some id) (hf : ∀ a, m ≠ .answer id (.flushed a)) (hb : m ≠ .abort id) :
    attend c closed now errand none (.flushing timeout) m =
      .goes c.lines (.flushing timeout) none := by
  cases m with
  | answer _ reply =>
    cases ha
    cases reply with
    | flushed a => exact absurd rfl (hf a)
    | _ => rfl
  | abort =>
    cases ha
    exact absurd rfl hb
  | _ => rfl

theorem Flushes.attends {timeout : Binary64} (h : s.Flushes id errand timeout)
    (ha : s.actor? m = some id) : s.Attends (s.step m) id errand
      (attend s.console s.closed s.now errand none (.flushing timeout) m) := by
  obtain ⟨notice, ht⟩ := h.task
  have completes {x : Finale} {o : Outcome} (e : Exchange)
      (hx : (s.withLines s.console.lines).finale id errand e x = s.release.finish id o)
      (hacts : x.acts id errand e = [.finish id o]) :
      s.Completes (s.release.finish id o) id errand e x :=
    ⟨⟨s.console.lines, hx.symm⟩, ⟨[], by rw [hacts, List.append_nil]; rfl, nofun⟩, .inl rfl⟩
  cases flushMove ht rfl h.started ha with
  | rests unflushed kept rs tells =>
    rw [tells, attend_flushing ha unflushed kept]
    exact Drives.attends_tell (.flushing h) rs
  | flushed hm awaits =>
    rw [awaits, hm]
    exact .goes (.of_suspend h errand _) rfl rfl rfl
  | fails i hm finishes =>
    rw [finishes, hm]
    exact .ends (completes _ rfl rfl)
  | aborts hm finishes =>
    rw [finishes, hm]
    exact .ends (completes _ rfl rfl)

/-- What a move does of the task that owns the console. -/
theorem Drives.attends (h : s.Drives id errand p hand) (ha : s.actor? m = some id) :
    s.Attends (s.step m) id errand (attend s.console s.closed s.now errand hand p m) := by
  cases h with
  | flushing flushes => exact flushes.attends ha
  | waiting owns task told => exact owns.attends task told ha

/-- The owner keeps the console while others move. -/
theorem Drives.step_other (h : s.Drives id errand p hand) (hm : m.isManual = false)
    (ha : s.actor? m ≠ some id) : (s.step m).Drives id errand p hand ∧
      (s.step m).sends = s.sends ∧
      (m ≠ .read → (s.step m).console.lines = s.console.lines) := by
  cases h with
  | flushing flushes =>
    obtain ⟨hsends, hflushes, hlines⟩ := flushes.step_other hm ha
    exact ⟨.flushing hflushes, hsends, fun hr => (hlines hr).1⟩
  | waiting owns task told =>
    obtain ⟨hsends, howns, hlines⟩ := owns.step_other hm ha
    have htask := (task?_step_of_ne ha).trans task
    refine ⟨.waiting howns htask fun hn => ?_, hsends, fun hr => (hlines hr).1⟩
    exact (told hn).imp_right fun he => ended_step he m

/-- When the owner gives up the console, no task is engaged with it. -/
theorem Drives.unawaited_of_unowned (h : s.Drives id errand p hand) (hm : m.isManual = false)
    (ho : (s.step m).console.owned = false) : (s.step m).Unawaited := by
  have owned {stage : Stage} {hand : Option Bytes} (hw : (s.step m).Holds id stage hand) :
      (s.step m).Unawaited := by
    cases ho.symm.trans hw.owned
  cases h with
  | flushing flushes =>
    cases flushes.course hm with
    | stays _ _ _ _ hw => exact owned hw
    | reads _ _ hw => exact owned hw
    | flushed _ _ hw => exact owned hw
    | gives _ _ _ _ _ idle => exact idle
  | waiting owns task told =>
    cases owns.course hm with
    | stays _ _ _ _ hw => exact owned hw
    | reads _ _ hw => exact owned hw
    | takes _ _ _ _ _ _ _ hw => exact owned hw
    | looks _ _ _ _ _ _ _ _ hw => exact owned hw
    | gives _ _ _ _ _ idle => exact idle
    | answered l rest status _ _ _ _ hs =>
      cases owns.outset_of_answered hs with
      | rests _ _ idle => exact idle
      | fails _ _ idle => exact idle
      | begins _ _ busy untold =>
        obtain ⟨_, _, hd⟩ := busy.exists_drives untold
        cases ho.symm.trans hd.owned

/-! ### What a move leaves alone -/

/-- What a move leaves as it is: whether there is a console, the time and whether the session is
closed, apart from the moves that are there to change these, and a console that nobody owns, unless
a command is sent. -/
structure Preserves (s s' : Session) (m : Move) : Prop where
  plugged : s'.plugged = s.plugged
  now : (∀ nanos, m ≠ .pass nanos) → s'.now = s.now
  closed : m ≠ .start .close → s'.closed = s.closed
  owned : m.isManual = false → s'.console.owned = true →
    s.console.owned = true ∨ s.plugged = true ∧ ∃ t ∈ s'.tasks, t.stage.isCommand = true

theorem Apart.preserves {m' : Move} (h : s.Apart s' m' id) (m : Move) : s.Preserves s' m :=
  ⟨h.plugged, fun _ => h.now, fun _ => h.closed, fun _ ho =>
    (h.owned ho).imp_right fun ⟨hp, t, ht, hr⟩ => ⟨hp, t, mem_of_task? ht, hr⟩⟩

theorem Preserves.of_eq (hp : s'.plugged = s.plugged) (hn : s'.now = s.now)
    (hc : s'.closed = s.closed) (ho : s'.console = s.console) : s.Preserves s' m :=
  ⟨hp, fun _ => hn, fun _ => hc, fun _ h => .inl (ho ▸ h)⟩

theorem step_preserves (s : Session) (m : Move) : s.Preserves (s.step m) m := by
  have shut (s₁ : Session) {k : TaskId} (hp : s₁.plugged = s.plugged) (hn : s₁.now = s.now)
      (hc : m ≠ .start .close → s₁.closed = s.closed) (ho : s₁.console = s.console)
      (hs : s.step m = s₁.closeConsole k) : s.Preserves (s.step m) m := by
    have h := closeConsole_apart (.refl s₁ m k)
    rw [hs]
    refine ⟨h.plugged.trans hp, fun _ => h.now.trans hn, fun hm => h.closed.trans (hc hm),
      fun _ howned => ?_⟩
    rw [← ho, ← hp]
    exact (h.preserves m).owned ‹_› howned
  cases step_dealing s m with
  | idle h => exact ⟨h.plugged, h.now, fun _ => h.closed, fun hm ho => .inl (h.owned hm ▸ ho)⟩
  | apart id _ _ h => exact h.preserves m
  | refused t c r boot f _ _ _ step => rw [step]; exact .of_eq rfl rfl rfl rfl
  | late t c r _ _ _ _ step => rw [step]; exact .of_eq rfl rfl rfl rfl
  | gained t c r _ _ _ _ step => rw [step]; exact .of_eq rfl rfl rfl rfl
  | handed t c r _ _ _ step => rw [step]; exact .of_eq rfl rfl rfl rfl
  | dropped t c r boot _ _ _ step => rw [step]; exact .of_eq rfl rfl rfl rfl
  | failed t c o _ _ _ _ step => rw [step]; exact .of_eq rfl rfl rfl rfl
  | retired t c _ _ _ step =>
    exact shut { s with client := none } rfl rfl (fun _ => rfl) rfl step
  | retires c _ hm step =>
    rw [step]
    exact ⟨rfl, fun _ => rfl, fun h => absurd hm h, fun _ => .inl⟩
  | closes _ hm step =>
    exact shut { s with started := s.started + 1, closed := true } rfl rfl
      (fun h => absurd hm h) rfl step

/-- A task waits for the end of the session's client only if the session is closed. -/
theorem closed_of_retiring {c : ClientId}
    (h : ∀ id c, s.stage? id = some (.retiring c) → s.closed = true)
    (hs : (s.step m).stage? id = some (.retiring c)) : (s.step m).closed = true := by
  cases hc : s.closed with
  | true => exact closed_step hc m
  | false =>
    have idle (hid : s.stage? id = some (.retiring c)) : (s.step m).closed = true :=
      absurd (h id c hid) (by simp [hc])
    have finished {s₁ : Session} {k : TaskId} {o : Outcome} (hstep : s.step m = s₁.finish k o)
        (hk : s₁.tasks = s.tasks) : (s.step m).closed = true := by
      refine idle ?_
      rw [hstep, stage?_finish] at hs
      split_ifs at hs
      rwa [stage?, task?_of_tasks_eq hk] at hs
    cases step_dealing s m with
    | idle hi => exact idle (by rwa [stage?, task?_of_tasks_eq hi.tasks] at hs)
    | apart k _ _ ha =>
      by_cases hk : id = k
      · obtain ⟨t, ht, hstage⟩ := stage?_eq_some.1 hs
        rcases ha.stage t (hk ▸ ht) with hn | ⟨r, boot, hn, -⟩
        · rw [hstage] at hn
          cases hn
        · cases hstage.symm.trans hn
      · exact idle (by rwa [stage?, task?_eq_of_except ha.except hk] at hs)
    | refused t c r boot f _ _ _ step => exact finished step rfl
    | late t c r closed => cases hc.symm.trans closed
    | gained t c r _ _ _ _ step => exact finished step rfl
    | handed t c r _ _ _ step => exact finished step rfl
    | dropped t c r boot _ _ _ step => exact finished step rfl
    | failed t c o _ _ _ _ step => exact finished step rfl
    | retired t c task stage =>
      cases hc.symm.trans (h t.id c (stage?_eq_some.2 ⟨t, task, stage⟩))
    | retires c _ _ step => rw [step]; rfl
    | closes _ _ step =>
      rw [step]
      exact (closeConsole_apart (.refl _ m _)).closed

/-! ### Exclusion -/

namespace Exclusive

theorem of_tasks_eq_nil (ht : s.tasks = []) (ho : s.console.owned = false) : s.Exclusive := by
  have hnone (t : Task) : t ∉ s.tasks := by
    rw [ht]
    exact List.not_mem_nil
  refine ⟨fun t h => absurd h (hnone t), fun id c h => ?_, .inl ⟨fun t h => absurd h (hnone t), ho⟩⟩
  obtain ⟨t, h, -⟩ := stage?_eq_some.1 h
  exact absurd (mem_of_task? h) (hnone t)

/-- A console that nobody owned is free if no task waits for an answer then. -/
theorem unowned_step (ho : s.console.owned = false) (hm : m.isManual = false)
    (hu : (s.step m).Unawaited) : (s.step m).console.owned = false := by
  by_contra howned
  rcases (step_preserves s m).owned hm (by simpa using howned) with h | ⟨-, t, ht, hr⟩
  · cases ho.symm.trans h
  · cases hr.symm.trans (Bool.or_eq_false_iff.1 (hu t ht)).1

theorem step (h : s.Exclusive) (hm : m.isManual = false) : (s.step m).Exclusive := by
  refine ⟨h.numbered.step m, fun id c => closed_of_retiring h.closed, ?_⟩
  have keeps := step_preserves s m
  rcases h.owner with ⟨hu, ho⟩ | ⟨hp, id, errand, p, hand, hw⟩
  · have idle (hu' : (s.step m).Unawaited) : (s.step m).Unawaited ∧
      (s.step m).console.owned = false := ⟨hu', unowned_step ho hm hu'⟩
    by_cases hr : m = .read
    · subst hr
      exact .inl (idle hu.read)
    rcases hu.course h.numbered hm hr with ⟨id, -, hout⟩ | ⟨-, -, hu'⟩
    · cases hout with
      | rests _ _ hu' => exact .inl (idle hu')
      | fails _ _ hu' => exact .inl (idle hu')
      | begins _ _ busy untold =>
        obtain ⟨errand, p, hd⟩ := busy.exists_drives untold
        rcases keeps.owned hm hd.owned with h | ⟨hp, -⟩
        · cases ho.symm.trans h
        · exact .inr ⟨keeps.plugged.trans hp, id, errand, p, none, hd⟩
    · exact .inl (idle hu')
  · have owned {errand p hand} (hw' : (s.step m).Drives id errand p hand) :
        (s.step m).plugged = true ∧ ∃ id errand p hand, (s.step m).Drives id errand p hand :=
      ⟨keeps.plugged.trans hp, id, errand, p, hand, hw'⟩
    by_cases ha : s.actor? m = some id
    · have hatt := hw.attends ha
      generalize attend s.console s.closed s.now errand hand p m = a at hatt
      cases hatt with
      | goes drives => exact .inr (owned drives)
      | ends hc =>
        rcases hc.frees with ho | ⟨i, p', -, -, drives⟩
        exacts [.inl ⟨hw.unawaited_of_unowned hm ho, ho⟩, .inr (owned drives)]
    · exact .inr (owned (hw.step_other hm ha).1)

theorem run {moves : List Move} (h : s.Exclusive) (hm : ∀ m ∈ moves, m.isManual = false) :
    (s.run moves).Exclusive := by
  induction moves generalizing s with
  | nil => exact h
  | cons m moves ih =>
    exact ih (h.step (hm m List.mem_cons_self)) fun m' hm' => hm m' (List.mem_cons_of_mem _ hm')

theorem drives (h : s.Exclusive) (hs : s.errand? id = some errand) :
    s.plugged = true ∧ ∃ p hand, s.Drives id errand p hand := by
  rcases h.owner with ⟨hu, -⟩ | ⟨hp, id', errand', p, hand, hw⟩
  · cases (hu.errand?_eq_none id).symm.trans hs
  · obtain rfl := hw.eq_of_errand? hs
    obtain rfl := Option.some.inj (hw.errand?_eq.symm.trans hs)
    exact ⟨hp, p, hand, hw⟩

/-- The console is owned exactly as long as a command is in progress. -/
theorem owned_iff (h : s.Exclusive) :
    s.console.owned = true ↔ ∃ id errand, s.errand? id = some errand := by
  constructor
  · intro ho
    rcases h.owner with ⟨-, hn⟩ | ⟨-, id, errand, p, hand, hw⟩
    · cases hn.symm.trans ho
    · exact ⟨id, errand, hw.errand?_eq⟩
  · rintro ⟨id, errand, hs⟩
    obtain ⟨-, p, hand, hw⟩ := h.drives hs
    exact hw.owned

end Exclusive

/-! ### Beside the owner -/

/-- There is a setup command for each identity that was made. -/
theorem exists_setupCommand {bits : Int} {a : Except Incident KeyPair} {i : Identity}
    (h : Identity.make bits a = .ok i) : ∃ line, setupCommand i.authorizedKey = .ok line := by
  unfold Identity.make at h
  split at h
  · cases h
  · split at h <;> cases h
    exact ⟨_, setupCommand_eq_ok_iff.2 ⟨_, authorizedLine_eq _ _, rfl⟩⟩

section

variable (hp : s.plugged = true) (ho : s.console.owned = true)
include hp ho

theorem beginCommand_of_owned (id : TaskId) (errand : Errand) (line : Bytes) (timeout : Binary64) :
    s.beginCommand id errand line timeout = s.fail id .consoleBusy := by
  rw [beginCommand, if_neg (by simp [hp]), if_pos ho]

/-- While a command owns the console, another one is refused, and nothing else comes of it. -/
theorem refused_of_requests (h : s.Requests k m) : s.Refused (s.step m) k := by
  have busy : Trouble.consoleBusy.IsBusy := ⟨_, rfl, rfl⟩
  cases h with
  | scan =>
    have hs : s.step (.start .scan) =
        { s with started := s.started + 1 }.fail s.started .consoleBusy :=
      beginCommand_of_owned (s := { s with started := s.started + 1 }) hp ho _ _ _ _
    rw [hs]
    exact ⟨rfl, rfl, rfl, except_finish { s with started := s.started + 1 } _ _,
      task?_finish_self _, [], _, busy, by simp⟩
  | @setup k boot a i stage made =>
    obtain ⟨t, ht, hstage⟩ := stage?_eq_some.1 stage
    obtain ⟨line, hline⟩ := exists_setupCommand made
    obtain ⟨rs, -, he⟩ := exists_answer_tell s k (.keyPair a)
    have hs : s.step (.answer k (.keyPair a)) = (s.tell rs).fail k .consoleBusy := by
      refine (he.trans (withTask_of_some (s := s.tell rs) ht _)).trans ?_
      simp only [hstage, goOn, made, beginSetup, hline]
      exact beginCommand_of_owned (s := s.tell rs) hp ho _ _ _ _
    rw [hs]
    exact ⟨rfl, rfl, rfl, except_finish (s.tell rs) k _, task?_finish_self _, rs, _, busy, rfl⟩

end

end Session

end GuestLink
