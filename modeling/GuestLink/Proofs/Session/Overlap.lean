import GuestLink.Proofs.Session.Exclusion

/-!
# Commands that overlap

A command that is begun while another one is in progress is refused and does nothing else, and the
one in progress does not notice.  Of two runs in which the same moves concern it, in the same order,
it waits in both or comes to the same end in both, whatever other tasks do in between
(`overlap_has_no_effect`).
-/

namespace GuestLink

open Serial

/-- Whether a move may make a difference to the command of the task `id`: it is one of this task, or
the outside, the reader or the closing of the session or the console has to do with the console. -/
def Move.concerns (id : TaskId) : Move → Bool
  | .deal id' | .notify id' | .resume id' | .expire id' | .answer id' _ | .abort id' => id' == id
  | .receive _ | .closeInput | .breakInput _ | .rig _ | .pass _ | .read | .startReader => true
  | .start .close | .start .closeConsole => true
  | _ => false

/-- Whether a move lets the reader run. -/
def Move.isRead : Move → Bool
  | .read => true
  | _ => false

/-- A console whose reader and writer were closed, unless the reader was ended by an incident. -/
def Console.shut (c : Console) : Console :=
  match c.stopReader with
  | .error _ => c
  | .ok (c', _) =>
    if c'.writer.closing then c' else { c' with writer := { c'.writer with closing := true } }

/-- Whether a command has been told that its wait is over, and not because it is called off. -/
def Phase.IsTold : Phase → Prop
  | .flushing _ => False
  | .waiting _ notice => notice = some .ready

/-- Whether two moves of its task have made the same of a command, but for the lines that are left to
it, which matter only if it has been told of them. -/
inductive Attention.Matches : Attention → Attention → Prop
  | goes {lines₁ lines₂ : List Bytes} {p : Phase} {hand₁ hand₂ : Option Bytes}
      (told : p.IsTold → hand₁ = hand₂ ∧ (hand₁ = none → lines₁ = lines₂)) :
      Matches (.goes lines₁ p hand₁) (.goes lines₂ p hand₂)
  | ends {lines₁ lines₂ : List Bytes} {e : Exchange} {x : Finale} :
      Matches (.ends lines₁ e x) (.ends lines₂ e x)

theorem Attention.Matches.refl (a : Attention) : a.Matches a := by
  cases a with
  | goes lines p hand => exact .goes fun _ => ⟨rfl, fun _ => rfl⟩
  | ends lines e x => exact .ends

namespace Session

/-- Whether in two sessions a command has come equally far, with the same to come as long as the
sessions are open or if it has been told of it; `n` is how often something was sent in either of
them. -/
structure Abreast (s₁ s₂ : Session) (id : TaskId) (errand : Errand) (n : Nat) (p : Phase)
    (hand₁ hand₂ : Option Bytes) : Prop where
  drives₁ : s₁.Drives id errand p hand₁
  drives₂ : s₂.Drives id errand p hand₂
  exclusive₁ : s₁.Exclusive
  exclusive₂ : s₂.Exclusive
  sends₁ : s₁.sends = n
  sends₂ : s₂.sends = n
  now : s₁.now = s₂.now
  closed : s₁.closed = s₂.closed
  same : s₁.closed = false → s₁.console = s₂.console ∧ hand₁ = hand₂
  told : p.IsTold → hand₁ = hand₂ ∧ (hand₁ = none → s₁.console.lines = s₂.console.lines)

/-- What a reader queues that goes on behind the end of the stream in a closed session, as one may that
was started again there. -/
def belated (s : Session) : Option (List Bytes) :=
  if s.closed && s.console.ended && decide (s.console.reader = .ready) then
    some (Framing.linesOf s.console.intake.events)
  else none

/-- What the guest still prints in a run once it should be over: whenever the reader may run, what is
`belated`. -/
def belatedOutput (s : Session) : List Move → List (Option (List Bytes))
  | [] => []
  | m :: moves =>
    let rest := (s.step m).belatedOutput moves
    if m.isRead then s.belated :: rest else rest

/-- What becomes of a command in two runs. -/
inductive Agrees (s₁ s₂ : Session) (id : TaskId) (errand : Errand) (n : Nat)
    (moves₁ moves₂ : List Move) : Prop
  /-- It is still in progress in both. -/
  | waits (p : Phase) (hand₁ hand₂ : Option Bytes)
      (abreast : (s₁.run moves₁).Abreast (s₂.run moves₂) id errand n p hand₁ hand₂)
  /-- It has been in progress in both, until it came to the same end with the same move. -/
  | ends (before₁ before₂ : List Move) (m : Move) (after₁ after₂ : List Move)
      (split₁ : moves₁ = before₁ ++ m :: after₁) (split₂ : moves₂ = before₂ ++ m :: after₂)
      (concern : before₁.filter (Move.concerns id) = before₂.filter (Move.concerns id))
      (p : Phase) (hand₁ hand₂ : Option Bytes)
      (abreast : (s₁.run before₁).Abreast (s₂.run before₂) id errand n p hand₁ hand₂)
      (e : Exchange) (x : Finale)
      (completes₁ : (s₁.run before₁).Completes ((s₁.run before₁).step m) id errand e x)
      (completes₂ : (s₂.run before₂).Completes ((s₂.run before₂).step m) id errand e x)

variable {s s₁ s₂ : Session} {id : TaskId} {errand : Errand} {n : Nat} {e : Exchange} {p : Phase}
  {hand hand₁ hand₂ : Option Bytes} {notice : Option Notice} {m : Move}
  {moves moves₁ moves₂ : List Move}

/-! ### Moves that do not concern the command -/

section

variable (hp : s.plugged = true) (ho : s.console.owned = true)
include hp ho

theorem beginScan_console (id : TaskId) (boot : Option Identity) :
    (s.beginScan id boot).console = s.console := by
  rw [beginScan, beginCommand_of_owned hp ho]
  rfl

theorem beginSetup_console (id : TaskId) (i : Identity) (boot : Bool) :
    (s.beginSetup id i boot).console = s.console := by
  unfold beginSetup
  split
  · rfl
  · rw [beginCommand_of_owned hp ho]
    rfl

theorem goOn_console {stage : Stage} (hl : stage.isEngaged = false)
    (hs : ∀ c, stage ≠ .retiring c) (id : TaskId) (reply : Reply) :
    (s.goOn id stage reply).console = s.console := by
  unfold goOn
  split
  · rfl
  · rfl
  · cases hl
  · cases hl
  · split
    · rfl
    · exact beginSetup_console hp ho _ _ _
  · unfold afterConnect
    split
    · rfl
    · dsimp only
      split_ifs <;> rfl
  · rfl
  · exact absurd rfl (hs _)
  · rfl
  · rfl
  · rfl
  · rfl
  · rfl
  · unfold endRun
    split_ifs <;> rfl
  · rfl
  · rfl
  · rfl
  · rfl

theorem beginJob_console {j : Job} (hj : (Move.start j).isManual = false)
    (hn : (Move.start j).concerns id = false) (id' : TaskId) :
    (s.beginJob id' j).console = s.console := by
  have run (s' : Session) (c : ClientId) (command : String) (signal : Option Signal) :
      (s'.beginRun id' c command signal).console = s'.console := by
    unfold beginRun
    split_ifs <;> rfl
  unfold beginJob
  split
  · cases hj
  · cases hj
  · cases hj
  · cases hn
  · split
    · rfl
    · dsimp only
      split_ifs <;> rfl
  · exact run _ _ _ _
  · rfl
  · rfl
  · exact beginScan_console hp ho _ _
  · rfl
  · split_ifs
    · rfl
    · split
      · rfl
      · exact run _ _ _ _
  · cases hn

end

theorem resume_console {t : Task} (hl : t.stage.isEngaged = false) :
    (s.resume t).console = s.console := by
  unfold resume
  rw [Stage.lineSignal?_of_not_isEngaged hl]
  split
  · cases ‹none = some _›
  · split_ifs <;> rfl
  · rfl

theorem notify_console (s : Session) (t : Task) : (s.notify t).console = s.console := by
  unfold notify
  split <;> rfl

theorem expire_console {t : Task} (hl : t.stage.isEngaged = false) :
    (s.expire t).console = s.console := by
  unfold expire
  split_ifs
  · split
    · rename_i hs
      rw [hs] at hl
      cases hl
    all_goals rfl
  · rfl

theorem abort_console {t : Task} (hl : t.stage.isEngaged = false) :
    (s.abort t).console = s.console := by
  unfold abort
  dsimp only
  split
  · rename_i hs
    rw [hs] at hl
    cases hl
  · rename_i hs
    rw [hs] at hl
    cases hl
  all_goals rfl

theorem deal_console {t : Task} (hl : t.stage.isEngaged = false) :
    (s.deal t).console = s.console := congrArg Session.console
  (deal_eq_self (Stage.lineSignal?_of_not_isEngaged hl))

/-- A move that does not concern the command leaves the console to it. -/
theorem Drives.step_console (h : s.Drives id errand p hand) (hp : s.plugged = true)
    (hs : ∀ k c, s.stage? k ≠ some (.retiring c)) (hm : m.isManual = false)
    (hn : m.concerns id = false) : (s.step m).console = s.console := by
  have task {k : TaskId} {f : Task → Session} (hk : (k == id) = false)
      (hf : ∀ {t : Task}, t.stage.isEngaged = false → (f t).console = s.console) :
      (s.withTask k f).console = s.console :=
    withTask_cases (p := fun s' => s'.console = s.console) rfl fun t ht => hf <|
      h.others t (mem_of_task? ht) (id_of_task? ht ▸ beq_eq_false_iff_ne.1 hk)
  cases m with
  | deal k => exact task hn deal_console
  | notify k => exact task hn fun _ => notify_console s _
  | resume k => exact task hn resume_console
  | expire k => exact task hn expire_console
  | abort k => exact task hn abort_console
  | answer k reply =>
    obtain ⟨rs, -, he⟩ := exists_answer_tell s k reply
    rw [Session.step, he]
    refine withTask_cases (p := fun s' => s'.console = s.console) rfl fun t ht => ?_
    have hstage (c : ClientId) : t.stage ≠ .retiring c := fun hc =>
      hs k c (stage?_eq_some.2 ⟨t, ht, hc⟩)
    have hl := h.others t (mem_of_task? ht) (id_of_task? ht ▸ beq_eq_false_iff_ne.1 hn)
    exact goOn_console (s := s.tell rs) hp h.owned hl hstage k reply
  | start j => exact beginJob_console (s := { s with started := s.started + 1 }) hp h.owned hm hn _
  | judge r type key =>
    rw [Session.step, judge]
    split <;> rfl
  | disconnect | raise | lower => rfl
  | receive | closeInput | breakInput | rig | pass | read | startReader => cases hn
  | reset | acquire | release => cases hm

/-! ### Moves that concern the command -/

theorem closeConsole_console (hp : s.plugged = true) (id : TaskId) :
    (s.closeConsole id).console = s.console.shut := by
  unfold closeConsole Console.shut
  rw [if_neg (by simp [hp])]
  cases s.console.stopReader with
  | error i => rfl
  | ok r =>
    obtain ⟨c, rs⟩ := r
    dsimp only
    split_ifs
    · rfl
    · split
      · rfl
      · split_ifs <;> rfl
      · rfl

/-- What the outside, the reader and the closing of the console do to it. -/
theorem step_console_congr (hc : s₁.console = s₂.console) (hp₁ : s₁.plugged = true)
    (hp₂ : s₂.plugged = true) (hn : m.concerns id = true) (ha : s₁.actor? m ≠ some id)
    (hm : m ≠ .start .close) : (s₁.step m).console = (s₂.step m).console := by
  cases m with
  | receive data => exact congrArg (·.receive data) hc
  | closeInput => exact congrArg Console.closeInput hc
  | breakInput i => exact congrArg (·.breakInput i) hc
  | rig w => exact congrArg ({ · with writer := w }) hc
  | pass => exact hc
  | read => exact congrArg (·.read.1) hc
  | startReader => exact congrArg Console.startReader hc
  | start j =>
    cases j with
    | closeConsole =>
      have shut {s : Session} (hp : s.plugged = true) :
          (s.step (.start .closeConsole)).console = s.console.shut :=
        closeConsole_console (s := { s with started := s.started + 1 }) hp _
      rw [shut hp₁, shut hp₂, hc]
    | close => exact absurd rfl hm
    | _ => cases hn
  | deal | notify | resume | expire | answer | abort =>
    exact absurd (congrArg some (beq_iff_eq.1 hn)) ha
  | _ => cases hn

/-! ### Moves of its task in a closed session -/

theorem look_matches (e : Exchange) (l : Bytes) (lines₁ lines₂ : List Bytes) :
    (look e l lines₁).Matches (look e l lines₂) := by
  unfold look
  split
  · exact .goes nofun
  · exact .ends

theorem exists_takes (c : Console) (e : Exchange) (notice : Option Notice) (hand : Option Bytes) :
    ∃ lines hand', takes c e notice hand = .goes lines (.waiting e notice) hand' := by
  unfold takes
  split <;> exact ⟨_, _, rfl⟩

theorem takes_of_some (c : Console) (e : Exchange) (notice : Option Notice) (l : Bytes) :
    takes c e notice (some l) = .goes c.lines (.waiting e notice) (some l) := by
  unfold takes
  cases c.lines <;> rfl

section

variable {c₁ c₂ : Console}

theorem takes_matches
    (h : notice = some .ready → hand₁ = hand₂ ∧ (hand₁ = none → c₁.lines = c₂.lines)) :
    (takes c₁ e notice hand₁).Matches (takes c₂ e notice hand₂) := by
  by_cases hn : notice = some .ready
  · obtain ⟨rfl, hl⟩ := h hn
    cases hand₁ with
    | none =>
      have ht : takes c₁ e notice none = takes c₂ e notice none := by simp only [takes, hl rfl]
      rw [ht]
      exact .refl _
    | some l =>
      rw [takes_of_some, takes_of_some]
      exact .goes fun _ => ⟨rfl, by simp⟩
  · obtain ⟨lines₁, hand₁', h₁⟩ := exists_takes c₁ e notice hand₁
    obtain ⟨lines₂, hand₂', h₂⟩ := exists_takes c₂ e notice hand₂
    rw [h₁, h₂]
    exact .goes fun ht => absurd ht hn

theorem goesOn_matches (h : hand₁ = hand₂ ∧ (hand₁ = none → c₁.lines = c₂.lines))
    (h₁ : hand₁.isSome = true ∨ c₁.ended = true) (h₂ : hand₂.isSome = true ∨ c₂.ended = true) :
    (goesOn c₁ e notice hand₁).Matches (goesOn c₂ e notice hand₂) := by
  obtain ⟨rfl, hl⟩ := h
  cases hand₁ with
  | some l => exact look_matches e l _ _
  | none =>
    have he₁ := h₁.resolve_left nofun
    have he₂ := h₂.resolve_left nofun
    have hg : goesOn c₁ e notice none = goesOn c₂ e notice none := by
      simp only [goesOn, he₁, he₂, hl rfl]
    rw [hg]
    exact .refl _

end

/-- A command that has been told that its wait is over is told so again. -/
theorem told_ready (c : Console) (closed : Bool) (hand : Option Bytes) :
    told c closed hand (some .ready) = some .ready := by
  rw [told, if_neg (by simp [isOff])]
  exact ite_self _

theorem Drives.isTold (h : s.Drives id errand p hand) (hp : p.IsTold) :
    hand.isSome = true ∨ s.console.ended = true := by
  cases h with
  | flushing flushes => cases hp
  | waiting owns task told => exact told hp

/-- In a closed session it does not matter what has arrived, except to a command that has been told of
it before. -/
theorem attend_matches (h₁ : s₁.Drives id errand p hand₁) (h₂ : s₂.Drives id errand p hand₂)
    (h : p.IsTold → hand₁ = hand₂ ∧ (hand₁ = none → s₁.console.lines = s₂.console.lines))
    (now : Instant) (m : Move) :
    (attend s₁.console true now errand hand₁ p m).Matches
      (attend s₂.console true now errand hand₂ p m) := by
  cases p with
  | flushing timeout =>
    unfold attend
    split
    · cases ‹Phase.flushing timeout = .waiting _ _›
    · exact .goes nofun
    · exact .ends
    · exact .ends
    · exact .goes nofun
  | waiting e notice =>
    have goes : (Attention.goes s₁.console.lines (.waiting e notice) hand₁).Matches
      (.goes s₂.console.lines (.waiting e notice) hand₂) := .goes h
    cases m with
    | deal => exact takes_matches h
    | notify =>
      rcases notice with _ | _ | _
      · exact .goes nofun
      · exact .goes nofun
      · simp only [attend, attendWait, told_ready]
        exact goes
    | resume =>
      rcases notice with _ | _ | _
      · exact .ends
      · exact .ends
      · exact goesOn_matches (h rfl) (h₁.isTold rfl) (h₂.isTold rfl)
    | expire =>
      simp only [attend, attendWait]
      split_ifs
      exacts [.ends, goes]
    | abort => exact .ends
    | _ => exact goes

theorem actor?_iff (h₁ : id < s₁.started) (h₂ : id < s₂.started) :
    s₁.actor? m = some id ↔ s₂.actor? m = some id := by
  cases m with
  | start j =>
    exact ⟨fun h => absurd (Option.some.inj h) h₁.ne', fun h => absurd (Option.some.inj h) h₂.ne'⟩
  | _ => exact Iff.rfl

theorem Drives.actor?_ne (h : s.Drives id errand p hand) (hn : m.concerns id = false) :
    s.actor? m ≠ some id := by
  cases m with
  | start j => exact fun ha => h.started.ne' (Option.some.inj ha)
  | deal | notify | resume | expire | answer | abort =>
    exact fun ha => beq_eq_false_iff_ne.1 hn (Option.some.inj ha)
  | _ => nofun

namespace Abreast

theorem symm (h : s₁.Abreast s₂ id errand n p hand₁ hand₂) :
    s₂.Abreast s₁ id errand n p hand₂ hand₁ :=
  ⟨h.drives₂, h.drives₁, h.exclusive₂, h.exclusive₁, h.sends₂, h.sends₁, h.now.symm, h.closed.symm,
    fun hc => (h.same (h.closed.trans hc)).imp Eq.symm Eq.symm, fun hp =>
    ⟨(h.told hp).1.symm, fun hn => ((h.told hp).2 ((h.told hp).1.trans hn)).symm⟩⟩

theorem refl (h : s.Drives id errand p hand) (he : s.Exclusive) :
    s.Abreast s id errand s.sends p hand hand :=
  ⟨h, h, he, he, rfl, rfl, rfl, rfl, fun _ => ⟨rfl, rfl⟩, fun _ => ⟨rfl, fun _ => rfl⟩⟩

theorem plugged (h : s₁.Abreast s₂ id errand n p hand₁ hand₂) : s₁.plugged = true :=
  (h.exclusive₁.drives h.drives₁.errand?_eq).1

theorem step_left (h : s₁.Abreast s₂ id errand n p hand₁ hand₂) (hm : m.isManual = false)
    (hn : m.concerns id = false) : (s₁.step m).Abreast s₂ id errand n p hand₁ hand₂ := by
  obtain ⟨hdrives, hsends, hlines⟩ := h.drives₁.step_other hm (h.drives₁.actor?_ne hn)
  have hlines := hlines fun hread => by rw [hread] at hn; cases hn
  have keeps := step_preserves s₁ m
  have hnow := keeps.now fun nanos hpass => by rw [hpass] at hn; cases hn
  have hclosed := keeps.closed fun hclose => by rw [hclose] at hn; cases hn
  refine ⟨hdrives, h.drives₂, h.exclusive₁.step hm, h.exclusive₂, hsends.trans h.sends₁, h.sends₂,
    hnow.trans h.now, hclosed.trans h.closed, fun hc => ?_, fun hp => ?_⟩
  · rw [hclosed] at hc
    refine ⟨(h.drives₁.step_console h.plugged (fun k c hs => ?_) hm hn).trans (h.same hc).1,
      (h.same hc).2⟩
    cases hc.symm.trans (h.exclusive₁.closed k c hs)
  · rw [hlines]
    exact h.told hp

theorem run_left (h : s₁.Abreast s₂ id errand n p hand₁ hand₂)
    (hm : ∀ m ∈ moves, m.isManual = false) (hn : ∀ m ∈ moves, m.concerns id = false) :
    (s₁.run moves).Abreast s₂ id errand n p hand₁ hand₂ := by
  induction moves generalizing s₁ with
  | nil => exact h
  | cons m moves ih =>
    have hm' := List.forall_mem_cons.1 hm
    have hn' := List.forall_mem_cons.1 hn
    exact ih (h.step_left hm'.1 hn'.1) hm'.2 hn'.2

theorem lines_read (hc : s.closed = true) (he : s.console.ended = true) :
    (s.step .read).console.lines =
      s.belated.elim s.console.lines (Console.enqueue s.console.lines) := by
  show s.console.read.1.lines = _
  unfold Console.read
  simp only [belated, hc, he, Bool.true_and, decide_eq_true_eq]
  split_ifs
  · rw [Option.elim_some]
  · rw [Option.elim_none]

/-- The lines for a command that has been told of them stay the same in both sessions, as long as a
reader that goes on in a closed one queues the same. -/
theorem lines_step (h : s₁.Abreast s₂ id errand n p hand₁ hand₂) (hp : p.IsTold)
    (hnone : hand₁ = none) (hb : m.isRead = true → s₁.belated = s₂.belated)
    (hl₁ : m ≠ .read → (s₁.step m).console.lines = s₁.console.lines)
    (hl₂ : m ≠ .read → (s₂.step m).console.lines = s₂.console.lines) :
    (s₁.step m).console.lines = (s₂.step m).console.lines := by
  obtain ⟨rfl, hlines⟩ := h.told hp
  by_cases hr : m = .read
  · subst hr
    cases hc : s₁.closed with
    | false => exact congrArg (·.read.1.lines) (h.same hc).1
    | true =>
      have he₁ := (h.drives₁.isTold hp).resolve_left (by simp [hnone])
      have he₂ := (h.drives₂.isTold hp).resolve_left (by simp [hnone])
      rw [lines_read hc he₁, lines_read (h.closed ▸ hc) he₂, hb rfl, hlines hnone]
  · rw [hl₁ hr, hl₂ hr]
    exact hlines hnone

/-- A move of the outside, or one with which the session or the console is closed. -/
theorem step_other (h : s₁.Abreast s₂ id errand n p hand₁ hand₂) (hm : m.isManual = false)
    (hn : m.concerns id = true) (ha : s₁.actor? m ≠ some id)
    (hb : m.isRead = true → s₁.belated = s₂.belated) :
    (s₁.step m).Abreast (s₂.step m) id errand n p hand₁ hand₂ := by
  have ha₂ : s₂.actor? m ≠ some id := fun h' =>
    ha ((actor?_iff h.drives₁.started h.drives₂.started).2 h')
  obtain ⟨hdrives₁, hsends₁, hlines₁⟩ := h.drives₁.step_other hm ha
  obtain ⟨hdrives₂, hsends₂, hlines₂⟩ := h.drives₂.step_other hm ha₂
  have keeps₁ := step_preserves s₁ m
  have keeps₂ := step_preserves s₂ m
  have hnow : (s₁.step m).now = (s₂.step m).now := by
    by_cases hpass : ∃ nanos, m = .pass nanos
    · obtain ⟨nanos, rfl⟩ := hpass
      exact congrArg (· + nanos) h.now
    · have hpass' : ∀ nanos, m ≠ .pass nanos := fun nanos he => hpass ⟨nanos, he⟩
      rw [keeps₁.now hpass', keeps₂.now hpass', h.now]
  have told (hp : p.IsTold) : hand₁ = hand₂ ∧
      (hand₁ = none → (s₁.step m).console.lines = (s₂.step m).console.lines) :=
    ⟨(h.told hp).1, fun hnone => h.lines_step hp hnone hb hlines₁ hlines₂⟩
  by_cases hclose : m = .start .close
  · subst hclose
    have hc₁ := (close_aftermath s₁).closed
    have hc₂ := (close_aftermath s₂).closed
    refine ⟨hdrives₁, hdrives₂, h.exclusive₁.step hm, h.exclusive₂.step hm, hsends₁.trans h.sends₁,
      hsends₂.trans h.sends₂, hnow, hc₁.trans hc₂.symm, fun hc => ?_, told⟩
    cases hc.symm.trans hc₁
  · have hc₁ := keeps₁.closed hclose
    refine ⟨hdrives₁, hdrives₂, h.exclusive₁.step hm, h.exclusive₂.step hm, hsends₁.trans h.sends₁,
      hsends₂.trans h.sends₂, hnow, hc₁.trans (h.closed.trans (keeps₂.closed hclose).symm),
      fun hc => ?_, told⟩
    obtain ⟨hconsole, hhand⟩ := h.same (hc₁ ▸ hc)
    exact ⟨step_console_congr hconsole h.plugged h.symm.plugged hn ha hclose, hhand⟩

/-- A move of the task whose command is in progress. -/
theorem step_own (h : s₁.Abreast s₂ id errand n p hand₁ hand₂) (hm : m.isManual = false)
    (ha : s₁.actor? m = some id) :
    (∃ p' hand₁' hand₂', (s₁.step m).Abreast (s₂.step m) id errand n p' hand₁' hand₂') ∨
      ∃ e x, s₁.Completes (s₁.step m) id errand e x ∧ s₂.Completes (s₂.step m) id errand e x := by
  have ha₂ := (actor?_iff h.drives₁.started h.drives₂.started).1 ha
  have h₁ := h.drives₁.attends ha
  have h₂ := h.drives₂.attends ha₂
  have hsame : s₁.closed = false → attend s₁.console s₁.closed s₁.now errand hand₁ p m =
      attend s₂.console s₂.closed s₂.now errand hand₂ p m := fun hc => by
    rw [(h.same hc).1, (h.same hc).2, h.closed, h.now]
  have hmatch : (attend s₁.console s₁.closed s₁.now errand hand₁ p m).Matches
      (attend s₂.console s₂.closed s₂.now errand hand₂ p m) := by
    cases hc : s₁.closed with
    | false =>
      rw [← hc, hsame hc]
      exact .refl _
    | true =>
      rw [← h.closed, ← h.now, hc]
      exact attend_matches h.drives₁ h.drives₂ h.told _ _
  generalize attend s₁.console s₁.closed s₁.now errand hand₁ p m = a₁ at h₁ hsame hmatch
  generalize attend s₂.console s₂.closed s₂.now errand hand₂ p m = a₂ at h₂ hsame hmatch
  cases hmatch with
  | goes told =>
    cases h₁ with
    | goes drives₁ console₁ closed₁ sends₁ =>
    cases h₂ with
    | goes drives₂ console₂ closed₂ sends₂ =>
    have hnow {s : Session} (ha : s.actor? m = some id) : (s.step m).now = s.now :=
      (step_preserves s m).now fun nanos hpass => by rw [hpass] at ha; cases ha
    refine .inl ⟨_, _, _, drives₁, drives₂, h.exclusive₁.step hm, h.exclusive₂.step hm,
      sends₁.trans h.sends₁, sends₂.trans h.sends₂, ?_,
      closed₁.trans (h.closed.trans closed₂.symm), fun hc => ?_, fun hp => ?_⟩
    · rw [hnow ha, hnow ha₂, h.now]
    · have hc' : s₁.closed = false := closed₁.symm.trans hc
      cases hsame hc'
      exact ⟨by rw [console₁, console₂, (h.same hc').1], rfl⟩
    · rw [console₁, console₂]
      exact told hp
  | ends =>
    cases h₁ with
    | ends completes₁ =>
    cases h₂ with
    | ends completes₂ => exact .inr ⟨_, _, completes₁, completes₂⟩

theorem step (h : s₁.Abreast s₂ id errand n p hand₁ hand₂) (hm : m.isManual = false)
    (hn : m.concerns id = true) (hb : m.isRead = true → s₁.belated = s₂.belated) :
    (∃ p' hand₁' hand₂', (s₁.step m).Abreast (s₂.step m) id errand n p' hand₁' hand₂') ∨
      ∃ e x, s₁.Completes (s₁.step m) id errand e x ∧ s₂.Completes (s₂.step m) id errand e x := by
  by_cases ha : s₁.actor? m = some id
  · exact h.step_own hm ha
  · exact .inl ⟨_, _, _, h.step_other hm hn ha hb⟩

end Abreast

/-! ### Two runs -/

theorem filter_concerns_eq_nil (hn : ∀ m ∈ moves, m.concerns id = false) :
    moves.filter (Move.concerns id) = [] :=
  List.filter_eq_nil_iff.2 fun m hm => by simp [hn m hm]

/-- Whether a reader that has told of the end of the stream does nothing any more. -/
def Spent (c : Console) : Prop := c.ended = true → c.reader ≠ .ready ∧ c.reader ≠ .waiting

theorem Spent.of_upstream {c c' : Console} (h : Spent c) (hu : c.Upstream c') : Spent c' := by
  intro he
  rcases hu.reader with ⟨hr, hs⟩ | hr
  · rw [hr]
    exact h (hs.symm.trans he)
  · simp [hr]

theorem Spent.wakeReader {c : Console} (h : Spent c) (arrived : Bool) :
    Spent (c.wakeReader arrived) := by
  unfold Console.wakeReader
  split_ifs with hw
  · exact fun he => absurd hw (h he).2
  · exact h

theorem Spent.read {c : Console} (h : Spent c) : Spent c.read.1 := by
  unfold Console.read
  split_ifs with hr
  · intro he
    rcases Bool.or_eq_true_iff.1 he with he | he
    · exact absurd hr (h he).1
    · cases hs : c.intake.stop with
      | waits => simp [hs, Stop.isEnd] at he
      | finishes => simp [Stop.reader]
      | breaks i =>
        simp only [Stop.reader]
        split_ifs <;> simp
  · exact h

theorem Spent.step (h : Spent s.console) (hm : m ≠ .startReader) : Spent (s.step m).console := by
  cases m with
  | receive data =>
    show Spent (s.console.receive data)
    unfold Console.receive
    split_ifs
    · exact h
    · exact Spent.wakeReader (c := { s.console with buffer := s.console.buffer ++ data }) h true
  | closeInput => exact Spent.wakeReader (c := { s.console with inputClosed := true }) h true
  | breakInput i => exact Spent.wakeReader (c := { s.console with inputFault := some i }) h false
  | startReader => exact absurd rfl hm
  | read => exact h.read
  | _ => exact h.of_upstream (step_upstream nofun nofun nofun nofun nofun)

theorem Spent.belated_eq_none (h : Spent s.console) : s.belated = none := by
  unfold belated
  cases he : s.console.ended with
  | false => simp
  | true => simp [(h he).1]

/-- Nothing is printed behind the end of the stream unless a reader is started again. -/
theorem Spent.belatedOutput_eq (h : Spent s.console) (hm : .startReader ∉ moves) :
    s.belatedOutput moves = List.replicate (moves.countP Move.isRead) none := by
  induction moves generalizing s with
  | nil => rfl
  | cons m moves ih =>
    have hne : m ≠ .startReader := fun he => hm (he ▸ List.mem_cons_self)
    have hrest := ih (h.step hne) fun hmem => hm (List.mem_cons_of_mem _ hmem)
    rw [belatedOutput, hrest, h.belated_eq_none, List.countP_cons]
    split_ifs <;> rfl

theorem concerns_of_isRead (hr : m.isRead = true) : m.concerns id = true := by
  cases m with
  | read => rfl
  | _ => cases hr

/-- So in runs in which no reader is started again the same is printed behind the end of the stream. -/
theorem Spent.belatedOutput_congr (h : Spent s.console) (hm : .startReader ∉ moves₁)
    (hf : moves₁.filter (Move.concerns id) = moves₂.filter (Move.concerns id)) :
    s.belatedOutput moves₁ = s.belatedOutput moves₂ := by
  have hm₂ : .startReader ∉ moves₂ := fun hmem =>
    hm (List.mem_of_mem_filter (hf ▸ List.mem_filter.2 ⟨hmem, rfl⟩))
  have count (moves : List Move) :
      moves.countP Move.isRead = (moves.filter (Move.concerns id)).countP Move.isRead := by
    rw [List.countP_filter]
    refine List.countP_congr fun m _ => ?_
    rw [Bool.and_eq_true, and_iff_left_of_imp concerns_of_isRead]
  rw [h.belatedOutput_eq hm, h.belatedOutput_eq hm₂, count, hf, ← count]

theorem belatedOutput_append (hn : ∀ m ∈ moves₁, m.concerns id = false) :
    s.belatedOutput (moves₁ ++ moves₂) = (s.run moves₁).belatedOutput moves₂ := by
  induction moves₁ generalizing s with
  | nil => rfl
  | cons m moves₁ ih =>
    have hn' := List.forall_mem_cons.1 hn
    have hr : m.isRead ≠ true := fun hr => by
      cases hn'.1.symm.trans (concerns_of_isRead hr)
    rw [List.cons_append, belatedOutput, if_neg hr, ih hn'.2]
    rfl

theorem belatedOutput_cons_inj
    (h : s₁.belatedOutput (m :: moves₁) = s₂.belatedOutput (m :: moves₂)) :
    (m.isRead = true → s₁.belated = s₂.belated) ∧
      (s₁.step m).belatedOutput moves₁ = (s₂.step m).belatedOutput moves₂ := by
  simp only [belatedOutput] at h
  split_ifs at h with hr
  · exact ⟨fun _ => (List.cons.inj h).1, (List.cons.inj h).2⟩
  · exact ⟨fun hr' => absurd hr' hr, h⟩

namespace Agrees

/-- A move in the one run that does not concern the command. -/
theorem of_left (hn : m.concerns id = false)
    (h : (s₁.step m).Agrees s₂ id errand n moves₁ moves₂) :
    s₁.Agrees s₂ id errand n (m :: moves₁) moves₂ := by
  cases h with
  | waits p hand₁ hand₂ abreast => exact .waits p hand₁ hand₂ abreast
  | ends before₁ before₂ m' after₁ after₂ split₁ split₂ concern p hand₁ hand₂ abreast e x c₁ c₂ =>
    subst split₁ split₂
    refine .ends (m :: before₁) before₂ m' after₁ after₂ rfl rfl ?_ p hand₁ hand₂ abreast e x c₁ c₂
    rw [List.filter_cons_of_neg (by simp [hn]), concern]

/-- A move in both runs that concerns the command, behind others in the one that do not. -/
theorem of_both {l : List Move} (hl : ∀ m ∈ l, m.concerns id = false) (hn : m.concerns id = true)
    (h : (s₁.step m).Agrees ((s₂.run l).step m) id errand n moves₁ moves₂) :
    s₁.Agrees s₂ id errand n (m :: moves₁) (l ++ m :: moves₂) := by
  have hrun (moves : List Move) :
      s₂.run (l ++ m :: moves) = ((s₂.run l).step m).run moves := run_append ..
  cases h with
  | waits p hand₁ hand₂ abreast => exact .waits p hand₁ hand₂ (by rw [hrun]; exact abreast)
  | ends before₁ before₂ m' after₁ after₂ split₁ split₂ concern p hand₁ hand₂ abreast e x c₁ c₂ =>
    subst split₁ split₂
    refine .ends (m :: before₁) (l ++ m :: before₂) m' after₁ after₂ rfl (by simp) ?_ p hand₁ hand₂
      (by rw [hrun]; exact abreast) e x c₁ (by rw [hrun]; exact c₂)
    rw [List.filter_append, filter_concerns_eq_nil hl, List.filter_cons_of_pos hn,
      List.filter_cons_of_pos hn, concern, List.nil_append]

end Agrees

/-- Two runs in which the same moves concern a command that is in progress. -/
theorem Abreast.agrees (h : s₁.Abreast s₂ id errand n p hand₁ hand₂)
    (hm₁ : ∀ m ∈ moves₁, m.isManual = false) (hm₂ : ∀ m ∈ moves₂, m.isManual = false)
    (hb : s₁.belatedOutput moves₁ = s₂.belatedOutput moves₂)
    (hf : moves₁.filter (Move.concerns id) = moves₂.filter (Move.concerns id)) :
    s₁.Agrees s₂ id errand n moves₁ moves₂ := by
  induction moves₁ generalizing s₁ s₂ moves₂ p hand₁ hand₂ with
  | nil =>
    have hn : ∀ m ∈ moves₂, m.concerns id = false := fun m hm => by
      simpa using List.filter_eq_nil_iff.1 hf.symm m hm
    exact .waits p hand₁ hand₂ (h.symm.run_left hm₂ hn).symm
  | cons m moves₁ ih =>
    have hm := List.forall_mem_cons.1 hm₁
    cases hn : m.concerns id with
    | false =>
      rw [List.filter_cons_of_neg (by simp [hn])] at hf
      have hb' : (s₁.step m).belatedOutput moves₁ = s₂.belatedOutput moves₂ :=
        (belatedOutput_append (List.forall_mem_singleton.2 hn)).symm.trans hb
      exact .of_left hn (ih (h.step_left hm.1 hn) hm.2 hm₂ hb' hf)
    | true =>
      rw [List.filter_cons_of_pos hn] at hf
      obtain ⟨l, moves₂, rfl, hl, -, hf'⟩ := List.filter_eq_cons_iff.1 hf.symm
      have hl' : ∀ m ∈ l, m.concerns id = false := fun m hm => by simpa using hl m hm
      have hml := List.forall_mem_append.1 hm₂
      have h' := (h.symm.run_left hml.1 hl').symm
      obtain ⟨hread, hb'⟩ := belatedOutput_cons_inj (hb.trans (belatedOutput_append hl'))
      rcases h'.step hm.1 hn hread with ⟨p', hand₁', hand₂', hstep⟩ | ⟨e, x, c₁, c₂⟩
      · exact .of_both hl' hn
          (ih hstep hm.2 (List.forall_mem_cons.1 hml.2).2 hb' hf'.symm)
      · exact .ends [] l m moves₁ moves₂ rfl rfl (filter_concerns_eq_nil hl').symm p hand₁ hand₂ h'
          e x c₁ c₂

/-- As long as the caller does not use the console by hand, it is owned exactly while a command is in
progress, from the sending of its line to its end, and by the task of this command alone.  A command
that comes to be sent meanwhile, by a scan that is asked for or by the key of a setup, is refused:
it takes no line, sends nothing and leaves the identity as it was.  The command in progress goes on
and ends as in any other run in which the same moves concern it, such as the one without the others:
nothing is sent before its end, which comes with the same move, after the same lines and with the
same records and outcome, and leaves the console free.  The guest prints the same in both runs, also
behind the end of the stream in a closed session; unless a reader is started again there, it prints
nothing any more (`Spent.belatedOutput_congr`). -/
theorem overlap_has_no_effect {before : List Move} (ht : s.tasks = [])
    (ho : s.console.owned = false) (hm : ∀ m ∈ before, m.isManual = false) :
    let s' := s.run before
    (s'.console.owned = true ↔ ∃ id errand, s'.errand? id = some errand) ∧
    ∀ id errand, s'.errand? id = some errand →
      (∀ k errand', s'.errand? k = some errand' → k = id) ∧
      (∀ k m, s'.Requests k m → s'.Refused (s'.step m) k) ∧
      ∀ moves₁ moves₂ : List Move, (∀ m ∈ moves₁, m.isManual = false) →
        (∀ m ∈ moves₂, m.isManual = false) →
        s'.belatedOutput moves₁ = s'.belatedOutput moves₂ →
        moves₁.filter (Move.concerns id) = moves₂.filter (Move.concerns id) →
        s'.Agrees s' id errand s'.sends moves₁ moves₂ := by
  intro s'
  have h : s'.Exclusive := (Exclusive.of_tasks_eq_nil ht ho).run hm
  refine ⟨h.owned_iff, fun id errand hs => ?_⟩
  obtain ⟨hp, p, hand, hw⟩ := h.drives hs
  refine ⟨fun k errand' => hw.eq_of_errand?, fun k m => refused_of_requests hp hw.owned,
    fun moves₁ moves₂ hm₁ hm₂ hb hf => (Abreast.refl hw h).agrees hm₁ hm₂ hb hf⟩

/-- A scan that is answered while another scan and a setup are begun. -/
theorem overlap_has_no_effect_sample :
    let s := sample.run [.start .scan]
    let key : Session.Reply := .keyPair (.ok { type := "ssh-rsa", blob := [1], fingerprint := "f" })
    let moves : List Move := [.start .setup, .receive (utf8 "#host key\nSERIAL STATUS: 0\n"),
      .start .scan, .read, .deal 1, .answer 2 key, .resume 1, .start .scan, .deal 1, .resume 1]
    let alone := moves.filter (Move.concerns 1)
    s.console.owned = true ∧ s.Refused (s.step (.start .scan)) 2 ∧ alone.length = 6 ∧
      (s.run moves).task? 1 = none ∧ s.Agrees s 1 (.scan none) 1 moves alone := by
  intro s key moves alone
  have hm : ∀ m ∈ moves, m.isManual = false := by decide +kernel
  have hn : s.sends = 1 := by decide +kernel
  have hs : s.errand? 1 = some (.scan none) := by decide +kernel
  obtain ⟨howned, hcommand⟩ := @overlap_has_no_effect sample [.start .scan] rfl rfl
    (by decide +kernel)
  obtain ⟨-, hrefused, hagrees⟩ := hcommand 1 _ hs
  have hf : moves.filter (Move.concerns 1) = alone.filter (Move.concerns 1) := by simp [alone]
  have hspent : Spent s.console := fun he => absurd he (by decide +kernel)
  refine ⟨howned.2 ⟨1, _, hs⟩, hrefused 2 _ .scan, by decide +kernel, by decide +kernel, ?_⟩
  exact hn ▸ hagrees moves alone hm (fun m h => hm m (List.mem_of_mem_filter h))
    (hspent.belatedOutput_congr (by simp [moves]) hf) hf

end Session

end GuestLink
