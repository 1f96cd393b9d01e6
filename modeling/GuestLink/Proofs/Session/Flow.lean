import GuestLink.Proofs.Session.Ownership

/-!
# Where the lines of the queue go

`Flow` lists what one move can do to the lines of the queue and to the lines that tasks hold: the
reader adds some, the oldest is handed to a task, a task looks at one, or a task goes on or ends
without one, in which case it may have discarded all to send a command.
-/

namespace GuestLink

/-- Whether a task was ended from outside: by its caller, by its signal or by its deadline. -/
def Outcome.IsCalledOff : Outcome → Prop
  | .aborted | .failed .waitCancelled | .failed (.timedOut _) => True
  | _ => False

namespace Session

open Serial

/-- The line that a task holds and has not looked at. -/
def hand? (s : Session) (id : TaskId) : Option Bytes := (s.task? id).bind Task.hand

/-- What a task waits for, and the line that it holds. -/
def wait? (s : Session) (id : TaskId) : Option (Stage × Option Bytes) :=
  (s.task? id).map fun t => (t.stage, t.hand)

/-- Whether `s'` has come of `s` by a command for which the queue was emptied. -/
def Restarts (s s' : Session) : Prop :=
  ∃ (s₁ : Session) (id : TaskId) (errand : Errand) (line : Bytes) (timeout : Binary64),
    s₁.plugged = true ∧ s₁.console.owned = false ∧ s₁.closed = false ∧
    s₁.console.lines = s.console.lines ∧ s' = s₁.beginCommand id errand line timeout

/-- Whether from `s` to `s'` a task has ended or begun to wait, with nothing in its hand. -/
structure Proceeds (s s' : Session) (id : TaskId) : Prop where
  lines : s'.console.lines = s.console.lines ∨ s'.console.lines = [] ∧ s.Restarts s'
  hand : s'.hand? id = none

variable {s s₁ s' : Session} {id : TaskId} {t : Task} {m : Move} {l : Bytes}

theorem hand?_eq_of_wait? (h : s'.wait? id = s.wait? id) : s'.hand? id = s.hand? id := by
  have hand (s : Session) : s.hand? id = (s.wait? id).bind Prod.snd := by
    rw [hand?, wait?]
    cases s.task? id <;> rfl
  rw [hand, hand, h]

theorem wait?_of_task? (h : s'.task? id = s.task? id) : s'.wait? id = s.wait? id :=
  congrArg _ h

theorem hand?_finish (s : Session) (id : TaskId) (o : Outcome) :
    (s.finish id o).hand? id = none := by
  rw [hand?, task?_finish_self]
  rfl

theorem hand?_suspend (s : Session) (id : TaskId) (stage : Stage) :
    (s.suspend id stage).hand? id = none := by
  rw [hand?, task?_suspend_self]
  rfl

namespace Proceeds

theorem of_lines (hp : s₁.Proceeds s' id) (h : s₁.console.lines = s.console.lines) :
    s.Proceeds s' id := by
  refine ⟨?_, hp.hand⟩
  rcases hp.lines with hl | ⟨hl, s₂, id', errand, line, timeout, hplug, hown, hopen, hl₂, hs⟩
  · exact .inl (hl.trans h)
  · exact .inr ⟨hl, s₂, id', errand, line, timeout, hplug, hown, hopen, hl₂.trans h, hs⟩

end Proceeds

theorem beginCommand_proceeds (s : Session) (id : TaskId) (errand : Errand) (line : Bytes)
    (timeout : Binary64) : s.Proceeds (s.beginCommand id errand line timeout) id := by
  by_cases hplug : s.plugged
  · by_cases hown : s.console.owned
    · rw [beginCommand, if_neg (by simp [hplug]), if_pos hown]
      exact ⟨.inl rfl, hand?_finish ..⟩
    · by_cases hclosed : s.closed
      · rw [beginCommand, if_neg (by simp [hplug]), if_neg hown, if_pos hclosed]
        exact ⟨.inl rfl, hand?_finish ..⟩
      · have hrestarts : s.Restarts (s.beginCommand id errand line timeout) :=
          ⟨s, id, errand, line, timeout, hplug, by simpa using hown, by simpa using hclosed, rfl,
            rfl⟩
        have hstep : (s.beginCommand id errand line timeout).console.lines = [] ∧
            (s.beginCommand id errand line timeout).hand? id = none := by
          rw [beginCommand, if_neg (by simp [hplug]), if_neg hown, if_neg hclosed]
          dsimp only
          split
          · exact ⟨rfl, hand?_finish ..⟩
          · exact ⟨rfl, hand?_finish ..⟩
          · exact ⟨rfl, hand?_finish ..⟩
          · exact ⟨rfl, hand?_suspend ..⟩
          · exact ⟨rfl, hand?_suspend ..⟩
        exact ⟨.inr ⟨hstep.1, hrestarts⟩, hstep.2⟩
  · rw [beginCommand, if_pos (by simp [hplug])]
    exact ⟨.inl rfl, hand?_finish ..⟩

theorem beginSetup_proceeds (s : Session) (id : TaskId) (identity : Identity) (boot : Bool) :
    s.Proceeds (s.beginSetup id identity boot) id := by
  unfold beginSetup
  split
  · exact ⟨.inl rfl, hand?_finish ..⟩
  · exact beginCommand_proceeds ..

theorem afterSuccess_proceeds (s : Session) (id : TaskId) (errand : Errand) (e : Exchange) :
    s.Proceeds (s.afterSuccess id errand e) id := by
  unfold afterSuccess
  split
  · dsimp only
    split_ifs
    · exact .of_lines (beginCommand_proceeds ..) rfl
    · exact ⟨.inl rfl, hand?_finish ..⟩
  · exact ⟨.inl rfl, hand?_finish ..⟩
  · split
    · exact ⟨.inl rfl, hand?_finish ..⟩
    · exact ⟨.inl rfl, hand?_suspend ..⟩

theorem acceptLine_proceeds (s : Session) (id : TaskId) (errand : Errand) (e : Exchange)
    (l : Bytes) : s.Proceeds (s.acceptLine id errand e l) id := by
  unfold acceptLine
  split
  · exact ⟨.inl rfl, hand?_suspend ..⟩
  · exact .of_lines (afterSuccess_proceeds ..) rfl
  · exact ⟨.inl rfl, hand?_finish ..⟩
  · exact ⟨.inl rfl, hand?_finish ..⟩

theorem consume_proceeds (hw : t.stage.lineSignal? ≠ none) (s : Session) (l : Bytes) :
    s.Proceeds (s.consume t l) t.id := by
  unfold consume
  split
  · exact ⟨.inl rfl, hand?_finish ..⟩
  · split_ifs
    · exact ⟨.inl rfl, hand?_finish ..⟩
    · exact ⟨.inl rfl, hand?_suspend ..⟩
  · exact acceptLine_proceeds ..
  · rename_i hnext htake hreply
    cases hs : t.stage with
    | next signal => exact absurd hs (hnext signal)
    | take signal left got => exact absurd hs (htake signal left got)
    | reply errand e => exact absurd hs (hreply errand e)
    | _ =>
      rw [hs] at hw
      exact absurd rfl hw

theorem closeConsole_proceeds (s : Session) (id : TaskId) :
    s.Proceeds (s.closeConsole id) id := by
  unfold closeConsole
  split_ifs
  · exact ⟨.inl rfl, hand?_finish ..⟩
  split
  · exact ⟨.inl rfl, hand?_finish ..⟩
  rename_i c rs hc
  have hl : c.lines = s.console.lines := (stopReader_steady hc).lines
  dsimp only
  split_ifs
  · exact ⟨.inl hl, hand?_finish ..⟩
  · split
    · exact ⟨.inl hl, hand?_finish ..⟩
    · split_ifs
      · exact ⟨.inl hl, hand?_finish ..⟩
      · exact ⟨.inl hl, hand?_finish ..⟩
    · exact ⟨.inl hl, hand?_suspend ..⟩

theorem beginClose_proceeds (s : Session) (id : TaskId) : s.Proceeds (s.beginClose id) id := by
  unfold beginClose
  dsimp only
  split
  · exact ⟨.inl rfl, hand?_suspend ..⟩
  · exact .of_lines (closeConsole_proceeds ..) rfl

theorem beginRun_proceeds (s : Session) (id : TaskId) (c : ClientId) (command : String)
    (signal : Option Signal) : s.Proceeds (s.beginRun id c command signal) id := by
  unfold beginRun
  split_ifs
  · exact ⟨.inl rfl, hand?_finish ..⟩
  · exact ⟨.inl rfl, hand?_suspend ..⟩

theorem beginWrite_proceeds (s : Session) (id : TaskId) (data : Bytes) :
    s.Proceeds (s.beginWrite id data) id := by
  unfold beginWrite
  split_ifs
  · exact ⟨.inl rfl, hand?_finish ..⟩
  · split
    · exact ⟨.inl rfl, hand?_finish ..⟩
    · exact ⟨.inl rfl, hand?_finish ..⟩
    · exact ⟨.inl rfl, hand?_finish ..⟩
    · exact ⟨.inl rfl, hand?_suspend ..⟩
    · exact ⟨.inl rfl, hand?_finish ..⟩

theorem beginJob_proceeds (s : Session) (id : TaskId) (j : Job) :
    s.Proceeds (s.beginJob id j) id := by
  unfold beginJob
  split
  · split_ifs
    · exact ⟨.inl rfl, hand?_suspend ..⟩
    · exact ⟨.inl rfl, hand?_finish ..⟩
  · split_ifs
    · exact ⟨.inl rfl, hand?_finish ..⟩
    · exact ⟨.inl rfl, hand?_suspend ..⟩
    · exact ⟨.inl rfl, hand?_finish ..⟩
  · exact beginWrite_proceeds ..
  · exact closeConsole_proceeds ..
  · split
    · exact ⟨.inl rfl, hand?_finish ..⟩
    · dsimp only
      split_ifs
      · exact ⟨.inl rfl, hand?_finish ..⟩
      · exact ⟨.inl rfl, hand?_suspend ..⟩
  · exact .of_lines (beginRun_proceeds ..) rfl
  · exact ⟨.inl rfl, hand?_suspend ..⟩
  · exact ⟨.inl rfl, hand?_suspend ..⟩
  · exact beginCommand_proceeds ..
  · exact ⟨.inl rfl, hand?_suspend ..⟩
  · split_ifs
    · exact ⟨.inl rfl, hand?_finish ..⟩
    · split
      · exact ⟨.inl rfl, hand?_finish ..⟩
      · exact beginRun_proceeds ..
  · exact beginClose_proceeds ..

theorem afterConnect_proceeds (s : Session) (id : TaskId) (c : ClientId) (r : ConnectRequest)
    (boot : Bool) (answer : Except ConnectFault Unit) :
    s.Proceeds (s.afterConnect id c r boot answer) id := by
  unfold afterConnect
  split
  · exact ⟨.inl rfl, hand?_finish ..⟩
  dsimp only
  split_ifs
  · exact ⟨.inl rfl, hand?_suspend ..⟩
  · exact ⟨.inl rfl, hand?_finish ..⟩
  · exact ⟨.inl rfl, hand?_finish ..⟩

theorem endRun_proceeds (s : Session) (id : TaskId) (command : String) (result : CommandResult) :
    s.Proceeds (s.endRun id command result) id := by
  unfold endRun
  split_ifs
  · exact ⟨.inl rfl, hand?_finish ..⟩
  · exact ⟨.inl rfl, hand?_finish ..⟩

/-- A task that waits for a line waits for no answer. -/
theorem goOn_of_lineSignal? {stage : Stage} {signal : Signal}
    (h : stage.lineSignal? = some signal) (s : Session) (id : TaskId) (reply : Reply) :
    s.goOn id stage reply = s := by
  cases stage with
  | next | take | reply => rfl
  | _ => cases h

/-- An answer ends its task or lets it wait anew, unless the task does not wait for it. -/
theorem goOn_proceeds (s : Session) (id : TaskId) (stage : Stage) (reply : Reply) :
    s.Proceeds (s.goOn id stage reply) id ∨ s.goOn id stage reply = s := by
  unfold goOn
  split
  · exact .inl ⟨.inl rfl, hand?_finish ..⟩
  · exact .inl ⟨.inl rfl, hand?_finish ..⟩
  · exact .inl ⟨.inl rfl, hand?_suspend ..⟩
  · exact .inl ⟨.inl rfl, hand?_finish ..⟩
  · split
    · exact .inl ⟨.inl rfl, hand?_finish ..⟩
    · exact .inl (beginSetup_proceeds ..)
  · exact .inl (afterConnect_proceeds ..)
  · exact .inl ⟨.inl rfl, hand?_finish ..⟩
  · exact .inl (.of_lines (closeConsole_proceeds ..) rfl)
  · exact .inl ⟨.inl rfl, hand?_finish ..⟩
  · exact .inl ⟨.inl rfl, hand?_finish ..⟩
  · exact .inl ⟨.inl rfl, hand?_finish ..⟩
  · exact .inl ⟨.inl rfl, hand?_suspend ..⟩
  · exact .inl ⟨.inl rfl, hand?_finish ..⟩
  · exact .inl (.of_lines (endRun_proceeds ..) rfl)
  · exact .inl ⟨.inl rfl, hand?_finish ..⟩
  · exact .inl ⟨.inl rfl, hand?_finish ..⟩
  · exact .inl ⟨.inl rfl, hand?_finish ..⟩
  · exact .inr rfl

/-! ### Moves -/

/-- Whether no task holds a line that does not wait for one. -/
def HandsWait (s : Session) : Prop :=
  ∀ id t, s.task? id = some t → t.stage.lineSignal? = none → t.hand = none

/-- Whether a move calls a task off. -/
def CallsOff (s : Session) (m : Move) (id : TaskId) : Prop :=
  (s.step m).task? id = none ∧
    ∃ o : Outcome, o.IsCalledOff ∧ (s.step m).history.getLast? = some (.finish id o)

/-- What a move does to the lines of the queue and to those that tasks hold. -/
inductive Flow (s : Session) (m : Move) : Prop
  | reads (hm : m = .read)
  | discards (hm : m = .reset)
  | rests (hm : m ≠ .read) (waits : ∀ id, (s.step m).wait? id = s.wait? id)
      (lines : (s.step m).console.lines = s.console.lines) (looks : ∀ id, s.looksAt? id m = none)
  | hands (id : TaskId) (t : Task) (l : Bytes) (rest : List Bytes) (hm : m = .deal id)
      (task : s.task? id = some t) (empty : t.hand = none) (waits : t.stage.lineSignal? ≠ none)
      (before : s.console.lines = l :: rest) (lines : (s.step m).console.lines = rest)
      (after : (s.step m).task? id = some { t with hand := some l })
  | looks (id : TaskId) (t : Task) (l : Bytes) (rest : List Bytes) (hm : m = .resume id)
      (task : s.task? id = some t) (look : s.looksAt? id m = some l)
      (before : t.hand.toList ++ s.console.lines = l :: rest)
      (proceeds : (s.withLines rest).Proceeds (s.step m) id)
  | acts (id : TaskId) (actor : s.actor? m = some id) (hm : ∀ id, m ≠ .deal id)
      (looks : ∀ id, s.looksAt? id m = none) (proceeds : s.Proceeds (s.step m) id)
      (loss : s.hand? id ≠ none → s.CallsOff m id)

theorem Flow.of_eq (hm : m ≠ .read) (hs : s.step m = s) (looks : ∀ id, s.looksAt? id m = none) :
    s.Flow m :=
  .rests hm (fun _ => by rw [hs]) (by rw [hs]) looks

theorem hand?_of_task? (ht : s.task? id = some t) : s.hand? id = t.hand := by
  rw [hand?, ht]
  rfl

theorem looksAt?_of_not_resume (hm : ∀ id, m ≠ .resume id) (id : TaskId) :
    s.looksAt? id m = none := by
  cases m with
  | resume id' => exact absurd rfl (hm id')
  | _ => rfl

theorem callsOff_of_finish {o : Outcome} (ho : o.IsCalledOff) (hs : s.step m = s₁.finish id o) :
    s.CallsOff m id := by
  rw [CallsOff, hs]
  exact ⟨task?_finish_self o, o, ho, List.getLast?_concat ..⟩

section

variable (ht : s.task? t.id = some t)
include ht

theorem deal_flow : s.Flow (.deal t.id) := by
  have hs : s.step (.deal t.id) = s.deal t := withTask_of_some ht s.deal
  rw [deal] at hs
  split at hs
  · rename_i l rest signal hlines hsignal hhand
    refine .hands t.id t l rest rfl ht hhand (by simp [hsignal]) hlines (by rw [hs]) ?_
    rw [hs]
    exact task?_handOver ht l
  · exact .of_eq (by simp) hs fun _ => rfl

theorem looksAt?_of_task? (hl : s.lookedAt? t = none) (id : TaskId) :
    s.looksAt? id (.resume t.id) = none := by
  rw [looksAt?]
  split_ifs with h
  · rw [← h, ht]
    exact hl
  · rfl

omit ht in
theorem giveUp_lines (s : Session) (t : Task) :
    (s.giveUp t).console.lines = s.console.lines := by
  unfold giveUp
  split <;> rfl

theorem resumeWait_flow (hwaits : t.stage.lineSignal? ≠ none)
    (hs : s.step (.resume t.id) = s.resumeWait t) : s.Flow (.resume t.id) := by
  have hlook : s.looksAt? t.id (.resume t.id) = s.lookedAt? t := by
    rw [looksAt?, if_pos rfl, ht]
    rfl
  have quiet := looksAt?_of_task? ht
  have hsome : t.stage.lineSignal?.isNone = false := Option.isNone_eq_false_iff.2
    (Option.isSome_iff_ne_none.2 hwaits)
  simp only [lookedAt?, hsome, Bool.false_or] at hlook quiet
  have hgive := giveUp_lines s t
  rw [resumeWait] at hs
  by_cases hr : s.isCalledOff t
  · rw [if_pos hr] at hs
    refine .acts t.id rfl (by simp) (quiet (if_pos hr)) ?_ fun _ => ?_
    · rw [hs]
      exact ⟨.inl hgive, hand?_finish ..⟩
    · exact callsOff_of_finish (o := .failed .waitCancelled) trivial hs
  rw [if_neg hr] at hs hlook
  cases hh : t.hand with
  | some l =>
    rw [hh] at hs hlook
    refine .looks t.id t l s.console.lines rfl ht hlook (by rw [hh]; rfl) ?_
    rw [hs]
    exact consume_proceeds hwaits s l
  | none =>
    have loss : s.hand? t.id ≠ none → s.CallsOff (.resume t.id) t.id := fun hn =>
      absurd ((hand?_of_task? ht).trans hh) hn
    rw [hh] at hs hlook quiet
    cases he : s.console.ended with
    | false =>
      rw [he] at hs quiet
      exact .of_eq (by simp) hs (quiet (if_neg hr))
    | true =>
      rw [he] at hs hlook quiet
      cases hl : s.console.lines with
      | nil =>
        rw [hl] at hs quiet
        refine .acts t.id rfl (by simp) (quiet (if_neg hr)) ?_ loss
        rw [hs]
        exact ⟨.inl hgive, hand?_finish ..⟩
      | cons l rest =>
        rw [hl] at hs hlook
        refine .looks t.id t l rest rfl ht hlook (by rw [hh]; exact hl) ?_
        rw [hs]
        exact consume_proceeds hwaits _ l

theorem resume_flow (hw : s.HandsWait) : s.Flow (.resume t.id) := by
  have hs : s.step (.resume t.id) = s.resume t := withTask_of_some ht s.resume
  rw [resume] at hs
  cases hsignal : t.stage.lineSignal? with
  | some signal =>
    rw [hsignal] at hs
    exact resumeWait_flow ht (by simp [hsignal]) hs
  | none =>
    have quiet := looksAt?_of_task? ht (by rw [lookedAt?, hsignal]; rfl)
    rw [hsignal] at hs
    split at hs
    · cases ‹none = some _›
    · split_ifs at hs
      · refine .acts t.id rfl (by simp) quiet ?_ fun hn => ?_
        · rw [hs]
          exact ⟨.inl rfl, hand?_suspend ..⟩
        · exact absurd ((hand?_of_task? ht).trans (hw t.id t ht hsignal)) hn
      · exact .of_eq (by simp) hs quiet
    · exact .of_eq (by simp) hs quiet

theorem expire_flow (hw : s.HandsWait) : s.Flow (.expire t.id) := by
  have hs : s.step (.expire t.id) = s.expire t := withTask_of_some ht s.expire
  have loss (hsignal : t.stage.lineSignal? = none) (hn : s.hand? t.id ≠ none) :
      s.CallsOff (.expire t.id) t.id :=
    absurd ((hand?_of_task? ht).trans (hw t.id t ht hsignal)) hn
  rw [expire] at hs
  split_ifs at hs with hx
  · split at hs
    · refine .acts t.id rfl (by simp) (fun _ => rfl) ?_ fun _ => ?_
      · rw [hs]
        exact ⟨.inl rfl, hand?_finish ..⟩
      · exact callsOff_of_finish (o := .failed (.timedOut _)) trivial hs
    · rename_i hstage
      refine .acts t.id rfl (by simp) (fun _ => rfl) ?_ (loss (by rw [hstage]; rfl))
      rw [hs]
      exact ⟨.inl rfl, hand?_finish ..⟩
    · rename_i hstage
      refine .acts t.id rfl (by simp) (fun _ => rfl) ?_ (loss (by rw [hstage]; rfl))
      rw [hs]
      exact ⟨.inl rfl, hand?_finish ..⟩
    · exact .of_eq (by simp) hs fun _ => rfl
  · exact .of_eq (by simp) hs fun _ => rfl

theorem abort_flow : s.Flow (.abort t.id) := by
  have hs : s.step (.abort t.id) = s.abort t := withTask_of_some ht s.abort
  have habort : ∃ s₁ : Session, s₁.console.lines = s.console.lines ∧
      s.abort t = s₁.finish t.id .aborted := by
    unfold abort
    dsimp only
    refine ⟨_, ?_, rfl⟩
    split <;> rfl
  obtain ⟨s₁, hlines, ha⟩ := habort
  rw [ha] at hs
  refine .acts t.id rfl (by simp) (fun _ => rfl) ?_ fun _ => ?_
  · rw [hs]
    exact ⟨.inl hlines, hand?_finish ..⟩
  · exact callsOff_of_finish (o := .aborted) trivial hs

theorem answer_flow (hw : s.HandsWait) (reply : Reply) : s.Flow (.answer t.id reply) := by
  obtain ⟨rs, -, he⟩ := exists_answer_tell s t.id reply
  have hs : s.step (.answer t.id reply) = (s.tell rs).goOn t.id t.stage reply := by
    rw [step, he, withTask_of_some (s := s.tell rs) ht]
  have rests (hg : (s.tell rs).goOn t.id t.stage reply = s.tell rs) :
      s.Flow (.answer t.id reply) := by
    rw [hg] at hs
    exact .rests (by simp) (fun id => by rw [hs]; rfl) (by rw [hs]; rfl) fun _ => rfl
  cases hsignal : t.stage.lineSignal? with
  | some signal =>
    exact rests (goOn_of_lineSignal? hsignal _ _ reply)
  | none =>
    rcases goOn_proceeds (s.tell rs) t.id t.stage reply with hp | hg
    · refine .acts t.id rfl (by simp) (fun _ => rfl) (hs ▸ hp.of_lines rfl) fun hn => ?_
      exact absurd ((hand?_of_task? ht).trans (hw t.id t ht hsignal)) hn
    · exact rests hg

theorem notify_flow : s.Flow (.notify t.id) := by
  rcases step_notify ht with hs | ⟨-, hs⟩
  · exact .of_eq (by simp) hs fun _ => rfl
  · refine .rests (by simp) (fun id => ?_) (by rw [hs]; rfl) fun _ => rfl
    rw [hs]
    by_cases hid : id = t.id
    · rw [hid, wait?, wait?, task?_inform ht, ht]
      rfl
    · exact wait?_of_task? (task?_eq_of_except (except_inform s t.id _) hid)

end

theorem task?_eq_none_of_numbered (hn : s.Numbered) : s.task? s.started = none :=
  List.find?_eq_none.2 fun t ht => by simpa using (hn t ht).ne

theorem start_flow (hn : s.Numbered) (j : Job) : s.Flow (.start j) := by
  have hp : s.Proceeds (s.step (.start j)) s.started :=
    .of_lines (beginJob_proceeds { s with started := s.started + 1 } s.started j) rfl
  refine .acts s.started rfl (by simp) (fun _ => rfl) hp fun hh => ?_
  rw [hand?, task?_eq_none_of_numbered hn] at hh
  exact absurd rfl hh

theorem steady_flow (hm : m ≠ .read) (hr : ∀ id, m ≠ .resume id) (hs : s.Steady (s.step m)) :
    s.Flow m :=
  .rests hm (fun id => wait?_of_task? (task?_of_tasks_eq hs.tasks id)) hs.lines
    (looksAt?_of_not_resume hr)

/-- What any move does to the lines. -/
theorem flow (hn : s.Numbered) (hw : s.HandsWait) (m : Move) : s.Flow m := by
  have absent {id : TaskId} (ht : s.task? id = none) (f : Task → Session) (hm : m ≠ .read)
      (hs : s.step m = s.withTask id f) (hr : ∀ id', s.looksAt? id' m = none) : s.Flow m :=
    .of_eq hm (hs.trans (withTask_of_none ht f)) hr
  cases m with
  | read => exact .reads rfl
  | reset => exact .discards rfl
  | start j => exact start_flow hn j
  | deal id =>
    cases ht : s.task? id with
    | none => exact absent ht s.deal (by simp) rfl fun _ => rfl
    | some t =>
      obtain rfl := id_of_task? ht
      exact deal_flow ht
  | notify id =>
    cases ht : s.task? id with
    | none => exact absent ht s.notify (by simp) rfl fun _ => rfl
    | some t =>
      obtain rfl := id_of_task? ht
      exact notify_flow ht
  | resume id =>
    cases ht : s.task? id with
    | none =>
      refine absent ht s.resume (by simp) rfl fun id' => ?_
      rw [looksAt?]
      split_ifs with h
      · rw [← h, ht]
        rfl
      · rfl
    | some t =>
      obtain rfl := id_of_task? ht
      exact resume_flow ht hw
  | expire id =>
    cases ht : s.task? id with
    | none => exact absent ht s.expire (by simp) rfl fun _ => rfl
    | some t =>
      obtain rfl := id_of_task? ht
      exact expire_flow ht hw
  | abort id =>
    cases ht : s.task? id with
    | none => exact absent ht s.abort (by simp) rfl fun _ => rfl
    | some t =>
      obtain rfl := id_of_task? ht
      exact abort_flow ht
  | answer id reply =>
    cases ht : s.task? id with
    | none =>
      obtain ⟨rs, -, he⟩ := exists_answer_tell s id reply
      rw [withTask_of_none (s := s.tell rs) ht] at he
      have hs : s.step (.answer id reply) = s.tell rs := he
      exact steady_flow (by simp) (by simp) (hs ▸ (Steady.refl s).tell rs)
    | some t =>
      obtain rfl := id_of_task? ht
      exact answer_flow ht hw reply
  | acquire =>
    refine .rests (by simp) (fun id => wait?_of_task? (task?_of_tasks_eq (step_tasks rfl).1 id)) ?_
      fun _ => rfl
    rw [step, acquire]
    split_ifs <;> rfl
  | release => exact .rests (by simp) (fun _ => rfl) rfl fun _ => rfl
  | _ => exact steady_flow (by simp) (by simp) (step_steady rfl rfl (by simp))

/-! ### Hands -/

theorem HandsWait.step (h : s.HandsWait) (hn : s.Numbered) (m : Move) : (s.step m).HandsWait := by
  intro id t ht hsignal
  have kept (hk : (s.step m).wait? id = s.wait? id) : t.hand = none := by
    rw [wait?, ht, wait?] at hk
    obtain ⟨u, hu, huw⟩ := Option.map_eq_some_iff.1 hk.symm
    obtain ⟨hstage, hhand⟩ := Prod.mk.inj huw
    exact hhand ▸ h id u hu (hstage ▸ hsignal)
  have other {id' : TaskId} (ha : s.actor? m = some id') (hne : id ≠ id') : t.hand = none :=
    kept (wait?_of_task? (task?_step_of_ne (by
      rw [ha]
      exact fun he => hne (Option.some.inj he).symm)))
  have proceeds {s₁ : Session} {id' : TaskId} (ha : s.actor? m = some id')
      (hp : s₁.Proceeds (s.step m) id') : t.hand = none := by
    by_cases hid : id = id'
    · subst hid
      rw [← hand?_of_task? ht]
      exact hp.hand
    · exact other ha hid
  cases s.flow hn h m with
  | reads hm =>
    exact kept (wait?_of_task? (task?_of_tasks_eq (step_tasks (by rw [hm]; rfl)).1 id))
  | discards hm =>
    exact kept (wait?_of_task? (task?_of_tasks_eq (step_tasks (by rw [hm]; rfl)).1 id))
  | rests hm waits => exact kept (waits id)
  | hands id' u l rest hm task empty waits before lines after =>
    by_cases hid : id = id'
    · subst hid
      cases Option.some.inj (ht.symm.trans after)
      exact absurd hsignal waits
    · exact other (by rw [hm]; rfl) hid
  | looks id' u l rest hm task look before hp => exact proceeds (by rw [hm]; rfl) hp
  | acts id' actor hm looks hp => exact proceeds actor hp

end Session

end GuestLink
