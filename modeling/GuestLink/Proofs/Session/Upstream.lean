import GuestLink.Proofs.Session.Frame
import Mathlib.Tactic.SplitIfs

/-!
# What leaves the incoming half of a console alone

Tasks take lines from the queue of a console, own it and close its writer, but what arrives and how
it is read is none of their business: all they can do to the incoming half is to stop its reader
(`step_upstream`).
-/

namespace GuestLink

namespace Console

/-- A console without its queue, its owner and its writer. -/
def half (c : Console) : Console := { c with lines := [], owned := false, writer := {} }

/-- Whether from `c` to `c'` the incoming half of a console is left alone, but that its reader may
have been stopped. -/
structure Upstream (c c' : Console) : Prop where
  limit : c'.limit = c.limit
  buffer : c'.buffer = c.buffer
  inputClosed : c'.inputClosed = c.inputClosed
  inputFault : c'.inputFault = c.inputFault
  ended : c.ended = true → c'.ended = true
  reader : c'.reader = c.reader ∧ c'.ended = c.ended ∨ c'.reader = .absent

theorem Upstream.of_half {c c' : Console} (h : c'.half = c.half) : c.Upstream c' where
  limit := (congrArg Console.limit h :)
  buffer := (congrArg Console.buffer h :)
  inputClosed := (congrArg Console.inputClosed h :)
  inputFault := (congrArg Console.inputFault h :)
  ended := (congrArg Console.ended h :).trans
  reader := .inl ⟨(congrArg Console.reader h :), (congrArg Console.ended h :)⟩

theorem Upstream.refl (c : Console) : c.Upstream c := .of_half rfl

theorem Upstream.of_half_eq {c c' c'' : Console} (h : c.Upstream c') (hc : c''.half = c'.half) :
    c.Upstream c'' := by
  have h' := Upstream.of_half hc
  refine ⟨h'.limit.trans h.limit, h'.buffer.trans h.buffer, h'.inputClosed.trans h.inputClosed,
    h'.inputFault.trans h.inputFault, h'.ended ∘ h.ended, ?_⟩
  rcases h'.reader with ⟨hr', he'⟩ | hr'
  · exact h.reader.imp (fun hr => ⟨hr'.trans hr.1, he'.trans hr.2⟩) hr'.trans
  · exact .inr hr'

end Console

namespace Session

variable {s s₁ s' : Session} {id : TaskId} {t : Task} {m : Move}

theorem half_beginCommand (s : Session) (id : TaskId) (errand : Errand) (line : Bytes)
    (timeout : Binary64) :
    (s.beginCommand id errand line timeout).console.half = s.console.half := by
  unfold beginCommand
  split_ifs
  · rfl
  · rfl
  · rfl
  · dsimp only
    split <;> rfl

theorem half_beginScan (s : Session) (id : TaskId) (boot : Option Identity) :
    (s.beginScan id boot).console.half = s.console.half := half_beginCommand ..

theorem half_beginSetup (s : Session) (id : TaskId) (identity : Identity) (boot : Bool) :
    (s.beginSetup id identity boot).console.half = s.console.half := by
  unfold beginSetup
  split
  · rfl
  · exact half_beginCommand ..

theorem half_beginConnect (s : Session) (id : TaskId) (identity : Identity) (keys : HostKeys)
    (boot : Bool) : (s.beginConnect id identity keys boot).console.half = s.console.half := rfl

theorem half_afterSuccess (s : Session) (id : TaskId) (errand : Errand) (e : Serial.Exchange) :
    (s.afterSuccess id errand e).console.half = s.console.half := by
  unfold afterSuccess
  split
  · dsimp only
    split_ifs
    · rw [half_beginScan]
      rfl
    · rfl
  · rfl
  · split
    · rfl
    · exact half_beginConnect ..

theorem half_acceptLine (s : Session) (id : TaskId) (errand : Errand) (e : Serial.Exchange)
    (line : Bytes) : (s.acceptLine id errand e line).console.half = s.console.half := by
  unfold acceptLine
  split
  · rfl
  · exact half_afterSuccess ..
  · rfl
  · rfl

theorem half_consume (s : Session) (t : Task) (line : Bytes) :
    (s.consume t line).console.half = s.console.half := by
  unfold consume
  split
  · rfl
  · split_ifs <;> rfl
  · exact half_acceptLine ..
  · rfl

theorem half_giveUp (s : Session) (t : Task) : (s.giveUp t).console.half = s.console.half := by
  unfold giveUp
  split <;> rfl

theorem half_deal (s : Session) (t : Task) : (s.deal t).console.half = s.console.half := by
  unfold deal
  split <;> rfl

theorem half_notify (s : Session) (t : Task) : (s.notify t).console.half = s.console.half := by
  unfold notify
  split <;> rfl

theorem half_beginWrite (s : Session) (id : TaskId) (data : Bytes) :
    (s.beginWrite id data).console.half = s.console.half := by
  unfold beginWrite
  split_ifs
  · rfl
  · split <;> rfl

theorem half_resume (s : Session) (t : Task) : (s.resume t).console.half = s.console.half := by
  unfold resume
  split
  · unfold resumeWait
    split_ifs
    · exact half_giveUp ..
    split
    · exact half_consume ..
    · exact half_consume ..
    · exact half_giveUp ..
    · rfl
  · split_ifs <;> rfl
  · rfl

theorem half_expire (s : Session) (t : Task) : (s.expire t).console.half = s.console.half := by
  unfold expire
  split_ifs
  · split <;> rfl
  · rfl

theorem half_abort (s : Session) (t : Task) : (s.abort t).console.half = s.console.half := by
  unfold abort
  split <;> rfl

theorem half_beginRun (s : Session) (id : TaskId) (c : ClientId) (command : String)
    (signal : Option Signal) : (s.beginRun id c command signal).console.half = s.console.half := by
  unfold beginRun
  split_ifs <;> rfl

theorem half_endRun (s : Session) (id : TaskId) (command : String) (result : CommandResult) :
    (s.endRun id command result).console.half = s.console.half := by
  unfold endRun
  split_ifs <;> rfl

theorem half_afterConnect (s : Session) (id : TaskId) (c : ClientId) (r : ConnectRequest)
    (boot : Bool) (answer : Except ConnectFault Unit) :
    (s.afterConnect id c r boot answer).console.half = s.console.half := by
  unfold afterConnect
  split
  · rfl
  · dsimp only
    split_ifs <;> rfl

theorem closeConsole_upstream (s : Session) (id : TaskId) :
    s.console.Upstream (s.closeConsole id).console := by
  unfold closeConsole
  split_ifs
  · exact .of_half rfl
  split
  · exact .of_half rfl
  rename_i c rs hc
  have hu : s.console.Upstream c := by
    unfold Console.stopReader at hc
    split at hc <;> cases hc
    · exact .refl _
    · exact ⟨rfl, rfl, rfl, rfl, fun he => by rw [he]; rfl, .inr rfl⟩
    · exact ⟨rfl, rfl, rfl, rfl, fun he => by rw [he]; rfl, .inr rfl⟩
    · exact ⟨rfl, rfl, rfl, rfl, fun he => he, .inr rfl⟩
  dsimp only
  split_ifs
  · exact hu
  · split
    · exact hu.of_half_eq rfl
    · split_ifs <;> exact hu.of_half_eq rfl
    · exact hu.of_half_eq rfl

theorem beginClose_upstream (s : Session) (id : TaskId) :
    s.console.Upstream (s.beginClose id).console := by
  unfold beginClose
  dsimp only
  split
  · exact .of_half rfl
  · exact closeConsole_upstream { s with closed := true } id

theorem goOn_upstream (s : Session) (id : TaskId) (stage : Stage) (reply : Reply) :
    s.console.Upstream (s.goOn id stage reply).console := by
  unfold goOn
  split
  · exact .of_half rfl
  · exact .of_half rfl
  · exact .of_half rfl
  · exact .of_half rfl
  · split
    · exact .of_half rfl
    · exact .of_half (half_beginSetup ..)
  · exact .of_half (half_afterConnect ..)
  · exact .of_half rfl
  · exact closeConsole_upstream { s with client := none } id
  · exact .of_half rfl
  · exact .of_half rfl
  · exact .of_half rfl
  · exact .of_half rfl
  · exact .of_half rfl
  · exact .of_half (half_endRun ..)
  · exact .of_half rfl
  · exact .of_half rfl
  · exact .of_half rfl
  · exact .of_half rfl

theorem answer_upstream (s : Session) (id : TaskId) (reply : Reply) :
    s.console.Upstream (s.answer id reply).console := by
  have goes (s₁ : Session) (h : s₁.console = s.console) : s.console.Upstream
      (s₁.withTask id fun t => s₁.goOn id t.stage reply).console := by
    rw [← h]
    exact withTask_cases (p := fun s' => s₁.console.Upstream s'.console) (.of_half rfl)
      fun t _ => goOn_upstream ..
  unfold answer
  refine goes _ ?_
  split
  · split <;> rfl
  · rfl

theorem beginJob_upstream (s : Session) (id : TaskId) (j : Job) :
    s.console.Upstream (s.beginJob id j).console := by
  unfold beginJob
  split
  · split_ifs <;> exact .of_half rfl
  · split_ifs <;> exact .of_half rfl
  · exact .of_half (half_beginWrite ..)
  · exact closeConsole_upstream s id
  · split
    · exact .of_half rfl
    · dsimp only
      split_ifs <;> exact .of_half rfl
  · exact .of_half (half_beginRun ..)
  · exact .of_half rfl
  · exact .of_half rfl
  · exact .of_half (half_beginScan ..)
  · exact .of_half rfl
  · split_ifs
    · exact .of_half rfl
    · split
      · exact .of_half rfl
      · exact .of_half (half_beginRun ..)
  · exact beginClose_upstream s id

/-- A move that is none of the outside's, the reader's or the caller's with the incoming half of the
console. -/
theorem step_upstream (hm : m ≠ .read) (hr : ∀ data, m ≠ .receive data) (hc : m ≠ .closeInput)
    (hb : ∀ i, m ≠ .breakInput i) (hs : m ≠ .startReader) :
    s.console.Upstream (s.step m).console := by
  have task (id : TaskId) (f : Task → Session) (hf : ∀ t, (f t).console.half = s.console.half) :
      s.console.Upstream (s.withTask id f).console :=
    withTask_cases (p := fun s' => s.console.Upstream s'.console) (.of_half rfl) fun t _ =>
      .of_half (hf t)
  cases m with
  | receive data => exact absurd rfl (hr data)
  | closeInput => exact absurd rfl hc
  | breakInput i => exact absurd rfl (hb i)
  | read => exact absurd rfl hm
  | startReader => exact absurd rfl hs
  | deal id => exact task id _ (half_deal s)
  | notify id => exact task id _ (half_notify s)
  | resume id => exact task id _ (half_resume s)
  | expire id => exact task id _ (half_expire s)
  | abort id => exact task id _ (half_abort s)
  | answer id reply => exact answer_upstream s id reply
  | judge r type key =>
    rw [step, judge]
    split <;> exact .of_half rfl
  | start j => exact beginJob_upstream { s with started := s.started + 1 } s.started j
  | acquire =>
    rw [step, acquire]
    split_ifs <;> exact .of_half rfl
  | _ => exact .of_half rfl

/-- The end of the stream is not taken back. -/
theorem ended_step (h : s.console.ended = true) (m : Move) : (s.step m).console.ended = true := by
  cases m with
  | receive data =>
    have hr : (s.console.receive data).ended = s.console.ended := by
      unfold Console.receive
      split
      · rfl
      · exact wakeReader_ended ..
    exact hr.trans h
  | closeInput => exact (wakeReader_ended ..).trans h
  | breakInput i => exact (wakeReader_ended { s.console with inputFault := some i } _).trans h
  | startReader =>
    have hr : s.console.startReader.ended = s.console.ended := by
      unfold Console.startReader
      split <;> rfl
    exact hr.trans h
  | read =>
    have hr : s.console.read.1.ended = true := by
      unfold Console.read
      split
      · exact Bool.or_eq_true_iff.2 (.inl h)
      · exact h
    exact hr
  | _ => refine (step_upstream ?_ ?_ ?_ ?_ ?_).ended h <;> nofun

end Session

end GuestLink
