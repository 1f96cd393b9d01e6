import GuestLink.Proofs.Capture
import GuestLink.Proofs.Session.Release

/-!
# Remote commands

What becomes of a remote command is decided by what its task is told and by when it is called off
(`Leg.meets`).  However it ends, it has opened one channel at most, has run on it once, and has
closed it before (`remote_command`).
-/

namespace GuestLink

/-- How far a remote command has come that has not ended. -/
inductive Leg where
  /-- It has asked for a channel. -/
  | opening
  /-- It runs on a channel. -/
  | running (channel : ChannelId)
  /-- It was called off and has closed its channel, but still runs. -/
  | leaving (channel : ChannelId)
  deriving DecidableEq, Repr

/-- What has become of a remote command. -/
inductive Fate where
  /-- There was no connection to run it on. -/
  | refused
  | waits (l : Leg)
  /-- It got no channel. -/
  | unopened (i : Incident)
  /-- It has come to its end before it was called off. -/
  | ended (channel : ChannelId) (answer : Except Incident CommandResult)
  /-- It was called off and has come to its end. -/
  | left (channel : ChannelId)
  /-- The caller has ended it. -/
  | dropped (l : Leg)

namespace Leg

/-- The channel that was opened. -/
def channel? : Leg → Option ChannelId
  | opening => none
  | running channel | leaving channel => some channel

/-- What the task waits for. -/
def stage (command : String) (signal : Option Signal) : Leg → Stage
  | opening => .opening command signal
  | running channel => .capturing channel command signal
  | leaving channel => .abandoning channel command

/-- What the task `id` has done for the command. -/
def acts (id : TaskId) (c : ClientId) (command : String) : Leg → List Act
  | opening => [.openChannel id c]
  | running channel => [.openChannel id c, .capture id channel command]
  | leaving channel =>
    [.openChannel id c, .capture id channel command, .closeChannel channel]

/-- What becomes of the command with a move of its task; `off` says whether it is called off. -/
def meets (off : Bool) : Leg → Move → Fate
  | opening, .answer _ (.channel (.ok channel)) => .waits (running channel)
  | opening, .answer _ (.channel (.error i)) => .unopened i
  | running channel, .answer _ (.captured answer) => .ended channel answer
  | running channel, .resume _ => .waits (if off then leaving channel else running channel)
  | leaving channel, .answer _ (.captured _) => .left channel
  | l, .abort _ => .dropped l
  | l, _ => .waits l

end Leg

namespace Fate

/-- How far the command came, unless it was refused. -/
def leg? : Fate → Option Leg
  | refused => none
  | waits l | dropped l => some l
  | unopened _ => some .opening
  | ended channel _ => some (.running channel)
  | left channel => some (.leaving channel)

/-- The channel that was opened. -/
def channel? (f : Fate) : Option ChannelId := f.leg?.bind Leg.channel?

/-- What the task waits for, if the command has not ended. -/
def stage? (command : String) (signal : Option Signal) : Fate → Option Stage
  | waits l => some (l.stage command signal)
  | _ => none

/-- Whether the task has ended. -/
def isOver : Fate → Bool
  | waits _ => false
  | _ => true

/-- How the task has ended. -/
def outcome? (command : String) : Fate → Option Outcome
  | refused => some (.failed (.noTransport command))
  | waits _ => none
  | unopened i => some (.failed (.openChannel command i))
  | ended _ (.error i) => some (.failed (.capture command i))
  | ended _ (.ok result) =>
    some (if result.exitStatus = 0 then .ok (.command result)
      else .failed (.exitStatus command result))
  | left _ => some (.failed (.closedRunning command))
  | dropped _ => some .aborted

/-- What the task `id` has done for the command before it came to its end. -/
def course (id : TaskId) (c : ClientId) (command : String) (f : Fate) : List Act :=
  (f.leg?.map (·.acts id c command)).getD []

/-- What the task `id` has done to end. -/
def ending (id : TaskId) (command : String) (f : Fate) : List Act :=
  match f.outcome? command with
  | none => []
  | some o => f.channel?.toList.map .closeChannel ++ [.finish id o]

/-- What the task `id` has done for the command. -/
def acts (id : TaskId) (c : ClientId) (command : String) (f : Fate) : List Act :=
  f.course id c command ++ f.ending id command

/-- What becomes of the command at first; `dead` says whether the connection is gone. -/
def first (dead : Bool) : Fate := if dead then refused else waits .opening

/-- What becomes of the command with a move of its task. -/
def meets (off : Bool) : Fate → Move → Fate
  | waits l, m => l.meets off m
  | f, _ => f

end Fate

/-- Whether an act asks for a channel. -/
def Act.opens : Act → Bool
  | .openChannel .. => true
  | _ => false

/-- The channel on which an act runs a command, and the command. -/
def Act.runs? : Act → Option (ChannelId × String)
  | .capture _ channel command => some (channel, command)
  | _ => none

namespace Outcome

/-- Whether an outcome is the report of a remote command with these details. -/
def Reports (o : Outcome) (command stderr : String) (status : Datum) (cause : Option Incident) :
    Prop :=
  ∃ t r, o = .failed t ∧ t.failure = .report r ∧ r.kind = .remote ∧
    r.details = [("command", .text command), ("stderr", .text stderr), ("exit_status", status)] ∧
    r.cause = cause.map .incident

/-- Whether an outcome is what an incident makes of a remote command: a report without a status, if
the SSH library or the operating system raised it, and else the incident itself. -/
def Renders (o : Outcome) (command : String) (i : Incident) : Prop :=
  if i.isSsh || i.isOs then o.Reports command "" .null (some i)
  else ∃ t, o = .failed t ∧ t.failure = .incident i

end Outcome

/-- Whether an outcome is the right one for what has become of a command. -/
def Fate.Shows (command : String) : Fate → Outcome → Prop
  | refused, o => o.Reports command "" .null none
  | waits _, _ => False
  | unopened i, o | ended _ (.error i), o => o.Renders command i
  | ended _ (.ok result), o =>
    if result.exitStatus = 0 then o = .ok (.command result)
    else o.Reports command (Trouble.guestText result.stderr) (.int result.exitStatus) none
  | left _, o => ∃ t, o = .failed t ∧ t.IsCancelled
  | dropped _, o => o = .aborted

/-- Whether the task `id`, whose command has become `f`, has kept to the rules: it has asked for one
channel at most, and for none if there was no connection; it has run the command once on the channel
that was opened, if one was, and no other; it has closed the channel before it ended; and it has
ended once, and in the right way, unless it still waits. -/
structure Orderly (acts : List Act) (id : TaskId) (command : String) (f : Fate) : Prop where
  opens : acts.countP Act.opens ≤ 1
  refused : f = .refused → acts.countP Act.opens = 0
  runs : acts.filterMap Act.runs? = f.channel?.toList.map (·, command)
  closes : ∀ channel ∈ f.channel?, ∀ o, .finish id o ∈ acts →
    [.closeChannel channel, .finish id o].Sublist acts
  ends : acts.countP (·.ends? == some id) = if f.isOver then 1 else 0
  shows : ∀ o, .finish id o ∈ acts → f.Shows command o

/-! ### What comes of a command -/

namespace Fate

variable {f : Fate} {id : TaskId} {command : String} {o : Outcome}

theorem stage?_of_outcome? (h : f.outcome? command = some o) (signal : Option Signal) :
    f.stage? command signal = none := by
  cases f with
  | waits => cases h
  | _ => rfl

theorem shows_of_outcome? (h : f.outcome? command = some o) : f.Shows command o := by
  have renders {t : Incident → Trouble} (i : Incident) (text : String)
      (ht : (t i).failure = if i.isSsh || i.isOs then
        .report (Trouble.remoteReport (text ++ i.text) command (some i)) else .incident i) :
      (Outcome.failed (t i)).Renders command i := by
    unfold Outcome.Renders
    split_ifs at ht ⊢ with hi
    · exact ⟨_, _, rfl, ht, rfl, rfl, rfl⟩
    · exact ⟨_, rfl, ht⟩
  cases f with
  | waits => cases h
  | refused => cases h; exact ⟨_, _, rfl, rfl, rfl, rfl, rfl⟩
  | unopened i => cases h; exact renders i _ rfl
  | left => cases h; exact ⟨_, rfl, _, rfl, rfl⟩
  | dropped => cases h; rfl
  | ended channel answer =>
    cases answer with
    | error i => cases h; exact renders i _ rfl
    | ok result =>
      cases h
      show if _ then _ else _
      split_ifs
      · rfl
      · exact ⟨_, _, rfl, rfl, rfl, rfl, rfl⟩

/-- What a task has done that has ended: its last act is the end, and the channel was closed
before. -/
theorem ending_of_isOver (h : f.isOver = true) (id : TaskId) (command : String) : ∃ o,
    f.ending id command = f.channel?.toList.map .closeChannel ++ [.finish id o] ∧
      f.Shows command o := by
  obtain ⟨o, ho⟩ : ∃ o, f.outcome? command = some o := by
    cases f with
    | waits => cases h
    | ended _ answer => cases answer <;> exact ⟨_, rfl⟩
    | _ => exact ⟨_, rfl⟩
  exact ⟨o, by rw [ending, ho], shows_of_outcome? ho⟩

theorem ending_of_not_isOver (h : f.isOver = false) : f.ending id command = [] := by
  cases f with
  | waits => rfl
  | _ => cases h

theorem course_facts (f : Fate) (id : TaskId) (c : ClientId) (command : String) :
    (f.course id c command).countP Act.opens ≤ 1 ∧
      (f = .refused → (f.course id c command).countP Act.opens = 0) ∧
      (f.course id c command).filterMap Act.runs? = f.channel?.toList.map (·, command) ∧
      ∀ a ∈ f.course id c command, a.ends? = none := by
  cases hl : f.leg? with
  | none =>
    have hc : f.course id c command = [] := by rw [course, hl]; rfl
    rw [hc, channel?, hl]
    exact ⟨Nat.zero_le _, fun _ => rfl, rfl, List.forall_mem_nil _⟩
  | some l =>
    have hc : f.course id c command = l.acts id c command := by rw [course, hl]; rfl
    have hf : f ≠ .refused := by
      rintro rfl
      cases hl
    rw [hc, channel?, hl]
    cases l <;> exact ⟨le_rfl, fun h => absurd h hf, rfl, by simp [Leg.acts, Act.ends?]⟩

theorem ending_facts (f : Fate) (id : TaskId) (command : String) :
    (f.ending id command).countP Act.opens = 0 ∧
      (f.ending id command).filterMap Act.runs? = [] ∧
      (f.ending id command).countP (·.ends? == some id) = if f.isOver then 1 else 0 := by
  cases hover : f.isOver with
  | false =>
    rw [ending_of_not_isOver hover]
    exact ⟨rfl, rfl, rfl⟩
  | true =>
    obtain ⟨o, ho, -⟩ := ending_of_isOver hover id command
    rw [ho]
    cases f.channel? with
    | none => exact ⟨rfl, rfl, by simp [Act.ends?]⟩
    | some channel => exact ⟨rfl, rfl, by simp [Act.ends?]⟩

end Fate

theorem orderly_acts (id : TaskId) (c : ClientId) (command : String) (f : Fate) :
    Orderly (f.acts id c command) id command f := by
  obtain ⟨hopens, hrefused, hruns, hends⟩ := f.course_facts id c command
  obtain ⟨hopens', hruns', hends'⟩ := f.ending_facts id command
  have ends {o : Outcome} (ho : .finish id o ∈ f.acts id c command) :
      f.ending id command = f.channel?.toList.map .closeChannel ++ [.finish id o] ∧
        f.Shows command o := by
    rcases List.mem_append.1 ho with ho | ho
    · cases hends _ ho
    cases hover : f.isOver with
    | false =>
      rw [Fate.ending_of_not_isOver hover] at ho
      cases ho
    | true =>
      obtain ⟨o', ho', hshows⟩ := Fate.ending_of_isOver hover id command
      have he : o = o' := by simpa [ho'] using ho
      exact he ▸ ⟨ho', hshows⟩
  refine ⟨?_, fun hf => ?_, ?_, fun channel hc o ho => ?_, ?_, fun o ho => (ends ho).2⟩
  · rw [Fate.acts, List.countP_append, hopens']
    exact hopens
  · rw [Fate.acts, List.countP_append, hopens', hrefused hf]
  · rw [Fate.acts, List.filterMap_append, hruns', List.append_nil]
    exact hruns
  · rw [Fate.acts, (ends ho).1, hc]
    exact List.sublist_append_right _ _
  · have hzero : (f.course id c command).countP (·.ends? == some id) = 0 :=
      List.countP_eq_zero.2 fun a ha => by simp [hends a ha]
    rw [Fate.acts, List.countP_append, hzero, hends', Nat.zero_add]

theorem Orderly.newClient {acts : List Act} {id : TaskId} {command : String} {f : Fate}
    (h : Orderly acts id command f) (c : ClientId) :
    Orderly (.newClient c :: acts) id command f := by
  have mem {a : Act} (ha : a ∈ Act.newClient c :: acts) (hne : a.ends? ≠ none) : a ∈ acts := by
    rcases List.mem_cons.1 ha with rfl | ha
    · exact absurd rfl hne
    · exact ha
  refine ⟨?_, fun hf => ?_, ?_, fun channel hc o ho => ?_, ?_, fun o ho => ?_⟩
  · rw [List.countP_cons_of_neg (by simp [Act.opens])]
    exact h.opens
  · rw [List.countP_cons_of_neg (by simp [Act.opens])]
    exact h.refused hf
  · rw [List.filterMap_cons_none rfl]
    exact h.runs
  · exact (h.closes channel hc o (mem ho nofun)).cons _
  · rw [List.countP_cons_of_neg (by simp [Act.ends?])]
    exact h.ends
  · exact h.shows o (mem ho nofun)

namespace Session

/-- Whether a job runs a command on the client `c` until `signal` calls it off, if there is one. -/
inductive RunsOn (s : Session) : Job → ClientId → String → Option Signal → Prop
  | caller (command : String) (signal : Option Signal) :
      RunsOn s (.runOn command signal) s.clients command signal
  | session (command : String) (c : ClientId) (opened : s.closed = false)
      (client : s.client = some c) : RunsOn s (.run command) c command (some .closed)

/-- What a job does before it runs its command: a caller's client is made. -/
def made (s : Session) : Job → List Act
  | .runOn .. => [.newClient s.clients]
  | _ => []

/-- What the task `id` does with a move besides keeping records. -/
def doing (s : Session) (id : TaskId) (m : Move) : List Act :=
  if s.actor? m = some id then (s.since (s.step m)).filter (!·.isLog) else []

/-- What the task `id` does in a run besides keeping records. -/
def doings (s : Session) (id : TaskId) : List Move → List Act
  | [] => []
  | m :: moves => s.doing id m ++ (s.step m).doings id moves

/-- What becomes of the command of the task `id` with a move. -/
def nextFate (s : Session) (id : TaskId) (f : Fate) (m : Move) : Fate :=
  if s.actor? m = some id then f.meets ((s.task? id).any s.isCalledOff) m else f

/-- What becomes of the command of the task `id` in a run. -/
def fate (s : Session) (id : TaskId) (f : Fate) : List Move → Fate
  | [] => f
  | m :: moves => (s.step m).fate id (s.nextFate id f m) moves

/-- Whether the task `id` waits as it does whose command has become `f`. -/
structure Bears (s : Session) (id : TaskId) (command : String) (signal : Option Signal)
    (f : Fate) : Prop where
  started : id < s.started
  stage : s.stage? id = f.stage? command signal

variable {s : Session} {id : TaskId} {m : Move} {c : ClientId} {command : String}
  {signal : Option Signal} {l : Leg} {f : Fate}

/-! ### A move of the task -/

theorem doing_of_history {acts : List Act} (ha : s.actor? m = some id)
    (hh : (s.step m).history = s.history ++ acts) : s.doing id m = acts.filter (!·.isLog) := by
  rw [doing, if_pos ha, since_of_history hh]

/-- Whether with a move of its task a command comes to `f`. -/
structure ComesTo (s : Session) (id : TaskId) (command : String) (signal : Option Signal) (l : Leg)
    (m : Move) (f : Fate) : Prop where
  stage : (s.step m).stage? id = f.stage? command signal
  acts : ∃ acts, (s.step m).history = s.history ++ acts ∧
    ∀ c, f.acts id c command = l.acts id c command ++ acts.filter (!·.isLog)

namespace ComesTo

theorem of_tell (rs : List Log.Record) (hs : s.stage? id = some (l.stage command signal))
    (hstep : s.step m = s.tell rs) : s.ComesTo id command signal l m (.waits l) := by
  refine ⟨by rw [hstep]; exact hs, rs.map .log, by rw [hstep]; rfl, fun c => ?_⟩
  rw [filter_isLog_records]
  rfl

theorem of_suspend {l' : Leg} {a : Act} (hl : a.isLog = false)
    (hstage : (s.step m).stage? id = some (l'.stage command signal))
    (hh : (s.step m).history = s.history ++ [a])
    (hacts : ∀ c, l'.acts id c command = l.acts id c command ++ [a]) :
    s.ComesTo id command signal l m (.waits l') := by
  refine ⟨hstage, [a], hh, fun c => ?_⟩
  rw [List.filter_singleton]
  simp [Fate.acts, Fate.course, Fate.ending, Fate.leg?, Fate.outcome?, hacts, hl]

theorem of_finish {s₁ : Session} {o : Outcome} (pre : List Act) (hstep : s.step m = s₁.finish id o)
    (hh : s₁.history = s.history ++ pre) (hl : f.leg? = some l) (ho : f.outcome? command = some o)
    (hpre : pre.filter (!·.isLog) = l.channel?.toList.map .closeChannel) :
    s.ComesTo id command signal l m f := by
  refine ⟨?_, pre ++ [.finish id o], ?_, fun c => ?_⟩
  · rw [hstep, stage?_finish, if_pos rfl, Fate.stage?_of_outcome? ho]
  · rw [hstep, finish_history, hh, List.append_assoc]
  · have hfilter : (pre ++ [Act.finish id o]).filter (!·.isLog) =
        l.channel?.toList.map .closeChannel ++ [.finish id o] := by
      rw [List.filter_append, hpre]
      rfl
    rw [hfilter, Fate.acts, Fate.course, Fate.ending, Fate.channel?, hl, ho]
    rfl

end ComesTo

theorem resume_of_capturing {t : Task} {channel : ChannelId}
    (ht : t.stage = .capturing channel command signal) : s.resume t =
      if s.isCalledOff t then
        (s.emit (.closeChannel channel)).suspend t.id (.abandoning channel command)
      else s := by
  rw [resume, ht]
  rfl

section

variable {t : Task} (ht : s.task? t.id = some t) (hstage : t.stage = l.stage command signal)
include ht hstage

theorem comesTo_of_resume : s.ComesTo t.id command signal l (.resume t.id)
    (l.meets (s.isCalledOff t) (.resume t.id)) := by
  have hs : s.stage? t.id = some (l.stage command signal) := stage?_eq_some.2 ⟨t, ht, hstage⟩
  have hstep : s.step (.resume t.id) = s.resume t := withTask_of_some ht s.resume
  have rests (hr : s.resume t = s) : s.ComesTo t.id command signal l (.resume t.id) (.waits l) :=
    .of_tell [] hs (by rw [hstep, hr, tell_nil])
  cases l with
  | opening | leaving =>
    have hc (channel command' signal') : t.stage ≠ .capturing channel command' signal' := by
      simp [hstage, Leg.stage]
    exact rests (still (by rw [hstage]; rfl) (by rw [hstage]; rfl) hc).resume
  | running channel =>
    have hr := resume_of_capturing (s := s) hstage
    rw [Leg.meets]
    split_ifs with hoff
    · rw [if_pos hoff] at hr
      refine .of_suspend (a := .closeChannel channel) rfl ?_ ?_ fun c => rfl
      · rw [hstep, hr, stage?_suspend, if_pos rfl]
        rfl
      · rw [hstep, hr]
        rfl
    · exact rests (hr.trans (if_neg hoff))

theorem comesTo_of_notify : s.ComesTo t.id command signal l (.notify t.id) (.waits l) := by
  have hs : s.stage? t.id = some (l.stage command signal) := stage?_eq_some.2 ⟨t, ht, hstage⟩
  rcases step_notify ht with hstep | ⟨-, hstep⟩
  · exact .of_tell [] hs (hstep.trans (tell_nil s).symm)
  · refine ⟨?_, [], by rw [hstep]; exact (List.append_nil _).symm, fun c => rfl⟩
    rw [hstep]
    exact stage?_eq_some.2 ⟨{ t with notice := some (s.notice t) }, task?_inform ht _, hstage⟩

theorem comesTo_of_abort : s.ComesTo t.id command signal l (.abort t.id) (.dropped l) := by
  have hstep : s.step (.abort t.id) = s.abort t := withTask_of_some ht s.abort
  rw [abort, hstage] at hstep
  cases l with
  | opening => exact .of_finish [] hstep (List.append_nil _).symm rfl rfl rfl
  | running channel | leaving channel =>
    exact .of_finish [.closeChannel channel] hstep rfl rfl rfl rfl

theorem comesTo_of_answer (reply : Reply) : s.ComesTo t.id command signal l (.answer t.id reply)
    (l.meets (s.isCalledOff t) (.answer t.id reply)) := by
  have hs : s.stage? t.id = some (l.stage command signal) := stage?_eq_some.2 ⟨t, ht, hstage⟩
  obtain ⟨rs, hrs, he⟩ := exists_answer_tell s t.id reply
  rw [withTask_of_some (s := s.tell rs) ht, hstage] at he
  have hstep : s.step (.answer t.id reply) = _ := he
  cases l with
  | opening =>
    cases reply with
    | channel answer =>
      rw [hrs (by simp), tell_nil] at hstep
      cases answer with
      | error i => exact .of_finish [] hstep (List.append_nil _).symm rfl rfl rfl
      | ok channel =>
        have hrun : s.step (.answer t.id (.channel (.ok channel))) =
            (s.suspend t.id (.capturing channel command signal)).emit
              (.capture t.id channel command) := hstep
        refine .of_suspend (a := .capture t.id channel command) rfl ?_ (by rw [hrun]; rfl)
          fun c => rfl
        rw [hrun, stage?_emit, stage?_suspend, if_pos rfl]
        rfl
    | _ => exact .of_tell rs hs hstep
  | running channel =>
    cases reply with
    | captured answer =>
      rw [hrs (by simp), tell_nil] at hstep
      cases answer with
      | error i => exact .of_finish [.closeChannel channel] hstep rfl rfl rfl rfl
      | ok result =>
        have hend : s.step (.answer t.id (.captured (.ok result))) =
            (s.emit (.closeChannel channel)).endRun t.id command result := hstep
        rw [endRun] at hend
        by_cases hzero : result.exitStatus = 0
        · rw [if_pos hzero] at hend
          exact .of_finish [.closeChannel channel, .log _] hend (List.append_assoc ..) rfl
            (congrArg some (if_pos hzero)) rfl
        · rw [if_neg hzero] at hend
          exact .of_finish [.closeChannel channel] hend rfl rfl
            (congrArg some (if_neg hzero)) rfl
    | _ => exact .of_tell rs hs hstep
  | leaving channel =>
    cases reply with
    | captured answer =>
      rw [hrs (by simp), tell_nil] at hstep
      exact .of_finish [.closeChannel channel] hstep rfl rfl rfl rfl
    | _ => exact .of_tell rs hs hstep

end

theorem comesTo (hid : id < s.started) (hs : s.stage? id = some (l.stage command signal))
    (ha : s.actor? m = some id) :
    s.ComesTo id command signal l m (l.meets ((s.task? id).any s.isCalledOff) m) := by
  obtain ⟨t, ht, hstage⟩ := stage?_eq_some.1 hs
  obtain rfl := id_of_task? ht
  rw [ht, Option.any_some]
  have stays {f : Task → Session} (hm : s.step m = s.withTask t.id f) (hf : f t = s) :
      s.ComesTo t.id command signal l m (.waits l) :=
    .of_tell [] hs (by rw [hm, withTask_of_some ht, hf, tell_nil])
  cases m with
  | deal =>
    cases ha
    have hd : s.deal t = s := deal_eq_self (by rw [hstage]; cases l <;> rfl)
    cases l <;> exact stays rfl hd
  | expire =>
    cases ha
    have hd : s.expire t = s := expire_eq_self (by rw [hstage]; cases l <;> rfl)
    cases l <;> exact stays rfl hd
  | notify =>
    cases ha
    have h := comesTo_of_notify ht hstage
    cases l <;> exact h
  | resume =>
    cases ha
    exact comesTo_of_resume ht hstage
  | abort =>
    cases ha
    have h := comesTo_of_abort ht hstage
    cases l <;> exact h
  | answer _ reply =>
    cases ha
    exact comesTo_of_answer ht hstage reply
  | start j => exact absurd (Option.some.inj ha) hid.ne'
  | _ => cases ha

/-! ### What a task does in a run -/

theorem history_prefix_run (s : Session) (moves : List Move) :
    s.history <+: (s.run moves).history := by
  induction moves generalizing s with
  | nil => exact List.prefix_refl _
  | cons m moves ih =>
    obtain ⟨acts, hacts, -⟩ := exists_acts s m
    exact (hacts ▸ List.prefix_append ..).trans (ih (s.step m))

theorem since_run_cons (s : Session) (m : Move) (moves : List Move) :
    s.since (s.run (m :: moves)) =
      s.since (s.step m) ++ (s.step m).since ((s.step m).run moves) := by
  obtain ⟨more, hmore⟩ := history_prefix_run (s.step m) moves
  rw [since_of_history hmore.symm]
  exact since_append (history_prefix_run s [m]) hmore.symm

theorem doings_sublist (s : Session) (id : TaskId) (moves : List Move) :
    (s.doings id moves).Sublist (s.since (s.run moves)) := by
  induction moves generalizing s with
  | nil => exact List.nil_sublist _
  | cons m moves ih =>
    rw [since_run_cons, doings, doing]
    refine List.Sublist.append ?_ (ih (s.step m))
    split_ifs
    · exact List.filter_sublist
    · exact List.nil_sublist _

/-- An act that names a task is done by that task. -/
theorem mem_doings {a : Act} {moves : List Move} (ha : a ∈ s.since (s.run moves))
    (hid : a.task? = some id) : a ∈ s.doings id moves := by
  induction moves generalizing s with
  | nil => simp [since, run] at ha
  | cons m moves ih =>
    rw [since_run_cons] at ha
    rw [doings, List.mem_append]
    refine (List.mem_append.1 ha).imp (fun hfirst => ?_) ih
    obtain ⟨acts, hacts, hactor⟩ := exists_acts s m
    have hlog : a.isLog = false := by
      cases a with
      | log => cases hid
      | _ => rfl
    rw [doing, if_pos (hactor a (since_of_history hacts ▸ hfirst) id hid)]
    exact List.mem_filter.2 ⟨hfirst, by simp [hlog]⟩

/-! ### The course of a command -/

theorem Bears.step (h : s.Bears id command signal f) (m : Move) :
    (s.step m).Bears id command signal (s.nextFate id f m) ∧
      ∀ c, (s.nextFate id f m).acts id c command = f.acts id c command ++ s.doing id m := by
  have hid := h.started.trans_le (started_le_step s m)
  by_cases ha : s.actor? m = some id
  · rw [nextFate, if_pos ha]
    have gone (hs : s.stage? id = none) (hf : f.stage? command signal = none) :
        (s.step m).Bears id command signal f ∧
          ∀ c, f.acts id c command = f.acts id c command ++ s.doing id m := by
      obtain ⟨rs, hstep⟩ := exists_tell_of_gone (Option.map_eq_none_iff.1 hs) h.started ha
      refine ⟨⟨hid, by rw [hstep, hf]; exact hs⟩, fun c => ?_⟩
      have hd := doing_of_history ha (congrArg Session.history hstep)
      rw [hd, filter_isLog_records, List.append_nil]
    cases f with
    | waits l =>
      have hc := comesTo h.started h.stage ha
      obtain ⟨acts, hh, hacts⟩ := hc.acts
      refine ⟨⟨hid, hc.stage⟩, fun c => ?_⟩
      rw [doing_of_history ha hh, Fate.meets, hacts]
      simp [Fate.acts, Fate.course, Fate.ending, Fate.leg?, Fate.outcome?]
    | _ => exact gone h.stage rfl
  · rw [nextFate, if_neg ha, doing, if_neg ha]
    exact ⟨⟨hid, (stage?_step_of_ne ha).trans h.stage⟩, fun c => (List.append_nil _).symm⟩

theorem Bears.run (h : s.Bears id command signal f) (moves : List Move) :
    (s.run moves).Bears id command signal (s.fate id f moves) ∧
      ∀ c, (s.fate id f moves).acts id c command =
        f.acts id c command ++ s.doings id moves := by
  induction moves generalizing s f with
  | nil => exact ⟨h, fun c => (List.append_nil _).symm⟩
  | cons m moves ih =>
    obtain ⟨hstep, hacts⟩ := h.step m
    obtain ⟨hrun, hacts'⟩ := ih hstep
    refine ⟨hrun, fun c => ?_⟩
    rw [fate, doings, hacts', hacts, List.append_assoc]

/-- A command is refused, or begins with asking for a channel. -/
theorem beginRun_eq (s : Session) (id : TaskId) (c : ClientId) (command : String)
    (signal : Option Signal) :
    (s.beginRun id c command signal).stage? id =
        (Fate.first (s.deadClients.contains c)).stage? command signal ∧
      (s.beginRun id c command signal).history =
        s.history ++ (Fate.first (s.deadClients.contains c)).acts id c command := by
  rw [beginRun]
  split_ifs with hdead
  · rw [hdead]
    refine ⟨?_, rfl⟩
    rw [fail_eq, stage?_finish, if_pos rfl]
    rfl
  · rw [Bool.eq_false_iff.2 hdead]
    refine ⟨?_, rfl⟩
    rw [stage?_emit, stage?_suspend, if_pos rfl]
    rfl

theorem RunsOn.start {j : Job} (h : s.RunsOn j c command signal) :
    let f := Fate.first (s.deadClients.contains c)
    (s.step (.start j)).Bears s.started command signal f ∧
      s.doing s.started (.start j) = s.made j ++ f.acts s.started c command := by
  intro f
  -- The session in which the command begins has at most made a client.
  obtain ⟨s₁, hstep, hdead, hh⟩ : ∃ s₁ : Session,
      s.step (.start j) = s₁.beginRun s.started c command signal ∧
        s₁.deadClients = s.deadClients ∧ s₁.history = s.history ++ s.made j := by
    cases h with
    | caller => exact ⟨_, rfl, rfl, rfl⟩
    | session command c opened client =>
      refine ⟨{ s with started := s.started + 1 }, ?_, rfl, (List.append_nil _).symm⟩
      rw [Session.step, Session.start, beginJob]
      simp only [opened, client]
      rfl
  obtain ⟨hstage, hacts⟩ := beginRun_eq s₁ s.started c command signal
  rw [hdead] at hstage hacts
  rw [hh, ← hstep, List.append_assoc] at hacts
  refine ⟨⟨(start_only s j).started, hstep ▸ hstage⟩, ?_⟩
  rw [doing_of_history rfl hacts, List.filter_append]
  congr 1
  · cases j <;> rfl
  · show (f.acts s.started c command).filter _ = _
    unfold f
    cases s.deadClients.contains c <;> rfl

theorem nextFate_eq_refused : s.nextFate id f m = .refused ↔ f = .refused := by
  rw [nextFate]
  split_ifs
  · cases f with
    | waits l =>
      rw [Fate.meets]
      unfold Leg.meets
      split <;> simp
    | _ => rfl
  · rfl

theorem fate_eq_refused (moves : List Move) :
    s.fate id f moves = .refused ↔ f = .refused := by
  induction moves generalizing s f with
  | nil => rfl
  | cons m moves ih => exact ih.trans nextFate_eq_refused

/-- The task of a remote command does what its fate says and nothing else, and has ended just if its
fate is decided: the command was refused because there was no connection; it got no channel; it
came to its end before it was called off; it was called off and came to its end behind that; or the
caller ended it.  Whichever it is, and whatever else happens in the session, the task has kept to
the rules.  A capture puts the command to its channel once at most, and its result is what the
channel has handed over. -/
theorem remote_command {j : Job} (h : s.RunsOn j c command signal) (moves : List Move) :
    let id := s.started
    let s' := s.run (.start j :: moves)
    let acts := s.doings id (.start j :: moves)
    let f := (s.step (.start j)).fate id (.first (s.deadClients.contains c)) moves
    (acts.Sublist (s.since s') ∧ ∀ a ∈ s.since s', a.task? = some id → a ∈ acts) ∧
      acts = s.made j ++ f.acts id c command ∧ s'.stage? id = f.stage? command signal ∧
      (f = .refused ↔ c ∈ s.deadClients) ∧ Orderly acts id command f ∧
      ∀ answers, let d := Capture.start.dialogue answers
        d.countP (·.1 == .exec) ≤ 1 ∧
          ∀ a, (Capture.start.run answers).answer? = some a → Capture.Concludes d a := by
  intro id s' acts f
  obtain ⟨hbears, hfirst⟩ := h.start
  obtain ⟨hrun, hacts⟩ := hbears.run moves
  have hall : acts = s.made j ++ f.acts id c command := by
    show s.doing id (.start j) ++ _ = _
    rw [hfirst, List.append_assoc, ← hacts]
  have horderly : Orderly acts id command f := by
    rw [hall]
    cases h with
    | caller => exact (orderly_acts id _ command f).newClient _
    | session => exact orderly_acts id c command f
  refine ⟨⟨doings_sublist s id _, fun a => mem_doings⟩, hall, hrun.stage, ?_, horderly,
    fun answers => ⟨Capture.countP_exec_le_one answers, fun a => Capture.concludes_of_answer?⟩⟩
  rw [fate_eq_refused, Fate.first, ← List.contains_iff_mem]
  cases s.deadClients.contains c <;> simp

/-- A command that runs when its session is closed is called off: its channel is closed, and closed
once more when it has come to its end. -/
theorem remote_command_sample :
    let s : Session := { sample with client := some 0 }
    let moves : List Move := [.answer 1 (.channel (.ok 7)), .start .close, .resume 1,
      .answer 1 (.captured (.ok ⟨[111, 107], [], 0⟩))]
    s.doings 1 (.start (.run "sleep 9") :: moves) =
      [.openChannel 1 0, .capture 1 7 "sleep 9", .closeChannel 7, .closeChannel 7,
        .finish 1 (.failed (.closedRunning "sleep 9"))] := by
  intro s moves
  obtain ⟨-, hacts, -⟩ := remote_command (s := s) (.session "sleep 9" 0 rfl rfl) moves
  exact hacts

end Session

end GuestLink
