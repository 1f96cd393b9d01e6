import GuestLink.Proofs.Session.Ownership

/-!
# What becomes of the SSH clients

Few moves deal with a client that was made before: one connects or does not, one has closed or has
not, a task that waits for either is ended, and the session is closed.  `step_dealing` tells these
from all others, after which the session is closed if it was, has the client that it had, and has
closed none (`Apart`, `Idles`).
-/

namespace GuestLink

/-- The client that a waiting task deals with. -/
def Stage.client? : Stage → Option ClientId
  | .connecting c .. | .discarding c | .retiring c => some c
  | _ => none

/-- The client that an act closes or asks to close. -/
def Act.closes? : Act → Option ClientId
  | .closeClient c | .retireClient _ c => some c
  | _ => none

/-- The task that an act ends. -/
def Act.ends? : Act → Option TaskId
  | .finish id _ => some id
  | _ => none

/-- Whether an outcome is no result. -/
def Outcome.isFailure : Outcome → Bool
  | .ok _ => false
  | _ => true

namespace Session

/-- What the task with that number waits for. -/
def stage? (s : Session) (id : TaskId) : Option Stage := (s.task? id).map Task.stage

/-- Whether an act of the task `id` closes no client, ends no other task, and hands nothing to the
writer of the console if the session is closed, unless the caller asks for it. -/
structure Plain (s : Session) (m : Move) (id : TaskId) (a : Act) : Prop where
  closes : a.closes? = none
  ends : ∀ id' ∈ a.ends?, id' = id
  sends : s.closed = true → a.isSend = true → ∃ data, m = .start (.write data)

/-- Whether from `s` to `s'` the task `id` has done nothing with the move `m` but acts of its own
that concern no client made before. -/
structure Keeps (s s' : Session) (m : Move) (id : TaskId) : Prop where
  except : s'.except id = s.except id
  closed : s'.closed = s.closed
  client : s'.client = s.client
  plugged : s'.plugged = s.plugged
  now : s'.now = s.now
  clients : s.clients ≤ s'.clients
  acts : ∃ acts, s'.history = s.history ++ acts ∧ ∀ a ∈ acts, s.Plain m id a

/-- Whether from `s` to `s'` the task `id` is on its way, and has not claimed the console. -/
structure Leads (s s' : Session) (m : Move) (id : TaskId) : Prop extends s.Keeps s' m id where
  owned : s'.console.owned = true → s.console.owned = true

/-- Whether from `s` to `s'` the task `id` has gone on without a client made before.  It owns the
console only if it has begun a command. -/
structure Apart (s s' : Session) (m : Move) (id : TaskId) : Prop extends s.Keeps s' m id where
  stage : ∀ t ∈ s'.task? id, t.stage.client? = none ∨
    ∃ r boot, t.stage = .connecting s.clients r boot ∧ s.clients < s'.clients
  owned : s'.console.owned = true →
    s.console.owned = true ∨ s.plugged = true ∧ ∃ t ∈ s'.task? id, t.stage.isCommand = true

variable {s s₁ s' : Session} {id : TaskId} {t : Task} {m : Move}

theorem stage?_eq_some {stage : Stage} :
    s.stage? id = some stage ↔ ∃ t, s.task? id = some t ∧ t.stage = stage := Option.map_eq_some_iff

theorem stage?_step_of_ne (ha : s.actor? m ≠ some id) : (s.step m).stage? id = s.stage? id :=
  congrArg (Option.map Task.stage) (task?_step_of_ne ha)

theorem Plain.of_eq {a : Act} (hc : a.closes? = none) (he : a.ends? = none)
    (hs : a.isSend = false) : s.Plain m id a :=
  ⟨hc, fun id' hid => absurd hid (by rw [he]; exact Option.not_mem_none id'),
    fun _ hsend => absurd hsend (by simp [hs])⟩

namespace Leads

theorem refl (s : Session) (m : Move) (id : TaskId) : s.Leads s m id :=
  ⟨⟨rfl, rfl, rfl, rfl, rfl, le_rfl, [], (List.append_nil _).symm, List.forall_mem_nil _⟩,
    fun h => h⟩

theorem emit (h : s.Leads s' m id) {a : Act} (ha : s.Plain m id a) :
    s.Leads (s'.emit a) m id := by
  obtain ⟨acts, hacts, hplain⟩ := h.acts
  refine ⟨⟨h.except, h.closed, h.client, h.plugged, h.now, h.clients, acts ++ [a], ?_,
    fun b hb => ?_⟩, h.owned⟩
  · rw [emit_history, hacts, List.append_assoc]
  · rcases List.mem_append.1 hb with hb | hb
    exacts [hplain b hb, List.mem_singleton.1 hb ▸ ha]

theorem tell (h : s.Leads s' m id) (rs : List Log.Record) : s.Leads (s'.tell rs) m id := by
  obtain ⟨acts, hacts, hplain⟩ := h.acts
  refine ⟨⟨h.except, h.closed, h.client, h.plugged, h.now, h.clients, acts ++ rs.map .log, ?_,
    fun b hb => ?_⟩, h.owned⟩
  · rw [tell_history, hacts, List.append_assoc]
  · rcases List.mem_append.1 hb with hb | hb
    · exact hplain b hb
    · obtain ⟨r, -, rfl⟩ := List.mem_map.1 hb
      exact .of_eq rfl rfl rfl

theorem console (h : s.Leads s' m id) (c : Console)
    (hc : c.owned = true → s'.console.owned = true) : s.Leads { s' with console := c } m id :=
  ⟨⟨h.except, h.closed, h.client, h.plugged, h.now, h.clients, h.acts⟩, fun ho => h.owned (hc ho)⟩

theorem release (h : s.Leads s' m id) : s.Leads s'.release m id := h.console _ nofun

theorem withLines (h : s.Leads s' m id) (lines : List Bytes) : s.Leads (s'.withLines lines) m id :=
  h.console _ fun ho => ho

theorem identity (h : s.Leads s' m id) (i : Option Identity) :
    s.Leads { s' with identity := i } m id :=
  ⟨⟨h.except, h.closed, h.client, h.plugged, h.now, h.clients, h.acts⟩, h.owned⟩

theorem newClient (h : s.Leads s' m id) : s.Leads { s' with clients := s'.clients + 1 } m id :=
  ⟨⟨h.except, h.closed, h.client, h.plugged, h.now, Nat.le_succ_of_le h.clients, h.acts⟩, h.owned⟩

theorem finish (h : s.Leads s' m id) (o : Outcome) : s.Apart (s'.finish id o) m id := by
  have hf := h.emit (a := .finish id o) ⟨rfl, fun _ hid => (Option.some.inj hid).symm, nofun⟩
  refine ⟨⟨(except_finish s' id o).trans h.except, h.closed, h.client, h.plugged, h.now, h.clients,
    hf.acts⟩, ?_, fun ho => .inl (h.owned ho)⟩
  intro t ht
  rw [task?_finish_self] at ht
  cases ht

theorem suspend (h : s.Leads s' m id) {stage : Stage} (hs : stage.client? = none) :
    s.Apart (s'.suspend id stage) m id := by
  refine ⟨⟨(except_suspend s' id stage).trans h.except, h.closed, h.client, h.plugged, h.now,
    h.clients, h.acts⟩, ?_, fun ho => .inl (h.owned ho)⟩
  intro t ht
  rw [task?_suspend_self] at ht
  cases ht
  exact .inl hs

/-- The task owns the console with a command. -/
theorem command (h : s.Leads s' m id) (hp : s.plugged = true) {stage : Stage}
    (hc : stage.client? = none) (hs : stage.isCommand = true) (console : Console) :
    s.Apart ({ s' with console }.suspend id stage) m id := by
  refine ⟨⟨(except_suspend _ id _).trans h.except, h.closed, h.client, h.plugged, h.now, h.clients,
    h.acts⟩, fun t ht => ?_, fun _ => .inr ⟨hp, _, task?_suspend_self _, hs⟩⟩
  rw [task?_suspend_self] at ht
  cases ht
  exact .inl hc

end Leads

theorem Apart.emit (h : s.Apart s' m id) {a : Act} (ha : s.Plain m id a) :
    s.Apart (s'.emit a) m id := by
  obtain ⟨acts, hacts, hplain⟩ := h.acts
  refine ⟨⟨h.except, h.closed, h.client, h.plugged, h.now, h.clients, acts ++ [a], ?_,
    fun b hb => ?_⟩, h.stage, h.owned⟩
  · rw [emit_history, hacts, List.append_assoc]
  · rcases List.mem_append.1 hb with hb | hb
    exacts [hplain b hb, List.mem_singleton.1 hb ▸ ha]

theorem Apart.refl (hs : ∀ t ∈ s.task? id, t.stage.client? = none) : s.Apart s m id :=
  have h := Leads.refl s m id
  ⟨h.toKeeps, fun t ht => .inl (hs t ht), .inl⟩

/-! ### Commands and connections -/

theorem beginCommand_apart (h : s.Leads s₁ m id) (errand : Errand) (line : Bytes)
    (timeout : Binary64) : s.Apart (s₁.beginCommand id errand line timeout) m id := by
  unfold beginCommand
  split_ifs with hp _ hc
  · exact h.finish _
  · exact h.finish _
  · exact h.finish _
  have hsend : s.Plain m id (.send line) :=
    ⟨rfl, nofun, fun hs => absurd (h.closed.trans hs) hc⟩
  have hr : s.Leads ({ s₁ with console := s₁.console.reset.1 }.tell s₁.console.reset.2) m id :=
    (h.console s₁.console.reset.1 fun ho => ho).tell _
  have hplug : s.plugged = true := h.plugged.symm.trans (by simpa using hp)
  have hw := hr.emit hsend
  dsimp only
  split
  · exact hr.finish _
  · exact hr.finish _
  · exact hw.finish _
  · exact hw.command hplug rfl rfl _
  · exact hw.command hplug rfl rfl _

theorem beginScan_apart (h : s.Leads s₁ m id) (boot : Option Identity) :
    s.Apart (s₁.beginScan id boot) m id := beginCommand_apart h _ _ _

theorem beginSetup_apart (h : s.Leads s₁ m id) (identity : Identity) (boot : Bool) :
    s.Apart (s₁.beginSetup id identity boot) m id := by
  unfold beginSetup
  split
  · exact h.finish _
  · exact beginCommand_apart h _ _ _

/-- A connection is for a client that was not there before. -/
theorem beginConnect_apart (h : s.Leads s₁ m id) (hc : s₁.clients = s.clients)
    (identity : Identity) (keys : HostKeys) (boot : Bool) :
    s.Apart (s₁.beginConnect id identity keys boot) m id := by
  have hp : s.Leads (({ s₁ with clients := s₁.clients + 1 }.emit
      (.newClient s₁.clients)).emit (.pin s₁.clients)) m id :=
    (h.newClient.emit (.of_eq rfl rfl rfl)).emit (.of_eq rfl rfl rfl)
  unfold beginConnect
  dsimp only
  refine Apart.emit ⟨⟨(except_suspend _ id _).trans hp.except, hp.closed, hp.client, hp.plugged,
    hp.now, hp.clients, hp.acts⟩, fun t ht => ?_, fun ho => .inl (hp.owned ho)⟩ (.of_eq rfl rfl rfl)
  rw [task?_suspend_self] at ht
  cases ht
  exact .inr ⟨_, boot, by rw [hc], by rw [← hc]; exact Nat.lt_succ_self _⟩

theorem afterSuccess_apart (h : s.Leads s₁ m id) (hc : s₁.clients = s.clients) (errand : Errand)
    (e : Serial.Exchange) : s.Apart (s₁.afterSuccess id errand e) m id := by
  unfold afterSuccess
  split
  · dsimp only
    split_ifs
    · exact beginScan_apart (((h.tell _).identity _).tell _) _
    · exact (((h.tell _).identity _).tell _).finish _
  · exact (h.tell _).finish _
  · split
    · exact (h.tell _).finish _
    · exact beginConnect_apart ((h.tell _).tell _) hc _ _ _

theorem acceptLine_apart (h : s.Leads s₁ m id) (hc : s₁.clients = s.clients) (errand : Errand)
    (e : Serial.Exchange) (line : Bytes) : s.Apart (s₁.acceptLine id errand e line) m id := by
  unfold acceptLine
  split
  · exact h.suspend rfl
  · exact afterSuccess_apart h.release hc _ _
  · exact (h.release.tell _).finish _
  · exact (h.release.tell _).finish _

/-! ### Waiting -/

theorem consume_apart (h : s.Leads s₁ m t.id) (hc : s₁.clients = s.clients)
    (ht : ∃ signal, t.stage.lineSignal? = some signal) (line : Bytes) :
    s.Apart (s₁.consume t line) m t.id := by
  obtain ⟨signal, hs⟩ := ht
  unfold consume
  split
  · exact h.finish _
  · split_ifs
    exacts [h.finish _, h.suspend rfl]
  · exact acceptLine_apart h hc _ _ _
  · cases hstage : t.stage <;> simp_all [Stage.lineSignal?]

theorem giveUp_leads (s : Session) (m : Move) (t : Task) : s.Leads (s.giveUp t) m t.id := by
  unfold giveUp
  split
  exacts [(Leads.refl s m t.id).release, .refl s m t.id]

/-- Whether a task waits which is the one that is looked up by its number, and does so without a
client. -/
structure Waits (s : Session) (t : Task) : Prop where
  task : s.task? t.id = some t
  stage : t.stage.client? = none

theorem Waits.stays (h : s.Waits t) : s.Apart s m t.id :=
  .refl fun _ hu => Option.some.inj (hu.symm.trans h.task) ▸ h.stage

theorem resume_apart (h : s.Waits t) : s.Apart (s.resume t) m t.id := by
  have hr := Leads.refl s m t.id
  unfold resume
  split
  · rename_i signal hs
    unfold resumeWait
    split_ifs
    · exact (giveUp_leads s m t).finish _
    split
    · exact consume_apart hr rfl ⟨signal, hs⟩ _
    · rename_i line rest _ _ _
      exact consume_apart (hr.withLines rest) rfl ⟨signal, hs⟩ line
    · exact (giveUp_leads s m t).finish _
    · exact h.stays
  · split_ifs
    · exact (hr.emit (.of_eq rfl rfl rfl)).suspend rfl
    · exact h.stays
  · exact h.stays

theorem deal_apart (h : s.Waits t) : s.Apart (s.deal t) m t.id := by
  have ho := deal_only s t
  unfold deal at ho ⊢
  split
  · rename_i l rest _ _ _ _
    refine ⟨⟨?_, rfl, rfl, rfl, rfl, le_rfl, [], (List.append_nil _).symm, List.forall_mem_nil _⟩,
      fun u hu => ?_, .inl⟩
    · simp only [*] at ho
      exact ho.except
    · have hu' : some u = some { t with hand := some l } := hu.symm.trans (task?_handOver h.task l)
      cases hu'
      exact .inl h.stage
  · exact h.stays

theorem notify_apart (h : s.Waits t) : s.Apart (s.notify t) m t.id := by
  rcases notify_cases s t with hs | ⟨-, hs⟩ <;> rw [hs]
  · exact h.stays
  · refine ⟨⟨except_inform s t.id _, rfl, rfl, rfl, rfl, le_rfl, [], (List.append_nil _).symm,
      List.forall_mem_nil _⟩, fun u hu => ?_, .inl⟩
    cases (task?_inform h.task _).symm.trans hu
    exact .inl h.stage

theorem expire_apart (h : s.Waits t) : s.Apart (s.expire t) m t.id := by
  have hr := Leads.refl s m t.id
  unfold expire
  split_ifs
  · split
    · exact (hr.release.tell _).finish _
    · exact hr.finish _
    · exact hr.finish _
    · exact h.stays
  · exact h.stays

theorem abort_apart (h : s.Waits t) : s.Apart (s.abort t) m t.id := by
  have hr := Leads.refl s m t.id
  have hc (channel : ChannelId) : s.Leads (s.emit (.closeChannel channel)) m t.id :=
    hr.emit (.of_eq rfl rfl rfl)
  unfold abort
  dsimp only
  split
  · exact hr.release.finish _
  · exact hr.release.finish _
  · rename_i hs
    exact absurd h.stage (by rw [hs]; nofun)
  · exact (hc _).finish _
  · exact (hc _).finish _
  · exact hr.finish _

/-! ### Remote commands and closing -/

theorem beginRun_apart (h : s.Leads s₁ m id) (c : ClientId) (command : String)
    (signal : Option Signal) : s.Apart (s₁.beginRun id c command signal) m id := by
  unfold beginRun
  split_ifs
  · exact h.finish _
  · exact (h.suspend rfl).emit (.of_eq rfl rfl rfl)

theorem endRun_apart (h : s.Leads s₁ m id) (command : String) (result : CommandResult) :
    s.Apart (s₁.endRun id command result) m id := by
  unfold endRun
  split_ifs
  · exact (h.tell _).finish _
  · exact h.finish _

theorem closeConsole_apart (h : s.Leads s₁ m id) : s.Apart (s₁.closeConsole id) m id := by
  unfold closeConsole
  split_ifs
  · exact h.finish _
  split
  · exact h.finish _
  rename_i c rs hc
  have hs : s.Leads ({ s₁ with console := c }.tell rs) m id :=
    (h.console c fun ho => (stopReader_steady hc).owned ▸ ho).tell _
  dsimp only
  split_ifs
  · exact hs.finish _
  let closing : Console := { c with writer := { c.writer with closing := true } }
  have hw : s.Leads ({ { s₁ with console := c }.tell rs with console := closing }.emit .closeWriter) m
      id := (hs.console closing fun ho => ho).emit (.of_eq rfl rfl rfl)
  split
  · exact hw.finish _
  · split_ifs <;> exact hw.finish _
  · exact hw.suspend rfl

/-! ### Answers and jobs -/

/-- Whether from `s` to `s'` no task has changed, and nothing was done but to keep records. -/
structure Idles (s s' : Session) (m : Move) : Prop where
  tasks : s'.tasks = s.tasks
  closed : s'.closed = s.closed
  client : s'.client = s.client
  plugged : s'.plugged = s.plugged
  now : (∀ nanos, m ≠ .pass nanos) → s'.now = s.now
  owned : m.isManual = false → s'.console.owned = s.console.owned
  clients : s'.clients = s.clients
  acts : ∃ acts, s'.history = s.history ++ acts ∧ ∀ a ∈ acts, ∃ r, a = .log r

theorem Idles.refl (s : Session) (m : Move) : s.Idles s m :=
  ⟨rfl, rfl, rfl, rfl, fun _ => rfl, fun _ => rfl, rfl, [], (List.append_nil _).symm,
    List.forall_mem_nil _⟩

theorem Idles.of_eq (ht : s'.tasks = s.tasks) (hc : s'.closed = s.closed)
    (hclient : s'.client = s.client) (hp : s'.plugged = s.plugged)
    (hn : (∀ nanos, m ≠ .pass nanos) → s'.now = s.now) (hs : s'.console = s.console)
    (hclients : s'.clients = s.clients) (hh : s'.history = s.history) : s.Idles s' m :=
  ⟨ht, hc, hclient, hp, hn, fun _ => congrArg Console.owned hs, hclients, [],
    hh.trans (List.append_nil _).symm, List.forall_mem_nil _⟩

theorem Idles.console {c : Console} (hc : m.isManual = false → c.owned = s.console.owned) :
    s.Idles { s with console := c } m :=
  ⟨rfl, rfl, rfl, rfl, fun _ => rfl, hc, rfl, [], (List.append_nil _).symm, List.forall_mem_nil _⟩

theorem Idles.tell (h : s.Idles s' m) (rs : List Log.Record) : s.Idles (s'.tell rs) m := by
  obtain ⟨acts, hacts, hlog⟩ := h.acts
  refine ⟨h.tasks, h.closed, h.client, h.plugged, h.now, h.owned, h.clients,
    acts ++ rs.map .log, ?_, fun a ha => ?_⟩
  · rw [tell_history, hacts, List.append_assoc]
  · rcases List.mem_append.1 ha with ha | ha
    · exact hlog a ha
    · obtain ⟨r, -, rfl⟩ := List.mem_map.1 ha
      exact ⟨r, rfl⟩

/-- A task without a client that gets an answer. -/
theorem goOn_apart (h : s.Leads s₁ m id) {stage : Stage} (hs : stage.client? = none)
    (reply : Reply) : s.Apart (s₁.goOn id stage reply) m id ∨ s₁.goOn id stage reply = s₁ := by
  have hchannel (channel : ChannelId) : s.Leads (s₁.emit (.closeChannel channel)) m id :=
    h.emit (.of_eq rfl rfl rfl)
  unfold goOn
  split
  · exact .inl (h.finish _)
  · exact .inl (h.finish _)
  · exact .inl (h.suspend rfl)
  · exact .inl (h.release.finish _)
  · split
    · exact .inl (h.finish _)
    · exact .inl (beginSetup_apart h _ _)
  · cases hs
  · cases hs
  · cases hs
  · cases hs
  · cases hs
  · exact .inl (h.finish _)
  · exact .inl ((h.suspend rfl).emit (.of_eq rfl rfl rfl))
  · exact .inl ((hchannel _).finish _)
  · exact .inl (endRun_apart (hchannel _) _ _)
  · exact .inl ((hchannel _).finish _)
  · exact .inl (h.finish _)
  · exact .inl ((h.tell _).finish _)
  · exact .inr rfl

theorem beginWrite_apart (h : s.Leads s₁ m id) {data : Bytes} (hm : m = .start (.write data)) :
    s.Apart (s₁.beginWrite id data) m id := by
  have hw : s.Leads (s₁.emit (.send data)) m id := h.emit ⟨rfl, nofun, fun _ _ => ⟨data, hm⟩⟩
  unfold beginWrite
  split_ifs
  · exact h.finish _
  · split
    exacts [h.finish _, h.finish _, hw.finish _, hw.suspend rfl, hw.finish _]

theorem beginJob_apart {j : Job} (h : s.Leads s₁ (.start j) id) (hc : s₁.clients = s.clients)
    (hj : j ≠ .close) : s.Apart (s₁.beginJob id j) (.start j) id := by
  unfold beginJob
  split
  · split_ifs
    exacts [h.suspend rfl, h.finish _]
  · split_ifs
    exacts [h.finish _, h.suspend rfl, h.finish _]
  · exact beginWrite_apart h rfl
  · exact closeConsole_apart h
  · split
    · exact h.finish _
    · dsimp only
      split_ifs
      · exact h.finish _
      · exact (h.suspend rfl).emit (.of_eq rfl rfl rfl)
  · exact beginRun_apart (h.newClient.emit (.of_eq rfl rfl rfl)) _ _ _
  · exact (h.suspend rfl).emit (.of_eq rfl rfl rfl)
  · exact (h.suspend rfl).emit (.of_eq rfl rfl rfl)
  · exact beginScan_apart h _
  · exact beginConnect_apart h hc _ _ _
  · split_ifs
    · exact h.finish _
    · split
      · exact h.finish _
      · exact beginRun_apart h _ _ _
  · exact absurd rfl hj

theorem deal_eq_self (hl : t.stage.lineSignal? = none) : s.deal t = s := by
  rw [deal, hl]
  split
  · cases ‹none = some _›
  · rfl

theorem expire_eq_self (hd : t.stage.deadline? = none) : s.expire t = s := by
  rw [expire, canExpire, hd]
  rfl

theorem notify_eq_self (hs : t.stage.signal? = none) (hl : t.stage.lineSignal? = none) :
    s.notify t = s := by
  rw [notify, canResume, isCalledOff, hs, hl]
  rfl

/-- Whether a task goes on only when it is answered. -/
structure Still (s : Session) (t : Task) : Prop where
  deal : s.deal t = s
  notify : s.notify t = s
  resume : s.resume t = s
  expire : s.expire t = s

/-- A task that neither looks at lines nor has a deadline, and whose remote command does not run,
goes on only when it is answered. -/
theorem still (hl : t.stage.lineSignal? = none) (hd : t.stage.deadline? = none)
    (hc : ∀ channel command signal, t.stage ≠ .capturing channel command signal) : s.Still t := by
  refine ⟨deal_eq_self hl, notify_eq_self (Stage.signal?_eq_none hl hc) hl, ?_, expire_eq_self hd⟩
  rw [resume, hl]
  split
  · cases ‹none = some _›
  · exact absurd ‹_› (hc _ _ _)
  · rfl

theorem still_of_client {c : ClientId} (hc : t.stage.client? = some c) : s.Still t := by
  cases hs : t.stage with
  | connecting | discarding | retiring =>
    exact still (by rw [hs]; rfl) (by rw [hs]; rfl) (by simp [hs])
  | _ =>
    rw [hs] at hc
    cases hc

/-- What a move of a task does that goes on only when it is answered. -/
inductive OwnTurn (s : Session) (t : Task) (m : Move) : Prop
  | rests (rs : List Log.Record) (step : s.step m = s.tell rs)
  | answered (rs : List Log.Record) (reply : Reply) (hm : m = .answer t.id reply)
      (records : (∀ a, reply ≠ .keyPair a) → rs = [])
      (step : s.step m = (s.tell rs).goOn t.id t.stage reply)
  | aborted (hm : m = .abort t.id) (step : s.step m = s.abort t)

theorem ownTurn (ht : s.task? t.id = some t) (hstill : s.Still t) (hid : t.id < s.started)
    (ha : s.actor? m = some t.id) : s.OwnTurn t m := by
  have turn {f : Task → Session} (hm : s.step m = s.withTask t.id f) (hf : f t = s) :
      s.OwnTurn t m :=
    .rests [] (by rw [hm, withTask_of_some ht, hf, tell_nil])
  cases m with
  | deal => cases ha; exact turn rfl hstill.deal
  | notify => cases ha; exact turn rfl hstill.notify
  | resume => cases ha; exact turn rfl hstill.resume
  | expire => cases ha; exact turn rfl hstill.expire
  | abort => cases ha; exact .aborted rfl (withTask_of_some ht s.abort)
  | answer _ reply =>
    cases ha
    obtain ⟨rs, hrs, he⟩ := exists_answer_tell s t.id reply
    rw [withTask_of_some (s := s.tell rs) ht] at he
    exact .answered rs reply rfl hrs he
  | start j => exact absurd (Option.some.inj ha) hid.ne'
  | _ => cases ha

/-- A task that has ended does nothing any more; an answer to it may still be recorded. -/
theorem exists_tell_of_gone (ht : s.task? id = none) (hid : id < s.started)
    (ha : s.actor? m = some id) : ∃ rs, s.step m = s.tell rs := by
  have turn (f : Task → Session) (h : s.step m = s.withTask id f) : ∃ rs, s.step m = s.tell rs :=
    ⟨[], by rw [h, withTask_of_none ht, tell_nil]⟩
  cases m with
  | deal => cases ha; exact turn s.deal rfl
  | notify => cases ha; exact turn s.notify rfl
  | resume => cases ha; exact turn s.resume rfl
  | expire => cases ha; exact turn s.expire rfl
  | abort => cases ha; exact turn s.abort rfl
  | answer _ reply =>
    cases ha
    obtain ⟨rs, -, he⟩ := exists_answer_tell s id reply
    exact ⟨rs, he.trans (withTask_of_none (s := s.tell rs) ht _)⟩
  | start j => exact absurd (Option.some.inj ha) hid.ne'
  | _ => cases ha

/-- What a move of a task does that waits for the end of a client. -/
inductive Ending (s : Session) (id : TaskId) (stage : Stage) (m : Move) : Prop
  | rests (rs : List Log.Record) (step : s.step m = s.tell rs)
  | answered (answer : Except Incident Unit) (hm : m = .answer id (.clientClosed answer))
      (step : s.step m = s.goOn id stage (.clientClosed answer))
  | aborted (hm : m = .abort id) (step : s.step m = s.finish id .aborted)

theorem ending_of_stage {stage : Stage} {c : ClientId} (hstage : s.stage? id = some stage)
    (hs : stage = .discarding c ∨ stage = .retiring c) (hid : id < s.started)
    (ha : s.actor? m = some id) : s.Ending id stage m := by
  obtain ⟨t, ht, rfl⟩ := stage?_eq_some.1 hstage
  obtain rfl := id_of_task? ht
  have hc : t.stage.client? = some c := by
    rcases hs with hs | hs <;> rw [hs] <;> rfl
  cases ownTurn ht (still_of_client hc) hid ha with
  | rests rs step => exact .rests rs step
  | answered rs reply hm records step =>
    cases reply with
    | clientClosed answer =>
      rw [records (by simp), tell_nil] at step
      exact .answered answer hm step
    | _ =>
      refine .rests rs (step.trans ?_)
      rcases hs with hs | hs <;> rw [hs] <;> rfl
  | aborted hm step =>
    refine .aborted hm (step.trans ?_)
    rw [abort]
    rcases hs with hs | hs <;> rw [hs]

/-! ### Steps -/

/-- The record that tells of a connection. -/
def establishedRecord (r : ConnectRequest) : Log.Record :=
  Log.record .info .session "SSH connection to guest established"
    [("host", .text r.host), ("port", .int r.port)]

/-- What a move does about the clients. -/
inductive Dealing (s : Session) (m : Move) : Prop
  | idle (idle : s.Idles (s.step m) m)
  | apart (id : TaskId) (actor : s.actor? m = some id)
      (before : (∃ j, m = .start j) ∨ ∃ t, s.task? id = some t ∧ t.stage.client? = none)
      (apart : s.Apart (s.step m) m id)
  /-- A client has not connected. -/
  | refused (t : Task) (c : ClientId) (r : ConnectRequest) (boot : Bool) (f : ConnectFault)
      (task : s.task? t.id = some t) (stage : t.stage = .connecting c r boot)
      (hm : m = .answer t.id (.connected (.error f)))
      (step : s.step m = (s.emit (.closeClient c)).fail t.id (f.trouble r))
  /-- The client of a bootstrap has connected after the session was closed. -/
  | late (t : Task) (c : ClientId) (r : ConnectRequest)
      (closed : s.closed = true) (task : s.task? t.id = some t)
      (stage : t.stage = .connecting c r true) (hm : m = .answer t.id (.connected (.ok ())))
      (step : s.step m = ((s.tell [establishedRecord r]).suspend t.id
        (.discarding c)).emit (.retireClient t.id c))
  /-- The client of a bootstrap has connected. -/
  | gained (t : Task) (c : ClientId) (r : ConnectRequest)
      (opened : s.closed = false) (task : s.task? t.id = some t)
      (stage : t.stage = .connecting c r true) (hm : m = .answer t.id (.connected (.ok ())))
      (step : s.step m = { s.tell [establishedRecord r] with client := some c }.succeed t.id
        (.client c))
  /-- A client of the caller has connected. -/
  | handed (t : Task) (c : ClientId) (r : ConnectRequest)
      (task : s.task? t.id = some t) (stage : t.stage = .connecting c r false)
      (hm : m = .answer t.id (.connected (.ok ())))
      (step : s.step m = (s.tell [establishedRecord r]).succeed t.id (.client c))
  /-- A task that has asked for a connection is ended. -/
  | dropped (t : Task) (c : ClientId) (r : ConnectRequest) (boot : Bool)
      (task : s.task? t.id = some t) (stage : t.stage = .connecting c r boot)
      (hm : m = .abort t.id) (step : s.step m = (s.emit (.closeClient c)).finish t.id .aborted)
  /-- A task no longer waits for the end of a client, and has failed. -/
  | failed (t : Task) (c : ClientId) (o : Outcome) (task : s.task? t.id = some t)
      (stage : t.stage = .discarding c ∨ t.stage = .retiring c)
      (hm : m = .abort t.id ∨ ∃ answer, m = .answer t.id (.clientClosed answer))
      (failure : o.isFailure = true) (step : s.step m = s.finish t.id o)
  /-- The client of a session that is being closed has come to its end. -/
  | retired (t : Task) (c : ClientId) (task : s.task? t.id = some t) (stage : t.stage = .retiring c)
      (hm : m = .answer t.id (.clientClosed (.ok ())))
      (step : s.step m = { s with client := none }.closeConsole t.id)
  /-- The session is closed, and its client is asked to close. -/
  | retires (c : ClientId) (client : s.client = some c) (hm : m = .start .close)
      (step : s.step m = ({ s with started := s.started + 1, closed := true }.suspend s.started
        (.retiring c)).emit (.retireClient s.started c))
  /-- The session is closed, and has no client. -/
  | closes (client : s.client = none) (hm : m = .start .close)
      (step : s.step m =
        { s with started := s.started + 1, closed := true }.closeConsole s.started)

theorem connected_dealing {t : Task} {c : ClientId} {r : ConnectRequest} {boot : Bool}
    {answer : Except ConnectFault Unit} (ht : s.task? t.id = some t)
    (hs : t.stage = .connecting c r boot) (hm : m = .answer t.id (.connected answer))
    (hstep : s.step m = s.afterConnect t.id c r boot answer) : s.Dealing m := by
  cases answer with
  | error f => exact .refused t c r boot f ht hs hm hstep
  | ok =>
    cases boot with
    | false => exact .handed t c r ht hs hm hstep
    | true =>
      cases hc : s.closed with
      | false => exact .gained t c r hc ht hs hm (hstep.trans (if_neg (by simp [hc])))
      | true => exact .late t c r hc ht hs hm (hstep.trans (if_pos hc))

theorem connected_eq {c : ClientId} {r : ConnectRequest} {boot : Bool}
    (hs : s.stage? id = some (.connecting c r boot)) (answer : Except ConnectFault Unit) :
    s.step (.answer id (.connected answer)) = s.afterConnect id c r boot answer := by
  obtain ⟨t, ht, hstage⟩ := stage?_eq_some.1 hs
  obtain ⟨rs, hrs, he⟩ := exists_answer_tell s id (.connected answer)
  rw [hrs (by simp), tell_nil, withTask_of_some ht, hstage] at he
  exact he

theorem close_cases (s : Session) :
    let s₁ : Session := { s with started := s.started + 1, closed := true }
    (∃ c, s.client = some c ∧ s.step (.start .close) =
      (s₁.suspend s.started (.retiring c)).emit (.retireClient s.started c)) ∨
    s.client = none ∧ s.step (.start .close) = s₁.closeConsole s.started := by
  have hstep : s.step (.start .close) =
    { s with started := s.started + 1 }.beginClose s.started := rfl
  rw [beginClose] at hstep
  dsimp only at hstep
  split at hstep
  exacts [.inl ⟨_, ‹_›, hstep⟩, .inr ⟨‹_›, hstep⟩]

theorem answer_dealing (s : Session) (id : TaskId) (reply : Reply) :
    s.Dealing (.answer id reply) := by
  obtain ⟨rs, hrs, he⟩ := exists_answer_tell s id reply
  have hstep : s.step (.answer id reply) = s.answer id reply := rfl
  have idle (h : s.step (.answer id reply) = s.tell rs) : s.Dealing (.answer id reply) :=
    .idle (by rw [h]; exact (Idles.refl s _).tell rs)
  cases ht : s.task? id with
  | none => exact idle (hstep.trans (he.trans (withTask_of_none (s := s.tell rs) ht _)))
  | some t =>
    have hid := id_of_task? ht
    rw [withTask_of_some (s := s.tell rs) ht] at he
    cases hc : t.stage.client? with
    | none =>
      rcases goOn_apart ((Leads.refl s (.answer id reply) id).tell rs) hc reply with ha | hr
      · exact .apart id rfl (.inr ⟨t, ht, hc⟩) (by rw [hstep, he]; exact ha)
      · exact idle (hstep.trans (he.trans hr))
    | some c =>
      subst hid
      cases hs : t.stage with
      | connecting c r boot =>
        rw [hs] at he
        cases reply with
        | connected answer =>
          rw [hrs (by simp), tell_nil] at he
          exact connected_dealing ht hs rfl he
        | _ => exact idle (hstep.trans he)
      | discarding c =>
        rw [hs] at he
        cases reply with
        | clientClosed answer =>
          rw [hrs (by simp), tell_nil] at he
          have hm : Move.answer t.id (.clientClosed answer) = .abort t.id ∨
            ∃ a, Move.answer t.id (.clientClosed answer) = .answer t.id (.clientClosed a) :=
            .inr ⟨answer, rfl⟩
          cases answer with
          | ok => exact .failed t c _ ht (.inl hs) hm rfl he
          | error i => exact .failed t c _ ht (.inl hs) hm rfl he
        | _ => exact idle (hstep.trans he)
      | retiring c =>
        rw [hs] at he
        cases reply with
        | clientClosed answer =>
          rw [hrs (by simp), tell_nil] at he
          cases answer with
          | ok => exact .retired t c ht hs rfl he
          | error i => exact .failed t c _ ht (.inr hs) (.inr ⟨_, rfl⟩) rfl he
        | _ => exact idle (hstep.trans he)
      | _ =>
        rw [hs] at hc
        cases hc

theorem abort_dealing (s : Session) (id : TaskId) : s.Dealing (.abort id) := by
  have hstep : s.step (.abort id) = s.withTask id s.abort := rfl
  cases ht : s.task? id with
  | none =>
    rw [withTask_of_none ht] at hstep
    exact .idle (hstep.symm ▸ Idles.refl s _)
  | some t =>
    rw [withTask_of_some ht] at hstep
    obtain rfl := id_of_task? ht
    cases hc : t.stage.client? with
    | none => exact .apart t.id rfl (.inr ⟨t, ht, hc⟩) (hstep.symm ▸ abort_apart ⟨ht, hc⟩)
    | some c =>
      rw [abort] at hstep
      cases hs : t.stage with
      | connecting c r boot =>
        rw [hs] at hstep
        exact .dropped t c r boot ht hs rfl hstep
      | discarding c =>
        rw [hs] at hstep
        exact .failed t c _ ht (.inl hs) (.inl rfl) rfl hstep
      | retiring c =>
        rw [hs] at hstep
        exact .failed t c _ ht (.inr hs) (.inl rfl) rfl hstep
      | _ =>
        rw [hs] at hc
        cases hc

theorem step_dealing (s : Session) (m : Move) : s.Dealing m := by
  have turn {id : TaskId} (f : Task → Session) (hm : s.step m = s.withTask id f)
      (ha : s.actor? m = some id) (hapart : ∀ t, s.Waits t → s.Apart (f t) m t.id)
      (hstill : ∀ t c, t.stage.client? = some c → f t = s) : s.Dealing m := by
    cases ht : s.task? id with
    | none => exact .idle (by rw [hm, withTask_of_none ht]; exact .refl s m)
    | some t =>
      rw [withTask_of_some ht] at hm
      obtain rfl := id_of_task? ht
      cases hc : t.stage.client? with
      | none => exact .apart t.id ha (.inr ⟨t, ht, hc⟩) (hm.symm ▸ hapart t ⟨ht, hc⟩)
      | some c => exact .idle (by rw [hm, hstill t c hc]; exact .refl s m)
  cases m with
  | deal id =>
    exact turn s.deal rfl rfl (fun _ => deal_apart) fun _ _ hc => (still_of_client hc).deal
  | notify id =>
    exact turn s.notify rfl rfl (fun _ => notify_apart) fun _ _ hc => (still_of_client hc).notify
  | resume id =>
    exact turn s.resume rfl rfl (fun _ => resume_apart) fun _ _ hc => (still_of_client hc).resume
  | expire id =>
    exact turn s.expire rfl rfl (fun _ => expire_apart) fun _ _ hc => (still_of_client hc).expire
  | answer id reply => exact answer_dealing s id reply
  | abort id => exact abort_dealing s id
  | start j =>
    by_cases hj : j = .close
    · subst hj
      rcases close_cases s with ⟨c, hc, hs⟩ | ⟨hc, hs⟩
      exacts [.retires c hc rfl hs, .closes hc rfl hs]
    · have h : s.Leads { s with started := s.started + 1 } (.start j)
          s.started :=
        ⟨⟨rfl, rfl, rfl, rfl, rfl, le_rfl, [], (List.append_nil _).symm, List.forall_mem_nil _⟩,
          fun ho => ho⟩
      exact .apart s.started rfl (.inl ⟨j, rfl⟩) (beginJob_apart h rfl hj)
  | read =>
    have h : s.Idles { s with console := s.console.read.1 } .read := .console fun _ => read_owned s
    exact .idle (h.tell s.console.read.2)
  | reset =>
    have h : s.Idles { s with console := s.console.reset.1 } .reset := .console fun _ => rfl
    exact .idle (h.tell s.console.reset.2)
  | judge r type key =>
    refine .idle ?_
    rw [step, judge]
    split
    exacts [.refl s _, (Idles.refl s _).tell _]
  | acquire =>
    refine .idle ?_
    rw [step, acquire]
    split_ifs
    exacts [.refl s _, .refl s _, .console fun hm => absurd hm.symm Bool.false_ne_true]
  | release => exact .idle (.console fun hm => absurd hm.symm Bool.false_ne_true)
  | receive data =>
    have h := step_steady (s := s) (m := .receive data) rfl rfl (by simp)
    exact .idle (.console (c := s.console.receive data) fun _ => h.owned)
  | closeInput => exact .idle (.console (c := s.console.closeInput) fun _ => wakeReader_owned ..)
  | breakInput i => exact .idle (.console (c := s.console.breakInput i) fun _ => wakeReader_owned ..)
  | rig w => exact .idle (.console (c := { s.console with writer := w }) fun _ => rfl)
  | startReader =>
    have h := step_steady (s := s) (m := .startReader) rfl rfl (by simp)
    exact .idle (.console (c := s.console.startReader) fun _ => h.owned)
  | pass nanos => exact .idle (.of_eq rfl rfl rfl rfl (fun h => absurd rfl (h nanos)) rfl rfl rfl)
  | _ => exact .idle (.of_eq rfl rfl rfl rfl (fun _ => rfl) rfl rfl rfl)

end Session

end GuestLink
