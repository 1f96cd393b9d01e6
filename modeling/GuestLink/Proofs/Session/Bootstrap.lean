import GuestLink.Proofs.Session.Custody
import GuestLink.Proofs.Session.Pinning

/-!
# The steps of a bootstrap

A bootstrap takes its steps in order, each after the one before has succeeded, with the identity
that it has made and the keys that it has scanned.  If it fails, at whichever step, the client that
it made is closed, the session keeps its own and nobody owns the console (`bootstrap_in_order`).
-/

namespace GuestLink

open Serial HostKeys

/-- Whether an act is the keeping of a record. -/
def Act.isLog : Act → Bool
  | .log _ => true
  | _ => false

theorem filter_isLog_records (rs : List Log.Record) :
    (rs.map Act.log).filter (!·.isLog) = [] := by
  simp [List.filter_map, Function.comp_def, Act.isLog]

/-- Whether a move is one of the task `id` or of the outside; the others are the caller's and those
of other tasks. -/
def Move.serves (id : TaskId) : Move → Bool
  | .deal id' | .notify id' | .resume id' | .expire id' | .answer id' _ | .abort id' => id' == id
  | .start _ | .reset | .acquire | .release => false
  | _ => true

/-- What there is to say about a session: its client, its identity, whether it is closed, whether a
command owns its console, and what it has done besides keeping records. -/
structure Outline where
  client : Option ClientId
  identity : Option Identity
  closed : Bool
  owned : Bool
  deeds : List Act

/-- The outline after more acts. -/
def Outline.does (o : Outline) (acts : List Act) : Outline := { o with deeds := o.deeds ++ acts }

/-- How far a bootstrap has come. -/
inductive Progress where
  /-- It has asked for a key pair. -/
  | keys
  /-- It has sent the setup command for an identity. -/
  | setup (i : Identity)
  /-- The setup has succeeded. -/
  | ready (i : Identity)
  /-- It has sent the scan command. -/
  | scan (i : Identity)
  /-- It has asked a client to connect. -/
  | connect (i : Identity) (c : ClientId) (r : ConnectRequest)

/-- The line of the setup command for an identity. -/
def setupBytes (i : Identity) : Bytes :=
  match setupCommand i.authorizedKey with
  | .ok line => Utf8.encode line
  | .error _ => []

/-- Whether an identity was made of what the task `id` was answered. -/
def Made (id : TaskId) (moves : List Move) (i : Identity) : Prop :=
  ∃ a, .answer id (.keyPair a) ∈ moves ∧ Identity.make Identity.defaultBits a = .ok i

/-- Whether a command is answered with success by the line `mark` behind others. -/
structure Succeeds (body : List Bytes) (mark : Bytes) : Prop where
  body : ∀ l ∈ body, status? l = none
  mark : status? mark = some (some 48)

/-- Whether a command is answered with success by one of the lines `seen`. -/
def Reported (seen : List Bytes) : Prop :=
  ∃ body mark rest, seen = body ++ mark :: rest ∧ Succeeds body mark

theorem not_reported {seen : List Bytes} (h : ∀ l ∈ seen, status? l ≠ some (some 48)) :
    ¬Reported seen := by
  rintro ⟨body, mark, rest, rfl, hs⟩
  exact h mark (List.mem_append_right _ List.mem_cons_self) hs.mark

theorem ne_success_of_plain {seen : List Bytes} (h : ∀ l ∈ seen, status? l = none) :
    ∀ l ∈ seen, status? l ≠ some (some 48) := fun l hl => by
  rw [h l hl]
  nofun

namespace Progress

/-- What a bootstrap has done so far. -/
def deeds (id : TaskId) : Progress → List Act
  | keys => [.generate id Identity.defaultBits]
  | setup i | ready i => [.generate id Identity.defaultBits, .send (setupBytes i)]
  | scan i =>
    [.generate id Identity.defaultBits, .send (setupBytes i), .send (utf8 scanCommand)]
  | connect i c r =>
    [.generate id Identity.defaultBits, .send (setupBytes i), .send (utf8 scanCommand),
      .newClient c, .pin c, .connect id c r]

/-- The identity of the session, which had the identity `old` before. -/
def identity (old : Option Identity) : Progress → Option Identity
  | keys | setup _ => old
  | ready i | scan i | connect i .. => some i

/-- Whether a command is in progress. -/
def owns : Progress → Bool
  | setup _ | scan _ => true
  | _ => false

/-- What a bootstrap that fails undoes. -/
def undone : Progress → List Act
  | connect _ c _ => [.closeClient c]
  | _ => []

/-- The outline of a session that has come so far. -/
def outline (p : Progress) (id : TaskId) (o : Outline) : Outline :=
  { o.does (p.deeds id) with identity := p.identity o.identity, owned := p.owns }

/-- Whether a bootstrap whose task has looked at the lines `seen` may have come so far: the steps
behind it have succeeded, and the setup has not reported success unless it is one of them. -/
def Founded (id : TaskId) (moves : List Move) (seen : List Bytes) : Progress → Prop
  | keys => seen = []
  | setup i => Made id moves i ∧ ¬Reported seen
  | ready i => Made id moves i ∧ ∃ body mark, seen = body ++ [mark] ∧ Succeeds body mark
  | scan i => Made id moves i ∧ Reported seen
  | connect i _ r => Made id moves i ∧ ∃ body mark body' mark',
      seen = body ++ mark :: (body' ++ [mark']) ∧ Succeeds body mark ∧ Succeeds body' mark' ∧
      HostKeys.parse ([10].intercalate (Session.marked body')) = .ok r.hostKeys ∧ r.key = i.key

theorem closes_of_mem_deeds {p : Progress} {id : TaskId} {a : Act} (ha : a ∈ p.deeds id) :
    a.closes? = none := by
  cases p <;> simp only [deeds, List.mem_cons, List.not_mem_nil, or_false] at ha
  case keys => rw [ha]; rfl
  case setup | ready => rcases ha with rfl | rfl <;> rfl
  case scan => rcases ha with rfl | rfl | rfl <;> rfl
  case connect => rcases ha with rfl | rfl | rfl | rfl | rfl | rfl <;> rfl

/-- A bootstrap that fails closes the clients that it has made. -/
theorem closeClient_mem_undone {p : Progress} {id : TaskId} {c : ClientId}
    (hc : .newClient c ∈ p.deeds id) : .closeClient c ∈ p.undone := by
  cases p <;> simp_all [deeds, undone]

end Progress

theorem Made.concat {id : TaskId} {moves : List Move} {i : Identity} (h : Made id moves i)
    (m : Move) : Made id (moves ++ [m]) i := by
  obtain ⟨a, ha, hi⟩ := h
  exact ⟨a, List.mem_append_left _ ha, hi⟩

theorem Progress.Founded.concat {id : TaskId} {moves : List Move} {seen : List Bytes}
    {p : Progress} (h : p.Founded id moves seen) (m : Move) :
    p.Founded id (moves ++ [m]) seen := by
  cases p with
  | keys => exact h
  | setup i => exact ⟨h.1.concat m, h.2⟩
  | ready i => exact ⟨h.1.concat m, h.2⟩
  | scan i => exact ⟨h.1.concat m, h.2⟩
  | connect i c r => exact ⟨h.1.concat m, h.2⟩

namespace Session

/-- What a session has done besides keeping records. -/
def deeds (s : Session) : List Act := s.history.filter fun a => !a.isLog

/-- The outline of a session. -/
def outline (s : Session) : Outline := ⟨s.client, s.identity, s.closed, s.console.owned, s.deeds⟩

variable {s s' : Session} {id : TaskId} {m : Move}

section

variable (s : Session) (id : TaskId)

@[simp] theorem outline_emit {a : Act} (ha : a.isLog = false) :
    (s.emit a).outline = s.outline.does [a] := by
  simp [outline, Outline.does, deeds, List.filter_append, ha, emit]

@[simp] theorem outline_tell (rs : List Log.Record) : (s.tell rs).outline = s.outline := by
  simp [outline, deeds, List.filter_append, filter_isLog_records, tell]

@[simp] theorem outline_finish (o : Outcome) :
    (s.finish id o).outline = s.outline.does [.finish id o] :=
  outline_emit { s with tasks := s.tasks.filter (·.id != id) } rfl

@[simp] theorem outline_suspend (stage : Stage) : (s.suspend id stage).outline = s.outline := rfl

@[simp] theorem outline_release : s.release.outline = { s.outline with owned := false } := rfl

@[simp] theorem outline_withLines (lines : List Bytes) :
    (s.withLines lines).outline = s.outline := rfl

end

/-! ### Beginning a command -/

/-- Whether the command of a task is under way, of whose answer it has seen the lines `seen`; the
line of a command that has seen none may still be to be flushed. -/
inductive Pursues (s : Session) (id : TaskId) (errand : Errand) : List Bytes → Prop
  | flushing (timeout : Binary64) (stage : s.stage? id = some (.flushing errand timeout)) :
      Pursues s id errand []
  | waiting {seen : List Bytes} (d : Deadline) (hand : Option Bytes)
      (task : ∃ notice, s.task? id =
        some { id, stage := .reply errand (exchange errand d seen.reverse), hand, notice }) :
      Pursues s id errand seen

/-- What becomes of a session when the task `id` begins a command: it has sent the line and waits;
it has failed without sending, or after it. -/
inductive Begun (s s' : Session) (id : TaskId) (errand : Errand) (line : Bytes) : Prop
  | sent (pursues : s'.Pursues id errand [])
      (outline : s'.outline = { s.outline.does [.send line] with owned := true })
  | unsent (t : Trouble) (gone : s'.task? id = none)
      (outline : s'.outline = s.outline.does [.finish id (.failed t)])
  | unflushed (t : Trouble) (gone : s'.task? id = none)
      (outline : s'.outline = (s.outline.does [.send line]).does [.finish id (.failed t)])

theorem beginCommand_begun (s : Session) (id : TaskId) (errand : Errand) (line : Bytes)
    (timeout : Binary64) : s.Begun (s.beginCommand id errand line timeout) id errand line := by
  have fails (t : Trouble) {s₁ : Session} (ho : s₁.outline = s.outline) :
      s.Begun (s₁.fail id t) id errand line :=
    .unsent t (task?_finish_self _) (by rw [fail_eq, outline_finish, ho])
  let s₁ := { s with console := s.console.reset.1 }.tell s.console.reset.2
  have hreset : s₁.outline = s.outline := outline_tell { s with console := s.console.reset.1 } _
  let s₂ := { s₁ with console := { s₁.console with owned := true } }.emit (.send line)
  have hsent : s₂.outline = { s.outline.does [.send line] with owned := true } :=
    (outline_emit _ rfl).trans
      (congrArg (fun o : Outline => { o.does [.send line] with owned := true }) hreset)
  unfold beginCommand
  split_ifs
  · exact fails _ rfl
  · exact fails _ rfl
  · exact fails _ rfl
  dsimp only
  split
  · exact fails _ hreset
  · exact fails _ hreset
  · exact .unflushed _ (task?_finish_self _)
      (by rw [fail_eq, outline_finish, outline_emit _ rfl, hreset])
  · exact .sent (.flushing timeout (congrArg _ (task?_suspend_self _))) hsent
  · exact .sent (.waiting ⟨s.now, timeout⟩ none ⟨none, task?_suspend_self _⟩) hsent

/-! ### Moves of the outside -/

/-- Whether from `s` to `s'` no task has changed, and nothing but the outside or what the caller
never sees. -/
structure Calm (s s' : Session) : Prop where
  tasks : s'.tasks = s.tasks
  outline : s'.outline = s.outline

theorem step_calm (hm : m.serves id = true) (ha : s.actor? m = none) : s.Calm (s.step m) := by
  have console {c : Console} (ho : c.owned = s.console.owned) :
      s.Calm { s with console := c } := ⟨rfl, by rw [outline, outline, ho]; rfl⟩
  cases m with
  | receive | closeInput | breakInput | startReader =>
    exact console (step_steady rfl ha nofun).owned
  | read =>
    have h := console (read_owned s)
    exact ⟨rfl, (outline_tell { s with console := s.console.read.1 } _).trans h.outline⟩
  | judge r type key =>
    rw [step, judge]
    split
    exacts [⟨rfl, rfl⟩, ⟨rfl, outline_tell s _⟩]
  | start | reset | acquire | release => cases hm
  | deal | notify | resume | expire | answer | abort => cases ha
  | _ => exact ⟨rfl, rfl⟩

/-! ### Moves of the task -/

theorem generating_still {t : Task} {boot : Bool} (hs : t.stage = .generating boot) : s.Still t :=
  still (by rw [hs]; rfl) (by rw [hs]; rfl) (by simp [hs])

/-- What a move of a task does that waits for a key pair. -/
inductive Keying (s : Session) (id : TaskId) (boot : Bool) (m : Move) : Prop
  | rests (rs : List Log.Record) (step : s.step m = s.tell rs)
  | fails (o : Outcome) (failure : o.isFailure = true) (step : s.step m = s.finish id o)
  | makes (a : Except Incident KeyPair) (i : Identity) (rs : List Log.Record)
      (hm : m = .answer id (.keyPair a)) (made : Identity.make Identity.defaultBits a = .ok i)
      (step : s.step m = (s.tell rs).beginSetup id i boot)

theorem keying {boot : Bool} (ht : s.task? id = some { id, stage := .generating boot })
    (hid : id < s.started) (ha : s.actor? m = some id) : s.Keying id boot m := by
  cases ownTurn (t := { id, stage := .generating boot }) ht (generating_still rfl) hid ha with
  | rests rs step => exact .rests rs step
  | aborted hm step => exact .fails _ rfl step
  | answered rs reply hm records step =>
    cases reply with
    | keyPair a =>
      cases hi : Identity.make Identity.defaultBits a with
      | ok i =>
        refine .makes a i rs hm hi (step.trans ?_)
        simp only [goOn, hi]
      | error f =>
        have hs : s.step m = s.fail id (.identity f) := by
          rw [hm, Session.step, answer, hi]
          simp only [ht, goOn, hi]
        exact .fails _ rfl hs
    | _ => exact .rests rs step

theorem looksAt?_of_stage {stage : Stage} (hs : s.stage? id = some stage)
    (hl : stage.lineSignal? = none) (m : Move) : s.looksAt? id m = none := by
  obtain ⟨t, ht, rfl⟩ := stage?_eq_some.1 hs
  cases m with
  | resume id' =>
    rw [looksAt?, ht, Option.bind_some, lookedAt?, hl]
    exact ite_self none
  | _ => rfl

/-- What a move of a task does whose command is under way. -/
inductive Pursuing (s : Session) (id : TaskId) (errand : Errand) (seen : List Bytes) (m : Move) :
    Prop
  | rests (looks : s.looksAt? id m = none) (outline : (s.step m).outline = s.outline)
      (pursues : (s.step m).Pursues id errand seen)
  | looks (d : Deadline) (l : Bytes) (rest : List Bytes) (look : s.looksAt? id m = some l)
      (step : s.step m =
        (s.withLines rest).acceptLine id errand (exchange errand d seen.reverse) l)
  | ends (looks : s.looksAt? id m = none) (rs : List Log.Record) (o : Outcome)
      (failure : o.isFailure = true) (step : s.step m = (s.release.tell rs).finish id o)

theorem pursuing_of_flushing {errand : Errand} {timeout : Binary64}
    (hs : s.stage? id = some (.flushing errand timeout)) (hid : id < s.started)
    (ha : s.actor? m = some id) : s.Pursuing id errand [] m := by
  have hl : s.looksAt? id m = none := looksAt?_of_stage hs rfl m
  obtain ⟨t, ht, hstage⟩ := stage?_eq_some.1 hs
  cases flushMove ht hstage hid ha with
  | rests unflushed kept rs tells =>
    refine .rests hl (tells ▸ outline_tell s rs) (.flushing timeout ?_)
    rw [tells]
    exact hs
  | flushed hm awaits =>
    refine .rests hl (by rw [awaits]; rfl) (.waiting ⟨s.now, timeout⟩ none ⟨none, ?_⟩)
    rw [awaits]
    exact task?_suspend_self _
  | fails i hm finishes => exact .ends hl [] _ rfl (by rw [finishes, tell_nil])
  | aborts hm finishes => exact .ends hl [] _ rfl (by rw [finishes, tell_nil])

theorem Listens.pursuing {errand : Errand} {d : Deadline} {seen : List Bytes}
    {hand : Option Bytes} (h : s.Listens id errand (exchange errand d seen.reverse) hand)
    (ha : s.actor? m = some id) : s.Pursuing id errand seen m := by
  obtain ⟨notice, ht⟩ := h.task
  cases h.ownMove ha with
  | rests hl rs step =>
    refine .rests hl (step ▸ outline_tell s rs) (.waiting d hand ⟨notice, ?_⟩)
    rw [step]
    exact ht
  | told notice' hm step =>
    refine .rests (by rw [hm]; rfl) (by rw [step]; rfl) (.waiting d hand ⟨some notice', ?_⟩)
    rw [step]
    exact task?_inform ht notice'
  | takes l rest hm _ hands =>
    obtain ⟨-, hs⟩ := hands
    refine .rests (by rw [hm]; rfl) (by rw [hs]; rfl) (.waiting d (some l) ⟨notice, ?_⟩)
    rw [hs]
    exact task?_handOver ht l
  | looks l rest _ look _ step => exact .looks d l rest look step
  | ends hl rs o failure step =>
    refine .ends hl rs o ?_ step
    cases o with
    | ok r => exact absurd rfl (failure r)
    | _ => rfl

/-- What a move of its task does with a command that is under way. -/
theorem Pursues.pursuing {errand : Errand} {seen : List Bytes} (h : s.Pursues id errand seen)
    (hid : id < s.started) (ha : s.actor? m = some id) : s.Pursuing id errand seen m := by
  cases h with
  | flushing timeout stage => exact pursuing_of_flushing stage hid ha
  | waiting d hand task => exact Listens.pursuing ⟨task, hid⟩ ha

theorem Pursues.of_task?_eq {errand : Errand} {seen : List Bytes} (h : s.Pursues id errand seen)
    (ht : s'.task? id = s.task? id) : s'.Pursues id errand seen := by
  cases h with
  | flushing timeout stage =>
    exact .flushing timeout ((congrArg (Option.map Task.stage) ht).trans stage)
  | waiting d hand task => exact .waiting d hand (task.imp fun _ => ht.trans)

theorem Pursues.task?_ne_none {errand : Errand} {seen : List Bytes}
    (h : s.Pursues id errand seen) : s.task? id ≠ none := by
  cases h with
  | flushing timeout stage =>
    obtain ⟨t, ht, -⟩ := stage?_eq_some.1 stage
    rw [ht]
    nofun
  | waiting d hand task =>
    obtain ⟨notice, ht⟩ := task
    rw [ht]
    nofun

/-- What a move of a task does whose client is to connect. -/
inductive Connecting (s : Session) (id : TaskId) (c : ClientId) (m : Move) : Prop
  | rests (rs : List Log.Record) (step : s.step m = s.tell rs)
  | fails (o : Outcome) (failure : o.isFailure = true)
      (step : s.step m = (s.emit (.closeClient c)).finish id o)
  | connects (rs : List Log.Record)
      (step : s.step m = ({ s with client := some c }.tell rs).finish id (.ok (.client c)))

theorem connecting {c : ClientId} {r : ConnectRequest} (hc : s.closed = false)
    (ht : s.task? id = some { id, stage := .connecting c r true }) (hid : id < s.started)
    (ha : s.actor? m = some id) : s.Connecting id c m := by
  cases ownTurn (t := { id, stage := .connecting c r true }) ht (still_of_client rfl) hid ha with
  | rests rs step => exact .rests rs step
  | aborted hm step => exact .fails _ rfl step
  | answered rs reply hm records step =>
    cases reply with
    | connected answer =>
      rw [records (by simp), tell_nil] at step
      cases answer with
      | error f => exact .fails _ rfl step
      | ok =>
        exact .connects [establishedRecord r]
          (step.trans (if_neg (c := (s.tell _).closed = true) (by simp [hc])))
    | _ => exact .rests rs step

/-- What the status of an answered command does: a bootstrap goes on behind success alone. -/
theorem conclude_cases (s : Session) (id : TaskId) (errand : Errand) (e : Exchange)
    (status : Option UInt8) :
    status = some 48 ∧ s.conclude id errand e (.answered status) =
      s.release.afterSuccess id errand e ∨
    status ≠ some 48 ∧ ∃ rs t, s.conclude id errand e (.answered status) =
      (s.release.tell rs).fail id t := by
  cases status with
  | none => exact .inr ⟨nofun, _, _, rfl⟩
  | some b =>
    by_cases hb : b = 48
    · subst hb
      exact .inl ⟨rfl, by simp only [conclude, if_true]⟩
    · exact .inr ⟨fun h => hb (Option.some.inj h), _, _, if_neg hb⟩

/-! ### How a bootstrap stands -/

/-- Whether the task `id` waits as a bootstrap does that has come so far. -/
inductive Underway (id : TaskId) (moves : List Move) (s : Session) :
    Progress → List Bytes → Prop
  | keys (task : s.task? id = some { id, stage := .generating true }) :
      Underway id moves s .keys []
  | setup {i : Identity} {seen : List Bytes} (made : Made id moves i)
      (plain : ∀ l ∈ seen, status? l = none) (pursues : s.Pursues id (.setup i true) seen) :
      Underway id moves s (.setup i) seen
  | scan {i : Identity} {body rest : List Bytes} {mark : Bytes} (made : Made id moves i)
      (succeeds : Succeeds body mark) (plain : ∀ l ∈ rest, status? l = none)
      (pursues : s.Pursues id (.scan (some i)) rest) :
      Underway id moves s (.scan i) (body ++ mark :: rest)
  | connect {i : Identity} {c : ClientId} {r : ConnectRequest} {seen : List Bytes}
      (founded : (Progress.connect i c r).Founded id moves seen)
      (task : s.task? id = some { id, stage := .connecting c r true }) :
      Underway id moves s (.connect i c r) seen

/-- How the bootstrap stands of the task `id` that was begun in a session with the outline `o`. -/
inductive Standing (o : Outline) (id : TaskId) (moves : List Move) (seen : List Bytes)
    (s : Session) : Prop
  | underway (p : Progress) (waits : Underway id moves s p seen)
      (outline : s.outline = p.outline id o)
  | failed (p : Progress) (founded : p.Founded id moves seen) (outcome : Outcome)
      (failure : outcome.isFailure = true) (gone : s.task? id = none)
      (outline : s.outline =
        { (p.outline id o).does (p.undone ++ [.finish id outcome]) with owned := false })
  | returned (i : Identity) (c : ClientId) (r : ConnectRequest)
      (founded : (Progress.connect i c r).Founded id moves seen) (gone : s.task? id = none)
      (outline : s.outline = { ((Progress.connect i c r).outline id o).does
        [.finish id (.ok (.client c))] with client := some c })

variable {o : Outline} {moves : List Move} {seen : List Bytes} {i : Identity}

theorem Underway.founded {p : Progress} (h : Underway id moves s p seen) :
    p.Founded id moves seen := by
  cases h with
  | keys => rfl
  | setup made plain => exact ⟨made, not_reported (ne_success_of_plain plain)⟩
  | scan made succeeds => exact ⟨made, _, _, _, rfl, succeeds⟩
  | connect founded => exact founded

theorem Underway.task?_ne_none {p : Progress} (h : Underway id moves s p seen) :
    s.task? id ≠ none := by
  cases h with
  | keys task => rw [task]; nofun
  | setup made plain pursues => exact pursues.task?_ne_none
  | scan made succeeds plain pursues => exact pursues.task?_ne_none
  | connect founded task => rw [task]; nofun

/-- A bootstrap goes on waiting as long as its task is as it was. -/
theorem Underway.stays {p : Progress} (h : Underway id moves s p seen) (m : Move)
    (ht : s'.task? id = s.task? id) : Underway id (moves ++ [m]) s' p seen := by
  cases h with
  | keys task => exact .keys (ht.trans task)
  | setup made plain pursues => exact .setup (made.concat m) plain (pursues.of_task?_eq ht)
  | scan made succeeds plain pursues =>
    exact .scan (made.concat m) succeeds plain (pursues.of_task?_eq ht)
  | connect founded task => exact .connect (founded.concat m) (ht.trans task)

/-- A line that is no status line is one more line for the command. -/
theorem acceptLine_pursues (s : Session) (errand : Errand) (d : Deadline) {l : Bytes}
    (hl : status? l = none) :
    (s.acceptLine id errand (exchange errand d seen.reverse) l).Pursues id errand (seen ++ [l]) ∧
      (s.acceptLine id errand (exchange errand d seen.reverse) l).outline = s.outline := by
  rw [acceptLine_of_none hl]
  refine ⟨.waiting d none ⟨none, ?_⟩, rfl⟩
  rw [List.reverse_append]
  exact task?_suspend_self _

/-- A setup that has succeeded as part of a bootstrap. -/
theorem exists_beginScan (s : Session) (id : TaskId) (i : Identity) (e : Exchange) :
    ∃ s₁ : Session, s₁.outline = { s.outline with owned := false, identity := some i } ∧
      s.release.afterSuccess id (.setup i true) e = s₁.beginScan id (some i) := by
  let s₁ : Session := { s.release.tell [e.succeededRecord] with identity := some i }
  refine ⟨s₁.tell [Log.record .info .session "Guest sshd configured over serial console"], ?_, rfl⟩
  have h := outline_tell s.release [e.succeededRecord]
  rw [outline_tell]
  exact congrArg (fun o : Outline => { o with identity := some i }) h

/-- A scan that has succeeded as part of a bootstrap. -/
theorem exists_beginConnect (s : Session) (id : TaskId) (i : Identity) (e : Exchange) :
    ∃ s₁ : Session, s₁.outline = { s.outline with owned := false } ∧
      ((∃ f, s.release.afterSuccess id (.scan (some i)) e = s₁.fail id (.scan f)) ∨
        ∃ keys, HostKeys.parse e.output = .ok keys ∧
          s.release.afterSuccess id (.scan (some i)) e = s₁.beginConnect id i keys true) := by
  cases hk : HostKeys.parse e.output with
  | error f =>
    refine ⟨s.release.tell [e.succeededRecord], outline_tell .., .inl ⟨f, ?_⟩⟩
    simp only [afterSuccess, hk]
  | ok keys =>
    refine ⟨(s.release.tell [e.succeededRecord]).tell [keys.parsedRecord], ?_,
      .inr ⟨keys, rfl, ?_⟩⟩
    · rw [outline_tell, outline_tell, outline_release]
    · simp only [afterSuccess, hk]

/-- A new client is asked to connect. -/
theorem exists_connecting (s : Session) (id : TaskId) (i : Identity) (keys : HostKeys) :
    ∃ (c : ClientId) (r : ConnectRequest), r.hostKeys = keys ∧ r.key = i.key ∧
      (s.beginConnect id i keys true).task? id =
        some { id, stage := .connecting c r true } ∧
      (s.beginConnect id i keys true).outline =
        s.outline.does [.newClient c, .pin c, .connect id c r] := by
  refine ⟨s.clients, { host := s.host, port := s.port, user := s.settings.user
                       timeout := s.settings.connectTimeout, key := i.key, hostKeys := keys },
    rfl, rfl, task?_suspend_self _, ?_⟩
  rw [beginConnect, outline_emit _ rfl, outline_suspend, outline_emit _ rfl, outline_emit _ rfl]
  simp [Outline.does, outline, deeds]

section

variable {p : Progress} (hO : s.outline = p.outline id o)
include hO

theorem Underway.rests (h : Underway id moves s p seen) (hl : s.looksAt? id m = none)
    {rs : List Log.Record} (hs : s.step m = s.tell rs) :
    Standing o id (moves ++ [m]) (seen ++ (s.looksAt? id m).toList) (s.step m) := by
  rw [hl, Option.toList_none, List.append_nil, hs]
  exact .underway p (h.stays m rfl) ((outline_tell s rs).trans hO)

/-- A bootstrap that fails where it waits. -/
theorem fails_of_outline {s₁ : Session} (hf : p.Founded id moves seen) (hu : p.undone = [])
    (h₁ : s₁.outline = { s.outline with owned := false }) {outcome : Outcome}
    (failure : outcome.isFailure = true) : Standing o id moves seen (s₁.finish id outcome) := by
  refine .failed p hf outcome failure (task?_finish_self _) ?_
  rw [outline_finish, h₁, hO, hu]
  rfl

end

/-! ### One move -/

section

variable (hid : id < s.started) (ha : s.actor? m = some id)
include hid ha

theorem standing_of_keys (ht : s.task? id = some { id, stage := .generating true })
    (hO : s.outline = Progress.keys.outline id o) :
    Standing o id (moves ++ [m]) (s.looksAt? id m).toList (s.step m) := by
  have hl : s.looksAt? id m = none := looksAt?_of_stage (congrArg _ ht) rfl m
  have hf : Progress.keys.Founded id (moves ++ [m]) [] := rfl
  cases keying ht hid ha with
  | rests rs step => exact Underway.rests hO (.keys ht) hl step
  | fails outcome failure step =>
    rw [hl, step]
    exact fails_of_outline hO hf rfl (by rw [hO]; rfl) failure
  | makes a i rs hm made step =>
    have hmade : Made id (moves ++ [m]) i :=
      ⟨a, List.mem_append_right _ (List.mem_singleton.2 hm.symm), made⟩
    rw [hl, step, beginSetup]
    split
    · exact fails_of_outline (s := s) hO hf rfl (by rw [outline_tell, hO]; rfl) rfl
    · rename_i line hline
      have hbytes : setupBytes i = Utf8.encode line := by simp only [setupBytes, hline]
      cases beginCommand_begun (s.tell rs) id (.setup i true) (Utf8.encode line)
        s.settings.setupTimeout with
      | sent pursues outline =>
        refine .underway (.setup i) (.setup hmade nofun pursues) (outline.trans ?_)
        rw [outline_tell, hO]
        simp [Progress.outline, Outline.does, Progress.deeds, Progress.identity, Progress.owns,
          hbytes]
      | unsent t gone outline =>
        refine .failed .keys hf (.failed t) rfl gone (outline.trans ?_)
        rw [outline_tell, hO]
        rfl
      | unflushed t gone outline =>
        refine .failed (.setup i) ⟨hmade, not_reported nofun⟩ (.failed t) rfl gone
          (outline.trans ?_)
        rw [outline_tell, hO]
        simp [Progress.outline, Outline.does, Progress.deeds, Progress.identity, Progress.owns,
          Progress.undone, hbytes]

theorem standing_of_setup (made : Made id moves i) (plain : ∀ l ∈ seen, status? l = none)
    (hp : s.Pursues id (.setup i true) seen)
    (hO : s.outline = (Progress.setup i).outline id o) :
    Standing o id (moves ++ [m]) (seen ++ (s.looksAt? id m).toList) (s.step m) := by
  have made' := made.concat m
  cases hp.pursuing hid ha with
  | rests hl outline pursues =>
    rw [hl, Option.toList_none, List.append_nil]
    exact .underway _ (.setup made' plain pursues) (outline.trans hO)
  | ends hl rs outcome failure step =>
    rw [hl, Option.toList_none, List.append_nil, step]
    exact fails_of_outline hO ⟨made', not_reported (ne_success_of_plain plain)⟩ rfl
      (by rw [outline_tell, outline_release]) failure
  | looks d l rest look step =>
    rw [look, step, Option.toList_some]
    cases hst : status? l with
    | none =>
      obtain ⟨hpursues, houtline⟩ := acceptLine_pursues (s.withLines rest) (.setup i true) d hst
      refine .underway (.setup i) (.setup made' ?_ hpursues) (houtline.trans hO)
      exact List.forall_mem_append.2 ⟨plain, by simpa using hst⟩
    | some status =>
      rw [acceptLine_of_some hst]
      rcases conclude_cases (s.withLines rest) id (.setup i true) _ status with
        ⟨rfl, hs⟩ | ⟨hne, rs, t, hs⟩
      · obtain ⟨s₁, h₁, hs₁⟩ := exists_beginScan (s.withLines rest) id i
          { exchange (.setup i true) d seen.reverse with seen := l :: seen.reverse }
        have succeeds : Succeeds seen l := ⟨plain, hst⟩
        rw [outline_withLines, hO] at h₁
        rw [hs]
        refine (congrArg _ hs₁).mpr ?_
        cases beginCommand_begun s₁ id (.scan (some i)) (utf8 scanCommand)
          s₁.settings.scanTimeout with
        | sent pursues outline =>
          refine .underway (.scan i) (.scan made' succeeds (List.forall_mem_nil _) pursues)
            (outline.trans ?_)
          rw [h₁]
          simp [Progress.outline, Outline.does, Progress.deeds, Progress.identity, Progress.owns]
        | unsent t gone outline =>
          refine .failed (.ready i) ⟨made', seen, l, rfl, succeeds⟩ (.failed t) rfl gone
            (outline.trans ?_)
          rw [h₁]
          rfl
        | unflushed t gone outline =>
          refine .failed (.scan i) ⟨made', seen, l, [], rfl, succeeds⟩ (.failed t) rfl gone
            (outline.trans ?_)
          rw [h₁]
          simp [Progress.outline, Outline.does, Progress.deeds, Progress.identity, Progress.owns,
            Progress.undone]
      · have hseen : ∀ l' ∈ seen ++ [l], status? l' ≠ some (some 48) := by
          refine List.forall_mem_append.2 ⟨ne_success_of_plain plain, fun l' hl' => ?_⟩
          rw [List.mem_singleton.1 hl', hst]
          exact fun h => hne (Option.some.inj h)
        rw [hs]
        exact fails_of_outline hO ⟨made', not_reported hseen⟩ rfl (by rw [outline_tell]; rfl) rfl

theorem standing_of_scan {body rest : List Bytes} {mark : Bytes} (made : Made id moves i)
    (succeeds : Succeeds body mark) (plain : ∀ l ∈ rest, status? l = none)
    (hp : s.Pursues id (.scan (some i)) rest)
    (hO : s.outline = (Progress.scan i).outline id o) :
    Standing o id (moves ++ [m]) (body ++ mark :: rest ++ (s.looksAt? id m).toList)
      (s.step m) := by
  have made' := made.concat m
  have founded (more : List Bytes) :
      (Progress.scan i).Founded id (moves ++ [m]) (body ++ mark :: rest ++ more) :=
    ⟨made', body, mark, rest ++ more, by simp, succeeds⟩
  cases hp.pursuing hid ha with
  | rests hl outline pursues =>
    rw [hl, Option.toList_none, List.append_nil]
    exact .underway _ (.scan made' succeeds plain pursues) (outline.trans hO)
  | ends hl rs outcome failure step =>
    rw [hl, step]
    exact fails_of_outline hO (founded _) rfl (by rw [outline_tell, outline_release]) failure
  | looks d l lines look step =>
    rw [look, step, Option.toList_some]
    cases hst : status? l with
    | none =>
      obtain ⟨hpursues, houtline⟩ := acceptLine_pursues (s.withLines lines) (.scan (some i)) d hst
      have hplain : ∀ l' ∈ rest ++ [l], status? l' = none :=
        List.forall_mem_append.2 ⟨plain, by simpa using hst⟩
      rw [List.append_assoc, List.cons_append]
      exact .underway (.scan i) (.scan made' succeeds hplain hpursues) (houtline.trans hO)
    | some status =>
      rw [acceptLine_of_some hst]
      rcases conclude_cases (s.withLines lines) id (.scan (some i)) _ status with
        ⟨rfl, hs⟩ | ⟨-, rs, t, hs⟩
      · let e : Exchange :=
          { exchange (.scan (some i)) d rest.reverse with seen := l :: rest.reverse }
        have houtput : e.output = [10].intercalate (marked rest) :=
          output_of_answered (e := e) rfl hst
        obtain ⟨s₁, h₁, ⟨f, hs₁⟩ | ⟨keys, hk, hs₁⟩⟩ :=
          exists_beginConnect (s.withLines lines) id i e
        · rw [hs]
          refine (congrArg _ hs₁).mpr ?_
          exact fails_of_outline hO (founded [l]) rfl (h₁.trans (by rw [outline_withLines])) rfl
        · obtain ⟨c, r, hkeys, hkey, htask, houtline⟩ := exists_connecting s₁ id i keys
          rw [hs]
          refine (congrArg _ hs₁).mpr ?_
          rw [List.append_assoc, List.cons_append]
          refine .underway (.connect i c r) (.connect ⟨made', body, mark, rest, l, rfl, succeeds,
            ⟨plain, hst⟩, ?_, hkey⟩ htask) (houtline.trans ?_)
          · rw [hkeys, ← hk, houtput]
          · rw [h₁, outline_withLines, hO]
            simp [Progress.outline, Outline.does, Progress.deeds, Progress.identity, Progress.owns]
      · rw [hs]
        exact fails_of_outline hO (founded [l]) rfl (by rw [outline_tell]; rfl) rfl

theorem standing_of_connect {c : ClientId} {r : ConnectRequest} (hc : s.closed = false)
    (founded : (Progress.connect i c r).Founded id moves seen)
    (ht : s.task? id = some { id, stage := .connecting c r true })
    (hO : s.outline = (Progress.connect i c r).outline id o) :
    Standing o id (moves ++ [m]) (seen ++ (s.looksAt? id m).toList) (s.step m) := by
  have hl : s.looksAt? id m = none := looksAt?_of_stage (congrArg _ ht) rfl m
  cases connecting hc ht hid ha with
  | rests rs step => exact Underway.rests hO (.connect founded ht) hl step
  | fails outcome failure step =>
    rw [hl, Option.toList_none, List.append_nil, step]
    refine .failed _ (founded.concat m) outcome failure (task?_finish_self _) ?_
    rw [outline_finish, outline_emit _ rfl, hO]
    simp [Progress.outline, Outline.does, Progress.undone, Progress.owns]
  | connects rs step =>
    rw [hl, Option.toList_none, List.append_nil, step]
    refine .returned i c r (founded.concat m) (task?_finish_self _) ?_
    rw [outline_finish, outline_tell]
    exact congrArg (fun o : Outline =>
      { o.does [.finish id (.ok (.client c))] with client := some c }) hO

end

theorem actor?_of_serves (hm : m.serves id = true) (ha : s.actor? m ≠ some id) :
    s.actor? m = none := by
  cases m with
  | deal | notify | resume | expire | answer | abort =>
    exact absurd (congrArg some (beq_iff_eq.1 hm)) ha
  | start => cases hm
  | _ => rfl

theorem Standing.step (h : Standing o id moves seen s) (hclosed : o.closed = false)
    (hid : id < s.started) (hm : m.serves id = true) :
    Standing o id (moves ++ [m]) (seen ++ (s.looksAt? id m).toList) (s.step m) := by
  have stays (hl : s.looksAt? id m = none) (ht : (s.step m).task? id = s.task? id)
      (ho : (s.step m).outline = s.outline) :
      Standing o id (moves ++ [m]) (seen ++ (s.looksAt? id m).toList) (s.step m) := by
    rw [hl, Option.toList_none, List.append_nil]
    cases h with
    | underway p waits outline => exact .underway p (waits.stays m ht) (ho.trans outline)
    | failed p founded outcome failure gone outline =>
      exact .failed p (founded.concat m) outcome failure (ht.trans gone) (ho.trans outline)
    | returned i c r founded gone outline =>
      exact .returned i c r (founded.concat m) (ht.trans gone) (ho.trans outline)
  have gone (ha : s.actor? m = some id) (ht : s.task? id = none) :
      Standing o id (moves ++ [m]) (seen ++ (s.looksAt? id m).toList) (s.step m) := by
    obtain ⟨rs, hs⟩ := exists_tell_of_gone ht hid ha
    exact stays (looksAt?_of_none ht m) (by rw [hs]; rfl) (by rw [hs, outline_tell])
  by_cases ha : s.actor? m = some id
  · cases h with
    | underway p waits outline =>
      cases waits with
      | keys task => exact standing_of_keys hid ha task outline
      | setup made plain pursues => exact standing_of_setup hid ha made plain pursues outline
      | scan made succeeds plain pursues =>
        exact standing_of_scan hid ha made succeeds plain pursues outline
      | connect founded task =>
        have hc : s.closed = false := (congrArg Outline.closed outline).trans hclosed
        exact standing_of_connect hid ha hc founded task outline
    | failed _ _ _ _ ht => exact gone ha ht
    | returned _ _ _ _ ht => exact gone ha ht
  · have hcalm := step_calm hm (actor?_of_serves hm ha)
    exact stays (looksAt?_of_ne ha) (task?_of_tasks_eq hcalm.tasks id) hcalm.outline

theorem Standing.run {more : List Move} (h : Standing o id moves seen s)
    (hclosed : o.closed = false) (hid : id < s.started)
    (hm : ∀ m ∈ more, m.serves id = true) :
    Standing o id (moves ++ more) (seen ++ s.transcript id more) (s.run more) := by
  induction more generalizing s moves seen with
  | nil =>
    rw [transcript, List.append_nil, List.append_nil]
    exact h
  | cons m more ih =>
    have hstep := h.step hclosed hid (hm m List.mem_cons_self)
    have hrun := ih hstep (hid.trans_le (started_le_step s m))
      fun m' hm' => hm m' (List.mem_cons_of_mem _ hm')
    rwa [List.append_assoc, List.append_assoc] at hrun

theorem standing_start (ho : s.console.owned = false) :
    Standing s.outline s.started [] [] (s.step (.start .bootstrap)) := by
  have hs : s.step (.start .bootstrap) =
      ({ s with started := s.started + 1 }.suspend s.started (.generating true)).emit
        (.generate s.started Identity.defaultBits) := rfl
  rw [hs]
  refine .underway .keys (.keys (task?_suspend_self _)) ?_
  rw [outline_emit _ rfl, outline_suspend]
  simp [outline, Outline.does, Progress.outline, Progress.deeds, Progress.identity, Progress.owns,
    ho, deeds]

/-- A bootstrap of an open session whose console nobody owns, and which no other task disturbs,
takes its steps in order: what it has done is the beginning of one row of acts, and it came as far
as it did because each step before succeeded, with the identity made and the keys scanned in
between.  While it is under way and when it fails, the session has the client that it had; the
identity is replaced once the setup has succeeded.  A bootstrap that fails, whatever the reason,
closes the client that it has made and leaves the console to others; one that returns leaves its
client to the session. -/
theorem bootstrap_in_order {moves : List Move} (hc : s.closed = false)
    (ho : s.console.owned = false) (hm : ∀ m ∈ moves, m.serves s.started = true) :
    let id := s.started
    let s₁ := s.step (.start .bootstrap)
    let s' := s₁.run moves
    ∃ p : Progress, p.Founded id moves (s₁.transcript id moves) ∧
      s'.identity = p.identity s.identity ∧ (∀ a ∈ p.deeds id, a.closes? = none) ∧
      (s'.task? id ≠ none ∧ s'.deeds = s.deeds ++ p.deeds id ∧ s'.client = s.client ∨
        (∃ o : Outcome, o.isFailure = true ∧ s'.task? id = none ∧
          s'.deeds = s.deeds ++ p.deeds id ++ p.undone ++ [.finish id o] ∧
          (∀ c, .newClient c ∈ p.deeds id → .closeClient c ∈ p.undone) ∧
          s'.client = s.client ∧ s'.console.owned = false) ∨
        ∃ i c r, p = .connect i c r ∧ s'.task? id = none ∧
          s'.deeds = s.deeds ++ p.deeds id ++ [.finish id (.ok (.client c))] ∧
          s'.client = some c ∧ s'.console.owned = false) := by
  intro id s₁ s'
  have hid : id < s₁.started := (Nat.lt_succ_self _).trans_le (start_only s .bootstrap).started
  have h : Standing s.outline id ([] ++ moves) ([] ++ s₁.transcript id moves) s' :=
    (standing_start ho).run hc hid hm
  cases h with
  | underway p waits outline =>
    refine ⟨p, waits.founded, congrArg Outline.identity outline,
      fun a => Progress.closes_of_mem_deeds, .inl ⟨waits.task?_ne_none,
        congrArg Outline.deeds outline, congrArg Outline.client outline⟩⟩
  | failed p founded outcome failure gone outline =>
    refine ⟨p, founded, congrArg Outline.identity outline,
      fun a => Progress.closes_of_mem_deeds, .inr (.inl ⟨outcome, failure, gone, ?_,
        fun c => Progress.closeClient_mem_undone, congrArg Outline.client outline,
        congrArg Outline.owned outline⟩)⟩
    rw [List.append_assoc _ p.undone]
    exact congrArg Outline.deeds outline
  | returned i c r founded gone outline =>
    exact ⟨.connect i c r, founded, congrArg Outline.identity outline,
      fun a => Progress.closes_of_mem_deeds, .inr (.inr ⟨i, c, r, rfl, gone,
        congrArg Outline.deeds outline, congrArg Outline.client outline,
        congrArg Outline.owned outline⟩)⟩

theorem bootstrap_in_order_sample :
    let s₁ := sample.step (.start .bootstrap)
    let s' := s₁.run (bootMoves 1).tail
    ∃ i c r, (Progress.connect i c r).Founded 1 (bootMoves 1).tail
        [utf8 "SERIAL STATUS: 0", utf8 "SERIAL STATUS: 0"] ∧
      s'.identity = some i ∧ s'.client = some c ∧ s'.console.owned = false ∧
      s'.deeds = (Progress.connect i c r).deeds 1 ++ [.finish 1 (.ok (.client c))] := by
  intro s₁ s'
  have hm : ∀ m ∈ (bootMoves 1).tail, m.serves sample.started = true := by decide +kernel
  have hseen : s₁.transcript 1 (bootMoves 1).tail =
      [utf8 "SERIAL STATUS: 0", utf8 "SERIAL STATUS: 0"] := by decide +kernel
  have hclient : s'.client = some 0 := by decide +kernel
  obtain ⟨p, hf, hi, -, h⟩ := bootstrap_in_order (s := sample) rfl rfl hm
  rcases h with ⟨-, -, hn⟩ | ⟨-, -, -, -, -, hn, -⟩ | ⟨i, c, r, rfl, -, hd, hc, ho⟩
  · cases hclient.symm.trans hn
  · cases hclient.symm.trans hn
  · exact ⟨i, c, r, hseen ▸ hf, hi, hc, ho, hd⟩

end Session

end GuestLink
