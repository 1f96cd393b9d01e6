import GuestLink.Proofs.Console.Find
import GuestLink.Proofs.Session.Wholeness

/-!
# What a reset forgets

A reset empties the queue.  What was received and has not been queued is not touched by it, nor is a
line that a task was handed and will look at: just these come back after a reset
(`reset_forgets_iff`).
-/

namespace GuestLink.Session

open Framing Serial

/-- The lines that are found in a run, each with its place in the stream. -/
def finds (s : Session) (moves : List Move) : List Find := Framing.finds [] (s.chunks moves)

/-- Those of the lines `fs` that the task `id` takes, if they leave the queue as `ds` says. -/
def takenAt (id : TaskId) (ds : List (Departure × Bytes)) (fs : List Find) : List Find :=
  (ds.zip fs).filterMap fun x => if x.1.1 = .taken id then some x.2 else none

/-- The lines that the task `id` looks at in a run, each with its place in the stream. -/
def views (s : Session) (id : TaskId) (moves : List Move) : List Find :=
  (takenAt id (s.departures moves) (s.finds moves)).take (s.transcript id moves).length

/-- The lines that the task `id` looks at in the moves `after` and that had been received before
them, up to their line feed. -/
def recalls (s : Session) (start after : List Move) (id : TaskId) : List Find :=
  ((s.views id (start ++ after)).drop (s.transcript id start).length).filter
    (Find.IsReceived (s.stream start))

/-- The lines that have been received and have not been queued. -/
def unread (s : Session) : List Bytes := complete s.console.limit s.console.buffer

/-- The line that a task holds and will look at unless it is called off; one that has been told that
it is called off will not. -/
def due? (s : Session) (id : TaskId) : Option Bytes :=
  (s.task? id).bind fun t => if t.notice = some .calledOff then none else t.hand

/-- Whether a task that waits for a line has been told that it is called off. -/
def IsOff (s : Session) (id : TaskId) : Prop :=
  ∃ t, s.task? id = some t ∧ t.stage.lineSignal? ≠ none ∧ t.notice = some .calledOff

/-- Whether lines can still be received and waited for. -/
structure Live (s : Session) : Prop where
  plugged : s.plugged = true
  opened : s.closed = false
  reader : s.console.reader = .absent ∨ s.console.reader = .ready ∨ s.console.reader = .waiting
  fault : s.console.inputFault = none
  input : s.console.inputClosed = false

variable {s : Session} {id : TaskId} {m : Move} {moves start after : List Move} {l : Bytes}
  {ds ds' : List (Departure × Bytes)} {fs fs' : List Find} {f : Find}

/-! ### Runs -/

theorem chunks_append (s : Session) (start after : List Move) :
    s.chunks (start ++ after) = s.chunks start ++ (s.run start).chunks after := by
  induction start generalizing s with
  | nil => rfl
  | cons m start ih =>
    rw [List.cons_append, chunks, chunks, ih, List.append_assoc]
    rfl

theorem departures_append (s : Session) (start after : List Move) :
    s.departures (start ++ after) = s.departures start ++ (s.run start).departures after := by
  induction start generalizing s with
  | nil => rfl
  | cons m start ih =>
    rw [List.cons_append, departures, departures, ih, List.append_assoc]
    rfl

theorem transcript_append (s : Session) (id : TaskId) (start after : List Move) :
    s.transcript id (start ++ after) =
      s.transcript id start ++ (s.run start).transcript id after := by
  induction start generalizing s with
  | nil => rfl
  | cons m start ih =>
    rw [List.cons_append, transcript, transcript, ih, List.append_assoc]
    rfl

/-- A task that has ended does not come back in a run. -/
theorem task?_run_of_none (ht : s.task? id = none) (hid : id < s.started) (moves : List Move) :
    (s.run moves).task? id = none ∧ id < (s.run moves).started := by
  induction moves generalizing s with
  | nil => exact ⟨ht, hid⟩
  | cons m moves ih =>
    exact ih (task?_step_of_none ht fun _ _ => hid.ne) (hid.trans_le (started_le_step s m))

/-! ### Tasks that are called off -/

/-- The time of a task may run out, which ends it. -/
theorem expire_cases (s : Session) (t : Task) :
    s.expire t = s ∨ (s.expire t).task? t.id = none := by
  unfold expire
  split_ifs
  · split
    · exact .inr (task?_finish_self _)
    · exact .inr (task?_finish_self _)
    · exact .inr (task?_finish_self _)
    · exact .inl rfl
  · exact .inl rfl

/-- A task that has been told that it is called off looks at no line any more: it is told so again, or
it ends. -/
theorem IsOff.step (h : s.IsOff id) (hid : id < s.started) (m : Move) :
    s.looksAt? id m = none ∧ ((s.step m).IsOff id ∨ (s.step m).task? id = none) := by
  obtain ⟨t, ht, hwaits, hn⟩ := h
  obtain ⟨signal, hsignal⟩ := Option.ne_none_iff_exists'.1 hwaits
  have hoff : s.isCalledOff t = true := by
    rw [isCalledOff, Stage.signal?_of_lineSignal? hsignal, hn]
    rfl
  have kept {s' : Session} {t' : Task} (hs : s.step m = s') (ht' : s'.task? id = some t')
      (hstage : t'.stage = t.stage) (hn' : t'.notice = some .calledOff) : (s.step m).IsOff id := by
    rw [hs]
    exact ⟨t', ht', hstage ▸ hwaits, hn'⟩
  by_cases ha : s.actor? m = some id
  · cases m with
    | deal =>
      cases ha
      refine ⟨rfl, .inl ?_⟩
      have hs : s.step (.deal id) = s.deal t := withTask_of_some ht s.deal
      unfold deal at hs
      split at hs
      · rw [id_of_task? ht] at hs
        exact kept hs (task?_handOver ht _) rfl hn
      · exact kept hs ht rfl hn
    | notify =>
      cases ha
      refine ⟨rfl, .inl ?_⟩
      rcases step_notify ht with hs | ⟨-, hs⟩
      · exact kept hs ht rfl hn
      · exact kept hs (task?_inform ht _) rfl (congrArg some (if_pos hoff))
    | resume =>
      cases ha
      refine ⟨?_, .inr ?_⟩
      · rw [looksAt?, if_pos rfl, ht, Option.bind_some, lookedAt?, hoff, Bool.or_true]
        rfl
      · rw [Session.step, withTask_of_some ht, resume, hsignal]
        dsimp only
        rw [resumeWait, if_pos hoff, ← id_of_task? ht]
        exact task?_finish_self _
    | expire =>
      cases ha
      have hs : s.step (.expire id) = s.expire t := withTask_of_some ht s.expire
      rcases expire_cases s t with he | he
      · exact ⟨rfl, .inl (kept (hs.trans he) ht rfl hn)⟩
      · rw [id_of_task? ht] at he
        exact ⟨rfl, .inr (hs ▸ he)⟩
    | abort =>
      cases ha
      refine ⟨rfl, .inr ?_⟩
      rw [Session.step, withTask_of_some ht, ← id_of_task? ht]
      exact task?_finish_self _
    | answer _ reply =>
      cases ha
      obtain ⟨rs, -, he⟩ := exists_answer_tell s id reply
      rw [withTask_of_some (s := s.tell rs) ht, goOn_of_lineSignal? hsignal] at he
      have hs : s.step (.answer id reply) = s.tell rs := he
      exact ⟨rfl, .inl (kept hs ht rfl hn)⟩
    | start j => exact absurd (Option.some.inj ha) hid.ne'
    | _ => cases ha
  · exact ⟨looksAt?_of_ne ha, .inl (kept rfl ((task?_step_of_ne ha).trans ht) rfl hn)⟩

theorem IsOff.transcript_eq_nil (h : s.IsOff id) (hn : s.Numbered) (moves : List Move) :
    s.transcript id moves = [] := by
  induction moves generalizing s with
  | nil => rfl
  | cons m moves ih =>
    have hid : id < s.started := by
      obtain ⟨t, ht, -, -⟩ := h
      exact id_of_task? ht ▸ hn t (mem_of_task? ht)
    obtain ⟨hlooks, hoff | hgone⟩ := h.step hid m
    · rw [transcript, hlooks]
      exact ih hoff (hn.step m)
    · rw [transcript, hlooks]
      exact transcript_of_none hgone (hid.trans_le (started_le_step s m)) moves

/-- What a task holds it will look at, or it has been told that it is called off. -/
theorem due?_cases (hw : s.HandsWait) (id : TaskId) : s.due? id = s.hand? id ∨ s.IsOff id := by
  cases ht : s.task? id with
  | none => exact .inl (by rw [due?, hand?, ht]; rfl)
  | some t =>
    by_cases hn : t.notice = some .calledOff
    · by_cases hsignal : t.stage.lineSignal? = none
      · refine .inl ?_
        rw [due?, hand?, ht, Option.bind_some, Option.bind_some, if_pos hn, hw id t ht hsignal]
      · exact .inr ⟨t, ht, hsignal, hn⟩
    · exact .inl (by rw [due?, hand?, ht, Option.bind_some, Option.bind_some, if_neg hn])

/-! ### Lines and their places -/

theorem map_line_takenAt (id : TaskId) (h : ds.map Prod.snd <+: fs.map Find.line) :
    (takenAt id ds fs).map Find.line = takenBy id ds := by
  induction ds generalizing fs with
  | nil => rfl
  | cons d ds ih =>
    cases fs with
    | nil => exact absurd h (by simp)
    | cons f fs =>
      obtain ⟨hd, h⟩ := List.cons_prefix_cons.1 h
      have ih := ih h
      rw [takenAt, takenBy] at ih ⊢
      rw [List.zip_cons_cons, List.filterMap_cons, List.filterMap_cons]
      by_cases ht : d.1 = .taken id
      · simp only [if_pos ht, List.map_cons, ih, hd]
      · simp only [if_neg ht, ih]

theorem takenAt_sublist (id : TaskId) (ds : List (Departure × Bytes)) (fs : List Find) :
    (takenAt id ds fs).Sublist fs := by
  induction ds generalizing fs with
  | nil => exact List.nil_sublist fs
  | cons d ds ih =>
    cases fs with
    | nil => exact List.nil_sublist []
    | cons f fs =>
      rw [takenAt, List.zip_cons_cons, List.filterMap_cons]
      by_cases ht : d.1 = .taken id
      · simp only [if_pos ht]
        exact (ih fs).cons_cons f
      · simp only [if_neg ht]
        exact (ih fs).cons f

theorem takenAt_append (id : TaskId) (h : ds.length = fs.length) :
    takenAt id (ds ++ ds') (fs ++ fs') = takenAt id ds fs ++ takenAt id ds' fs' := by
  rw [takenAt, List.zip_append h, List.filterMap_append]
  rfl

theorem map_line_finds (s : Session) (moves : List Move) :
    (s.finds moves).map Find.line = linesOf (s.happenings moves) := by
  rw [finds, Framing.map_line_finds, linesOf_happenings]

theorem Fresh.map_line_takenAt (hs : s.Fresh) (id : TaskId) (moves : List Move) :
    (takenAt id (s.departures moves) (s.finds moves)).map Find.line =
      takenBy id (s.departures moves) := by
  refine Session.map_line_takenAt id ?_
  rw [map_line_finds, hs.queue]
  exact List.prefix_append ..

/-- What a task takes are the lines that it looks at and at most one more, which it holds or has
lost. -/
theorem Fresh.takenBy_eq (hs : s.Fresh) (id : TaskId) (moves : List Move) :
    ∃ pending : Option Bytes,
      takenBy id (s.departures moves) = s.transcript id moves ++ pending.toList ∧
        (pending = (s.run moves).hand? id ∨ pending = none ∨
          (s.run moves).task? id = none ∧ id < (s.run moves).started) := by
  obtain ⟨pending, htaken, hp⟩ := taken_run hs.numbered hs.handsWait id moves
  rw [hand?_of_none (hs.task? id)] at htaken
  refine ⟨pending, htaken, hp.imp_right ?_⟩
  rintro ⟨before, m, after, rfl, rfl, hoff⟩
  by_cases hnone : (s.run before).hand? id = none
  · exact .inl hnone
  · have hid := lt_started_of_hand? (hs.numbered.run before) hnone
    rw [run_append]
    exact .inr (task?_run_of_none hoff.1 (hid.trans_le (started_le_step _ m)) after)

/-- The lines that a task looks at are those of its transcript. -/
theorem Fresh.map_line_views (hs : s.Fresh) (id : TaskId) (moves : List Move) :
    (s.views id moves).map Find.line = s.transcript id moves := by
  obtain ⟨pending, htaken, -⟩ := hs.takenBy_eq id moves
  rw [views, List.map_take, hs.map_line_takenAt, htaken, List.take_left]

/-! ### What is received before a reset -/

/-- A move takes the first of the chunks that lie in the buffer. -/
theorem chunk_prefix (s : Session) (m : Move) :
    s.chunk m <+: Framing.chunks s.console.limit s.console.inputClosed s.console.buffer := by
  cases m with
  | read =>
    rw [chunk]
    split_ifs
    · unfold Console.chunks
      split
      · exact List.prefix_rfl
      · exact List.take_prefix ..
      · exact List.nil_prefix
    · exact List.nil_prefix
  | _ => exact List.nil_prefix

/-- In a run the reader follows what lies in the buffer. -/
theorem chunks_follows {front data : Bytes} (hb : s.console.buffer = front ++ data)
    (moves : List Move) : Follows s.console.limit front (s.chunks moves) := by
  induction moves generalizing s front data with
  | nil => exact .stops front
  | cons m moves ih =>
    have hi := step_inflow s m
    refine .append (hb ▸ chunk_prefix s m) (fun c hc => hi.limit ▸ chunks_fit hc) fun front' hf => ?_
    have hbuffer : (s.step m).console.buffer = front' ++ (data ++ s.arrives m) := by
      refine List.append_cancel_left (hi.bytes.symm.trans ?_)
      rw [hb, hf]
      simp
    exact hi.limit ▸ ih hbuffer

/-! ### A reset -/

theorem lines_beginCommand {errand : Errand} {line : Bytes} {timeout : Binary64}
    (hplugged : s.plugged = true) (howned : s.console.owned = false) (hclosed : s.closed = false) :
    (s.beginCommand id errand line timeout).console.lines = [] := by
  rw [beginCommand, if_neg (by simp [hplugged]), if_neg (by simp [howned]),
    if_neg (by simp [hclosed])]
  dsimp only
  split <;> rfl

theorem Resets.lines_step {lines : List Bytes} (h : s.Resets m lines) :
    (s.step m).console.lines = [] := by
  rcases h with ⟨rfl, -⟩ | ⟨s₁, id, errand, line, timeout, hplugged, howned, hclosed, -, hstep⟩
  · rfl
  · rw [hstep]
    exact lines_beginCommand hplugged howned hclosed

/-- The lines that are found after some moves. -/
def laterFinds (s : Session) (start after : List Move) : List Find :=
  Framing.finds ((s.chunks start).flatMap Chunk.bytes) ((s.run start).chunks after)

/-- What the task `id` has taken in a run and not looked at. -/
def heldBack (s : Session) (start : List Move) (id : TaskId) : List Find :=
  (takenAt id (s.departures start) (s.finds start)).drop (s.transcript id start).length

/-- What the task `id` takes after some moves. -/
def takenLater (s : Session) (start after : List Move) (id : TaskId) : List Find :=
  takenAt id ((s.run start).departures after) (s.laterFinds start after)

theorem finds_append (s : Session) (start after : List Move) :
    s.finds (start ++ after) = s.finds start ++ s.laterFinds start after := by
  rw [finds, chunks_append, Framing.finds_append, List.nil_append]
  rfl

/-- Of the lines that are found after some moves those had been received before that were unread, or
the first of these. -/
theorem received_laterFinds (s : Session) (start after : List Move) :
    ((s.laterFinds start after).filter (Find.IsReceived (s.stream start))).map Find.line <+:
      (s.run start).unread := by
  rw [stream_eq]
  exact (chunks_follows (List.append_nil _).symm after).received _

/-- What a task has not looked at it holds, or has lost with its end. -/
theorem Fresh.heldBack_cases (hs : s.Fresh) (start : List Move) (id : TaskId) :
    ((s.heldBack start id).map Find.line).Sublist ((s.run start).hand? id).toList ∨
      (s.run start).task? id = none ∧ id < (s.run start).started := by
  obtain ⟨pending, htaken, hp⟩ := hs.takenBy_eq id start
  have hpending : (s.heldBack start id).map Find.line = pending.toList := by
    rw [heldBack, List.map_drop, hs.map_line_takenAt, htaken, List.drop_left]
  rw [hpending]
  rcases hp with rfl | rfl | hgone
  · exact .inl (List.Sublist.refl _)
  · exact .inl (List.nil_sublist _)
  · exact .inr hgone

/-- If all lines had been received before, a task recalls as many as it looks at. -/
theorem Fresh.length_recalls (hs : s.Fresh) (id : TaskId)
    (hbefore : ∀ f ∈ s.finds start, f.IsReceived (s.stream start))
    (hafter : ∀ f ∈ s.laterFinds start after, f.IsReceived (s.stream start)) :
    (s.recalls start after id).length = ((s.run start).transcript id after).length := by
  have hviews := congrArg List.length (hs.map_line_views id (start ++ after))
  rw [List.length_map, transcript_append, List.length_append] at hviews
  rw [recalls, List.filter_eq_self.2, List.length_drop, hviews, Nat.add_sub_cancel_left]
  intro f hf
  have hmem : f ∈ s.finds (start ++ after) :=
    (takenAt_sublist ..).mem (List.mem_of_mem_take (List.mem_of_mem_drop hf))
  rw [finds_append] at hmem
  exact decide_eq_true ((List.mem_append.1 hmem).elim (hbefore f) (hafter f))

section

variable (hs : s.Fresh) (hq : (s.run start).console.lines = [])
include hs hq

/-- What a task recalls is among what it has not looked at and what it takes later. -/
theorem Fresh.recalls_eq (after : List Move) (id : TaskId) :
    s.recalls start after id = ((s.heldBack start id ++ s.takenLater start after id).take
      ((s.run start).transcript id after).length).filter (Find.IsReceived (s.stream start)) := by
  have hlength : (s.departures start).length = (s.finds start).length := by
    have h := congrArg List.length (hs.queue start)
    rwa [hq, List.append_nil, ← map_line_finds, List.length_map, List.length_map, eq_comm] at h
  obtain ⟨pending, htaken, -⟩ := hs.takenBy_eq id start
  have hle : (s.transcript id start).length ≤
      (takenAt id (s.departures start) (s.finds start)).length := by
    rw [← List.length_map Find.line, hs.map_line_takenAt, htaken, List.length_append]
    exact Nat.le_add_right _ _
  rw [recalls, views, departures_append, finds_append, takenAt_append id hlength,
    transcript_append, List.length_append, List.drop_take, Nat.add_sub_cancel_left,
    List.drop_append_of_le_length hle]
  rfl

/-- A task that looks at nothing any more recalls nothing. -/
theorem Fresh.recalls_of_transcript (h : (s.run start).transcript id after = []) :
    s.recalls start after id = [] := by
  rw [hs.recalls_eq hq, h]
  rfl

/-- What comes back after a reset was held by the task, which will look at it, or was unread. -/
theorem Fresh.recalls_sublist (after : List Move) (id : TaskId) :
    ((s.recalls start after id).map Find.line).Sublist
      (((s.run start).due? id).toList ++ (s.run start).unread) := by
  have hw := hs.handsWait.run hs.numbered start
  rcases due?_cases hw id with hdue | hoff
  case inr =>
    rw [hs.recalls_of_transcript hq (hoff.transcript_eq_nil (hs.numbered.run start) after)]
    exact List.nil_sublist _
  rw [hdue, hs.recalls_eq hq]
  rcases hs.heldBack_cases start id with hheld | ⟨ht, hid⟩
  · have hlater : (((s.takenLater start after id).filter
        (Find.IsReceived (s.stream start))).map Find.line).Sublist (s.run start).unread := by
      exact (((takenAt_sublist ..).filter _).map _).trans (received_laterFinds ..).sublist
    refine (((List.take_sublist ..).filter _).map _).trans ?_
    rw [List.filter_append, List.map_append]
    exact ((List.filter_sublist.map _).trans hheld).append hlater
  · rw [transcript_of_none ht hid]
    exact List.nil_sublist _

end

/-- While the stream is open every line that was found was received up to its line feed. -/
theorem isReceived_of_mem_finds (h : (s.run moves).console.inputClosed = false)
    (hf : f ∈ s.finds moves) : f.IsReceived (s.stream moves) := by
  obtain ⟨front, c, back, hcs, he, hu⟩ := exists_of_mem_finds hf
  obtain ⟨closed, hfits⟩ := chunks_fit (hcs ▸ List.mem_append_right front List.mem_cons_self)
  rw [List.nil_append] at hu
  refine ⟨?_, ?_⟩
  · rw [hu, stream_eq, hcs]
    exact ⟨back.flatMap Chunk.bytes ++ (s.run moves).console.buffer, by simp⟩
  · obtain ⟨event, bytes⟩ := c
    rw [hu]
    cases hfits with
    | line raw =>
      show (_ ++ (raw ++ [lineFeed])).getLast? = _
      rw [← List.append_assoc, List.getLast?_concat]
    | last raw noFeed =>
      obtain ⟨-, -, hclosed⟩ := chunks_final hcs noFeed nofun
      exact absurd (h.symm.trans hclosed) Bool.false_ne_true
    | long | torn => cases he

/-! ### What comes back -/

/-- The moves by which a signal is lowered that a caller can lower. -/
def quiet : Signal → List Move
  | .closed => []
  | .named name => [.lower name]

/-- A task that holds a line looks at it when it goes on, unless it is called off. -/
theorem transcript_of_hand {t : Task} {signal : Signal} (ht : s.task? id = some t)
    (hsignal : t.stage.lineSignal? = some signal) (hhand : t.hand = some l)
    (hn : t.notice ≠ some .calledOff) (hopen : s.closed = false) :
    s.transcript id (quiet signal ++ [.resume id]) = [l] ∧
      s.chunks (quiet signal ++ [.resume id]) = [] := by
  have looks (s' : Session) (ht' : s'.task? id = some t) (hr : s'.isRaised signal = false) :
      s'.transcript id [.resume id] = [l] := by
    have hoff : s'.isCalledOff t = false := by
      rw [isCalledOff, Stage.signal?_of_lineSignal? hsignal]
      cases hnotice : t.notice with
      | none => exact hr
      | some notice =>
        rw [hnotice] at hn
        exact beq_eq_false_iff_ne.2 fun he => hn (congrArg some he)
    have hl : s'.looksAt? id (.resume id) = some l := by
      rw [looksAt?, if_pos rfl, ht', Option.bind_some, lookedAt?, hsignal, hoff, hhand]
      rfl
    rw [transcript, hl]
    rfl
  refine ⟨?_, by cases signal <;> rfl⟩
  cases signal with
  | closed => exact looks s ht hopen
  | named name =>
    have hr : (s.step (.lower name)).isRaised (.named name) = false := by
      simp [step, isRaised]
    exact looks (s.step (.lower name)) ht hr

/-- The moves of a call for the next line, which is the task `id`. -/
def call (id : TaskId) : List Move := [.start (.next .closed), .deal id, .resume id]

/-- A call gets the oldest line of the queue. -/
theorem transcript_of_call {rest : List Bytes} (hplugged : s.plugged = true)
    (hopen : s.closed = false) (hl : s.console.lines = l :: rest) :
    s.transcript s.started (call s.started) = [l] := by
  have hstart : s.step (.start (.next .closed)) =
      { s with started := s.started + 1 }.suspend s.started (.next .closed) := by
    simp [step, Session.start, beginJob, hplugged]
  generalize hs₁ : s.step (.start (.next .closed)) = s₁ at hstart
  have ht : s₁.task? s.started = some { id := s.started, stage := .next .closed } :=
    hstart ▸ task?_suspend_self _
  have hlines : s₁.console.lines = l :: rest := hstart ▸ hl
  have hdeal : s₁.step (.deal s.started) = s₁.deal { id := s.started, stage := .next .closed } :=
    withTask_of_some ht s₁.deal
  simp only [Session.deal, hlines, Stage.lineSignal?] at hdeal
  have ht' : (s₁.step (.deal s.started)).task? s.started =
      some { id := s.started, stage := .next .closed, hand := some l } :=
    hdeal ▸ task?_handOver ht l
  have hclosed : (s₁.step (.deal s.started)).closed = false := by
    rw [hdeal, hstart]
    exact hopen
  rw [call, transcript, transcript, hs₁]
  exact (transcript_of_hand ht' rfl rfl (by simp) hclosed).1

theorem eq_nil_of_enqueue {queue batch : List Bytes} (h : Console.enqueue queue batch = []) :
    batch = [] := by
  have hdepth : 0 < queueDepth := by decide
  rw [Console.enqueue, Console.keepLast, List.drop_eq_nil_iff, List.length_append] at h
  exact List.length_eq_zero_iff.1 (by omega)

/-- A byte arrives, and the reader runs. -/
def wake : List Move := [.startReader, .receive [120], .read]

theorem Live.run_wake (h : s.Live) :
    (s.run wake).console.lines = Console.enqueue s.console.lines s.unread ∧
      s.chunks wake = Framing.chunks s.console.limit false (s.console.buffer ++ [120]) ∧
      (s.run wake).plugged = true ∧ (s.run wake).closed = false := by
  obtain ⟨entered, woken, hready⟩ : ∃ entered woken, (s.step .startReader).step (.receive [120]) =
      { s with console := { s.console with
          reader := .ready, buffer := s.console.buffer ++ [120], entered, woken } } := by
    rcases h.reader with hr | hr | hr
    · exact ⟨false, false, by
        simp [step, withConsole, Console.startReader, Console.receive, Console.wakeReader, hr,
          h.input]⟩
    · exact ⟨s.console.entered, s.console.woken, by
        simp [step, withConsole, Console.startReader, Console.receive, Console.wakeReader, hr,
          h.input]⟩
    · exact ⟨s.console.entered, true, by
        simp [step, withConsole, Console.startReader, Console.receive, Console.wakeReader, hr,
          h.input]⟩
  have hrun : s.run wake = ((s.step .startReader).step (.receive [120])).step .read := rfl
  have hchunks : s.chunks wake = ((s.step .startReader).step (.receive [120])).chunk .read :=
    List.append_nil _
  rw [hrun, hchunks, hready]
  refine ⟨?_, ?_, h.plugged, h.opened⟩
  · have hread : linesOf (Framing.read s.console.limit false (s.console.buffer ++ [120])).events =
        s.unread := complete_append (by decide) s.console.buffer
    rw [← hread]
    simp [step, read, Console.read, Console.intake, h.fault, h.input]
  · simp [chunk, Console.chunks, h.fault, h.input]

/-- A line that a task holds after some moves and will look at comes back. -/
theorem Fresh.due?_of_recalls (hs : s.Fresh) (hopen : (s.run start).closed = false)
    (hinput : (s.run start).console.inputClosed = false)
    (h : ∀ after, s.recalls start after id = []) : (s.run start).due? id = none := by
  by_contra hne
  obtain ⟨l, hl⟩ := Option.ne_none_iff_exists'.1 hne
  obtain ⟨t, ht, hhand⟩ := Option.bind_eq_some_iff.1 hl
  have hn : t.notice ≠ some .calledOff := fun hn => by simp [hn] at hhand
  rw [if_neg hn] at hhand
  cases hsignal : t.stage.lineSignal? with
  | none =>
    have hnone := hs.handsWait.run hs.numbered start id t ht hsignal
    cases hnone.symm.trans hhand
  | some signal =>
    obtain ⟨htranscript, hchunks⟩ := transcript_of_hand ht hsignal hhand hn hopen
    have hafter : s.laterFinds start (quiet signal ++ [.resume id]) = [] := by
      rw [laterFinds, hchunks]
      rfl
    have hlength := hs.length_recalls id (fun f => isReceived_of_mem_finds hinput)
      (by rw [hafter]; exact List.forall_mem_nil _)
    rw [h, htranscript] at hlength
    cases hlength

/-- A line that is unread after some moves comes back. -/
theorem Fresh.unread_of_recalls (hs : s.Fresh) (hlive : (s.run start).Live)
    (h : ∀ after id, s.recalls start after id = []) : (s.run start).unread = [] := by
  by_contra hne
  obtain ⟨hlines, hchunks, hplugged, hopen⟩ := hlive.run_wake
  generalize hwoken : (s.run start).run wake = woken at hlines hplugged hopen
  obtain ⟨l, rest, hl⟩ : ∃ l rest, woken.console.lines = l :: rest :=
    List.exists_cons_of_ne_nil fun hnil => hne (eq_nil_of_enqueue (hlines.symm.trans hnil))
  have htranscript := transcript_append (s.run start) woken.started wake (call woken.started)
  rw [hwoken, transcript_of_call hplugged hopen hl] at htranscript
  have hfinds : s.laterFinds start (wake ++ call woken.started) =
      Framing.finds ((s.chunks start).flatMap Chunk.bytes)
        (Framing.chunks (s.run start).console.limit false
          ((s.run start).console.buffer ++ [120])) := by
    rw [laterFinds, chunks_append, hchunks]
    exact congrArg _ (List.append_nil _)
  have hafter : ∀ f ∈ s.laterFinds start (wake ++ call woken.started),
      f.IsReceived (s.stream start) := by
    rw [hfinds, stream_eq]
    exact fun f => Framing.isReceived_of_mem_finds (by decide)
  have hbefore : ∀ f ∈ s.finds start, f.IsReceived (s.stream start) :=
    fun f => isReceived_of_mem_finds hlive.input
  have hlength := hs.length_recalls woken.started hbefore hafter
  rw [h, htranscript, List.length_append] at hlength
  cases hlength

/-- What a reset does not reach: it forgets everything just if no task holds a line at which it will
look and none is unread. -/
theorem reset_forgets_iff (hs : s.Fresh) (before : List Move) {m : Move} {lines : List Bytes}
    (hr : (s.run before).Resets m lines) :
    let start := before ++ [m]
    let s' := s.run start
    (∀ id moves, (s.views id moves).map Find.line = s.transcript id moves) ∧
      (∀ after id, ((s.recalls start after id).map Find.line).Sublist
        ((s'.due? id).toList ++ s'.unread)) ∧
      (s'.Live → ((∀ after id, s.recalls start after id = []) ↔
        (∀ id, s'.due? id = none) ∧ s'.unread = [])) := by
  intro start s'
  have hq : s'.console.lines = [] := by
    show (s.run (before ++ [m])).console.lines = []
    rw [run_append]
    exact hr.lines_step
  have hsub := hs.recalls_sublist hq
  refine ⟨hs.map_line_views, hsub, fun hlive => ⟨fun hnone => ⟨fun id => ?_, ?_⟩, ?_⟩⟩
  · exact hs.due?_of_recalls hlive.opened hlive.input fun after => hnone after id
  · exact hs.unread_of_recalls hlive hnone
  · rintro ⟨hhands, hunread⟩ after id
    have h := hsub after id
    rw [hhands, hunread] at h
    exact List.map_eq_nil_iff.1 (List.sublist_nil.1 h)

/-- A line arrives, and the reader has not run yet. -/
def backlog : List Move := [.receive (utf8 "SERIAL STATUS: 0\n")]

/-- Once it is queued a reset forgets the line, but not before. -/
theorem reset_forgets_iff_sample :
    (¬∀ after id, sample.recalls (backlog ++ [.reset]) after id = []) ∧
      ∀ after id, sample.recalls (backlog ++ [.read] ++ [.reset]) after id = [] := by
  obtain ⟨-, -, hunread⟩ :=
    reset_forgets_iff (s := sample) ⟨rfl, rfl⟩ backlog (.inl ⟨rfl, rfl⟩)
  obtain ⟨-, -, hqueued⟩ :=
    reset_forgets_iff (s := sample) ⟨rfl, rfl⟩ (backlog ++ [.read]) (.inl ⟨rfl, rfl⟩)
  constructor
  · rw [hunread ⟨rfl, rfl, .inr (.inl (by decide +kernel)), rfl, rfl⟩]
    rintro ⟨-, hnil⟩
    revert hnil
    decide +kernel
  · rw [hqueued ⟨by decide +kernel, by decide +kernel, .inr (.inr (by decide +kernel)),
      by decide +kernel, by decide +kernel⟩]
    have hfresh : (sample.run (backlog ++ [.read] ++ [.reset])).Fresh := ⟨rfl, by decide +kernel⟩
    exact ⟨fun id => by rw [due?, hfresh.task? id]; rfl, by decide +kernel⟩

/-- A line that had arrived before a reset is what the next call gets. -/
theorem recalls_backlog :
    let start := backlog ++ [.reset]
    let after := .read :: call 1
    sample.Fresh ∧ (sample.run backlog).Resets .reset [] ∧
      sample.stream start = utf8 "SERIAL STATUS: 0\n" ∧
      (sample.run start).transcript 1 after = [utf8 "SERIAL STATUS: 0"] ∧
      sample.recalls start after 1 =
        [⟨utf8 "SERIAL STATUS: 0", utf8 "SERIAL STATUS: 0\n"⟩] := by
  intro start after
  exact ⟨⟨rfl, rfl⟩, .inl ⟨rfl, rfl⟩, by decide +kernel, by decide +kernel, by decide +kernel⟩

end GuestLink.Session
