import GuestLink.Proofs.Capture
import Mathlib.Logic.Function.Basic

/-!
# A capture and its channel

Between any two queries of a capture its channel may change: bytes of a stream become available, the
remote side sends its exit status, the channel is closed.  A `Talk` is a capture together with what
its channel has.  If the channel is honest about its streams, what it has handed over of a stream
and what it still holds is what has become available, in order (`received_append_held`).
-/

namespace GuestLink.Capture

/-! ### What a capture does with an answer -/

/-- Every way in which a capture with `out` and `err` goes on from a query with its answer. -/
inductive Goes (out err : Bytes) : Bool → Query × Answer → Capture → Prop
  | raises (draining : Bool) (q : Query) (i : Incident) :
      Goes out err draining (q, .raised i) (.failed i out err)
  | runs (draining : Bool) :
      Goes out err draining (.exec, .done) (.asking (.ready .out) false out err)
  | sees (draining : Bool) (s : Stream) :
      Goes out err draining (.ready s, .flag true) (.asking (.receive s) draining out err)
  | turns (draining : Bool) :
      Goes out err draining (.ready .out, .flag false) (.asking (.ready .err) draining out err)
  | takesOut (draining : Bool) (bs : Bytes) :
      Goes out err draining (.receive .out, .data bs)
        (.asking (.ready .out) draining (out ++ bs) err)
  | takesErr (bs : Bytes) :
      Goes out err false (.receive .err, .data bs) (.asking (.ready .out) false out (err ++ bs))
  | drainsErr (bs : Bytes) :
      Goes out err true (.receive .err, .data bs) (.asking (.ready .err) true out (err ++ bs))
  | inquires : Goes out err false (.ready .err, .flag false) (.asking .statusReady false out err)
  | drained : Goes out err true (.ready .err, .flag false) (.asking .status true out err)
  | learns (draining : Bool) :
      Goes out err draining (.statusReady, .flag true) (.asking (.ready .out) true out err)
  | looks (draining : Bool) :
      Goes out err draining (.statusReady, .flag false) (.asking .isClosed draining out err)
  | closes (draining : Bool) :
      Goes out err draining (.isClosed, .flag true) (.failed closedEarly out err)
  | waits (draining : Bool) :
      Goes out err draining (.isClosed, .flag false) (.asking .wait draining out err)
  | wakes (draining : Bool) :
      Goes out err draining (.wait, .done) (.asking (.ready .out) draining out err)
  | finishes (draining : Bool) (code : Int) :
      Goes out err draining (.status, .status code) (.finished ⟨out, err, code⟩)

theorem goes {q : Query} {a : Answer} (h : q.takes a = true) (draining : Bool) (out err : Bytes) :
    Goes out err draining (q, a) ((asking q draining out err).step a) := by
  cases a with
  | raised i =>
    have hs : (asking q draining out err).step (.raised i) = .failed i out err := by
      cases q <;> rfl
    exact hs ▸ .raises ..
  | done =>
    cases q with
    | exec => exact .runs draining
    | wait => exact .wakes draining
    | _ => cases h
  | data bs =>
    cases q with
    | receive s => cases s <;> cases draining <;> constructor
    | _ => cases h
  | status code =>
    cases q with
    | status => exact .finishes draining code
    | _ => cases h
  | flag b =>
    cases q with
    | ready s => cases s <;> cases b <;> cases draining <;> constructor
    | statusReady | isClosed => cases b <;> constructor
    | _ => cases h

/-- Whether a capture puts a query while it is draining its streams, or before. -/
def Query.fits : Query → Bool → Bool
  | .ready _, _ | .receive _, _ => true
  | .status, draining => draining
  | .exec, draining | .statusReady, draining | .isClosed, draining | .wait, draining => !draining

/-- Something that happens to the channel of a capture. -/
inductive Event where
  /-- Bytes of a stream become available. -/
  | arrival (s : Stream) (bs : Bytes)
  /-- The remote side sends its exit status. -/
  | exit (code : Int)
  /-- The channel is closed. -/
  | close
  /-- The capture gets an answer. -/
  | answer (a : Answer)
  deriving DecidableEq, Repr

/-- The answer that an event gives, if it gives one. -/
def Event.answer? : Event → Option Answer
  | .answer a => some a
  | _ => none

/-- The bytes of a stream that become available with an event. -/
def Event.bytes (s : Stream) : Event → Bytes
  | .arrival s' bs => if s' = s then bs else []
  | _ => []

/-- The answers among events. -/
def answers (events : List Event) : List Answer := events.filterMap Event.answer?

/-- The bytes of a stream that become available. -/
def arrived (s : Stream) (events : List Event) : Bytes := events.flatMap (Event.bytes s)

/-- A capture and what its channel has. -/
structure Talk where
  capture : Capture := .start
  /-- What has become available of each stream and was not handed over. -/
  held : Stream → Bytes := fun _ => []
  /-- The exit status that the remote side has sent. -/
  exit : Option Int := none
  closed : Bool := false

namespace Talk

/-- The query that the capture puts with an answer that it takes, if the event gives one. -/
def exchange? (t : Talk) (e : Event) : Option (Query × Answer) :=
  e.answer?.bind t.capture.exchange?

/-- What becomes of a capture and its channel with an event. -/
def step (t : Talk) (e : Event) : Talk :=
  match e with
  | .arrival s bs => { t with held := Function.update t.held s (t.held s ++ bs) }
  | .exit code => { t with exit := some code }
  | .close => { t with closed := true }
  | .answer a => { t with
      capture := t.capture.step a
      held := fun s => (t.held s).drop (received s (t.exchange? e).toList).length }

/-- What becomes of a capture and its channel with events. -/
def run (t : Talk) (events : List Event) : Talk := events.foldl step t

/-- The queries that the capture puts, each with its answer. -/
def dialogue (t : Talk) (events : List Event) : List (Query × Answer) :=
  t.capture.dialogue (answers events)

/-- Whether in events all answers that the capture takes are as a rule says. -/
def Obeys (rule : Talk → Query × Answer → Prop) (t : Talk) : List Event → Prop
  | [] => True
  | e :: events => (∀ x ∈ t.exchange? e, rule t x) ∧ (t.step e).Obeys rule events

instance instDecidableObeys (rule : Talk → Query × Answer → Prop) [∀ t x, Decidable (rule t x)]
    (t : Talk) : (events : List Event) → Decidable (t.Obeys rule events)
  | [] => .isTrue trivial
  | e :: events =>
    have : Decidable ((t.step e).Obeys rule events) := instDecidableObeys rule (t.step e) events
    inferInstanceAs (Decidable ((∀ x ∈ t.exchange? e, rule t x) ∧ (t.step e).Obeys rule events))

/-- Whether an answer is honest about the streams: one is ready just if something of it is
available, and what is handed over is some of that, from its beginning, and no more than was asked
for. -/
def Honest (t : Talk) : Query × Answer → Prop
  | (.ready s, .flag b) => b = !(t.held s).isEmpty
  | (.receive s, .data bs) => bs ≠ [] ∧ bs.length ≤ receiveSize ∧ bs <+: t.held s
  | _ => True

instance (t : Talk) (x : Query × Answer) : Decidable (t.Honest x) := by
  unfold Honest
  split <;> infer_instance

variable {t : Talk} {e : Event} {events more : List Event} {s : Stream} {x : Query × Answer}
  {rule : Talk → Query × Answer → Prop}

/-! ### Runs -/

theorem exchange?_answer (t : Talk) (a : Answer) :
    t.exchange? (.answer a) = t.capture.exchange? a := rfl

theorem capture_step (t : Talk) (e : Event) :
    (t.step e).capture = t.capture.run e.answer?.toList := by
  cases e <;> rfl

theorem capture_run (t : Talk) (events : List Event) :
    (t.run events).capture = t.capture.run (answers events) := by
  induction events generalizing t with
  | nil => rfl
  | cons e events ih =>
    show ((t.step e).run events).capture = _
    rw [ih, capture_step]
    cases e <;> rfl

theorem dialogue_cons (t : Talk) (e : Event) (events : List Event) :
    t.dialogue (e :: events) = (t.exchange? e).toList ++ (t.step e).dialogue events := by
  rw [dialogue, dialogue, capture_step]
  cases e <;> rfl

theorem arrived_cons (s : Stream) (e : Event) (events : List Event) :
    arrived s (e :: events) = e.bytes s ++ arrived s events := List.flatMap_cons

/-- A capture that has ended puts no query any more. -/
theorem exchange?_of_answer? (h : t.capture.answer? ≠ none) (e : Event) : t.exchange? e = none := by
  cases e with
  | answer a => exact (rests_of_answer? h a).1
  | _ => rfl

theorem answer?_step (h : t.capture.answer? ≠ none) (e : Event) :
    (t.step e).capture = t.capture := by
  cases e with
  | answer a => exact (rests_of_answer? h a).2
  | _ => rfl

/-- An event leaves the capture as it is, or answers its query. -/
theorem step_goes (t : Talk) (e : Event) : t.exchange? e = none ∧ (t.step e).capture = t.capture ∨
    ∃ q a draining out err, t.exchange? e = some (q, a) ∧
      t.capture = .asking q draining out err ∧ Goes out err draining (q, a) (t.step e).capture := by
  cases e with
  | answer a =>
    cases hc : t.capture with
    | finished | failed =>
      have ha : t.capture.answer? ≠ none := by simp [hc, answer?]
      exact .inl ⟨exchange?_of_answer? ha _, (answer?_step ha _).trans hc⟩
    | asking q draining out err =>
      have hs : (t.step (.answer a)).capture = (asking q draining out err).step a := hc ▸ rfl
      cases ht : q.takes a with
      | false =>
        have hpasses : (asking q draining out err).exchange? a = none ∧
            (asking q draining out err).step a = .asking q draining out err := passes_over ht
        exact .inl ⟨by rw [exchange?_answer, hc, hpasses.1], hs.trans hpasses.2⟩
      | true =>
        refine .inr ⟨q, a, draining, out, err, ?_, rfl, hs ▸ goes ht draining out err⟩
        rw [exchange?_answer, hc, exchange?_of_takes ht]
  | _ => exact .inl ⟨rfl, rfl⟩

/-! ### What an answer can be -/

theorem exit_step (t : Talk) (e : Event) (h : t.exit ≠ none) : (t.step e).exit ≠ none := by
  cases e with
  | exit code => exact Option.some_ne_none code
  | _ => exact h

theorem closed_step (t : Talk) (e : Event) (h : t.closed = true) : (t.step e).closed = true := by
  cases e with
  | close => rfl
  | _ => exact h

/-- An answer is not given that the rule denies while something lasts. -/
theorem Obeys.not_mem_dialogue {p : Talk → Prop} (h : t.Obeys rule events)
    (lasts : ∀ t e, p t → p (t.step e)) (denies : ∀ t, p t → ¬rule t x) (ht : p t) :
    x ∉ t.dialogue events := by
  induction events generalizing t with
  | nil => exact List.not_mem_nil
  | cons e events ih =>
    rw [dialogue_cons, List.mem_append, not_or]
    exact ⟨fun hx => denies t ht (h.1 x (Option.mem_toList.1 hx)), ih h.2 (lasts t e ht)⟩

/-! ### What becomes available -/

theorem Honest.handed_isPrefix (h : t.Honest x) (s : Stream) : handed s x <+: t.held s := by
  unfold handed
  split
  · split_ifs with hs
    · exact hs ▸ h.2.2
    · exact List.nil_prefix
  · exact List.nil_prefix

theorem held_step (h : ∀ x ∈ t.exchange? e, t.Honest x) (s : Stream) :
    received s (t.exchange? e).toList ++ (t.step e).held s = t.held s ++ e.bytes s := by
  cases e with
  | arrival s' bs =>
    show Function.update t.held s' (t.held s' ++ bs) s = t.held s ++ if s' = s then bs else []
    by_cases hs : s' = s
    · subst hs
      rw [Function.update_self, if_pos rfl]
    · rw [Function.update_of_ne (Ne.symm hs), if_neg hs, List.append_nil]
  | exit | close => exact (List.append_nil _).symm
  | answer a =>
    have hpre : received s (t.exchange? (.answer a)).toList <+: t.held s := by
      cases hx : t.exchange? (.answer a) with
      | none => exact List.nil_prefix
      | some x =>
        rw [Option.toList_some, received_singleton]
        exact (h x hx).handed_isPrefix s
    obtain ⟨rest, hrest⟩ := hpre
    show _ ++ (t.held s).drop _ = t.held s ++ []
    rw [List.append_nil, ← hrest, List.drop_left]

/-- What has become available of a stream was handed over, in order, or is still there. -/
theorem received_append_held (h : t.Obeys Honest events) (s : Stream) :
    received s (t.dialogue events) ++ (t.run events).held s = t.held s ++ arrived s events := by
  induction events generalizing t with
  | nil => exact (List.append_nil _).symm
  | cons e events ih =>
    show _ ++ ((t.step e).run events).held s = _
    rw [dialogue_cons, received_append, List.append_assoc, ih h.2, ← List.append_assoc,
      held_step h.1, arrived_cons, List.append_assoc]

end Talk

end GuestLink.Capture
