import GuestLink.Proofs.Capture.Talk

/-!
# Captures whose channel is lost

The SSH library says that there is an exit status once one was sent or the channel is closed, and
hands over −1 for a status that was not sent.  A capture whose channel is closed without a status
therefore takes the loss for the status −1, unless the channel is closed just behind the answer that
there is no status, when the capture looks whether it is closed (`answer_of_lost`).
-/

namespace GuestLink.Capture

/-- Whether an answer is that something was raised. -/
def Answer.isRaised : Answer → Bool
  | .raised _ => true
  | _ => false

namespace Talk

/-- What the SSH library answers to a query about the end of the command. -/
def reply? (t : Talk) : Query → Option Answer
  | .statusReady => some (.flag (t.closed || t.exit.isSome))
  | .isClosed => some (.flag t.closed)
  | .status => some (.status (t.exit.getD (-1)))
  | _ => none

/-- Whether an answer is the one that the SSH library gives, unless it raises something. -/
def Conforms (t : Talk) (x : Query × Answer) : Prop :=
  x.2.isRaised = false → ∀ a ∈ t.reply? x.1, x.2 = a

instance (t : Talk) (x : Query × Answer) : Decidable (t.Conforms x) :=
  inferInstanceAs (Decidable (_ → _))

/-- The query before which an event closes the channel, if it does. -/
def closesBehind (t : Talk) (e : Event) : Option Query :=
  if e = .close then t.capture.query? else none

/-- The query that the capture was about to put when its channel was closed. -/
def closedBehind (t : Talk) : List Event → Option Query
  | [] => none
  | e :: events => (t.closesBehind e).or ((t.step e).closedBehind events)

end Talk

open Talk

/-- How a capture fares that has held the dialogue `d`, if no exit status is sent: its channel was
closed when it was about to put the query `behind`, if it was, and is closed or not. -/
inductive Fares (d : List (Query × Answer)) : Option Query → Bool → Capture → Prop
  | polls (q : Query) (out err : Bytes) (fits : q.fits false = true) :
      Fares d none false (.asking q false out err)
  | looks (out err : Bytes) : Fares d (some .isClosed) true (.asking .isClosed false out err)
  | finds (out err : Bytes) (closed : Bool) :
      Fares d (some .isClosed) closed (.failed closedEarly out err)
  | passes (behind q : Query) (draining : Bool) (out err : Bytes) (hb : behind ≠ .isClosed)
      (hq : q ≠ .isClosed) : Fares d (some behind) true (.asking q draining out err)
  | counts (behind : Query) (out err : Bytes) (closed : Bool) (hb : behind ≠ .isClosed) :
      Fares d (some behind) closed (.finished ⟨out, err, -1⟩)
  | breaks (behind : Option Query) (closed : Bool) (i : Incident) (out err : Bytes)
      (x : Query × Answer) (hx : x ∈ d) (hi : x.2 = .raised i) :
      Fares d behind closed (.failed i out err)

variable {t : Talk} {e : Event} {events : List Event} {d : List (Query × Answer)}
  {behind : Option Query}

theorem Fares.answers (h : Fares d behind t.closed t.capture) (hexit : t.exit = none) (a : Answer)
    (hconforms : ∀ x ∈ t.exchange? (.answer a), t.Conforms x) :
    Fares (d ++ (t.exchange? (.answer a)).toList) behind t.closed (t.step (.answer a)).capture := by
  rcases t.step_goes (.answer a) with ⟨hx, hs⟩ | ⟨q, a', draining, out, err, hx, hc, hg⟩
  · rw [hx, hs, Option.toList_none, List.append_nil]
    exact h
  · have hreply : t.Conforms (q, a') := hconforms _ hx
    rw [Conforms, reply?.eq_def, hexit, Option.isSome_none, Bool.or_false] at hreply
    rw [hc] at h
    rw [hx, Option.toList_some]
    generalize (t.step (.answer a)).capture = c at hg ⊢
    generalize t.closed = closed at h hreply
    cases hg with
    | raises => exact .breaks _ _ _ _ _ (q, .raised _) (by simp) rfl
    | learns =>
      have hclosed := hreply rfl _ rfl
      cases h with
      | polls => cases hclosed
      | passes b _ _ _ _ hb => exact .passes b _ _ _ _ hb (by simp)
    | looks =>
      have hopen := hreply rfl _ rfl
      cases h with
      | polls => exact .polls _ _ _ rfl
      | passes => cases hopen
    | closes =>
      have hclosed := hreply rfl _ rfl
      cases h with
      | polls => cases hclosed
      | looks => exact .finds ..
      | passes _ _ _ _ _ _ hq => exact absurd rfl hq
    | waits =>
      have hopen := hreply rfl _ rfl
      cases h with
      | polls => exact .polls _ _ _ rfl
      | looks => cases hopen
      | passes _ _ _ _ _ _ hq => exact absurd rfl hq
    | finishes =>
      have hcode := hreply rfl _ rfl
      cases h with
      | polls _ _ _ fits => cases fits
      | passes b _ _ _ _ hb =>
        cases hcode
        exact .counts b _ _ _ hb
    | drainsErr | drained =>
      cases h with
      | passes b _ _ _ _ hb => exact .passes b _ _ _ _ hb (by simp)
    | _ =>
      cases h with
      | polls => exact .polls _ _ _ rfl
      | passes b _ _ _ _ hb => exact .passes b _ _ _ _ hb (by simp)

theorem Fares.closes {closed : Bool} {c : Capture} (h : Fares d behind closed c) :
    Fares d (behind.or c.query?) true c := by
  cases h with
  | polls q out err =>
    by_cases hq : q = .isClosed
    · subst hq
      exact .looks out err
    · exact .passes q q false out err hq hq
  | looks out err => exact .looks out err
  | passes b q draining out err hb hq => exact .passes b q draining out err hb hq
  | finds => exact .finds ..
  | counts b _ _ _ hb => exact .counts b _ _ _ hb
  | breaks _ _ _ _ _ x hx hi => exact .breaks _ _ _ _ _ x hx hi

theorem Fares.step (h : Fares d behind t.closed t.capture) (hexit : t.exit = none)
    (hnone : ∀ code, e ≠ .exit code) (hconforms : ∀ x ∈ t.exchange? e, t.Conforms x) :
    Fares (d ++ (t.exchange? e).toList) (behind.or (t.closesBehind e)) (t.step e).closed
        (t.step e).capture ∧ (t.step e).exit = none := by
  cases e with
  | exit code => exact absurd rfl (hnone code)
  | close =>
    refine ⟨?_, hexit⟩
    rw [closesBehind, if_pos rfl, show t.exchange? .close = none from rfl, Option.toList_none,
      List.append_nil]
    exact h.closes
  | arrival s bs =>
    refine ⟨?_, hexit⟩
    rw [closesBehind, if_neg nofun, Option.or_none,
      show t.exchange? (.arrival s bs) = none from rfl, Option.toList_none, List.append_nil]
    exact h
  | answer a =>
    refine ⟨?_, hexit⟩
    rw [closesBehind, if_neg nofun, Option.or_none]
    exact h.answers hexit a hconforms

theorem Fares.run (h : Fares d behind t.closed t.capture) (hexit : t.exit = none)
    (hnone : ∀ code, .exit code ∉ events) (hconforms : t.Obeys Conforms events) :
    Fares (d ++ t.dialogue events) (behind.or (t.closedBehind events)) (t.run events).closed
      (t.run events).capture := by
  induction events generalizing t d behind with
  | nil =>
    rw [closedBehind, Option.or_none]
    exact (List.append_nil d).symm ▸ h
  | cons e events ih =>
    obtain ⟨hstep, hexit'⟩ := h.step hexit (fun code he => hnone code (he ▸ List.mem_cons_self))
      hconforms.1
    rw [dialogue_cons, closedBehind, ← List.append_assoc, ← Option.or_assoc]
    exact ih hstep hexit' (fun code he => hnone code (List.mem_cons_of_mem _ he)) hconforms.2

/-- A capture that comes to its end though no exit status is sent ends with what its channel raised;
or with the closing of the channel, if that came when it was about to look whether the channel is
closed; or else with the status −1. -/
theorem answer_of_lost (hconforms : ({} : Talk).Obeys Conforms events)
    (hnone : ∀ code, .exit code ∉ events) {a : Except Incident CommandResult}
    (ha : (({} : Talk).run events).capture.answer? = some a) :
    let d := ({} : Talk).dialogue events
    (∃ i x, x ∈ d ∧ x.2 = .raised i ∧ a = .error i) ∨
      (({} : Talk).closedBehind events = some .isClosed ∧ a = .error closedEarly) ∨
      ∃ q, ({} : Talk).closedBehind events = some q ∧ q ≠ .isClosed ∧
        a = .ok ⟨received .out d, received .err d, -1⟩ := by
  intro d
  have hfares : Fares ([] ++ d) (none.or (({} : Talk).closedBehind events))
      (({} : Talk).run events).closed (({} : Talk).run events).capture :=
    Fares.run (.polls .exec [] [] rfl) rfl hnone hconforms
  rw [List.nil_append, Option.none_or] at hfares
  have hconcludes : Concludes d a := concludes_of_answer? (capture_run {} events ▸ ha)
  generalize ({} : Talk).closedBehind events = behind at hfares ⊢
  generalize (({} : Talk).run events).closed = closed at hfares
  generalize (({} : Talk).run events).capture = c at hfares ha
  cases hfares with
  | polls | looks | passes => cases ha
  | breaks _ _ i _ _ x hx hi =>
    cases ha
    exact .inl ⟨i, x, hx, hi, rfl⟩
  | finds =>
    cases ha
    exact .inr (.inl ⟨rfl, rfl⟩)
  | counts q _ _ _ hq =>
    cases ha
    cases hconcludes
    exact .inr (.inr ⟨q, rfl, hq, rfl⟩)

end GuestLink.Capture
