import GuestLink.Capture
import Mathlib.Data.List.Basic

/-!
# What a capture collects

A capture and its channel hold a dialogue of queries and answers (`dialogue`).  The command is run
by the first query and by no other (`dialogue_start`).  The capture holds what it was handed of each
stream, in order, and ends with it once it has the exit status; or it fails, with what the channel
raised or because the channel was closed too early (`concludes_of_answer?`).
-/

namespace GuestLink.Capture

/-- Whether an answer is of the form that a query calls for.  Any query may make the channel
raise. -/
def Query.takes : Query → Answer → Bool
  | _, .raised _ | .exec, .done | .wait, .done | .ready _, .flag _ | .statusReady, .flag _
  | .isClosed, .flag _ | .receive _, .data _ | .status, .status _ => true
  | _, _ => false

/-- The capture after some answers. -/
def run (c : Capture) (answers : List Answer) : Capture := answers.foldl step c

/-- The query that a capture puts with an answer that it takes, if it does. -/
def exchange? (c : Capture) (a : Answer) : Option (Query × Answer) :=
  (c.query?.filter (·.takes a)).map (·, a)

/-- The queries that a capture puts, each with its answer. -/
def dialogue (c : Capture) : List Answer → List (Query × Answer)
  | [] => []
  | a :: answers => (c.exchange? a).toList ++ (c.step a).dialogue answers

/-- The bytes of a stream that an answer to a query hands over. -/
def handed (s : Stream) : Query × Answer → Bytes
  | (.receive s', .data bs) => if s' = s then bs else []
  | _ => []

/-- The bytes of a stream that are handed over in a dialogue. -/
def received (s : Stream) (d : List (Query × Answer)) : Bytes := d.flatMap (handed s)

/-- What a capture that has ended has come to. -/
def answer? : Capture → Option (Except Incident CommandResult)
  | .asking .. => none
  | .finished result => some (.ok result)
  | .failed i .. => some (.error i)

/-- Whether with an answer a channel breaks a capture off: it raises an incident, or turns out to be
closed. -/
def Breaks (i : Incident) (x : Query × Answer) : Prop :=
  x.2 = .raised i ∨ i = closedEarly ∧ x = (.isClosed, .flag true)

/-- What a capture makes of an answer that it takes. -/
inductive Turn (x : Query × Answer) (out err : Bytes) : Capture → Prop
  | asks (q : Query) (draining : Bool) (out' err' : Bytes) (hq : q ≠ .exec)
      (hout : out' = out ++ handed .out x) (herr : err' = err ++ handed .err x) :
      Turn x out err (.asking q draining out' err')
  | finishes (code : Int) (hx : x = (.status, .status code)) :
      Turn x out err (.finished ⟨out, err, code⟩)
  | fails (i : Incident) (hx : Breaks i x) : Turn x out err (.failed i out err)

/-- What a capture has come to that has held a dialogue. -/
inductive Concludes (d : List (Query × Answer)) : Except Incident CommandResult → Prop
  | collected (code : Int) (status : (.status, .status code) ∈ d) :
      Concludes d (.ok ⟨received .out d, received .err d, code⟩)
  | broken (i : Incident) (x : Query × Answer) (hd : x ∈ d) (hx : Breaks i x) :
      Concludes d (.error i)

/-- What a capture holds that has held a dialogue. -/
inductive Holds (d : List (Query × Answer)) : Capture → Prop
  | asking (q : Query) (draining : Bool) :
      Holds d (.asking q draining (received .out d) (received .err d))
  | ended (c : Capture) (a : Except Incident CommandResult) (ha : c.answer? = some a)
      (concludes : Concludes d a) : Holds d c

variable {c : Capture} {d : List (Query × Answer)} {a : Answer} {answers : List Answer}
  {q : Query} {draining : Bool} {out err : Bytes} {x : Query × Answer}

/-! ### One answer -/

theorem received_append (s : Stream) (d d' : List (Query × Answer)) :
    received s (d ++ d') = received s d ++ received s d' := List.flatMap_append

theorem received_singleton (s : Stream) (x : Query × Answer) : received s [x] = handed s x :=
  List.flatMap_singleton ..

theorem exchange?_of_takes (h : q.takes a = true) :
    (asking q draining out err).exchange? a = some (q, a) := by
  simp [exchange?, query?, h]

/-- An answer of another form is passed over. -/
theorem passes_over (h : q.takes a = false) :
    (asking q draining out err).exchange? a = none ∧
      (asking q draining out err).step a = .asking q draining out err := by
  refine ⟨by simp [exchange?, query?, h], ?_⟩
  cases a with
  | flag b => cases b <;> cases q <;> first | rfl | cases h
  | _ => cases q <;> first | rfl | cases h

theorem Turn.asks_again (h : ∀ s, handed s x = []) (hq : q ≠ .exec) :
    Turn x out err (.asking q draining out err) :=
  .asks q draining out err hq (by rw [h, List.append_nil]) (by rw [h, List.append_nil])

theorem turn (h : q.takes a = true) :
    Turn (q, a) out err ((asking q draining out err).step a) := by
  cases a with
  | raised i =>
    have hs : (asking q draining out err).step (.raised i) = .failed i out err := by
      cases q <;> rfl
    exact hs ▸ .fails i (.inl rfl)
  | done =>
    cases q with
    | exec | wait => exact .asks_again (fun _ => rfl) (by simp)
    | _ => cases h
  | flag b =>
    cases q with
    | ready s =>
      cases s with
      | out => cases b <;> exact .asks_again (fun _ => rfl) (by simp)
      | err =>
        cases b with
        | true => exact .asks_again (fun _ => rfl) (by simp)
        | false => exact .asks_again (fun _ => rfl) (by split_ifs <;> simp)
    | statusReady => cases b <;> exact .asks_again (fun _ => rfl) (by simp)
    | isClosed =>
      cases b with
      | true => exact .fails closedEarly (.inr ⟨rfl, rfl⟩)
      | false => exact .asks_again (fun _ => rfl) (by simp)
    | _ => cases h
  | data bs =>
    cases q with
    | receive s =>
      cases s with
      | out => exact .asks _ _ _ _ (by simp) rfl (List.append_nil err).symm
      | err => exact .asks _ _ _ _ (by simp) (List.append_nil out).symm rfl
    | _ => cases h
  | status code =>
    cases q with
    | status => exact .finishes code rfl
    | _ => cases h

/-- A capture that has ended puts no query any more. -/
theorem rests_of_answer? (h : c.answer? ≠ none) (a : Answer) :
    c.exchange? a = none ∧ c.step a = c := by
  cases c with
  | asking => exact absurd rfl h
  | finished | failed => exact ⟨rfl, rfl⟩

theorem Holds.step (h : Holds d c) (a : Answer) :
    Holds (d ++ (c.exchange? a).toList) (c.step a) := by
  cases h with
  | ended _ answer ha concludes =>
    obtain ⟨hx, hc⟩ := rests_of_answer? (fun hn => by cases ha.symm.trans hn) a
    rw [hx, hc, Option.toList_none, List.append_nil]
    exact .ended c answer ha concludes
  | asking q draining =>
    cases ht : q.takes a with
    | false =>
      obtain ⟨hx, hc⟩ := passes_over ht
      rw [hx, hc, Option.toList_none, List.append_nil]
      exact .asking q draining
    | true =>
      have hadd (s : Stream) : received s d ++ handed s (q, a) = received s (d ++ [(q, a)]) := by
        rw [received_append, received_singleton]
      have hmem : (q, a) ∈ d ++ [(q, a)] := by simp
      have hturn : Turn (q, a) (received .out d) (received .err d)
          ((Capture.asking q draining _ _).step a) := turn ht
      rw [exchange?_of_takes ht, Option.toList_some]
      generalize (Capture.asking q draining _ _).step a = c' at hturn ⊢
      cases hturn with
      | asks q' draining' out' err' hq hout herr =>
        rw [hout, herr, hadd, hadd]
        exact .asking q' draining'
      | fails i hx => exact .ended _ _ rfl (.broken i (q, a) hmem hx)
      | finishes code hx =>
        have hsame (s : Stream) : received s d = received s (d ++ [(q, a)]) := by
          rw [← hadd, hx]
          exact (List.append_nil _).symm
        rw [hsame, hsame]
        exact .ended _ _ rfl (.collected code (hx ▸ hmem))

/-! ### A whole capture -/

theorem Holds.run (h : Holds d c) (answers : List Answer) :
    Holds (d ++ c.dialogue answers) (c.run answers) := by
  induction answers generalizing d c with
  | nil =>
    rw [dialogue, List.append_nil]
    exact h
  | cons a answers ih =>
    have hrun := ih (h.step a)
    rwa [List.append_assoc] at hrun

/-- A capture that has ended has come to what it was handed and to the exit status, or to what broke
it off. -/
theorem concludes_of_answer? {answer : Except Incident CommandResult}
    (h : (start.run answers).answer? = some answer) :
    Concludes (start.dialogue answers) answer := by
  have hs : Holds ([] ++ start.dialogue answers) (start.run answers) :=
    Holds.run (.asking .exec false) answers
  generalize start.run answers = c at h hs
  cases hs with
  | asking => cases h
  | ended _ answer' ha concludes =>
    cases ha.symm.trans h
    exact concludes

/-- A capture passes an answer over, or goes on with a query that does not run the command. -/
theorem exchange?_cases (c : Capture) (a : Answer) : c.exchange? a = none ∧ c.step a = c ∨
    ∃ q, c.query? = some q ∧ c.exchange? a = some (q, a) ∧ (c.step a).query? ≠ some .exec := by
  cases c with
  | finished | failed => exact .inl ⟨rfl, rfl⟩
  | asking q draining out err =>
    cases ht : q.takes a with
    | false => exact .inl (passes_over ht)
    | true =>
      refine .inr ⟨q, rfl, exchange?_of_takes ht, ?_⟩
      have hturn : Turn (q, a) out err ((Capture.asking q draining out err).step a) := turn ht
      generalize (Capture.asking q draining out err).step a = c' at hturn ⊢
      cases hturn with
      | asks q' draining' out' err' hq => exact fun he => hq (Option.some.inj he)
      | finishes | fails => simp [query?]

theorem ne_exec_of_mem_dialogue (hq : c.query? ≠ some .exec) (answers : List Answer) :
    ∀ x ∈ c.dialogue answers, x.1 ≠ .exec := by
  induction answers generalizing c with
  | nil => exact List.forall_mem_nil _
  | cons a answers ih =>
    rw [dialogue]
    rcases exchange?_cases c a with ⟨hx, hc⟩ | ⟨q, hquery, hx, hc⟩
    · rw [hx, hc]
      exact ih hq
    · rw [hx]
      exact List.forall_mem_cons.2 ⟨fun he => hq (he ▸ hquery), ih hc⟩

/-- The command is run by the first query and by no other. -/
theorem dialogue_start (answers : List Answer) : start.dialogue answers = [] ∨
    ∃ a d, start.dialogue answers = (.exec, a) :: d ∧ ∀ x ∈ d, x.1 ≠ .exec := by
  induction answers with
  | nil => exact .inl rfl
  | cons a answers ih =>
    rw [dialogue]
    rcases exchange?_cases start a with ⟨hx, hc⟩ | ⟨q, hquery, hx, hc⟩
    · rw [hx, hc]
      exact ih
    · cases hquery
      rw [hx]
      exact .inr ⟨a, _, rfl, ne_exec_of_mem_dialogue hc answers⟩

theorem countP_exec_le_one (answers : List Answer) :
    (start.dialogue answers).countP (·.1 == .exec) ≤ 1 := by
  rcases dialogue_start answers with hd | ⟨a, d, hd, hne⟩
  · simp [hd]
  · have hzero : d.countP (·.1 == .exec) = 0 :=
      List.countP_eq_zero.2 fun x hx => by simpa using hne x hx
    simp [hd, hzero]

end GuestLink.Capture
