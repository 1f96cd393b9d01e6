import GuestLink.Proofs.Capture.Talk

/-!
# Captures are complete

Whatever arrives while a capture polls, and in which pieces, a capture that gets the exit status has
all of both streams, provided that nothing becomes available behind the answer that the status is
there.  It waits only when there was nothing to do, and it ends within a number of answers that
depends on what its channel still holds (`collection_complete`).
-/

namespace GuestLink.Capture

/-- The answers that a capture has got right before it puts a query of its polling loop. -/
def Query.polled : Query → List (Query × Answer)
  | .ready .err => [(.ready .out, .flag false)]
  | .statusReady => [(.ready .out, .flag false), (.ready .err, .flag false)]
  | .isClosed =>
    [(.ready .out, .flag false), (.ready .err, .flag false), (.statusReady, .flag false)]
  | .wait => [(.ready .out, .flag false), (.ready .err, .flag false), (.statusReady, .flag false),
      (.isClosed, .flag false)]
  | _ => []

/-- More answers than a capture gets from a query on, but for three for each byte that its channel
holds; `look` is for the question whether the channel is closed. -/
def Query.fuel (look : Nat) : Query → Bool → Nat
  | .exec, _ | .wait, _ => 7
  | .isClosed, _ => look
  | .statusReady, _ => 4
  | .ready .out, draining => if draining then 3 else 6
  | .receive .out, draining => if draining then 2 else 5
  | .ready .err, draining => if draining then 2 else 5
  | .receive .err, draining => if draining then 1 else 4
  | .status, _ => 1

/-- Whether a capture does not know of an exit status. -/
inductive Early : Capture → Prop
  | asking (q : Query) (out err : Bytes) (fits : q.fits false = true) :
      Early (.asking q false out err)
  | failed (i : Incident) (out err : Bytes) : Early (.failed i out err)

/-- Whether a capture that knows of the exit status has drained the streams of which `held` is
available, as far as it has come. -/
inductive Drains (held : Stream → Bytes) : Capture → Prop
  | out (q : Query) (hq : q = .ready .out ∨ q = .receive .out) (out err : Bytes) :
      Drains held (.asking q true out err)
  | err (q : Query) (hq : q = .ready .err ∨ q = .receive .err) (empty : held .out = [])
      (out err : Bytes) : Drains held (.asking q true out err)
  | both (empty : ∀ s, held s = []) (out err : Bytes) : Drains held (.asking .status true out err)
  | finished (empty : ∀ s, held s = []) (result : CommandResult) : Drains held (.finished result)
  | failed (i : Incident) (out err : Bytes) : Drains held (.failed i out err)

/-- Whether the dialogue `d` ends with a poll as far as the capture has come with it. -/
def Heeds (d : List (Query × Answer)) (c : Capture) : Prop :=
  ∀ q draining out err, c = .asking q draining out err →
    q.fits draining = true ∧ (draining = false → q.polled <:+ d)

namespace Talk

/-- What happens behind the first answer that there is an exit status. -/
def afterStatus (t : Talk) : List Event → List Event
  | [] => []
  | e :: events =>
    if t.exchange? e = some (.statusReady, .flag true) then events
    else (t.step e).afterStatus events

/-- Whether an answer does not deny an exit status that was sent, or that the channel is closed. -/
def Tells (t : Talk) (x : Query × Answer) : Prop :=
  (t.exit ≠ none → x ≠ (.statusReady, .flag false)) ∧
    (t.closed = true → x ≠ (.isClosed, .flag false))

instance (t : Talk) (x : Query × Answer) : Decidable (t.Tells x) :=
  inferInstanceAs (Decidable (_ ∧ _))

/-- More answers than the capture gets before it ends if nothing more becomes available. -/
def fuel (look : Nat) (t : Talk) : Nat :=
  match t.capture with
  | .asking q draining _ _ =>
    3 * ((t.held .out).length + (t.held .err).length) + q.fuel look draining
  | _ => 0

end Talk

open Talk

variable {t : Talk} {e : Event} {events more : List Event} {d : List (Query × Answer)}

theorem arrived_cons_eq_nil : (∀ s, arrived s (e :: events) = []) ↔
    (∀ s, e.bytes s = []) ∧ ∀ s, arrived s events = [] := by
  simp only [arrived_cons, List.append_eq_nil_iff, forall_and]

/-! ### Draining -/

theorem Early.step (h : Early t.capture) (e : Event) :
    if t.exchange? e = some (.statusReady, .flag true) then
      ∀ held, Drains held (t.step e).capture
    else Early (t.step e).capture := by
  rcases t.step_goes e with ⟨hx, hs⟩ | ⟨q, a, draining, out, err, hx, hc, hg⟩
  · rw [hx, hs]
    exact h
  · rw [hc] at h
    cases h with
    | asking _ _ _ fits =>
      rw [hx]
      generalize (t.step e).capture = c at hg ⊢
      split_ifs with he
      · cases he
        cases hg
        exact fun held => .out _ (.inl rfl) _ _
      cases hg with
      | learns => exact absurd rfl he
      | finishes => cases fits
      | raises | closes => exact .failed ..
      | _ => exact .asking _ _ _ rfl

theorem Drains.step (h : Drains t.held t.capture) (hon : ∀ x ∈ t.exchange? e, t.Honest x)
    (hnone : ∀ s, e.bytes s = []) : Drains (t.step e).held (t.step e).capture := by
  have hheld (s : Stream) : received s (t.exchange? e).toList ++ (t.step e).held s = t.held s := by
    rw [held_step hon, hnone, List.append_nil]
  -- What was empty stays so.
  have empty {s : Stream} (hs : t.held s = []) : (t.step e).held s = [] :=
    (List.append_eq_nil_iff.1 ((hheld s).trans hs)).2
  rcases t.step_goes e with ⟨hx, hs⟩ | ⟨q, a, draining, out, err, hx, hc, hg⟩
  · have hsame : (t.step e).held = t.held := funext fun s => by
      rw [← hheld s, hx]
      rfl
    rw [hs, hsame]
    exact h
  · have honest : t.Honest (q, a) := hon _ hx
    rw [hc] at h
    generalize (t.step e).capture = c at hg ⊢
    cases hg with
    | raises | closes => exact .failed ..
    | turns =>
      cases h with
      | out => exact .err _ (.inl rfl) (empty (by simpa [Honest] using honest)) _ _
      | err _ hq => simp at hq
    | drained =>
      cases h with
      | out _ hq => simp at hq
      | err _ _ hout =>
        refine .both (fun s => empty ?_) _ _
        cases s with
        | out => exact hout
        | err => simpa [Honest] using honest
    | finishes =>
      cases h with
      | out _ hq | err _ hq => simp at hq
      | both hempty => exact .finished (fun s => empty (hempty s)) _
    | sees _ s =>
      cases h with
      | out _ hq =>
        obtain rfl : s = .out := by simpa using hq
        exact .out _ (.inr rfl) _ _
      | err _ hq hout =>
        obtain rfl : s = .err := by simpa using hq
        exact .err _ (.inr rfl) (empty hout) _ _
    | takesOut =>
      cases h with
      | out => exact .out _ (.inl rfl) _ _
      | err _ hq => simp at hq
    | drainsErr =>
      cases h with
      | out _ hq => simp at hq
      | err _ _ hout => exact .err _ (.inl rfl) (empty hout) _ _
    | takesErr | inquires => cases h
    | runs | learns | looks | waits | wakes =>
      cases h with
      | out _ hq | err _ hq => simp at hq

theorem Drains.run (h : Drains t.held t.capture) (hon : t.Obeys Honest events)
    (hnone : ∀ s, arrived s events = []) : Drains (t.run events).held (t.run events).capture := by
  induction events generalizing t with
  | nil => exact h
  | cons e events ih =>
    obtain ⟨hhead, htail⟩ := arrived_cons_eq_nil.1 hnone
    exact ih (h.step hon.1 hhead) hon.2 htail

theorem Early.run (h : Early t.capture) (hon : t.Obeys Honest events)
    (hnone : ∀ s, arrived s (t.afterStatus events) = []) :
    Early (t.run events).capture ∨ Drains (t.run events).held (t.run events).capture := by
  induction events generalizing t with
  | nil => exact .inl h
  | cons e events ih =>
    have hstep := h.step e
    rw [afterStatus] at hnone
    split_ifs at hstep hnone
    · exact .inr ((hstep _).run hon.2 hnone)
    · exact ih hstep hon.2 hnone

/-! ### Waiting -/

theorem Heeds.step (h : Heeds d t.capture) (e : Event) :
    Heeds (d ++ (t.exchange? e).toList) (t.step e).capture := by
  rcases t.step_goes e with ⟨hx, hs⟩ | ⟨q, a, draining, out, err, hx, hc, hg⟩
  · rw [hx, hs, Option.toList_none, List.append_nil]
    exact h
  · obtain ⟨hfits, hpolled⟩ := h q draining out err hc
    rw [hx, Option.toList_some]
    generalize (t.step e).capture = c at hg ⊢
    rintro q' draining' out' err' rfl
    cases hg with
    | inquires | looks | waits =>
      refine ⟨hfits, fun hd => ?_⟩
      obtain ⟨front, hfront⟩ := hpolled hd
      refine ⟨front, ?_⟩
      rw [← hfront, List.append_assoc]
      rfl
    | turns => exact ⟨rfl, fun _ => List.suffix_append _ _⟩
    | drainsErr => exact ⟨rfl, nofun⟩
    | drained => exact ⟨rfl, nofun⟩
    | _ => exact ⟨by simp [Query.fits], fun _ => List.nil_suffix⟩

theorem Heeds.run (h : Heeds d t.capture) (events : List Event) :
    Heeds (d ++ t.dialogue events) (t.run events).capture := by
  induction events generalizing t d with
  | nil => exact (List.append_nil d).symm ▸ h
  | cons e events ih =>
    have hrun := ih (h.step e)
    rw [List.append_assoc, ← dialogue_cons] at hrun
    exact hrun

/-! ### Coming to an end -/

/-- Whether an answer is not the one that a channel does not give whose exit status is there (`look`
is 8), or that is closed (`look` is 1). -/
def Ends (look : Nat) (x : Query × Answer) : Prop :=
  look = 8 ∧ x ≠ (.statusReady, .flag false) ∨ look = 1 ∧ x ≠ (.isClosed, .flag false)

theorem length_held_step (hon : ∀ x ∈ t.exchange? e, t.Honest x) (hnone : ∀ s, e.bytes s = [])
    (s : Stream) :
    (received s (t.exchange? e).toList).length + ((t.step e).held s).length =
      (t.held s).length := by
  rw [← List.length_append, held_step hon, hnone, List.append_nil]

theorem Query.fuel_pos {look : Nat} (hlook : 1 ≤ look) (q : Query) (draining : Bool) :
    1 ≤ q.fuel look draining := by
  unfold Query.fuel
  split <;> grind

theorem fuel_step {look : Nat} (hon : ∀ x ∈ t.exchange? e, t.Honest x)
    (hnone : ∀ s, e.bytes s = []) (hends : ∀ x ∈ t.exchange? e, Ends look x) :
    (t.step e).fuel look + (t.exchange? e).toList.length ≤ t.fuel look := by
  have hout := length_held_step hon hnone .out
  have herr := length_held_step hon hnone .err
  rcases t.step_goes e with ⟨hx, hs⟩ | ⟨q, a, draining, out, err, hx, hc, hg⟩
  · rw [hx] at hout herr
    have hsame : (t.step e).fuel look = t.fuel look := by
      simp only [Talk.fuel, hs]
      simp only [Option.toList_none, received, List.flatMap_nil, List.length_nil, Nat.zero_add]
        at hout herr
      rw [hout, herr]
    rw [hsame, hx]
    exact Nat.le_refl _
  · have honest : t.Honest (q, a) := hon _ hx
    have hlook : Ends look (q, a) := hends _ hx
    have hpos : 1 ≤ look := by
      rcases hlook with ⟨rfl, -⟩ | ⟨rfl, -⟩ <;> decide
    rw [hx, Option.toList_some, received_singleton] at hout herr
    rw [hx, Option.toList_some, List.length_singleton, Talk.fuel, Talk.fuel, hc]
    generalize (t.step e).capture = c at hg ⊢
    generalize (t.step e).held = held at hout herr ⊢
    cases hg with
    | raises _ q =>
      have hq := q.fuel_pos hpos draining
      simp only
      omega
    | closes | finishes =>
      simp only [Query.fuel]
      omega
    | takesOut | takesErr | drainsErr =>
      -- A byte pays for three answers.
      have hbytes := List.length_pos_iff.2 honest.1
      simp only [handed, reduceCtorEq, if_true, if_false, List.length_nil] at hout herr
      simp only [Query.fuel]
      split_ifs <;> omega
    | looks =>
      obtain ⟨rfl, -⟩ : look = 1 ∧ _ := hlook.resolve_left fun h => h.2 rfl
      simp only [handed, List.length_nil] at hout herr
      simp only [Query.fuel]
      omega
    | waits =>
      obtain ⟨rfl, -⟩ : look = 8 ∧ _ := hlook.resolve_right fun h => h.2 rfl
      simp only [handed, List.length_nil] at hout herr
      simp only [Query.fuel]
      omega
    | sees _ s =>
      simp only [handed, List.length_nil] at hout herr
      cases s <;> simp only [Query.fuel] <;> split_ifs <;> omega
    | runs | turns | wakes =>
      simp only [handed, List.length_nil] at hout herr
      simp only [Query.fuel]
      split_ifs <;> omega
    | inquires | drained | learns =>
      simp only [handed, List.length_nil] at hout herr
      simp only [Query.fuel, Bool.false_eq_true, if_true, if_false]
      omega

/-- Every answer but three for each byte takes the capture closer to its end. -/
theorem fuel_run {look : Nat} (hon : t.Obeys Honest events) (hnone : ∀ s, arrived s events = [])
    (hends : ∀ x ∈ t.dialogue events, Ends look x) :
    (t.run events).fuel look + (t.dialogue events).length ≤ t.fuel look := by
  induction events generalizing t with
  | nil => exact Nat.le_refl _
  | cons e events ih =>
    obtain ⟨hhead, htail⟩ := arrived_cons_eq_nil.1 hnone
    rw [dialogue_cons] at hends ⊢
    obtain ⟨hfirst, hrest⟩ := List.forall_mem_append.1 hends
    have hstep := fuel_step hon.1 hhead fun x hx => hfirst x (Option.mem_toList.2 hx)
    have hrun := ih hon.2 htail hrest
    rw [List.length_append]
    show ((t.step e).run events).fuel look + _ ≤ _
    omega

/-- A channel that has an exit status, or that is closed, lets every poll end the capture. -/
theorem ends_of_tells (h : t.Obeys Tells events) (hend : t.exit ≠ none ∨ t.closed = true) :
    ∃ look, look ≤ 8 ∧ 1 ≤ look ∧ ∀ x ∈ t.dialogue events, Ends look x := by
  rcases hend with hexit | hclosed
  · refine ⟨8, by decide, by decide, fun x hx => .inl ⟨rfl, ?_⟩⟩
    rintro rfl
    exact h.not_mem_dialogue exit_step (fun t ht htells => htells.1 ht rfl) hexit hx
  · refine ⟨1, by decide, by decide, fun x hx => .inr ⟨rfl, ?_⟩⟩
    rintro rfl
    exact h.not_mem_dialogue closed_step (fun t ht htells => htells.2 ht rfl) hclosed hx

theorem fuel_le {look : Nat} (hlook : look ≤ 8) (t : Talk) :
    t.fuel look ≤ 3 * ((t.held .out).length + (t.held .err).length) + 8 := by
  have hquery (q : Query) (draining : Bool) : q.fuel look draining ≤ 8 := by
    unfold Query.fuel
    split <;> grind
  rw [Talk.fuel]
  split
  · exact Nat.add_le_add_left (hquery ..) _
  · exact Nat.zero_le _

theorem fuel_pos {look : Nat} (hlook : 1 ≤ look) (h : t.capture.answer? = none) :
    1 ≤ t.fuel look := by
  rw [Talk.fuel]
  cases hc : t.capture with
  | asking q draining =>
    have hq := q.fuel_pos hlook draining
    simp only
    omega
  | finished | failed => simp [hc, answer?] at h

/-- What a capture collects is complete.  At any moment what was handed over of a stream and what is
still there is what has become available; a capture that has the exit status has all of both
streams, if nothing has become available since it knew of the status; it waits only behind a poll
that found nothing; and it ends if nothing more becomes available and there is an exit status, or
the channel is closed. -/
theorem collection_complete (events : List Event) (h : ({} : Talk).Obeys Honest events) :
    let t := ({} : Talk).run events
    let d := ({} : Talk).dialogue events
    (∀ s, received s d ++ t.held s = arrived s events) ∧
      (∀ result, t.capture.answer? = some (.ok result) →
        (∀ s, arrived s (({} : Talk).afterStatus events) = []) →
        result.stdout = arrived .out events ∧ result.stderr = arrived .err events ∧
          (.status, .status result.exitStatus) ∈ d) ∧
      (t.capture.query? = some .wait →
        ∃ front, d = front ++ [(.ready .out, .flag false), (.ready .err, .flag false),
          (.statusReady, .flag false), (.isClosed, .flag false)]) ∧
      ∀ more, t.Obeys Honest more → t.Obeys Tells more → (∀ s, arrived s more = []) →
        t.exit ≠ none ∨ t.closed = true → (t.run more).capture.answer? = none →
        (t.dialogue more).length < 3 * ((t.held .out).length + (t.held .err).length) + 8 := by
  intro t d
  have hheld (s : Stream) : received s d ++ t.held s = arrived s events := received_append_held h s
  refine ⟨hheld, fun result hr hnone => ?_, fun hq => ?_,
    fun more hon htells hmore hend hopen => ?_⟩
  · have hcapture : t.capture = start.run (answers events) := capture_run {} events
    have hconcludes : Concludes d (.ok result) := concludes_of_answer? (hcapture ▸ hr)
    have hempty : ∀ s, t.held s = [] := by
      have hdrains : Early t.capture ∨ Drains t.held t.capture :=
        Early.run (.asking .exec [] [] rfl) h hnone
      generalize t.capture = c at hdrains hr
      rcases hdrains with hearly | hdrains
      · cases hearly <;> cases hr
      · cases hdrains with
        | finished empty => exact empty
        | _ => cases hr
    have hall (s : Stream) : received s d = arrived s events := by
      rw [← hheld s, hempty, List.append_nil]
    cases hconcludes with
    | collected code status => exact ⟨hall .out, hall .err, status⟩
  · have hheeds : Heeds d t.capture :=
      Heeds.run (d := []) (fun q draining out err hc => by
        cases hc
        exact ⟨rfl, fun _ => List.nil_suffix⟩) events
    cases hc : t.capture with
    | finished | failed => simp [hc, query?] at hq
    | asking q draining out err =>
      obtain rfl : q = .wait := by simpa [hc, query?] using hq
      obtain ⟨hfits, hpolled⟩ := hheeds _ _ _ _ hc
      obtain ⟨front, hfront⟩ := hpolled (by simpa [Query.fits] using hfits)
      exact ⟨front, hfront.symm⟩
  · obtain ⟨look, hle, hpos, hends⟩ := ends_of_tells htells hend
    have hrun := fuel_run hon hmore hends
    have hmost := fuel_le hle t
    have hleast := fuel_pos hpos hopen
    omega

/-- The last bytes arrive with the exit status, when stdout was already found empty. -/
def lateTail : List Event :=
  [.answer .done, .answer (.flag false), .arrival .out (utf8 "tail"), .exit 0,
    .answer (.flag false), .answer (.flag true), .answer (.flag true),
    .answer (.data (utf8 "tail")), .answer (.flag false), .answer (.flag false),
    .answer (.status 0)]

/-- A poll finds nothing; then the command prints to stderr and exits. -/
def stalled : List Event :=
  [.answer .done, .answer (.flag false), .answer (.flag false), .answer (.flag false),
    .answer (.flag false), .arrival .err (utf8 "no"), .exit 1]

/-- What a capture gets that was stalled, until it has what was printed. -/
def woken : List Event :=
  [.answer .done, .answer (.flag false), .answer (.flag true), .answer (.data (utf8 "no"))]

theorem collection_complete_sample :
    (({} : Talk).Obeys Honest lateTail ∧
      (({} : Talk).run lateTail).capture.answer? = some (.ok ⟨utf8 "tail", [], 0⟩) ∧
      (∀ s, arrived s (({} : Talk).afterStatus lateTail) = []) ∧
      utf8 "tail" = arrived .out lateTail) ∧
    ({} : Talk).Obeys Honest stalled ∧
      (∃ front, ({} : Talk).dialogue stalled = front ++ [(.ready .out, .flag false),
        (.ready .err, .flag false), (.statusReady, .flag false), (.isClosed, .flag false)]) ∧
      ((({} : Talk).run stalled).dialogue woken).length < 14 := by
  have hlate : ({} : Talk).Obeys Honest lateTail := by decide +kernel
  have hanswer : (({} : Talk).run lateTail).capture.answer? =
      some (.ok ⟨utf8 "tail", [], 0⟩) := by decide +kernel
  have hnone : ∀ s, arrived s (({} : Talk).afterStatus lateTail) = [] := by
    rintro (_ | _) <;> decide +kernel
  have hstalled : ({} : Talk).Obeys Honest stalled := by decide +kernel
  obtain ⟨-, hcomplete, -⟩ := collection_complete lateTail hlate
  obtain ⟨-, -, hwaits, hends⟩ := collection_complete stalled hstalled
  have hwaited := hwaits (by decide +kernel)
  have hended := hends woken (by decide +kernel) (by decide +kernel)
    (by rintro (_ | _) <;> decide +kernel) (.inl (by decide +kernel)) (by decide +kernel)
  exact ⟨⟨hlate, hanswer, hnone, (hcomplete _ hanswer hnone).1⟩, hstalled, hwaited, hended⟩

end GuestLink.Capture
