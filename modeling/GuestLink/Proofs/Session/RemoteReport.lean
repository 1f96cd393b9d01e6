import GuestLink.Proofs.Capture.LostChannel
import GuestLink.Proofs.Session.Remote
import GuestLink.Proofs.Text.Utf8

/-!
# Reports of remote commands

What a remote command has printed to stderr goes into the report of its exit status, and into no
other: if the channel fails, what it has handed over until then is lost (`stderr_shown_iff`).  A
channel that is closed before the remote side has sent an exit status is reported as such only if it
is closed at one point of the polling, and else as the exit status −1 (`lost_channel_reported`).
-/

namespace GuestLink

namespace Outcome

/-- Whether an outcome is the report of a remote command. -/
def IsRemote (o : Outcome) : Prop := ∃ t r, o = .failed t ∧ t.failure = .report r ∧ r.kind = .remote

/-- Whether an outcome is the report of a remote command that shows what it printed to stderr: as a
detail, and at the end of the message. -/
def ShowsStderr (o : Outcome) (bs : Bytes) : Prop :=
  ∃ t r front, o = .failed t ∧ t.failure = .report r ∧ r.kind = .remote ∧
    r.details.lookup "stderr" = some (.text (Trouble.guestText bs)) ∧
    r.message = .text (front ++ logSuffix (Trouble.guestText bs))

/-- Whether an outcome is the report of a remote command without output, which consists of `front`
and of what an incident says. -/
def ShowsIncident (o : Outcome) (front : String) (i : Incident) : Prop :=
  ∃ t r, o = .failed t ∧ t.failure = .report r ∧ r.kind = .remote ∧
    r.details.lookup "stderr" = some (.text "") ∧ r.message = .text (front ++ i.text)

end Outcome

namespace Session

variable {s : Session} {j : Job} {c : ClientId} {command : String} {signal : Option Signal}
  {o : Outcome}

theorem outcome?_of_mem_acts {f : Fate} {id : TaskId} (h : .finish id o ∈ f.acts id c command) :
    f.outcome? command = some o := by
  obtain ⟨-, -, -, hends⟩ := f.course_facts id c command
  rcases List.mem_append.1 h with h | h
  · cases hends _ h
  · rw [Fate.ending] at h
    cases ho : f.outcome? command with
    | none => simp [ho] at h
    | some o' => simpa [ho, eq_comm] using h

/-- What is reported of a remote command is what its fate says. -/
theorem RunsOn.outcome? (h : s.RunsOn j c command signal) (moves : List Move)
    (ho : .finish s.started o ∈ s.since (s.run (.start j :: moves))) :
    ((s.step (.start j)).fate s.started (.first (s.deadClients.contains c)) moves).outcome?
      command = some o := by
  obtain ⟨hbears, hfirst⟩ := h.start
  obtain ⟨-, hacts⟩ := hbears.run moves
  have hmem : .finish s.started o ∈ s.doings s.started (.start j :: moves) := mem_doings ho rfl
  rw [doings, hfirst, List.append_assoc, ← hacts] at hmem
  rcases List.mem_append.1 hmem with hmade | hmem
  · cases h <;> simp [made] at hmade
  · exact outcome?_of_mem_acts hmem

/-! ### Output to stderr -/

theorem guestText_ne {bs : Bytes} (h : bs ≠ []) : Trouble.guestText bs ≠ "" := by
  intro he
  exact Utf8.decodeLossy_ne_nil h (String.ofList_injective he)

/-- A report shows what was received of stderr if there is an exit status. -/
theorem showsStderr_exitStatus (command : String) (result : CommandResult) :
    (Outcome.failed (.exitStatus command result)).ShowsStderr result.stderr :=
  ⟨_, _, _, rfl, rfl, rfl, rfl, rfl⟩

/-- A report of what a channel has raised shows nothing else. -/
theorem showsIncident_capture {t : Trouble} {r : Report} (command : String) (i : Incident)
    (ht : t = .capture command i) (hr : t.failure = .report r) :
    (Outcome.failed t).ShowsIncident "run cmd: " i ∧
      ∀ bs, bs ≠ [] → ¬(Outcome.failed t).ShowsStderr bs := by
  have hreport : r = Trouble.remoteReport ("run cmd: " ++ i.text) command (some i) := by
    rw [ht, Trouble.failure] at hr
    split_ifs at hr
    exact (Failure.report.inj hr).symm
  subst hreport
  refine ⟨⟨t, _, rfl, hr, rfl, rfl, rfl⟩, ?_⟩
  rintro bs hbs ⟨t', r', -, he, hr', -, hlookup, -⟩
  cases he
  cases hr.symm.trans hr'
  exact guestText_ne hbs (Datum.text.inj (Option.some.inj hlookup)).symm

/-- What is reported of a remote command that was given a channel and had printed something to
stderr shows it just if the command came to an exit status.  If the channel failed, what it has
handed over is lost: the report names what the channel raised and nothing else. -/
theorem stderr_shown_iff (h : s.RunsOn j c command signal) (moves : List Move)
    (ho : .finish s.started o ∈ s.since (s.run (.start j :: moves))) (hremote : o.IsRemote) :
    let f := (s.step (.start j)).fate s.started (.first (s.deadClients.contains c)) moves
    f.channel? = none ∨ ∃ channel a, f = .ended channel a ∧
      ∀ answers, (Capture.start.run answers).answer? = some a →
        let err := Capture.received .err (Capture.start.dialogue answers)
        (err ≠ [] → (o.ShowsStderr err ↔ ∃ result, a = .ok result)) ∧
          ∀ i, a = .error i → o.ShowsIncident "run cmd: " i := by
  intro f
  have hout : f.outcome? command = some o := h.outcome? moves ho
  obtain ⟨t, r, rfl, hr, hkind⟩ := hremote
  generalize f = f at hout ⊢
  cases f with
  | refused | unopened => exact .inl rfl
  | waits => cases hout
  | left channel =>
    cases hout
    cases hr
    cases hkind
  | dropped l => cases hout
  | ended channel a =>
    refine .inr ⟨channel, a, rfl, fun answers ha => ?_⟩
    have hconcludes := Capture.concludes_of_answer? ha
    generalize Capture.start.dialogue answers = d at hconcludes ⊢
    cases hconcludes with
    | collected code status =>
      have hout : (if code = 0 then Outcome.ok _ else _) = Outcome.failed t := Option.some.inj hout
      split_ifs at hout
      cases hout
      exact ⟨fun _ => iff_of_true (showsStderr_exitStatus command _) ⟨_, rfl⟩, nofun⟩
    | broken i x hd hx =>
      have ht : t = .capture command i := (Outcome.failed.inj (Option.some.inj hout)).symm
      obtain ⟨hshows, hlost⟩ := showsIncident_capture command i ht hr
      refine ⟨fun herr => iff_of_false (hlost _ herr) nofun, fun i' hi => ?_⟩
      cases hi
      exact hshows

/-- The channel is closed when it has handed over what the command printed to stderr. -/
def diskFull : List Capture.Answer :=
  [.done, .flag false, .flag true, .data (utf8 "disk full"), .flag false, .flag false, .flag false,
    .flag true]

/-- The task of a remote command gets a channel, and the capture on it comes to `answer`. -/
def endsWith (answer : Except Incident CommandResult) : List Move :=
  [.answer 1 (.channel (.ok 7)), .answer 1 (.captured answer)]

/-- What a command has printed to stderr is lost with its channel. -/
theorem lost_stderr :
    let s' := sample.run (.start (.runOn "dd" none) :: endsWith (.error Capture.closedEarly))
    let o := Outcome.failed (.capture "dd" Capture.closedEarly)
    (Capture.start.run diskFull).answer? = some (.error Capture.closedEarly) ∧
      Capture.received .err (Capture.start.dialogue diskFull) = utf8 "disk full" ∧
      .finish 1 o ∈ sample.since s' ∧ o.IsRemote ∧ ¬o.ShowsStderr (utf8 "disk full") := by
  intro s' o
  have hsince : sample.since s' = [.newClient 0, .openChannel 1 0, .capture 1 7 "dd",
    .closeChannel 7, .finish 1 o] := rfl
  have hr : (Trouble.capture "dd" Capture.closedEarly).failure = .report _ := rfl
  refine ⟨by decide +kernel, by decide +kernel, by simp [hsince], ⟨_, _, rfl, hr, rfl⟩, ?_⟩
  exact (showsIncident_capture "dd" Capture.closedEarly rfl hr).2 _ (by decide +kernel)

/-- The command exits when it has printed to stderr. -/
def complaint : List Capture.Answer :=
  [.done, .flag false, .flag true, .data (utf8 "disk full"), .flag false, .flag false, .flag true,
    .flag false, .flag false, .status 1]

theorem stderr_shown_iff_sample :
    let s' := sample.run (.start (.runOn "dd" none) :: endsWith (.ok ⟨[], utf8 "disk full", 1⟩))
    let o := Outcome.failed (.exitStatus "dd" ⟨[], utf8 "disk full", 1⟩)
    let err := Capture.received .err (Capture.start.dialogue complaint)
    .finish 1 o ∈ sample.since s' ∧ o.IsRemote ∧ err ≠ [] ∧ o.ShowsStderr err := by
  intro s' o err
  have ho : .finish 1 o ∈ sample.since s' := by
    have hsince : sample.since s' = [.newClient 0, .openChannel 1 0, .capture 1 7 "dd",
      .closeChannel 7, .finish 1 o] := rfl
    simp [hsince]
  have hremote : o.IsRemote := ⟨_, _, rfl, rfl, rfl⟩
  have herr : err ≠ [] := by decide +kernel
  obtain hnone | ⟨channel, a, hf, hshown⟩ :=
    stderr_shown_iff (s := sample) (.caller "dd" none) (endsWith (.ok ⟨[], utf8 "disk full", 1⟩))
      ho hremote
  · cases hnone
  · cases hf
    have hanswer : (Capture.start.run complaint).answer? =
      some (.ok ⟨[], utf8 "disk full", 1⟩) := by decide +kernel
    exact ⟨ho, hremote, herr, ((hshown complaint hanswer).1 herr).2 ⟨_, rfl⟩⟩

/-! ### Lost channels -/

/-- What is reported of a remote command whose channel is lost before an exit status was sent is
what the channel raised, or that it was closed, if it was closed when the capture was about to look;
else it is the exit status −1. -/
theorem lost_channel_reported (h : s.RunsOn j c command signal) (moves : List Move)
    (ho : .finish s.started o ∈ s.since (s.run (.start j :: moves))) {channel : ChannelId}
    {a : Except Incident CommandResult}
    (hf : (s.step (.start j)).fate s.started (.first (s.deadClients.contains c)) moves =
      .ended channel a) {events : List Capture.Event}
    (hconforms : ({} : Capture.Talk).Obeys Capture.Talk.Conforms events)
    (hnone : ∀ code, .exit code ∉ events)
    (ha : (({} : Capture.Talk).run events).capture.answer? = some a) :
    let d := ({} : Capture.Talk).dialogue events
    let behind := ({} : Capture.Talk).closedBehind events
    (∃ i x, x ∈ d ∧ x.2 = .raised i ∧ o.Renders command i) ∨
      (behind = some .isClosed ∧ o.Reports command "" .null (some Capture.closedEarly)) ∨
      ∃ q, behind = some q ∧ q ≠ .isClosed ∧
        o.Reports command (Trouble.guestText (Capture.received .err d)) (.int (-1)) none := by
  intro d behind
  have hshows : (Fate.ended channel a).Shows command o :=
    hf ▸ Fate.shows_of_outcome? (h.outcome? moves ho)
  rcases Capture.answer_of_lost hconforms hnone ha with
    ⟨i, x, hx, hi, rfl⟩ | ⟨hb, rfl⟩ | ⟨q, hb, hq, rfl⟩
  · exact .inl ⟨i, x, hx, hi, hshows⟩
  · exact .inr (.inl ⟨hb, hshows⟩)
  · exact .inr (.inr ⟨q, hb, hq, hshows⟩)

/-- The channel is closed while the capture waits for more. -/
def brokenOff : List Capture.Event :=
  [.answer .done, .arrival .out (utf8 "partial"), .answer (.flag true),
    .answer (.data (utf8 "partial")), .answer (.flag false), .answer (.flag false),
    .answer (.flag false), .answer (.flag false), .close, .answer .done, .answer (.flag false),
    .answer (.flag false), .answer (.flag true), .answer (.flag false), .answer (.flag false),
    .answer (.status (-1))]

/-- A lost channel is reported as an exit status. -/
theorem loss_has_status :
    let t : Capture.Talk := {}
    let s' := sample.run (.start (.runOn "dd" none) :: endsWith (.ok ⟨utf8 "partial", [], -1⟩))
    let o := Outcome.failed (.exitStatus "dd" ⟨utf8 "partial", [], -1⟩)
    t.Obeys Capture.Talk.Honest brokenOff ∧ t.Obeys Capture.Talk.Conforms brokenOff ∧
      (∀ code, .exit code ∉ brokenOff) ∧ (t.run brokenOff).closed = true ∧
      (t.run brokenOff).capture.answer? = some (.ok ⟨utf8 "partial", [], -1⟩) ∧
      .finish 1 o ∈ sample.since s' ∧ o.Reports "dd" "" (.int (-1)) none ∧
      ∀ stderr cause, ¬o.Reports "dd" stderr .null cause := by
  intro t s' o
  have hsince : sample.since s' = [.newClient 0, .openChannel 1 0, .capture 1 7 "dd",
    .closeChannel 7, .finish 1 o] := rfl
  have htext : Trouble.guestText [] = "" := by simp [Trouble.guestText]
  have hreports : o.Reports "dd" (Trouble.guestText []) (.int (-1)) none :=
    ⟨_, _, rfl, rfl, rfl, rfl, rfl⟩
  rw [htext] at hreports
  refine ⟨by decide +kernel, by decide +kernel, by simp [brokenOff], rfl, by decide +kernel,
    by simp [hsince], hreports, ?_⟩
  rintro stderr cause ⟨t', r, he, hr, -, hdetails, -⟩
  obtain rfl : Trouble.exitStatus "dd" _ = t' := Outcome.failed.inj he
  cases hr
  cases hdetails

/-- The channel is closed just behind the answer that there is no exit status. -/
def cutOff : List Capture.Event :=
  [.answer .done, .arrival .err (utf8 "partial"), .answer (.flag false), .answer (.flag true),
    .answer (.data (utf8 "partial")), .answer (.flag false), .answer (.flag false),
    .answer (.flag false), .close, .answer (.flag true)]

theorem lost_channel_reported_sample :
    let s' := sample.run (.start (.runOn "dd" none) :: endsWith (.error Capture.closedEarly))
    let o := Outcome.failed (.capture "dd" Capture.closedEarly)
    ({} : Capture.Talk).Obeys Capture.Talk.Conforms cutOff ∧ (∀ code, .exit code ∉ cutOff) ∧
      .finish 1 o ∈ sample.since s' ∧ o.Reports "dd" "" .null (some Capture.closedEarly) := by
  intro s' o
  have ho : .finish 1 o ∈ sample.since s' := by
    have hsince : sample.since s' = [.newClient 0, .openChannel 1 0, .capture 1 7 "dd",
      .closeChannel 7, .finish 1 o] := rfl
    simp [hsince]
  have hconforms : ({} : Capture.Talk).Obeys Capture.Talk.Conforms cutOff := by decide +kernel
  have hnone : ∀ code, .exit code ∉ cutOff := by simp [cutOff]
  have hbehind : ({} : Capture.Talk).closedBehind cutOff = some .isClosed := by decide +kernel
  rcases lost_channel_reported (s := sample) (.caller "dd" none)
    (endsWith (.error Capture.closedEarly)) ho rfl hconforms hnone (by decide +kernel) with
    ⟨i, x, hx, hi, -⟩ | ⟨-, hreports⟩ | ⟨q, hq, hne, -⟩
  · have hquiet : ∀ x ∈ ({} : Capture.Talk).dialogue cutOff, x.2.isRaised = false := by
      decide +kernel
    have hraised := hquiet x hx
    rw [hi] at hraised
    cases hraised
  · exact ⟨hconforms, hnone, ho, hreports⟩
  · exact absurd (Option.some.inj (hq.symm.trans hbehind)) hne

end Session

end GuestLink
