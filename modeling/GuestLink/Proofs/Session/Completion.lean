import GuestLink.Proofs.Session.Account

/-!
# Which status line completes a command

A command is completed by the first status line that is found after it was sent and not lost.  This
is the answer to the command itself just if no answer to an earlier command comes as late as that
(`completed_isOwn_iff`); after a command that has timed out it need not be.
-/

namespace GuestLink

open Serial

namespace Account

variable {a : Account} {g : Guest} {s s' : Session} {c : Completion} {id : TaskId} {m : Move}
  {moves : List Move}

/-! ### What is noted -/

theorem hand_eq {l : Bytes} (hb : s.console.lines = l :: (s.step (.deal id)).console.lines) :
    a.hand s id = { a with held := Function.update a.held id (a.next s.console.lines) } := by
  rw [hand, hb]
  exact if_pos (Nat.lt_succ_self _)

section

variable {errand : Errand} {e : Exchange} {hand : Option Bytes} {notice : Option Notice} {l : Bytes}
  (ht : s.task? id = some { id, stage := .reply errand e, hand, notice })
  (hl : s.looksAt? id (.resume id) = some l)
include ht hl

theorem look_of_plain (hp : status? l = none) : a.look s id = a := by
  rw [look, ht, hl]
  dsimp only
  rw [hp]

theorem look_of_status {status : Option UInt8} (hs : status? l = some status) :
    a.look s id = { a with completed := a.completed ++
      [⟨a.command id, a.place s.console.lines id hand, status⟩] } := by
  rw [look, ht, hl]
  dsimp only
  rw [hs]

end

theorem look_of_none (h : s.looksAt? id (.resume id) = none) : a.look s id = a := by
  rw [look, h]
  split
  · cases ‹none = some _›
  · rfl

theorem exists_note_eq (hl : ∀ id, s.looksAt? id m = none) (hm : m ≠ .read) :
    ∃ held, a.note s m = { a with held } := by
  cases m with
  | read => exact absurd rfl hm
  | deal id =>
    rw [note, hand]
    split_ifs
    exacts [⟨_, rfl⟩, ⟨a.held, rfl⟩]
  | resume id => exact ⟨a.held, look_of_none (hl id)⟩
  | _ => exact ⟨a.held, rfl⟩

theorem note_eq_self (hl : ∀ id, s.looksAt? id m = none) (hm : m ≠ .read)
    (hlines : (s.step m).console.lines = s.console.lines) : a.note s m = a := by
  cases m with
  | read => exact absurd rfl hm
  | deal id =>
    rw [note, hand, hlines]
    exact if_neg (lt_irrefl _)
  | resume id => exact look_of_none (hl id)
  | _ => rfl

theorem step_of_sends (h : (s.step m).sends = s.sends) : a.step s m = a.note s m := if_pos h

/-! ### One move -/

/-- A task that acts leaves the account in order, whether or not it sends a command. -/
theorem tracks_of_outset {a' : Account} (hn : s'.Numbered) (hf : a.Fits g s.console.lines)
    (ho : s.Outset s' id) (ha : a' = if s'.sends = s.sends then a else a.send (some id)) :
    a'.Tracks g s' := by
  have hsend (h : s'.sends = s.sends + 1) : a' = a.send (some id) :=
    ha.trans (if_neg fun hs => Nat.succ_ne_self _ (h.symm.trans hs))
  cases ho with
  | rests lines sends idle =>
    rw [ha, if_pos sends]
    exact ⟨hn, lines ▸ hf, .inl idle⟩
  | fails lines sends idle =>
    refine ⟨hn, lines ▸ ?_, .inl idle⟩
    rcases sends with sends | sends
    · rw [ha, if_pos sends]
      exact hf.reset
    · rw [hsend sends]
      exact hf.reset.send _
  | begins lines sends busy untold =>
    rw [hsend sends]
    refine ⟨hn, lines ▸ hf.reset.send _, .inr ⟨id, none, busy, ?_⟩⟩
    rw [lines]
    exact waits_of_send a g id

/-- A move while a command is to be flushed. -/
theorem tracks_of_flushing {errand : Errand} {timeout : Binary64} (hn : (s.step m).Numbered)
    (hf : a.Fits g s.console.lines) (hwaits : a.Waits g s.console.lines id none)
    (hc : s.Flushing id errand timeout m) : (a.step s m).Tracks g (s.step m) := by
  cases hc with
  | stays looks hr lines sends flushes =>
    rw [step_of_sends sends, note_eq_self looks hr lines]
    exact ⟨hn, lines ▸ hf, .inr ⟨id, none, .flushing flushes, lines ▸ hwaits⟩⟩
  | reads hr sends flushes =>
    subst hr
    rw [step_of_sends sends]
    exact ⟨hn, hf.read, .inr ⟨id, none, .flushing flushes, hwaits.read hf⟩⟩
  | flushed hm hs owns =>
    have lines : (s.step m).console.lines = s.console.lines := by rw [hs]; rfl
    rw [step_of_sends (by rw [hs]; rfl), note_eq_self (by subst hm; exact fun _ => rfl)
      (by simp [hm]) lines]
    exact ⟨hn, lines ▸ hf, .inr ⟨id, none, .waiting owns, lines ▸ hwaits⟩⟩
  | gives looks hr lines sends gone idle =>
    rw [step_of_sends sends, note_eq_self looks hr lines]
    exact ⟨hn, lines ▸ hf, .inl idle⟩

/-- A move while a command waits for its answer. -/
theorem tracks_of_course {errand : Errand} {e : Exchange} {hand : Option Bytes} (howns : s.Owns id errand e hand)
    (hn : (s.step m).Numbered) (hf : a.Fits g s.console.lines)
    (hwaits : a.Waits g s.console.lines id hand) (hg : g.Says a.sent a.found)
    (hc : s.Course id errand e hand m) : (a.step s m).Tracks g (s.step m) := by
  obtain ⟨notice, htask⟩ := howns.task
  cases hc with
  | stays looks hr lines sends owns =>
    rw [step_of_sends sends, note_eq_self looks hr lines]
    exact ⟨hn, lines ▸ hf, .inr ⟨id, hand, .waiting owns, lines ▸ hwaits⟩⟩
  | reads hr sends owns =>
    subst hr
    rw [step_of_sends sends]
    exact ⟨hn, hf.read, .inr ⟨id, hand, .waiting owns, hwaits.read hf⟩⟩
  | takes l rest hr empty before lines sends owns =>
    subst hr empty
    have hnote : a.note s (.deal id) =
        { a with held := Function.update a.held id (a.next s.console.lines) } :=
      hand_eq (before.trans (congrArg _ lines.symm))
    rw [before] at hf hwaits hnote
    rw [step_of_sends sends, hnote]
    rw [← lines] at hf hwaits ⊢
    exact ⟨hn, hf.tail.with_held _,
      .inr ⟨id, some l, .waiting owns, hwaits.handed hf (Function.update_self ..)⟩⟩
  | looks l rest hr look before plain lines sends owns =>
    subst hr
    have hnote : a.note s (.resume id) = a := look_of_plain htask look plain
    obtain ⟨hf, hreaches⟩ := hwaits.reaches hf before
    rw [step_of_sends sends, hnote]
    refine ⟨hn, lines ▸ hf, .inr ⟨id, none, .waiting owns, ?_⟩⟩
    rw [lines]
    exact hreaches.waits hwaits.command hg plain
  | answered l rest status hr look before mark concludes =>
    subst hr
    have hnote : a.note s (.resume id) = { a with completed := a.completed ++
        [⟨a.command id, a.place s.console.lines id hand, status⟩] } :=
      look_of_status htask look mark
    obtain ⟨hf, hreaches⟩ := hwaits.reaches hf before
    have hf' := hf.with_completed (hreaches.sound hwaits.command hg mark) hreaches.past
    have ho := howns.outset_of_answered concludes
    exact tracks_of_outset (s := s.withLines rest) hn hf' ho (by rw [Account.step, hnote]; rfl)
  | gives looks hr lines sends gone idle =>
    rw [step_of_sends sends, note_eq_self looks hr lines]
    exact ⟨hn, lines ▸ hf, .inl idle⟩

/-- The account is kept in order by every move. -/
theorem Tracks.step (h : a.Tracks g s) (hm : m.isManual = false) (hg : g.Says a.sent a.found) :
    (a.step s m).Tracks g (s.step m) := by
  have hn := h.numbered.step m
  rcases h.waits with hidle | ⟨id, hand, hbusy, hwaits⟩
  · by_cases hr : m = .read
    · subst hr
      rw [step_of_sends (Session.sends_read s)]
      exact ⟨hn, h.fits.read, .inl hidle⟩
    · obtain ⟨held, hnote⟩ := exists_note_eq (a := a) (hidle.looksAt?_eq_none · m) hr
      have hf := h.fits.with_held held
      rcases hidle.course h.numbered hm hr with ⟨id, ha, ho⟩ | ⟨hlines, hsends, hidle'⟩
      · exact tracks_of_outset hn hf ho (by rw [Account.step, hnote, ha])
      · rw [step_of_sends hsends, hnote]
        exact ⟨hn, hlines ▸ hf, .inl hidle'⟩
  · cases hbusy with
    | flushing flushes => exact tracks_of_flushing hn h.fits hwaits (flushes.course hm)
    | waiting owns => exact tracks_of_course owns hn h.fits hwaits hg (owns.course hm)

/-- The account is in order after every run. -/
theorem Tracks.run (h : a.Tracks g s) (hm : ∀ m ∈ moves, m.isManual = false)
    (hg : a.Hears g s moves) : (a.run s moves).Tracks g (s.run moves) := by
  induction moves generalizing a s with
  | nil => exact h
  | cons m moves ih =>
    exact ih (h.step (hm m List.mem_cons_self) hg.1)
      (fun m' hm' => hm m' (List.mem_cons_of_mem _ hm')) hg.2

/-! ### Completed commands -/

/-- A task looks at the line that stands where the account says. -/
theorem Tracks.found_place (h : a.Tracks g s) {errand : Errand} {e : Exchange} {hand : Option Bytes}
    {notice : Option Notice} {l : Bytes}
    (ht : s.task? id = some { id, stage := .reply errand e, hand, notice })
    (hl : s.looksAt? id (.resume id) = some l) :
    a.found[a.place s.console.lines id hand]? = some l := by
  rcases h.waits with hidle | ⟨id', hand', hbusy, hwaits⟩
  · cases hl.symm.trans (hidle.looksAt?_eq_none id _)
  cases hbusy with
  | flushing flushes =>
    obtain ⟨notice', ht'⟩ := flushes.task
    by_cases hne : id = id'
    · subst hne
      cases ht.symm.trans ht'
    · cases flushes.others _ (Session.mem_of_task? ht) hne
  | waiting owns =>
    obtain ⟨notice', ht'⟩ := owns.task
    obtain rfl : id = id' := by
      by_contra hne
      cases owns.others _ (Session.mem_of_task? ht) hne
    cases Option.some.inj (ht.symm.trans ht')
    rcases Session.resume_of_reply ht with ⟨l', rest, hl', hb, -⟩ | ⟨hl', -⟩
    · obtain rfl := Option.some.inj (hl.symm.trans hl')
      exact (hwaits.reaches h.fits hb).2.found
    · cases hl.symm.trans hl'

/-- A command is completed as its task looks at a status line and concludes with that. -/
theorem Tracks.exists_conclude_of_step (h : a.Tracks g s) (hc : c ∈ (a.step s m).completed) :
    c ∈ a.completed ∨ ∃ id errand e rest line, m = .resume id ∧ c.command = a.command id ∧
      s.looksAt? id (.resume id) = some line ∧ a.found[c.place]? = some line ∧
      s.step m = (s.withLines rest).conclude id errand e (.answered c.status) := by
  have hnote : c ∈ (a.note s m).completed := by
    rw [Account.step] at hc
    split_ifs at hc
    exacts [hc, hc]
  cases m with
  | resume id =>
    rw [note, look] at hnote
    split at hnote
    · rename_i id' errand e hand notice line ht hl
      split at hnote
      · rename_i status hstatus
        rcases List.mem_append.1 hnote with hc | hc
        · exact .inl hc
        rw [List.mem_singleton.1 hc]
        obtain rfl : id' = id := Session.id_of_task? ht
        have hfound := h.found_place ht hl
        rcases Session.resume_of_reply ht with ⟨l, rest, hl', -, hs⟩ | ⟨hl', -⟩
        · obtain rfl := Option.some.inj (hl.symm.trans hl')
          exact .inr ⟨id', errand, _, rest, line, rfl, rfl, hl, hfound,
            hs.trans (Session.acceptLine_of_some hstatus)⟩
        · cases hl.symm.trans hl'
      · exact .inl hnote
    · exact .inl hnote
  | deal id =>
    rw [note, hand] at hnote
    split_ifs at hnote
    exacts [.inl hnote, .inl hnote]
  | _ => exact .inl hnote

theorem found_step (a : Account) (s : Session) (m : Move) :
    (a.step s m).found = a.found ++ linesOf (s.happening m) := by
  have hnote : (a.step s m).found = (a.note s m).found := by
    rw [Account.step]
    split_ifs <;> rfl
  rw [hnote]
  by_cases hr : m = .read
  · subst hr
    rfl
  rw [Session.linesOf_happening hr, List.append_nil]
  cases m with
  | read => exact absurd rfl hr
  | deal id =>
    rw [note, hand]
    split_ifs <;> rfl
  | resume id =>
    rw [note, look]
    split
    · split <;> rfl
    · rfl
  | _ => rfl

/-- What is found is what the reader has read. -/
theorem found_run (a : Account) (s : Session) (moves : List Move) :
    (a.run s moves).found = a.found ++ linesOf (s.happenings moves) := by
  induction moves generalizing a s with
  | nil => exact (List.append_nil _).symm
  | cons m moves ih =>
    rw [Account.run, ih, found_step, List.append_assoc, Session.happenings, linesOf_append]

theorem Tracks.exists_conclude_of_run (h : a.Tracks g s) (hm : ∀ m ∈ moves, m.isManual = false)
    (hg : a.Hears g s moves) (hc : c ∈ (a.run s moves).completed) :
    c ∈ a.completed ∨ ∃ before id after errand e rest line, moves = before ++ .resume id :: after ∧
      c.command = (a.run s before).command id ∧
      (s.run before).looksAt? id (.resume id) = some line ∧
      (a.run s moves).found[c.place]? = some line ∧
      (s.run before).step (.resume id) =
        ((s.run before).withLines rest).conclude id errand e (.answered c.status) := by
  induction moves generalizing a s with
  | nil => exact .inl hc
  | cons m moves ih =>
    have h' := h.step (hm m List.mem_cons_self) hg.1
    rcases ih h' (fun m' hm' => hm m' (List.mem_cons_of_mem _ hm')) hg.2 hc with
      hc | ⟨before, id, after, errand, e, rest, line, rfl, hcommand, hlook, hfound, hs⟩
    · refine (h.exists_conclude_of_step hc).imp_right ?_
      rintro ⟨id, errand, e, rest, line, rfl, hcommand, hlook, hfound, hs⟩
      refine ⟨[], id, moves, errand, e, rest, line, rfl, hcommand, hlook, ?_, hs⟩
      rw [found_run]
      exact Guest.getElem?_of_isPrefix (List.prefix_append _ _) hfound
    · exact .inr ⟨m :: before, id, after, errand, e, rest, line, rfl, hcommand, hlook, hfound, hs⟩

/-- A command is completed by the guest's own answer to it just if each answer to an earlier command
had been found to its end before the command was sent, or its status line was lost. -/
theorem Sound.isOwn_iff (h : a.Sound g c) :
    IsOwn g c ↔ ∀ i < c.command, (g i).mark ≠ none →
      g.place i < a.begun c.command ∨ g.place i ∈ a.lost := by
  constructor
  · rintro ⟨mark, -, -, hplace⟩ i hi hmark
    rcases lt_or_ge (g.place i) (a.begun c.command) with hlt | hle
    · exact .inl hlt
    · exact .inr (h.skipped i hmark hle (hplace ▸ Guest.place_lt hi hmark))
  · intro hall
    obtain ⟨i, hi, mark, hmark, hstatus, hplace⟩ := h.origin
    rcases hi.eq_or_lt with rfl | hi
    · exact ⟨mark, hmark, hstatus, hplace⟩
    · rcases hall i hi (by rw [hmark]; nofun) with hlt | hlost
      · exact absurd h.begun (not_le.2 (hplace ▸ hlt))
      · exact absurd (hplace ▸ hlost) h.kept

end Account

namespace Session

open Account

variable {s : Session} {moves : List Move} {g : Guest} {c : Completion}

/-- Whether nothing has been asked of a session and no line has been read. -/
structure Fresh (s : Session) : Prop where
  tasks : s.tasks = []
  lines : s.console.lines = []

theorem Fresh.tracks (hs : s.Fresh) (g : Guest) : ({} : Account).Tracks g s := by
  have none {t : Task} (ht : t ∈ s.tasks) : False := by
    rw [hs.tasks] at ht
    cases ht
  refine ⟨fun t ht => (none ht).elim, ⟨?_, nofun, nofun, nofun⟩, .inl fun t ht => (none ht).elim⟩
  exact hs.lines ▸ List.nil_suffix

/-- A run of serial commands with a guest that answers them in order.  Each command that a status
line has completed was concluded with the status of that line, which its task looked at and which
stands at its place among the lines found.  The line is the guest's own answer
to the command just if of each answer to an earlier command the status line had been read before the
command was sent or was lost for want of room. -/
theorem completed_isOwn_iff (hs : s.Fresh) (hm : ∀ m ∈ moves, m.isManual = false)
    (hg : ({} : Account).Hears g s moves) (hc : c ∈ (({} : Account).run s moves).completed) :
    let a := ({} : Account).run s moves
    a.found = linesOf (s.happenings moves) ∧
    (∃ before id after errand e rest line, moves = before ++ .resume id :: after ∧
      c.command = (({} : Account).run s before).command id ∧
      (s.run before).looksAt? id (.resume id) = some line ∧ a.found[c.place]? = some line ∧
      (s.run before).step (.resume id) =
        ((s.run before).withLines rest).conclude id errand e (.answered c.status)) ∧
    (IsOwn g c ↔ ∀ i < c.command, (g i).mark ≠ none →
      g.place i < a.begun c.command ∨ g.place i ∈ a.lost) := by
  refine ⟨found_run _ s moves, ?_, (((hs.tracks g).run hm hg).fits.sound c hc).isOwn_iff⟩
  exact ((hs.tracks g).exists_conclude_of_run hm hg hc).resolve_left List.not_mem_nil

/-- A guest that reports success of its first command and failure of all others. -/
def sampleGuest : Guest
  | 0 => ⟨[], some (utf8 "SERIAL STATUS: 0"), nofun, by rintro _ ⟨⟩; decide +kernel⟩
  | _ => ⟨[], some (utf8 "SERIAL STATUS: 1"), nofun, by rintro _ ⟨⟩; decide +kernel⟩

/-- A scan that times out and a second scan, whose answer arrives after that to the first one. -/
def lateAnswer : List Move :=
  [.start .scan, .pass 5000000000, .expire 1, .receive (utf8 "SERIAL STATUS: 0\n"), .read,
    .start .scan, .receive (utf8 "SERIAL STATUS: 1\n"), .read, .deal 2, .resume 2]

theorem completed_isOwn_iff_sample :
    ⟨1, 1, some 49⟩ ∈ (({} : Account).run sample lateAnswer).completed ∧
      IsOwn sampleGuest ⟨1, 1, some 49⟩ := by
  have hc : ⟨1, 1, some 49⟩ ∈ (({} : Account).run sample lateAnswer).completed := by decide +kernel
  have hg : ({} : Account).Hears sampleGuest sample lateAnswer := by decide +kernel
  refine ⟨hc, (completed_isOwn_iff ⟨rfl, rfl⟩ (by decide +kernel) hg hc).2.2.2 fun i hi _ => ?_⟩
  obtain rfl := Nat.lt_one_iff.1 hi
  exact .inl (by decide +kernel)

/-- A setup that times out, and a scan that was sent before the answer to the setup arrives. -/
def staleAnswer : List Move :=
  [.start .setup, .answer 1 (.keyPair (.ok { type := "ssh-rsa", blob := [], fingerprint := "" })),
    .pass 5000000000, .expire 1, .start .scan, .receive (utf8 "SERIAL STATUS: 0\n"), .read, .deal 2,
    .resume 2]

/-- The scan succeeds by the answer to the setup. -/
theorem stale_completion :
    sample.Fresh ∧ (∀ m ∈ staleAnswer, m.isManual = false) ∧
      ({} : Account).Hears sampleGuest sample staleAnswer ∧
      ∃ c ∈ (({} : Account).run sample staleAnswer).completed,
        c.status = some 48 ∧ ¬IsOwn sampleGuest c := by
  refine ⟨⟨rfl, rfl⟩, by decide +kernel, by decide +kernel, ⟨1, 0, some 48⟩, by decide +kernel, rfl,
    ?_⟩
  rintro ⟨mark, -, -, hplace⟩
  exact absurd hplace (by decide +kernel)

end Session

end GuestLink
