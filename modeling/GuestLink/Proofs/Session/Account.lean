import GuestLink.Proofs.Serial.Guest
import GuestLink.Proofs.Session.Ownership

/-!
# An account of the commands

The `Account` of a run says which lines the reader has found, when each command was sent and which
line completed it.  `Tracks` is what it has to do with the state of the session, as long as the
guest answers in order and the caller does not use the console by hand.
-/

namespace GuestLink

open Serial

/-- A command that a status line has completed. -/
structure Completion where
  /-- How many commands were sent before. -/
  command : Nat
  /-- How many lines were found before the status line. -/
  place : Nat
  status : Option UInt8
  deriving DecidableEq

/-- What has become of the lines of a console and of the commands in a run. -/
structure Account where
  /-- The lines that the reader has found. -/
  found : List Bytes := []
  /-- The places of the lines for which the queue had no room. -/
  lost : List Nat := []
  /-- How many command lines were sent. -/
  sent : Nat := 0
  /-- How many lines had been found when a command was sent. -/
  begun : Nat → Nat := fun _ => 0
  /-- The last command of a task. -/
  command : TaskId → Nat := fun _ => 0
  /-- The place of the line that a task was handed. -/
  held : TaskId → Nat := fun _ => 0
  completed : List Completion := []

namespace Account

/-- The place of the oldest line in a queue. -/
def next (a : Account) (queue : List Bytes) : Nat := a.found.length - queue.length

/-- The place of the line that a task looks at next. -/
def place (a : Account) (queue : List Bytes) (id : TaskId) (hand : Option Bytes) : Nat :=
  if hand.isSome then a.held id else a.next queue

/-- The account after the reader has run. -/
def read (a : Account) (s : Session) : Account :=
  let arrived := linesOf (s.happening .read)
  let left := (s.step .read).console.lines.length
  { a with
    found := a.found ++ arrived
    lost := a.lost ++
      List.range' (a.next s.console.lines) (s.console.lines.length + arrived.length - left) }

/-- The account after a task was handed a line, if it was. -/
def hand (a : Account) (s : Session) (id : TaskId) : Account :=
  if (s.step (.deal id)).console.lines.length < s.console.lines.length then
    { a with held := Function.update a.held id (a.next s.console.lines) }
  else a

/-- The account after a task has looked at a line, if it has.  A status line completes its
command. -/
def look (a : Account) (s : Session) (id : TaskId) : Account :=
  match s.task? id, s.looksAt? id (.resume id) with
  | some ⟨_, .reply .., hand, _⟩, some line =>
    match status? line with
    | some status =>
      { a with completed := a.completed ++
          [⟨a.command id, a.place s.console.lines id hand, status⟩] }
    | none => a
  | _, _ => a

/-- The account after a task has sent a command line. -/
def send (a : Account) (id : Option TaskId) : Account :=
  { a with
    sent := a.sent + 1
    begun := Function.update a.begun a.sent a.found.length
    command := match id with
      | some id => Function.update a.command id a.sent
      | none => a.command }

/-- What a move does to the account, sending apart. -/
def note (a : Account) (s : Session) : Move → Account
  | .read => a.read s
  | .deal id => a.hand s id
  | .resume id => a.look s id
  | _ => a

/-- The account after a move. -/
def step (a : Account) (s : Session) (m : Move) : Account :=
  if (s.step m).sends = s.sends then a.note s m else (a.note s m).send (s.actor? m)

/-- The account after moves. -/
def run (a : Account) (s : Session) : List Move → Account
  | [] => a
  | m :: moves => (a.step s m).run (s.step m) moves

/-- Whether a completion was by the guest's own answer to the command. -/
def IsOwn (g : Guest) (c : Completion) : Prop :=
  ∃ mark, (g c.command).mark = some mark ∧ status? mark = some c.status ∧
    c.place = g.place c.command

/-- Whether all lines found in a run are said by a guest that answers the command lines sent by
then. -/
def Hears (a : Account) (g : Guest) (s : Session) : List Move → Prop
  | [] => g.Says a.sent a.found
  | m :: moves => g.Says a.sent a.found ∧ (a.step s m).Hears g (s.step m) moves

instance (g : Guest) : (a : Account) → (s : Session) → (moves : List Move) →
    Decidable (a.Hears g s moves)
  | a, _, [] => inferInstanceAs (Decidable (g.Says a.sent a.found))
  | a, s, m :: moves =>
    have : Decidable ((a.step s m).Hears g (s.step m) moves) :=
      instDecidableHears g (a.step s m) (s.step m) moves
    inferInstanceAs (Decidable (g.Says a.sent a.found ∧ _))

/-- What holds of a completed command: it was sent before its status line was found, and all status
lines of earlier commands found in between were lost. -/
structure Sound (a : Account) (g : Guest) (c : Completion) : Prop where
  sent : c.command < a.sent
  begun : a.begun c.command ≤ c.place
  kept : c.place ∉ a.lost
  origin : ∃ i ≤ c.command, ∃ mark, (g i).mark = some mark ∧ status? mark = some c.status ∧
    c.place = g.place i
  skipped : ∀ i, (g i).mark ≠ none → a.begun c.command ≤ g.place i → g.place i < c.place →
    g.place i ∈ a.lost

/-- What holds of an account while the lines `queue` are waiting. -/
structure Fits (a : Account) (g : Guest) (queue : List Bytes) : Prop where
  suffix : queue <:+ a.found
  lost : ∀ p ∈ a.lost, p < a.next queue
  past : ∀ c ∈ a.completed, c.place < a.next queue
  sound : ∀ c ∈ a.completed, a.Sound g c

/-- What holds of an account while the last command is waiting for its answer: all status lines
found since it was sent were lost or are still to be looked at. -/
structure Waits (a : Account) (g : Guest) (queue : List Bytes) (id : TaskId)
    (hand : Option Bytes) : Prop where
  command : a.command id + 1 = a.sent
  begun : a.begun (a.command id) ≤ a.next queue
  skipped : ∀ i, (g i).mark ≠ none → a.begun (a.command id) ≤ g.place i →
    g.place i < a.next queue → g.place i ∈ a.lost ∨ hand ≠ none ∧ g.place i = a.held id
  held : ∀ l ∈ hand, a.found[a.held id]? = some l ∧ a.begun (a.command id) ≤ a.held id ∧
    a.held id < a.next queue ∧ a.held id ∉ a.lost

/-- What an account has to do with a session. -/
structure Tracks (a : Account) (g : Guest) (s : Session) : Prop where
  numbered : s.Numbered
  fits : a.Fits g s.console.lines
  waits : s.Unawaited ∨ ∃ id hand, s.Busy id hand ∧ a.Waits g s.console.lines id hand

variable {a a' : Account} {g : Guest} {s s' : Session} {c : Completion} {queue rest : List Bytes}
  {id : TaskId} {hand : Option Bytes} {l : Bytes} {m : Move}

/-! ### Places -/

theorem Sound.mono (h : a.Sound g c) (hsent : a.sent ≤ a'.sent)
    (hbegun : ∀ n < a.sent, a'.begun n = a.begun n) (hlost : ∀ p ∈ a.lost, p ∈ a'.lost)
    (hkept : c.place ∉ a'.lost) : a'.Sound g c := by
  have hb := hbegun c.command h.sent
  exact ⟨h.sent.trans_le hsent, hb ▸ h.begun, hkept, h.origin,
    fun i hi hp hlt => hlost _ (h.skipped i hi (hb ▸ hp) hlt)⟩

theorem Fits.length_le (h : a.Fits g queue) : queue.length ≤ a.found.length := h.suffix.length_le

theorem Fits.next_eq (h : a.Fits g (l :: rest)) : a.next rest = a.next (l :: rest) + 1 := by
  have hle := h.length_le
  rw [List.length_cons] at hle
  simp only [next, List.length_cons]
  omega

theorem Fits.getElem?_next (h : a.Fits g (l :: rest)) : a.found[a.next (l :: rest)]? = some l := by
  obtain ⟨past, hp⟩ := h.suffix
  have hn : a.next (l :: rest) = past.length := by
    rw [next, ← hp, List.length_append, Nat.add_sub_cancel]
  rw [hn, ← hp]
  simp

/-- The queue gives up its oldest line. -/
theorem Fits.tail (h : a.Fits g (l :: rest)) : a.Fits g rest := by
  have hn := h.next_eq
  exact ⟨(List.suffix_cons l rest).trans h.suffix, fun p hp => by have := h.lost p hp; omega,
    fun c hc => by have := h.past c hc; omega, h.sound⟩

/-- The reader adds lines to the queue, and what it has no room for is lost. -/
theorem next_read (h : a.Fits g s.console.lines) :
    (a.read s).next (s.step .read).console.lines = a.next s.console.lines +
      (s.console.lines.length + (linesOf (s.happening .read)).length -
        (s.step .read).console.lines.length) := by
  obtain ⟨n, hn, -⟩ := Session.exists_drop_read s
  have hle := h.length_le
  simp only [next, read, hn, List.length_append, List.length_drop]
  omega

theorem mem_lost_read {p : Nat} : p ∈ (a.read s).lost ↔ p ∈ a.lost ∨
    a.next s.console.lines ≤ p ∧ p < a.next s.console.lines +
      (s.console.lines.length + (linesOf (s.happening .read)).length -
        (s.step .read).console.lines.length) := by
  rw [read, List.mem_append, List.mem_range'_1]

theorem Fits.read (h : a.Fits g s.console.lines) :
    (a.read s).Fits g (s.step .read).console.lines := by
  have hnext := next_read h
  refine ⟨?_, fun p hp => ?_, fun c hc => ?_, fun c hc => ?_⟩
  · obtain ⟨n, hn, -⟩ := Session.exists_drop_read s
    obtain ⟨past, hp⟩ := h.suffix
    rw [hn]
    refine (List.drop_suffix _ _).trans ⟨past, ?_⟩
    rw [← List.append_assoc, hp]
    rfl
  · rcases mem_lost_read.1 hp with hp | hp
    · have := h.lost p hp
      omega
    · omega
  · have := h.past c hc
    omega
  · have hpast := h.past c hc
    refine (h.sound c hc).mono le_rfl (fun _ _ => rfl) (fun p hp => mem_lost_read.2 (.inl hp)) ?_
    rw [mem_lost_read]
    rintro (hp | hp)
    · exact (h.sound c hc).kept hp
    · omega

theorem Waits.read (h : a.Waits g s.console.lines id hand) (hf : a.Fits g s.console.lines) :
    (a.read s).Waits g (s.step .read).console.lines id hand := by
  have hnext := next_read hf
  refine ⟨h.command, ?_, fun i hi hb hlt => ?_, fun l hl => ?_⟩
  · exact h.begun.trans (hnext ▸ Nat.le_add_right _ _)
  · rw [mem_lost_read]
    rcases lt_or_ge (g.place i) (a.next s.console.lines) with hp | hp
    · exact (h.skipped i hi hb hp).imp_left .inl
    · exact .inl (.inr ⟨hp, hnext ▸ hlt⟩)
  · obtain ⟨hfound, hb, hlt, hlost⟩ := h.held l hl
    refine ⟨Guest.getElem?_of_isPrefix (List.prefix_append _ _) hfound, hb, ?_, ?_⟩
    · exact hlt.trans_le (hnext ▸ Nat.le_add_right _ _)
    · rw [mem_lost_read]
      rintro (hp | hp)
      · exact hlost hp
      · exact absurd hlt (not_lt.2 hp.1)

/-! ### Looking at a line -/

/-- When a task that waits for its answer looks at a line, all status lines before it that were
found since the command was sent are lost. -/
structure Reaches (a : Account) (g : Guest) (id : TaskId) (l : Bytes) (k : Nat)
    (rest : List Bytes) : Prop where
  found : a.found[k]? = some l
  begun : a.begun (a.command id) ≤ k
  past : k < a.next rest
  kept : k ∉ a.lost
  skipped : ∀ i, (g i).mark ≠ none → a.begun (a.command id) ≤ g.place i → g.place i < a.next rest →
    g.place i ≠ k → g.place i ∈ a.lost

theorem Waits.reaches (h : a.Waits g queue id hand) (hf : a.Fits g queue)
    (hb : hand.toList ++ queue = l :: rest) :
    a.Fits g rest ∧ a.Reaches g id l (a.place queue id hand) rest := by
  cases hand with
  | some l' =>
    obtain ⟨rfl, rfl⟩ := List.cons.inj hb
    obtain ⟨hfound, hbegun, hlt, hlost⟩ := h.held l' rfl
    exact ⟨hf, hfound, hbegun, hlt, hlost, fun i hi hbi hlti hne =>
      (h.skipped i hi hbi hlti).resolve_right fun hh => hne hh.2⟩
  | none =>
    obtain rfl : queue = l :: rest := hb
    have hn := hf.next_eq
    refine ⟨hf.tail, hf.getElem?_next, h.begun, ?_, fun hp => lt_irrefl _ (hf.lost _ hp), ?_⟩
    · exact hn ▸ Nat.lt_succ_self _
    · intro i hi hbi hlti hne
      have hlt : g.place i < a.next (l :: rest) :=
        lt_of_le_of_ne (Nat.lt_succ_iff.1 (hlti.trans_eq hn)) hne
      exact (h.skipped i hi hbi hlt).resolve_right fun hh => hh.1 rfl

/-- The task goes on waiting if it has looked at no status line. -/
theorem Reaches.waits {k : Nat} (h : a.Reaches g id l k rest) (hc : a.command id + 1 = a.sent)
    (hg : g.Says a.sent a.found) (hl : status? l = none) :
    a.Waits g rest id none := by
  refine ⟨hc, h.begun.trans h.past.le, fun i hi hb hlt => .inl ?_, nofun⟩
  refine h.skipped i hi hb hlt fun hk => ?_
  have hlen : g.place i < a.found.length := hlt.trans_le (Nat.sub_le _ _)
  exact Guest.status_of_found hg hlen (hk ▸ h.found) hi hl

/-- A status line completes the command. -/
theorem Reaches.sound {k : Nat} {status : Option UInt8} (h : a.Reaches g id l k rest)
    (hc : a.command id + 1 = a.sent) (hg : g.Says a.sent a.found) (hl : status? l = some status) :
    a.Sound g ⟨a.command id, k, status⟩ := by
  obtain ⟨i, hi, hmark, hk⟩ := Guest.exists_of_status hg h.found (by rw [hl]; nofun)
  refine ⟨hc ▸ Nat.lt_succ_self _, h.begun, h.kept, ?_, fun j hj hb hlt => ?_⟩
  · exact ⟨i, Nat.lt_succ_iff.1 (hi.trans_eq hc.symm), l, hmark, hl, hk⟩
  · exact h.skipped j hj hb (hlt.trans h.past) hlt.ne

/-- A line is handed to the task. -/
theorem Waits.handed (h : a.Waits g (l :: rest) id none) (hf : a.Fits g (l :: rest))
    {held : TaskId → Nat} (hh : held id = a.next (l :: rest)) :
    { a with held }.Waits g rest id (some l) := by
  have hr : a.Reaches g id l (held id) rest := hh ▸ (h.reaches hf rfl).2
  refine ⟨h.command, hr.begun.trans hr.past.le, fun i hi hb hlt => ?_, ?_⟩
  · by_cases hk : g.place i = held id
    · exact .inr ⟨nofun, hk⟩
    · exact .inl (hr.skipped i hi hb hlt hk)
  · rintro _ ⟨⟩
    exact ⟨hr.found, hr.begun, hr.past, hr.kept⟩

theorem Fits.with_held (h : a.Fits g queue) (held : TaskId → Nat) : { a with held }.Fits g queue :=
  ⟨h.suffix, h.lost, h.past, fun c hc => (h.sound c hc).mono le_rfl (fun _ _ => rfl)
    (fun _ hp => hp) (h.sound c hc).kept⟩

theorem Fits.with_completed (h : a.Fits g queue) (hs : a.Sound g c) (hp : c.place < a.next queue) :
    { a with completed := a.completed ++ [c] }.Fits g queue := by
  have hsound {c' : Completion} (hc' : a.Sound g c') :
      { a with completed := a.completed ++ [c] }.Sound g c' :=
    hc'.mono le_rfl (fun _ _ => rfl) (fun _ hp => hp) hc'.kept
  refine ⟨h.suffix, h.lost, fun c' hc' => ?_, fun c' hc' => ?_⟩
  · rcases List.mem_append.1 hc' with hc' | hc'
    exacts [h.past c' hc', List.mem_singleton.1 hc' ▸ hp]
  · rcases List.mem_append.1 hc' with hc' | hc'
    exacts [hsound (h.sound c' hc'), hsound (List.mem_singleton.1 hc' ▸ hs)]

/-! ### Sending -/

/-- The queue is emptied. -/
theorem Fits.reset (h : a.Fits g queue) : a.Fits g [] := by
  have hle : a.next queue ≤ a.next [] := Nat.sub_le_sub_left (Nat.zero_le _) _
  exact ⟨List.nil_suffix, fun p hp => (h.lost p hp).trans_le hle,
    fun c hc => (h.past c hc).trans_le hle, h.sound⟩

theorem Fits.send (h : a.Fits g queue) (id : Option TaskId) : (a.send id).Fits g queue := by
  refine ⟨h.suffix, h.lost, h.past, fun c hc => ?_⟩
  refine (h.sound c hc).mono (Nat.le_succ _) (fun n hn => ?_) (fun _ hp => hp) (h.sound c hc).kept
  exact Function.update_of_ne hn.ne _ _

/-- Nothing has been found yet since a command was sent. -/
theorem waits_of_send (a : Account) (g : Guest) (id : TaskId) :
    (a.send (some id)).Waits g [] id none := by
  have hc : (a.send (some id)).command id = a.sent := Function.update_self ..
  have hb : (a.send (some id)).begun ((a.send (some id)).command id) =
      (a.send (some id)).next [] := by
    rw [hc]
    exact Function.update_self ..
  refine ⟨by rw [hc]; rfl, hb.le, fun i _ hi hlt => ?_, nofun⟩
  exact absurd (hb ▸ hi) (not_le.2 hlt)

end Account

end GuestLink
