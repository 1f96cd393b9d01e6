import GuestLink.Proofs.Session.Flow
import GuestLink.Proofs.Session.Reception

/-!
# How lines leave the queue

Every line that the reader finds leaves the queue in the order in which it came, if it does
(`queue_run`): a task takes it, it is discarded by a reset, or it makes room for another.
-/

namespace GuestLink

/-- How a line leaves the queue of a console. -/
inductive Departure where
  /-- A task takes it. -/
  | taken (id : TaskId)
  /-- It is discarded with all others. -/
  | discarded
  /-- It makes room for another. -/
  | displaced
  deriving DecidableEq, Repr

namespace Session

open Serial

/-- The task that takes the oldest line with a move, if a line is taken. -/
def taker? (s : Session) : Move → Option TaskId
  | .deal id => some id
  | .resume id =>
    if s.hand? id = none ∧ (s.looksAt? id (.resume id)).isSome then some id else none
  | _ => none

/-- The lines that are no longer in the queue after a move. -/
def gone (s : Session) (m : Move) : List Bytes :=
  let lines := s.console.lines ++ linesOf (s.happening m)
  lines.take (lines.length - (s.step m).console.lines.length)

/-- The lines that leave the queue with a move, and how. -/
def leaves (s : Session) (m : Move) : List (Departure × Bytes) :=
  match m, s.taker? m with
  | .read, _ => (s.gone m).map (.displaced, ·)
  | _, some id => ((s.gone m).take 1).map (.taken id, ·) ++ ((s.gone m).drop 1).map (.discarded, ·)
  | _, none => (s.gone m).map (.discarded, ·)

/-- The lines that leave the queue in a run, and how. -/
def departures (s : Session) : List Move → List (Departure × Bytes)
  | [] => []
  | m :: moves => s.leaves m ++ (s.step m).departures moves

variable {s s' : Session} {id : TaskId} {t : Task} {m : Move} {moves : List Move} {l : Bytes}

theorem map_snd_leaves (s : Session) (m : Move) : (s.leaves m).map Prod.snd = s.gone m := by
  have hmap (d : Departure) (ls : List Bytes) : (ls.map (d, ·)).map Prod.snd = ls := by
    simp [Function.comp_def]
  unfold leaves
  split
  · exact hmap ..
  · rw [List.map_append, hmap, hmap, List.take_append_drop]
  · exact hmap ..

theorem lines_suffix (s : Session) (m : Move) :
    (s.step m).console.lines <:+ s.console.lines ++ linesOf (s.happening m) := by
  by_cases hm : m = .read
  · subst hm
    obtain ⟨n, hn, -⟩ := exists_drop_read s
    rw [hn]
    exact List.drop_suffix ..
  · rw [linesOf_happening hm, List.append_nil]
    cases ha : s.actor? m with
    | some id => exact (step_only ha).lines
    | none => exact (step_tasks ha).2.2 hm

/-- The queue and what is added to it are what leaves it and what stays. -/
theorem queue_step (s : Session) (m : Move) :
    s.console.lines ++ linesOf (s.happening m) =
      (s.leaves m).map Prod.snd ++ (s.step m).console.lines := by
  obtain ⟨front, h⟩ := lines_suffix s m
  rw [map_snd_leaves, gone, ← h, List.length_append, Nat.add_sub_cancel, List.take_left]

theorem queue_run (s : Session) (moves : List Move) :
    s.console.lines ++ linesOf (s.happenings moves) =
      (s.departures moves).map Prod.snd ++ (s.run moves).console.lines := by
  induction moves generalizing s with
  | nil => exact List.append_nil _
  | cons m moves ih =>
    rw [happenings, linesOf_append, ← List.append_assoc, queue_step, List.append_assoc, ih,
      departures, List.map_append, List.append_assoc]
    rfl

/-! ### The room in the queue -/

theorem length_enqueue_le (queue batch : List Bytes) :
    (Console.enqueue queue batch).length ≤ queueDepth := by
  rw [Console.enqueue, Console.keepLast, List.length_drop]
  omega

theorem enqueue_nil {queue : List Bytes} (h : queue.length ≤ queueDepth) :
    Console.enqueue queue [] = queue := by
  rw [Console.enqueue, Console.keepLast, List.append_nil, Nat.sub_eq_zero_of_le h, List.drop_zero]

theorem read_lines (h : s.console.lines.length ≤ queueDepth) :
    (s.step .read).console.lines =
      Console.enqueue s.console.lines (linesOf (s.happening .read)) := by
  cases s.reads with
  | rests step lines chunk =>
    rw [step, lines]
    exact (enqueue_nil h).symm
  | takes ready console lines takes => rw [console, lines]

theorem length_lines_step (h : s.console.lines.length ≤ queueDepth) (m : Move) :
    (s.step m).console.lines.length ≤ queueDepth := by
  by_cases hm : m = .read
  · rw [hm, read_lines h]
    exact length_enqueue_le ..
  · have hs := (lines_suffix s m).length_le
    rw [linesOf_happening hm, List.append_nil] at hs
    exact hs.trans h

theorem length_lines_run (h : s.console.lines.length ≤ queueDepth) (moves : List Move) :
    (s.run moves).console.lines.length ≤ queueDepth := by
  induction moves generalizing s with
  | nil => exact h
  | cons m moves ih => exact ih (length_lines_step h m)

/-- What is pushed out of a queue is the oldest line of a full one, to which another is added. -/
theorem exists_full_of_mem_take {queue batch : List Bytes} (h : queue.length ≤ queueDepth)
    (hl : l ∈ (queue ++ batch).take (queue.length + batch.length - queueDepth)) :
    ∃ arrived next, arrived ++ [next] <+: batch ∧
      (Console.enqueue queue arrived).length = queueDepth ∧
      (Console.enqueue queue arrived).head? = some l := by
  obtain ⟨i, hi, hget⟩ := List.mem_iff_getElem.1 hl
  rw [List.length_take, List.length_append] at hi
  have hdepth : 0 < queueDepth := by decide
  have hn : queueDepth + i - queue.length < batch.length := by omega
  refine ⟨batch.take (queueDepth + i - queue.length), batch[queueDepth + i - queue.length], ?_, ?_,
    ?_⟩
  · rw [List.take_append_getElem hn]
    exact List.take_prefix ..
  · rw [Console.enqueue, Console.keepLast, List.length_drop, List.length_append, List.length_take]
    omega
  · have htake : queue ++ batch.take (queueDepth + i - queue.length) =
        (queue ++ batch).take (queueDepth + i) := by
      rw [List.take_append, List.take_of_length_le (l := queue) (by omega)]
    have hplace :
        (queue ++ batch.take (queueDepth + i - queue.length)).length - queueDepth = i := by
      rw [List.length_append, List.length_take]
      omega
    rw [Console.enqueue, Console.keepLast, hplace, htake, List.head?_drop,
      List.getElem?_take_of_lt (by omega), ← hget, List.getElem_take]
    exact List.getElem?_eq_getElem _

theorem gone_of_lines_eq (hm : m ≠ .read)
    (h : (s.step m).console.lines = s.console.lines) : s.gone m = [] := by
  rw [gone, linesOf_happening hm, List.append_nil, h, Nat.sub_self, List.take_zero]

theorem gone_of_nil (hm : m ≠ .read) (h : (s.step m).console.lines = []) :
    s.gone m = s.console.lines := by
  rw [gone, linesOf_happening hm, List.append_nil, h]
  exact List.take_length

theorem gone_of_tail {rest : List Bytes} (hm : m ≠ .read) (hb : s.console.lines = l :: rest)
    (h : (s.step m).console.lines = rest) : s.gone m = [l] := by
  rw [gone, linesOf_happening hm, List.append_nil, h, hb, List.length_cons,
    Nat.add_sub_cancel_left]
  rfl

theorem leaves_of_gone_nil (h : s.gone m = []) : s.leaves m = [] := by
  unfold leaves
  rw [h]
  split <;> rfl

theorem leaves_of_taker?_none (hm : m ≠ .read) (h : s.taker? m = none) :
    s.leaves m = (s.gone m).map (.discarded, ·) := by
  unfold leaves
  split
  · exact absurd rfl hm
  · cases h.symm.trans ‹s.taker? _ = _›
  · rfl

theorem leaves_of_taker? {rest : List Bytes} (hm : m ≠ .read) (h : s.taker? m = some id)
    (hg : s.gone m = l :: rest) :
    s.leaves m = (.taken id, l) :: rest.map (.discarded, ·) := by
  unfold leaves
  split
  · exact absurd rfl hm
  · cases h.symm.trans ‹s.taker? _ = _›
    rw [hg]
    rfl
  · cases h.symm.trans ‹s.taker? _ = _›

/-! ### What becomes of a line -/

/-- Whether a move discards `lines` with a reset, which is asked for or precedes a command. -/
def Resets (s : Session) (m : Move) (lines : List Bytes) : Prop :=
  m = .reset ∧ s.console.lines = lines ∨
    ∃ (s₁ : Session) (id : TaskId) (errand : Errand) (line : Bytes) (timeout : Binary64),
      s₁.plugged = true ∧ s₁.console.owned = false ∧ s₁.closed = false ∧
        s₁.console.lines = lines ∧ s.step m = s₁.beginCommand id errand line timeout

/-- Whether a move discards `lines`, if there are any, with a reset. -/
def Discards (s : Session) (m : Move) (lines : List Bytes) : Prop := lines = [] ∨ s.Resets m lines

/-- How the lines leave the queue with a move, and what the tasks hold before and after it. -/
inductive Passage (s : Session) (m : Move) : Prop
  | displaces (hm : m = .read) (leaves : s.leaves m = (s.gone m).map (.displaced, ·))
      (hands : ∀ id, (s.step m).hand? id = s.hand? id) (looks : ∀ id, s.looksAt? id m = none)
  | discards (lines : List Bytes) (leaves : s.leaves m = lines.map (.discarded, ·))
      (cause : s.Discards m lines)
      (hands : ∀ id, (s.step m).hand? id = s.hand? id) (looks : ∀ id, s.looksAt? id m = none)
  | takes (id : TaskId) (l : Bytes) (leaves : s.leaves m = [(.taken id, l)]) (hm : m = .deal id)
      (hands : ∀ id', id' ≠ id → (s.step m).hand? id' = s.hand? id')
      (before : s.hand? id = none) (after : (s.step m).hand? id = some l)
      (looks : ∀ id, s.looksAt? id m = none)
  | returns (id : TaskId) (l : Bytes) (lines : List Bytes)
      (leaves : s.leaves m = if s.hand? id = none then (.taken id, l) :: lines.map (.discarded, ·)
        else lines.map (.discarded, ·))
      (cause : s.Discards m lines) (hm : m = .resume id)
      (hands : ∀ id', id' ≠ id → (s.step m).hand? id' = s.hand? id')
      (before : s.hand? id = none ∨ s.hand? id = some l) (after : (s.step m).hand? id = none)
      (look : s.looksAt? id m = some l) (looks : ∀ id', id' ≠ id → s.looksAt? id' m = none)
  | ends (id : TaskId) (lines : List Bytes) (leaves : s.leaves m = lines.map (.discarded, ·))
      (cause : s.Discards m lines) (hm : ∀ id, m ≠ .deal id)
      (hands : ∀ id', id' ≠ id → (s.step m).hand? id' = s.hand? id')
      (after : (s.step m).hand? id = none) (loss : s.hand? id ≠ none → s.CallsOff m id)
      (looks : ∀ id, s.looksAt? id m = none)

theorem hand?_step_of_ne (ha : s.actor? m ≠ some id) : (s.step m).hand? id = s.hand? id := by
  rw [hand?, task?_step_of_ne ha, hand?]

theorem hand?_step_of_none (ha : s.actor? m = none) (id : TaskId) :
    (s.step m).hand? id = s.hand? id := hand?_step_of_ne (by simp [ha])

theorem hand?_step_of_some (ha : s.actor? m = some id) (id' : TaskId) (h : id' ≠ id) :
    (s.step m).hand? id' = s.hand? id' :=
  hand?_step_of_ne (by rw [ha]; exact fun he => h (Option.some.inj he).symm)

theorem taker?_eq_none (hd : ∀ id, m ≠ .deal id) (h : ∀ id, s.looksAt? id m = none) :
    s.taker? m = none := by
  cases m with
  | deal id => exact absurd rfl (hd id)
  | resume id =>
    rw [taker?, h]
    exact if_neg (by simp)
  | _ => rfl

/-- A task that goes on from a queue without its line has left or discarded the others. -/
theorem Proceeds.gone_eq {rest : List Bytes} (hp : (s.withLines rest).Proceeds (s.step m) id)
    (hm : m ≠ .read) (front : List Bytes) (hb : s.console.lines = front ++ rest) :
    ∃ lines, s.gone m = front ++ lines ∧ s.Discards m lines := by
  rcases hp.lines with hl | ⟨hl, s₁, id', errand, line, timeout, hplug, hown, hopen, hl₁, hs⟩
  · refine ⟨[], ?_, .inl rfl⟩
    have hl' : (s.step m).console.lines = rest := hl
    rw [gone, linesOf_happening hm, List.append_nil, hl', hb, List.length_append,
      Nat.add_sub_cancel, List.take_left, List.append_nil]
  · refine ⟨rest, by rw [gone_of_nil hm hl, hb], .inr (.inr ?_)⟩
    exact ⟨s₁, id', errand, line, timeout, hplug, hown, hopen, hl₁, hs⟩

theorem passage (hn : s.Numbered) (hw : s.HandsWait) (m : Move) : s.Passage m := by
  cases s.flow hn hw m with
  | reads hm =>
    subst hm
    exact .displaces rfl rfl (hand?_step_of_none rfl) fun _ => rfl
  | discards hm =>
    subst hm
    have hr : Move.reset ≠ .read := by simp
    refine .discards s.console.lines ?_ (.inr (.inl ⟨rfl, rfl⟩)) (hand?_step_of_none rfl)
      fun _ => rfl
    rw [leaves_of_taker?_none hr rfl, gone_of_nil hr rfl]
  | rests hm waits lines looks =>
    exact .discards [] (leaves_of_gone_nil (gone_of_lines_eq hm lines)) (.inl rfl)
      (fun id => hand?_eq_of_wait? (waits id)) looks
  | hands id t l rest hm task empty waits before lines after =>
    subst hm
    have hr : Move.deal id ≠ .read := by simp
    refine .takes id l ?_ rfl (hand?_step_of_some rfl) ((hand?_of_task? task).trans empty)
      (hand?_of_task? after) fun _ => rfl
    exact leaves_of_taker? hr rfl (gone_of_tail hr before lines)
  | looks id t l rest hm task look before proceeds =>
    subst hm
    have hr : Move.resume id ≠ .read := by simp
    have hh := hand?_of_task? task
    have others (id' : TaskId) (hid : id' ≠ id) : s.looksAt? id' (.resume id) = none :=
      looksAt?_of_ne fun he => hid (Option.some.inj he).symm
    cases ht : t.hand with
    | some l' =>
      rw [ht] at before hh
      obtain ⟨rfl, rfl⟩ := List.cons.inj before
      obtain ⟨lines, hg, hd⟩ := proceeds.gone_eq hr [] rfl
      refine .returns id l' lines ?_ hd rfl (hand?_step_of_some rfl) (.inr hh) proceeds.hand look
        others
      have htaker : s.taker? (.resume id) = none := if_neg fun hn => by
        rw [hh] at hn
        cases hn.1
      rw [leaves_of_taker?_none hr htaker, hg, hh]
      exact (if_neg (by simp)).symm
    | none =>
      rw [ht] at before hh
      obtain ⟨lines, hg, hd⟩ := proceeds.gone_eq hr [l] before
      refine .returns id l lines ?_ hd rfl (hand?_step_of_some rfl) (.inl hh) proceeds.hand look
        others
      have htaker : s.taker? (.resume id) = some id := if_pos ⟨hh, by rw [look]; rfl⟩
      rw [leaves_of_taker? hr htaker hg, if_pos hh]
      rfl
  | acts id actor hm looks proceeds loss =>
    have hr : m ≠ .read := by
      rintro rfl
      cases actor
    have hp : (s.withLines s.console.lines).Proceeds (s.step m) id := proceeds
    obtain ⟨lines, hg, hd⟩ := hp.gone_eq hr [] rfl
    refine .ends id lines ?_ hd hm (hand?_step_of_some actor) proceeds.hand loss looks
    rw [leaves_of_taker?_none hr (taker?_eq_none hm looks), hg]
    rfl

/-! ### Causes -/

theorem displaced_of_mem (hq : s.console.lines.length ≤ queueDepth) (hn : s.Numbered)
    (hw : s.HandsWait) (h : (.displaced, l) ∈ s.leaves m) :
    m = .read ∧ ∃ arrived next, arrived ++ [next] <+: linesOf (s.happening .read) ∧
      (Console.enqueue s.console.lines arrived).length = queueDepth ∧
      (Console.enqueue s.console.lines arrived).head? = some l := by
  cases s.passage hn hw m with
  | displaces hm leaves =>
    subst hm
    rw [leaves] at h
    obtain ⟨l', hl, he⟩ := List.mem_map.1 h
    cases he
    rw [gone, read_lines hq] at hl
    refine ⟨rfl, exists_full_of_mem_take hq ?_⟩
    convert hl using 2
    rw [Console.enqueue, Console.keepLast, List.length_drop, List.length_append]
    omega
  | discards lines leaves => simp [leaves] at h
  | takes id l leaves => simp [leaves] at h
  | returns id l lines leaves =>
    rw [leaves] at h
    split_ifs at h <;> simp at h
  | ends id lines leaves => simp [leaves] at h

theorem resets_of_mem (hn : s.Numbered) (hw : s.HandsWait) (h : (.discarded, l) ∈ s.leaves m) :
    ∃ lines, l ∈ lines ∧ s.Resets m lines := by
  have resets {lines : List Bytes} (hl : l ∈ lines) (hd : s.Discards m lines) :
      ∃ lines, l ∈ lines ∧ s.Resets m lines := by
    rcases hd with rfl | hr
    · cases hl
    · exact ⟨lines, hl, hr⟩
  cases s.passage hn hw m with
  | displaces hm leaves => simp [leaves] at h
  | discards lines leaves cause => exact resets (by simpa [leaves] using h) cause
  | takes id l leaves => simp [leaves] at h
  | returns id l lines leaves cause =>
    refine resets ?_ cause
    rw [leaves] at h
    split_ifs at h <;> simpa using h
  | ends id lines leaves cause => exact resets (by simpa [leaves] using h) cause

theorem exists_of_mem_departures {d : Departure × Bytes} (h : d ∈ s.departures moves) :
    ∃ before m after, moves = before ++ m :: after ∧ d ∈ (s.run before).leaves m := by
  induction moves generalizing s with
  | nil => cases h
  | cons m moves ih =>
    rcases List.mem_append.1 h with h | h
    · exact ⟨[], m, moves, rfl, h⟩
    · obtain ⟨before, m', after, rfl, hd⟩ := ih h
      exact ⟨m :: before, m', after, rfl, hd⟩

theorem HandsWait.run (h : s.HandsWait) (hn : s.Numbered) (moves : List Move) :
    (s.run moves).HandsWait := by
  induction moves generalizing s with
  | nil => exact h
  | cons m moves ih => exact ih (h.step hn m) (hn.step m)

/-! ### The lines of a task -/

/-- The lines that a task takes. -/
def takenBy (id : TaskId) (ds : List (Departure × Bytes)) : List Bytes :=
  ds.filterMap fun d => if d.1 = .taken id then some d.2 else none

@[simp] theorem takenBy_append (id : TaskId) (ds ds' : List (Departure × Bytes)) :
    takenBy id (ds ++ ds') = takenBy id ds ++ takenBy id ds' := List.filterMap_append ..

@[simp] theorem takenBy_cons_self (id : TaskId) (l : Bytes) (ds : List (Departure × Bytes)) :
    takenBy id ((.taken id, l) :: ds) = l :: takenBy id ds :=
  List.filterMap_cons_some (if_pos rfl)

theorem takenBy_cons_of_ne {id' : TaskId} (h : id' ≠ id) (l : Bytes)
    (ds : List (Departure × Bytes)) : takenBy id ((.taken id', l) :: ds) = takenBy id ds :=
  List.filterMap_cons_none (if_neg fun he => h (Departure.taken.inj he))

@[simp] theorem takenBy_nil (id : TaskId) : takenBy id [] = [] := rfl

@[simp] theorem takenBy_map_discarded (id : TaskId) (lines : List Bytes) :
    takenBy id (lines.map (.discarded, ·)) = [] := by
  simp [takenBy]

@[simp] theorem takenBy_map_displaced (id : TaskId) (lines : List Bytes) :
    takenBy id (lines.map (.displaced, ·)) = [] := by
  simp [takenBy]

/-- The line that a task loses with a move. -/
def loses (s : Session) (id : TaskId) (m : Move) : List Bytes :=
  if (s.looksAt? id m).isSome ∨ ((s.step m).hand? id).isSome then [] else (s.hand? id).toList

theorem hand_step (hn : s.Numbered) (hw : s.HandsWait) (id : TaskId) (m : Move) :
    (s.hand? id).toList ++ takenBy id (s.leaves m) =
        (s.looksAt? id m).toList ++ s.loses id m ++ ((s.step m).hand? id).toList ∧
      (s.loses id m ≠ [] → s.CallsOff m id) := by
  have keeps (hh : (s.step m).hand? id = s.hand? id) (hl : s.looksAt? id m = none)
      (ht : takenBy id (s.leaves m) = []) :
      (s.hand? id).toList ++ takenBy id (s.leaves m) =
          (s.looksAt? id m).toList ++ s.loses id m ++ ((s.step m).hand? id).toList ∧
        (s.loses id m ≠ [] → s.CallsOff m id) := by
    have hloses : s.loses id m = [] := by
      rw [loses, hh]
      cases s.hand? id <;> simp
    rw [ht, hl, hloses, hh]
    simp
  cases s.passage hn hw m with
  | displaces hm leaves hands looks => exact keeps (hands id) (looks id) (by simp [leaves])
  | discards lines leaves cause hands looks => exact keeps (hands id) (looks id) (by simp [leaves])
  | takes id' l leaves hm hands before after looks =>
    by_cases hid : id = id'
    · subst hid
      rw [leaves, before, after, looks, loses, after, looks]
      simp
    · exact keeps (hands id hid) (looks id) (by rw [leaves, takenBy_cons_of_ne (Ne.symm hid)]; rfl)
  | returns id' l lines leaves cause hm hands before after look looks =>
    by_cases hid : id = id'
    · subst hid
      have hloses : s.loses id m = [] := by
        rw [loses, look]
        exact if_pos (.inl rfl)
      rw [leaves, after, look, hloses]
      rcases before with before | before <;> simp [before]
    · refine keeps (hands id hid) (looks id hid) ?_
      rw [leaves]
      split_ifs
      · rw [takenBy_cons_of_ne (Ne.symm hid), takenBy_map_discarded]
      · exact takenBy_map_discarded ..
  | ends id' lines leaves cause hm hands after loss looks =>
    by_cases hid : id = id'
    · subst hid
      have hloses : s.loses id m = (s.hand? id).toList := by
        rw [loses, looks, after]
        exact if_neg (by simp)
      rw [leaves, after, looks, hloses]
      refine ⟨by simp, fun hne => loss fun he => hne ?_⟩
      rw [he]
      rfl
    · exact keeps (hands id hid) (looks id) (by simp [leaves])

theorem hand?_of_none (ht : s.task? id = none) : s.hand? id = none := by
  rw [hand?, ht]
  rfl

theorem lt_started_of_hand? (hn : s.Numbered) (h : s.hand? id ≠ none) : id < s.started := by
  cases ht : s.task? id with
  | none => exact absurd (hand?_of_none ht) h
  | some t => exact id_of_task? ht ▸ hn t (mem_of_task? ht)

/-- A task that has ended takes no line. -/
theorem takenBy_of_none (hn : s.Numbered) (hw : s.HandsWait) (ht : s.task? id = none)
    (hid : id < s.started) (moves : List Move) : takenBy id (s.departures moves) = [] := by
  induction moves generalizing s with
  | nil => rfl
  | cons m moves ih =>
    have ht' := task?_step_of_none ht fun (_ : Job) (_ : m = _) => hid.ne
    have hs := (hand_step hn hw id m).1
    rw [loses, looksAt?_of_none ht, hand?_of_none ht, hand?_of_none ht'] at hs
    rw [departures, takenBy_append, ih (hn.step m) (hw.step hn m) ht'
      (hid.trans_le (started_le_step s m)), List.append_nil]
    simpa using hs

/-- What a task takes are the lines that it looks at and at most one more, which it holds or was
holding when it was called off. -/
theorem taken_run (hn : s.Numbered) (hw : s.HandsWait) (id : TaskId) (moves : List Move) :
    ∃ pending : Option Bytes,
      (s.hand? id).toList ++ takenBy id (s.departures moves) =
        s.transcript id moves ++ pending.toList ∧
      (pending = (s.run moves).hand? id ∨ ∃ before m after, moves = before ++ m :: after ∧
        pending = (s.run before).hand? id ∧ (s.run before).CallsOff m id) := by
  induction moves generalizing s with
  | nil => exact ⟨s.hand? id, by simp [departures, transcript], .inl rfl⟩
  | cons m moves ih =>
    obtain ⟨hs, hoff⟩ := hand_step hn hw id m
    rw [departures, takenBy_append, ← List.append_assoc, hs, transcript]
    by_cases hl : s.loses id m = []
    · obtain ⟨pending, he, hp⟩ := ih (hn.step m) (hw.step hn m)
      refine ⟨pending, ?_, hp.imp_right ?_⟩
      · rw [hl, List.append_nil, List.append_assoc, he, List.append_assoc]
      · rintro ⟨before, m', after, rfl, hrest⟩
        exact ⟨m :: before, m', after, rfl, hrest⟩
    · -- The task has ended and its line with it: it neither takes nor looks at another.
      have hend := hoff hl
      have hhand : s.loses id m = (s.hand? id).toList := by
        unfold loses at hl ⊢
        split_ifs at hl ⊢
        · exact absurd rfl hl
        · rfl
      have hid : id < s.started := lt_started_of_hand? hn fun hnone =>
        hl (by rw [hhand, hnone]; rfl)
      have hid' := hid.trans_le (started_le_step s m)
      refine ⟨s.hand? id, ?_, .inr ⟨[], m, moves, rfl, rfl, hend⟩⟩
      rw [takenBy_of_none (hn.step m) (hw.step hn m) hend.1 hid', hhand, hand?_of_none hend.1,
        transcript_of_none hend.1 hid']
      simp

end Session

end GuestLink
