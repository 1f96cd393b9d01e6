import GuestLink.Proofs.Session.Delivery

/-!
# Whole lines

What a task looks at is a whole line of the stream, unless the chunk before it was torn off a line
that was too long: then it is what had not arrived of that line (`transcript_whole`).  Such a
remainder can complete a command (`remainder_completes`).
-/

namespace GuestLink

namespace Framing

/-- Whether a line can begin behind `before`. -/
def BeginsLine (before : Bytes) : Prop := ∀ b ∈ before.getLast?, b = lineFeed

/-- Whether `line` is the content of a line of `stream`, which begins at `place` and ends with the
next line feed or, if the stream has `ended`, with the stream. -/
def WholeAt (stream : Bytes) (ended : Bool) (place : Nat) (line : Bytes) : Prop :=
  ∃ before raw after, stream = before ++ raw ++ after ∧ before.length = place ∧
    BeginsLine before ∧ lineFeed ∉ raw ∧ line = trimEnd raw ∧
    (after.head? = some lineFeed ∨ after = [] ∧ ended = true)

variable {limit place : Nat} {closed : Bool} {stream raw line rest : Bytes} {c : Chunk}
  {cs : List Chunk}

/-- A line can begin behind a chunk with a line feed, but not behind a torn one. -/
theorem Chunk.Fits.beginsLine_iff (h : c.Fits limit closed)
    (hfeed : lineFeed ∉ c.bytes → c.IsTorn) (before : Bytes) :
    BeginsLine (before ++ c.bytes) ↔ ¬c.IsTorn := by
  have begins (raw : Bytes) : BeginsLine (before ++ (raw ++ [lineFeed])) := by
    rw [BeginsLine, ← List.append_assoc, List.getLast?_concat]
    rintro b ⟨⟩
    rfl
  have torn {raw : Bytes} (hn : lineFeed ∉ raw) (hne : raw ≠ []) :
      ¬BeginsLine (before ++ raw) := fun hb => by
    rw [BeginsLine, List.getLast?_append_of_ne_nil _ hne, List.getLast?_eq_some_getLast hne] at hb
    exact hn (hb _ rfl ▸ List.getLast_mem hne)
  have hne := h.bytes_ne_nil
  cases h with
  | line raw => exact iff_of_true (begins raw) nofun
  | last raw noFeed => exact absurd (hfeed noFeed).1 nofun
  | long raw => exact iff_of_true (begins raw) fun ht => ht.2 (by simp)
  | torn raw noFeed long =>
    exact iff_of_false (torn noFeed hne) (not_not_intro ⟨rfl, noFeed⟩)

/-- The only line of a stream of one line. -/
theorem WholeAt.eq_trimEnd (h : WholeAt (raw ++ [lineFeed]) false place line)
    (hraw : lineFeed ∉ raw) : line = trimEnd raw := by
  obtain ⟨before, raw', after, hs, -, hbegins, hraw', rfl, hends⟩ := h
  obtain ⟨after, rfl⟩ : ∃ rest, after = lineFeed :: rest := by
    rcases hends with hhead | ⟨-, hover⟩
    · exact List.head?_eq_some_iff.1 hhead
    · cases hover
  -- There is one line feed, so the line ends with it, and none before which it could begin.
  obtain ⟨rfl, -, -⟩ := (List.append_cons_inj_of_notMem hraw List.not_mem_nil).1 hs
  have hnil : before = [] := by
    rcases List.eq_nil_or_concat' before with rfl | ⟨init, b, rfl⟩
    · rfl
    · obtain rfl : b = lineFeed := hbegins b (by simp)
      exact absurd (by simp) hraw
  rw [hnil]
  rfl

theorem trimEnd_concat {b : UInt8} (hfeed : b ≠ 10) (hreturn : b ≠ 13) (raw : Bytes) :
    trimEnd (raw ++ [b]) = raw ++ [b] := by
  rw [trimEnd, List.reverse_concat, List.dropWhile_cons_of_neg (by simp [hfeed, hreturn]),
    List.reverse_cons, List.reverse_reverse]

theorem KeepsTo.of_suffix (front : Bytes) (hk : KeepsTo limit (front ++ rest)) :
    KeepsTo limit rest := by
  induction front with
  | nil => exact hk
  | cons b front ih =>
    refine ih ?_
    by_cases hb : b = lineFeed
    · have hk : KeepsTo limit ([] ++ [lineFeed] ++ (front ++ rest)) := hb ▸ hk
      exact (hk.of_line List.not_mem_nil).2
    · have hn : lineFeed ∉ [b] := fun hm => hb (List.mem_singleton.1 hm).symm
      obtain ⟨part, parts, hparts, hp⟩ := Text.splitAt_append hn (front ++ rest)
      have hk : ∀ part' ∈ ([b] ++ part) :: parts, part'.length ≤ limit := hp ▸ hk
      rw [KeepsTo, hparts]
      rintro part' (_ | ⟨_, hm⟩)
      · exact (Nat.le_succ _).trans (hk _ List.mem_cons_self)
      · exact hk part' (List.mem_cons_of_mem _ hm)

/-- Nothing is torn off a stream without a line that is too long. -/
theorem KeepsTo.not_isTorn (hk : KeepsTo limit (cs.flatMap Chunk.bytes ++ rest))
    (hc : c ∈ cs) (hfits : c.Fits limit closed) : ¬c.IsTorn := by
  obtain ⟨front, back, rfl⟩ := List.append_of_mem hc
  rw [List.flatMap_append, List.flatMap_cons, List.append_assoc, List.append_assoc] at hk
  have hk := hk.of_suffix
  rintro ⟨he, hn⟩
  cases hfits with
  | line | last => cases he
  | long raw => simp at hn
  | torn raw noFeed long => exact absurd (hk.of_append noFeed) (not_le.2 long)

end Framing

namespace Session

open Framing

variable {s : Session} {moves : List Move} {front back : List Chunk} {c : Chunk} {line : Bytes}

theorem takenBy_sublist (id : TaskId) (ds : List (Departure × Bytes)) :
    (takenBy id ds).Sublist (ds.map Prod.snd) := by
  rw [← List.filterMap_eq_map]
  refine filterMap_sublist (fun d => ?_) ds
  split_ifs
  exacts [.inl rfl, .inr rfl]

/-- A task looks at lines in the order in which they were found. -/
theorem Fresh.transcript_sublist (hs : s.Fresh) (id : TaskId) (moves : List Move) :
    (s.transcript id moves).Sublist (Serial.linesOf (s.happenings moves)) := by
  obtain ⟨pending, htaken, -⟩ := taken_run hs.numbered hs.handsWait id moves
  rw [hand?_of_none (hs.task? id)] at htaken
  have hprefix : s.transcript id moves <+: takenBy id (s.departures moves) := ⟨_, htaken.symm⟩
  rw [hs.queue]
  exact hprefix.sublist.trans ((takenBy_sublist id _).trans (List.sublist_append_left ..))

theorem beginsLine_iff (hcs : s.chunks moves = front ++ c :: back) :
    BeginsLine (front.flatMap Chunk.bytes) ↔ ∀ c' ∈ front.getLast?, ¬c'.IsTorn := by
  rcases List.eq_nil_or_concat' front with rfl | ⟨init, d, rfl⟩
  · exact iff_of_true (by simp [BeginsLine]) (by simp)
  · have hd : s.chunks moves = init ++ d :: c :: back := by
      rw [hcs, List.append_assoc]
      rfl
    obtain ⟨closed, hfits⟩ := chunks_fit (hd ▸ List.mem_append_right init List.mem_cons_self)
    have hfeed : lineFeed ∉ d.bytes → d.IsTorn := fun hn => by
      by_contra ht
      cases (chunks_final hd hn ht).1
    rw [List.flatMap_append, List.flatMap_singleton, hfits.beginsLine_iff hfeed,
      List.getLast?_concat]
    exact ⟨fun h c' hc => Option.some.inj hc ▸ h, fun h => h d rfl⟩

/-- A line that is found ends where a line of the stream does. -/
theorem exists_raw_of_line (hcs : s.chunks moves = front ++ c :: back) (hl : c.event = .line line) :
    ∃ raw after, s.stream moves = front.flatMap Chunk.bytes ++ raw ++ after ∧
      lineFeed ∉ raw ∧ line = trimEnd raw ∧
      (after.head? = some lineFeed ∨ after = [] ∧ (s.run moves).console.inputClosed = true) := by
  have hstream := stream_eq s moves
  rw [hcs, List.flatMap_append, List.flatMap_cons, List.append_assoc, List.append_assoc,
    ← List.append_assoc] at hstream
  obtain ⟨closed, hfits⟩ := chunks_fit (hcs ▸ List.mem_append_right front List.mem_cons_self)
  cases hfits with
  | line raw noFeed =>
    cases hl
    refine ⟨raw, lineFeed :: (back.flatMap Chunk.bytes ++ (s.run moves).console.buffer), ?_, noFeed,
      rfl, .inl rfl⟩
    rw [hstream]
    simp
  | last raw noFeed =>
    cases hl
    obtain ⟨rfl, hbuffer, hclosed⟩ := chunks_final hcs noFeed nofun
    refine ⟨raw, [], ?_, noFeed, rfl, .inr ⟨rfl, hclosed⟩⟩
    rw [hstream, hbuffer]
    rfl
  | long | torn => cases hl

/-- A line that is found is whole, unless the chunk before it is torn. -/
theorem wholeAt_iff (hcs : s.chunks moves = front ++ c :: back) (hl : c.event = .line line) :
    WholeAt (s.stream moves) (s.run moves).console.inputClosed
        (front.flatMap Chunk.bytes).length line ↔
      ∀ c' ∈ front.getLast?, ¬c'.IsTorn := by
  rw [← beginsLine_iff hcs]
  obtain ⟨raw, after, hs, hraw, hline, hends⟩ := exists_raw_of_line hcs hl
  constructor
  · -- The place determines what stands before it.
    rintro ⟨before, raw', after', hs', hlength, hbegins, -⟩
    rw [hs, List.append_assoc, List.append_assoc] at hs'
    exact (List.append_inj hs' hlength.symm).1 ▸ hbegins
  · exact fun hbegins => ⟨_, raw, after, hs, rfl, hbegins, hraw, hline, hends⟩

theorem exists_chunk_of_mem (h : line ∈ Framing.linesOf ((s.chunks moves).map Chunk.event)) :
    ∃ front c back, s.chunks moves = front ++ c :: back ∧ c.event = .line line := by
  obtain ⟨e, he, hline⟩ := List.mem_filterMap.1 h
  obtain ⟨c, hc, rfl⟩ := List.mem_map.1 he
  obtain ⟨front, back, hcs⟩ := List.append_of_mem hc
  refine ⟨front, c, back, hcs, ?_⟩
  cases hevent : c.event with
  | line content =>
    rw [hevent] at hline
    exact congrArg Event.line (Option.some.inj hline)
  | oversized =>
    rw [hevent] at hline
    cases hline

/-- A run of a fresh session.  The stream is cut into chunks, of which each task looks at some lines
in order.  A line is whole just if the chunk before it is not torn, and a torn chunk has more bytes
than a line may have; so all lines are whole if no chunk is torn, and none is if the stream has no
line that is too long. -/
theorem transcript_whole (hs : s.Fresh) (moves : List Move) :
    let chunks := s.chunks moves
    let stream := s.stream moves
    let ended := (s.run moves).console.inputClosed
    stream = chunks.flatMap Chunk.bytes ++ (s.run moves).console.buffer ∧
    (∀ id, (s.transcript id moves).Sublist (Framing.linesOf (chunks.map Chunk.event))) ∧
    (∀ front c back line, chunks = front ++ c :: back → c.event = .line line →
      (WholeAt stream ended (front.flatMap Chunk.bytes).length line ↔
        ∀ c' ∈ front.getLast?, ¬c'.IsTorn)) ∧
    (∀ c ∈ chunks, c.IsTorn → s.console.limit < c.bytes.length) ∧
    ((∀ c ∈ chunks, ¬c.IsTorn) → ∀ id, ∀ line ∈ s.transcript id moves,
      ∃ place, WholeAt stream ended place line) ∧
    (KeepsTo s.console.limit stream → ∀ c ∈ chunks, ¬c.IsTorn) := by
  dsimp only
  have hsub (id : TaskId) : (s.transcript id moves).Sublist
      (Framing.linesOf ((s.chunks moves).map Chunk.event)) :=
    linesOf_happenings s moves ▸ hs.transcript_sublist id moves
  refine ⟨stream_eq s moves, hsub, fun front c back line hcs hl => wholeAt_iff hcs hl,
    fun c hc ht => ?_, fun hall id line hl => ?_, fun hk c hc => ?_⟩
  · obtain ⟨closed, hfits⟩ := chunks_fit hc
    cases hfits with
    | line | last => cases ht.1
    | long raw => exact absurd ht.2 (by simp)
    | torn raw noFeed long => exact long
  · obtain ⟨front, c, back, hcs, he⟩ := exists_chunk_of_mem ((hsub id).mem hl)
    refine ⟨_, (wholeAt_iff hcs he).2 fun c' hc => hall c' ?_⟩
    rw [hcs]
    exact List.mem_append_left _ (List.mem_of_mem_getLast? hc)
  · obtain ⟨closed, hfits⟩ := chunks_fit hc
    rw [stream_eq] at hk
    exact hk.not_isTorn hc hfits

theorem transcript_whole_sample :
    KeepsTo sample.console.limit (sample.stream brokenLines) ∧
      utf8 "one" ∈ sample.transcript 1 brokenLines ∧
      ∃ place, WholeAt (sample.stream brokenLines) (sample.run brokenLines).console.inputClosed
        place (utf8 "one") := by
  have hk : KeepsTo sample.console.limit (sample.stream brokenLines) := by decide +kernel
  have hl : utf8 "one" ∈ sample.transcript 1 brokenLines := by decide +kernel
  obtain ⟨-, -, -, -, hwhole, htorn⟩ := transcript_whole (s := sample) ⟨rfl, rfl⟩ brokenLines
  exact ⟨hk, hl, hwhole (htorn hk) 1 _ hl⟩

/-! ### A remainder -/

theorem read_of_overlong {limit : Nat} {bytes : Bytes} (hn : lineFeed ∉ bytes)
    (hl : limit < bytes.length) : Framing.read limit false bytes = ⟨[.oversized], [], false⟩ := by
  have hd : bytes.dropWhile (· != lineFeed) = [] := by
    rw [List.dropWhile_eq_nil_iff]
    exact fun b hb => bne_iff_ne.2 fun he => hn (he ▸ hb)
  have hcut : cut limit false bytes = .event .oversized [] := by
    rw [cut, hd]
    exact if_pos hl
  rw [Framing.read, readFrom_of_event hcut, readFrom_of_wait (by simp [cut])]
  rfl

theorem step_read_of_overlong {bytes : Bytes} {owned : Bool}
    (hc : s.console = { reader := .waiting, entered := true, owned }) (hn : lineFeed ∉ bytes)
    (hl : lineLimit < bytes.length) :
    (s.step (.receive bytes)).step .read = s.tell [Console.oversizedRecord] := by
  let c : Console := { buffer := bytes, reader := .ready, entered := true, woken := true, owned }
  have hintake : c.intake = ⟨[.oversized], [], .waits⟩ := by
    simp only [Console.intake, c, read_of_overlong hn hl]
    rfl
  have hread : c.read =
      ({ reader := .waiting, entered := true, owned }, [Console.oversizedRecord]) := by
    simp [Console.read, hintake, c, linesOf, enqueue_nil, Stop.reader, Stop.isEnd, Stop.records]
  have hs : s.step (.receive bytes) = { s with console := c } := by
    rw [step, withConsole, hc]
    rfl
  rw [hs, step, Session.read, hread, ← hc]

/-- A line whose beginning is `front` arrives in two pieces, of which a scan gets the second. -/
def splitLine (front : Bytes) : List Move :=
  .start .scan :: .receive front :: .read :: remainder
where
  /-- The second piece and what becomes of it. -/
  remainder : List Move := [.receive (utf8 "SERIAL STATUS: 0\n"), .read, .deal 1, .resume 1]

/-- The session whose scan has not noticed the loss of the first piece. -/
def afterLoss : Session := (sample.step (.start .scan)).tell [Console.oversizedRecord]

/-- A scan succeeds as its task looks at a status line that reports success. -/
theorem scan_succeeds {id : TaskId} {e : Serial.Exchange} {hand : Option Bytes}
    (ht : s.task? id = some { id, stage := .reply (.scan none) e, hand })
    (hl : s.looksAt? id (.resume id) = some line) (hs : Serial.status? line = some (some 48)) :
    (s.step (.resume id)).history.getLast? =
      some (.finish id (.ok (.output { e with seen := line :: e.seen }.output))) := by
  rcases resume_of_reply ht with ⟨l, rest, hl', -, hstep⟩ | ⟨hl', -⟩
  · obtain rfl := Option.some.inj (hl.symm.trans hl')
    rw [hstep, acceptLine_of_some hs, conclude, if_pos rfl, afterSuccess]
    exact List.getLast?_concat ..
  · cases hl.symm.trans hl'

theorem history_afterLoss : (afterLoss.run splitLine.remainder).history.getLast? =
    some (.finish 1 (.ok (.output []))) := by
  let before : List Move := [.receive (utf8 "SERIAL STATUS: 0\n"), .read, .deal 1]
  let s := afterLoss.run before
  let e := exchange (.scan none) ⟨sample.now, sample.settings.scanTimeout⟩ []
  let status := utf8 "SERIAL STATUS: 0"
  have ht : s.task? 1 = some { id := 1, stage := .reply (.scan none) e, hand := some status } := by
    decide +kernel
  have hl : s.looksAt? 1 (.resume 1) = some status := by decide +kernel
  have houtput : { e with seen := [status] }.output = [] := by decide +kernel
  have hmoves : splitLine.remainder = before ++ [.resume 1] := rfl
  rw [hmoves, run_append, run, List.foldl_cons, List.foldl_nil, ← houtput]
  exact scan_succeeds ht hl (by decide +kernel)

section

variable {front : Bytes} (hn : lineFeed ∉ front) (hl : lineLimit < front.length)
include hn hl

theorem read_splitLine :
    ((sample.step (.start .scan)).step (.receive front)).step .read = afterLoss := by
  have hc : (sample.step (.start .scan)).console =
      { reader := .waiting, entered := true, owned := true } := by
    decide +kernel
  exact step_read_of_overlong hc hn hl

theorem run_splitLine : sample.run (splitLine front) = afterLoss.run splitLine.remainder :=
  congrArg (·.run splitLine.remainder) (read_splitLine hn hl)

theorem transcript_splitLine :
    sample.transcript 1 (splitLine front) = [utf8 "SERIAL STATUS: 0"] := by
  have hs : sample.transcript 1 (splitLine front) =
      afterLoss.transcript 1 splitLine.remainder :=
    congrArg (·.transcript 1 splitLine.remainder) (read_splitLine hn hl)
  rw [hs]
  decide +kernel

theorem stream_splitLine :
    sample.stream (splitLine front) = front ++ utf8 "SERIAL STATUS: 0" ++ [lineFeed] := by
  have hs : sample.stream (splitLine front) = front ++ afterLoss.received splitLine.remainder :=
    congrArg (front ++ ·.received splitLine.remainder) (read_splitLine hn hl)
  have hreceived : afterLoss.received splitLine.remainder =
      utf8 "SERIAL STATUS: 0" ++ [lineFeed] := by decide +kernel
  rw [hs, hreceived, List.append_assoc]

end

/-- The scan succeeds by the end of a line that begins with something else. -/
theorem remainder_completes :
    let front := List.replicate (lineLimit + 1) 120
    sample.Fresh ∧ sample.transcript 1 (splitLine front) = [utf8 "SERIAL STATUS: 0"] ∧
      (∀ place, ¬WholeAt (sample.stream (splitLine front))
        (sample.run (splitLine front)).console.inputClosed place (utf8 "SERIAL STATUS: 0")) ∧
      (sample.run (splitLine front)).history.getLast? = some (.finish 1 (.ok (.output []))) := by
  intro front
  have hn : lineFeed ∉ front := fun hm => by cases (List.mem_replicate.1 hm).2
  have hl : lineLimit < front.length := by
    rw [List.length_replicate]
    exact Nat.lt_succ_self _
  generalize front = front at hn hl
  refine ⟨⟨rfl, rfl⟩, transcript_splitLine hn hl, fun place hw => ?_, ?_⟩
  · have hopen : (afterLoss.run splitLine.remainder).console.inputClosed = false := by
      decide +kernel
    have hstatus : utf8 "SERIAL STATUS: 0" = utf8 "SERIAL STATUS: " ++ [48] := by decide +kernel
    have hfeed : lineFeed ∉ utf8 "SERIAL STATUS: 0" := by decide +kernel
    rw [stream_splitLine hn hl, run_splitLine hn hl, hopen] at hw
    have hline := hw.eq_trimEnd fun hm => (List.mem_append.1 hm).elim hn hfeed
    rw [hstatus, ← List.append_assoc, trimEnd_concat (by decide) (by decide),
      List.append_assoc] at hline
    rw [List.self_eq_append_left.1 hline] at hl
    exact absurd hl (Nat.not_lt_zero _)
  · rw [run_splitLine hn hl]
    exact history_afterLoss

end Session

end GuestLink
