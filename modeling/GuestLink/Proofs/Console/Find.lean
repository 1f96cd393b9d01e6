import GuestLink.Proofs.Console.Chunk

/-!
# Where lines are found

A line is found at a place of the stream, which its bytes lead up to (`finds`).  If a reader gets at
what was received together with more, those of the lines that it finds which had been received up to
their line feed are the lines that it would have found without the rest (`received_finds`).  If it
gets at it bit by bit, and perhaps not at all of it, they are the first of these lines
(`Follows.received`).
-/

namespace GuestLink.Framing

/-- A line, and the stream up to its end. -/
structure Find where
  line : Bytes
  upTo : Bytes
  deriving DecidableEq, Repr

/-- Whether a line was received up to its line feed when `stream` was all that had been received. -/
def Find.IsReceived (stream : Bytes) (f : Find) : Prop :=
  f.upTo <+: stream ∧ f.upTo.getLast? = some lineFeed

instance (stream : Bytes) : DecidablePred (Find.IsReceived stream) := fun _ =>
  inferInstanceAs (Decidable (_ ∧ _))

/-- The line of a chunk that stands behind `before`, if it is one. -/
def Chunk.find? (before : Bytes) (c : Chunk) : Option Find :=
  match c.event with
  | .line line => some ⟨line, before ++ c.bytes⟩
  | .oversized => none

/-- The lines that are found in chunks behind `before`. -/
def finds (before : Bytes) : List Chunk → List Find
  | [] => []
  | c :: cs => (c.find? before).toList ++ finds (before ++ c.bytes) cs

/-- The lines that a reader finds in a buffer to which more may come. -/
def complete (limit : Nat) (buffer : Bytes) : List Bytes :=
  linesOf (read limit false buffer).events

variable {limit : Nat} {closed : Bool} {before buffer raw rest data : Bytes} {c : Chunk}
  {cs : List Chunk} {f : Find}

theorem finds_append (before : Bytes) (cs cs' : List Chunk) :
    finds before (cs ++ cs') =
      finds before cs ++ finds (before ++ cs.flatMap Chunk.bytes) cs' := by
  induction cs generalizing before with
  | nil => rw [List.nil_append, List.flatMap_nil, List.append_nil]; rfl
  | cons c cs ih =>
    rw [List.cons_append, finds, finds, ih, List.flatMap_cons, List.append_assoc,
      List.append_assoc]

theorem map_line_finds (before : Bytes) (cs : List Chunk) :
    (finds before cs).map Find.line = linesOf (cs.map Chunk.event) := by
  induction cs generalizing before with
  | nil => rfl
  | cons c cs ih =>
    rw [finds, List.map_append, ih, Chunk.find?]
    cases hc : c.event <;> simp [linesOf, hc]

/-- A line is found at the end of its chunk. -/
theorem exists_of_mem_finds (h : f ∈ finds before cs) :
    ∃ front c back, cs = front ++ c :: back ∧ c.event = .line f.line ∧
      f.upTo = before ++ front.flatMap Chunk.bytes ++ c.bytes := by
  induction cs generalizing before with
  | nil => cases h
  | cons c cs ih =>
    rcases List.mem_append.1 h with h | h
    · refine ⟨[], c, cs, rfl, ?_⟩
      rw [Chunk.find?] at h
      cases hc : c.event with
      | line line =>
        obtain rfl : f = ⟨line, before ++ c.bytes⟩ := by simpa [hc] using h
        exact ⟨rfl, by simp⟩
      | oversized => simp [hc] at h
    · obtain ⟨front, c', back, rfl, he, hu⟩ := ih h
      exact ⟨c :: front, c', back, rfl, he, by simp [hu]⟩

/-! ### What was received -/

theorem Find.IsReceived.mono {stream more : Bytes} (h : f.IsReceived stream) :
    f.IsReceived (stream ++ more) :=
  ⟨h.1.trans (List.prefix_append ..), h.2⟩

/-- Nothing is found to have been received of a stream behind its last line feed. -/
theorem not_isReceived (hfits : ∀ c ∈ cs, ∃ closed, c.Fits limit closed)
    (hrest : lineFeed ∉ rest) (h : f ∈ finds before cs) : ¬f.IsReceived (before ++ rest) := by
  rintro ⟨hpre, hlast⟩
  obtain ⟨front, c, back, rfl, -, hu⟩ := exists_of_mem_finds h
  obtain ⟨closed, hc⟩ := hfits c (List.mem_append_right front List.mem_cons_self)
  rw [hu, List.append_assoc] at hpre hlast
  have hmore := (List.prefix_append_right_inj before).1 hpre
  have hne : front.flatMap Chunk.bytes ++ c.bytes ≠ [] := by simp [hc.bytes_ne_nil]
  rw [List.getLast?_append_of_ne_nil _ hne] at hlast
  exact hrest (hmore.subset (List.mem_of_getLast? hlast))

theorem cut_line (h : lineFeed ∉ raw) (rest : Bytes) :
    cut limit closed (raw ++ lineFeed :: rest) =
      .event (if limit < raw.length then .oversized else .line (trimEnd raw)) rest := by
  have hp : ∀ b ∈ raw, (b != lineFeed) = true := fun b hb => bne_iff_ne.2 fun he => h (he ▸ hb)
  have hd : (raw ++ lineFeed :: rest).dropWhile (· != lineFeed) = lineFeed :: rest := by
    rw [List.dropWhile_append_of_pos hp, List.dropWhile_cons_of_neg (by simp)]
  have ht : (raw ++ lineFeed :: rest).takeWhile (· != lineFeed) = raw := by
    rw [List.takeWhile_append_of_pos hp, List.takeWhile_cons_of_neg (by simp), List.append_nil]
  rw [cut, hd]
  dsimp only
  rw [ht]
  split_ifs <;> rfl

theorem chunks_line (h : lineFeed ∉ raw) (rest : Bytes) :
    chunks limit closed (raw ++ lineFeed :: rest) =
      ⟨if limit < raw.length then .oversized else .line (trimEnd raw), raw ++ [lineFeed]⟩ ::
        chunks limit closed rest :=
  chunks_of_event (cut_line h rest) (List.append_cons raw lineFeed rest)

theorem complete_eq (limit : Nat) (buffer : Bytes) :
    complete limit buffer = linesOf ((chunks limit false buffer).map Chunk.event) := by
  rw [complete, (read_cuts limit false buffer).events]

theorem complete_of_not_mem (h : lineFeed ∉ buffer) : complete limit buffer = [] := by
  have hcuts := read_cuts limit false buffer
  rw [complete_eq, ← map_line_finds [], List.map_eq_nil_iff, List.eq_nil_iff_forall_not_mem]
  intro f hf
  obtain ⟨front, c, back, hcs, he, -⟩ := exists_of_mem_finds hf
  have hc : c ∈ chunks limit false buffer := hcs ▸ List.mem_append_right front List.mem_cons_self
  obtain ⟨event, bytes⟩ := c
  cases hcuts.fits _ hc with
  | line raw =>
    refine h (hcuts.bytes ▸ List.mem_append_left _ (List.mem_flatMap.2 ⟨_, hc, ?_⟩))
    exact List.mem_append_right raw (List.mem_singleton_self _)
  | last raw _ _ _ isClosed => cases isClosed
  | long | torn => cases he

theorem complete_line (h : lineFeed ∉ raw) (rest : Bytes) :
    complete limit (raw ++ lineFeed :: rest) =
      (if limit < raw.length then [] else [trimEnd raw]) ++ complete limit rest := by
  rw [complete_eq, complete_eq, chunks_line h]
  by_cases hl : limit < raw.length <;> simp [linesOf, hl]

/-- The beginning of a line completes none. -/
theorem complete_append (h : lineFeed ∉ raw) (buffer : Bytes) :
    complete limit (buffer ++ raw) = complete limit buffer := by
  induction buffer using Text.cut_induction lineFeed with
  | whole buffer hb =>
    have hn : lineFeed ∉ buffer ++ raw := fun hm => (List.mem_append.1 hm).elim hb h
    rw [complete_of_not_mem hn, complete_of_not_mem hb]
  | cut front rest hf ih =>
    rw [List.append_assoc, List.cons_append, complete_line hf, complete_line hf, ih]

/-- A line that is not too long is found where it ends. -/
theorem received_find? (limit : Nat) (before raw rest : Bytes) :
    (((Chunk.mk (if limit < raw.length then .oversized else .line (trimEnd raw))
      (raw ++ [lineFeed])).find? before).toList.filter
        (Find.IsReceived (before ++ (raw ++ lineFeed :: rest)))).map Find.line =
      if limit < raw.length then [] else [trimEnd raw] := by
  by_cases hl : limit < raw.length
  · simp [Chunk.find?, hl]
  · have hr : Find.IsReceived (before ++ (raw ++ lineFeed :: rest))
        ⟨trimEnd raw, before ++ (raw ++ [lineFeed])⟩ := by
      refine ⟨⟨rest, by simp⟩, ?_⟩
      rw [← List.append_assoc, List.getLast?_concat]
    simp [Chunk.find?, hl, hr]

/-- Of the lines that a reader finds those had been received before that it would have found in what
it had then. -/
theorem received_finds (before buffer data : Bytes) :
    ((finds before (chunks limit closed (buffer ++ data))).filter
      (Find.IsReceived (before ++ buffer))).map Find.line = complete limit buffer := by
  induction buffer using Text.cut_induction lineFeed generalizing before with
  | whole raw h =>
    have hcuts := read_cuts limit closed (raw ++ data)
    rw [complete_of_not_mem h, List.map_eq_nil_iff, List.filter_eq_nil_iff]
    exact fun f hf hr =>
      not_isReceived (fun c hc => ⟨closed, hcuts.fits c hc⟩) h hf (of_decide_eq_true hr)
  | cut raw rest h ih =>
    have ih := ih (before ++ (raw ++ [lineFeed]))
    rw [List.append_assoc before, List.append_assoc raw, List.singleton_append] at ih
    rw [List.append_assoc, List.cons_append, chunks_line h, finds, List.filter_append,
      List.map_append, ih, received_find?, complete_line h]

/-! ### What is received bit by bit -/

/-- Whether chunks are taken, one after the other, of what begins with `front`: its lines and, once
it has no more of them, anything. -/
inductive Follows (limit : Nat) : Bytes → List Chunk → Prop
  | stops (front : Bytes) : Follows limit front []
  | unfinished {front : Bytes} {cs : List Chunk} (noFeed : lineFeed ∉ front)
      (fits : ∀ c ∈ cs, ∃ closed, c.Fits limit closed) : Follows limit front cs
  | line {raw front : Bytes} {cs : List Chunk} (noFeed : lineFeed ∉ raw)
      (follows : Follows limit front cs) : Follows limit (raw ++ lineFeed :: front)
        (⟨if limit < raw.length then .oversized else .line (trimEnd raw), raw ++ [lineFeed]⟩ :: cs)

/-- Of the lines that are found bit by bit those had been received that a reader would have found
first in what it had. -/
theorem Follows.received {front : Bytes} (h : Follows limit front cs) (before : Bytes) :
    ((finds before cs).filter (Find.IsReceived (before ++ front))).map Find.line <+:
      complete limit front := by
  induction h generalizing before with
  | stops front => exact List.nil_prefix
  | @unfinished front cs noFeed fits =>
    have hnone : (finds before cs).filter (Find.IsReceived (before ++ front)) = [] := by
      rw [List.filter_eq_nil_iff]
      exact fun f hf hr => not_isReceived fits noFeed hf (of_decide_eq_true hr)
    rw [hnone]
    exact List.nil_prefix
  | @line raw front cs noFeed follows ih =>
    have ih := ih (before ++ (raw ++ [lineFeed]))
    rw [List.append_assoc before, List.append_assoc raw, List.singleton_append] at ih
    rw [finds, List.filter_append, List.map_append, received_find?, complete_line noFeed]
    exact (List.prefix_append_right_inj _).2 ih

/-- Chunks that are taken off what begins with `front`, and others off what they leave of it. -/
theorem Follows.append {front data : Bytes} {cs' : List Chunk}
    (hcs : cs <+: chunks limit closed (front ++ data))
    (hfits : ∀ c ∈ cs', ∃ closed, c.Fits limit closed)
    (h : ∀ front', front = cs.flatMap Chunk.bytes ++ front' → Follows limit front' cs') :
    Follows limit front (cs ++ cs') := by
  induction front using Text.cut_induction lineFeed generalizing cs with
  | whole raw hraw =>
    refine .unfinished hraw fun c hc => (List.mem_append.1 hc).elim (fun hc => ⟨closed, ?_⟩) (hfits c)
    exact (read_cuts limit closed (raw ++ data)).fits c (hcs.subset hc)
  | cut raw rest hraw ih =>
    cases cs with
    | nil => exact h _ rfl
    | cons c cs =>
      rw [List.append_assoc, List.cons_append, chunks_line hraw, List.cons_prefix_cons] at hcs
      obtain ⟨rfl, hcs⟩ := hcs
      refine .line hraw (ih hcs fun front' hf => h front' ?_)
      rw [hf, List.flatMap_cons]
      simp

/-- All lines that are found in a buffer were received with it. -/
theorem isReceived_of_mem_finds (h : lineFeed ∉ raw)
    (hf : f ∈ finds before (chunks limit false (buffer ++ raw))) :
    f.IsReceived (before ++ buffer) := by
  have hall : ((finds before (chunks limit false (buffer ++ raw))).filter _).map Find.line =
      complete limit buffer := received_finds before buffer raw
  have hlength := congrArg List.length hall
  rw [List.length_map, ← complete_append h, complete_eq, ← map_line_finds before,
    List.length_map, List.length_filter_eq_length_iff] at hlength
  exact of_decide_eq_true (hlength f hf)

end GuestLink.Framing
