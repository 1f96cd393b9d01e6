import GuestLink.Proofs.Console.Framing
import GuestLink.Proofs.Text.Split

/-!
# How a reader cuts a stream

A reader takes a buffer apart into chunks (`chunks`), each the bytes of one event, and leaves the
beginning of a line.  Every chunk is a line, the rest of a closed stream, a line that is too long,
or a piece torn off one (`Chunk.Fits`).  A stream of which no line is too long is cut into its
lines, `linesIn`, wherever it was broken on its way (`linesOf_append_linesIn`).
-/

namespace GuestLink.Framing

/-- What is found in a stream, and the bytes that it takes. -/
structure Chunk where
  event : Event
  bytes : Bytes
  deriving DecidableEq, Repr

namespace Chunk

/-- Whether a chunk is the beginning of a line that was too long to wait for its end. -/
def IsTorn (c : Chunk) : Prop := c.event = .oversized ∧ lineFeed ∉ c.bytes

instance : DecidablePred IsTorn := fun _ => inferInstanceAs (Decidable (_ ∧ _))

/-- What the chunks are of a stream whose lines may have `limit` bytes. -/
inductive Fits (limit : Nat) (closed : Bool) : Chunk → Prop
  | line (raw : Bytes) (noFeed : lineFeed ∉ raw) (short : raw.length ≤ limit) :
      Fits limit closed ⟨.line (trimEnd raw), raw ++ [lineFeed]⟩
  /-- The end of a stream behind its last line feed. -/
  | last (raw : Bytes) (noFeed : lineFeed ∉ raw) (short : raw.length ≤ limit) (some : raw ≠ [])
      (isClosed : closed = true) : Fits limit closed ⟨.line (trimEnd raw), raw⟩
  | long (raw : Bytes) (noFeed : lineFeed ∉ raw) (long : limit < raw.length) :
      Fits limit closed ⟨.oversized, raw ++ [lineFeed]⟩
  | torn (raw : Bytes) (noFeed : lineFeed ∉ raw) (long : limit < raw.length) :
      Fits limit closed ⟨.oversized, raw⟩

end Chunk

/-- The chunks of a buffer. -/
def chunks (limit : Nat) (closed : Bool) (buffer : Bytes) : List Chunk :=
  match h : cut limit closed buffer with
  | .event e rest =>
    have := length_rest_lt h
    ⟨e, buffer.take (buffer.length - rest.length)⟩ :: chunks limit closed rest
  | .wait | .finish => []
termination_by buffer.length

variable {limit : Nat} {closed : Bool} {buffer rest bytes : Bytes} {e : Event} {c : Chunk}
  {front back cs : List Chunk}

theorem Chunk.Fits.bytes_ne_nil (h : c.Fits limit closed) : c.bytes ≠ [] := by
  cases h with
  | line raw => simp
  | last raw _ _ some => exact some
  | long raw => simp
  | torn raw _ long =>
    rintro rfl
    exact absurd long (Nat.not_lt_zero _)

/-! ### The head of a buffer -/

theorem not_mem_takeWhile (buffer : Bytes) : lineFeed ∉ buffer.takeWhile (· != lineFeed) :=
  fun h => by simpa using List.mem_takeWhile_imp h

theorem not_mem_of_dropWhile_eq_nil (h : buffer.dropWhile (· != lineFeed) = []) :
    lineFeed ∉ buffer :=
  fun hm => by simpa using List.dropWhile_eq_nil_iff.1 h lineFeed hm

/-- An event takes a chunk off the head of the buffer, all of it if the chunk has no line feed. -/
theorem exists_chunk_of_cut (h : cut limit closed buffer = .event e rest) :
    ∃ bytes, buffer = bytes ++ rest ∧ Chunk.Fits limit closed ⟨e, bytes⟩ ∧
      (lineFeed ∉ bytes → rest = []) := by
  unfold cut at h
  split at h
  · rename_i x tail hd
    have hx : x = lineFeed := by
      have hn := List.head?_dropWhile_not (fun b : UInt8 => b != lineFeed) buffer
      rw [hd] at hn
      simpa using hn
    have hb : buffer = (buffer.takeWhile (· != lineFeed) ++ [lineFeed]) ++ tail := by
      have htake := List.takeWhile_append_dropWhile (p := (· != lineFeed)) (l := buffer)
      rw [hd, hx] at htake
      rw [List.append_assoc]
      exact htake.symm
    have hfeed {raw : Bytes} : lineFeed ∉ raw ++ [lineFeed] → tail = [] := fun hn =>
      absurd (List.mem_append_right raw (List.mem_singleton_self _)) hn
    dsimp only at h
    split_ifs at h with hlong
    · cases h
      exact ⟨_, hb, .long _ (not_mem_takeWhile buffer) hlong, hfeed⟩
    · cases h
      exact ⟨_, hb, .line _ (not_mem_takeWhile buffer) (not_lt.1 hlong), hfeed⟩
  · rename_i hd
    have hn := not_mem_of_dropWhile_eq_nil hd
    split_ifs at h with hlong hclosed hempty
    · cases h
      exact ⟨buffer, (List.append_nil _).symm, .torn buffer hn hlong, fun _ => rfl⟩
    · cases h
      have hlast : Chunk.Fits limit closed ⟨.line (trimEnd buffer), buffer⟩ :=
        .last buffer hn (not_lt.1 hlong) (by simpa using hempty) (by simpa using hclosed)
      exact ⟨buffer, (List.append_nil _).symm, hlast, fun _ => rfl⟩

theorem cut_wait (h : cut limit closed buffer = .wait) :
    closed = false ∧ lineFeed ∉ buffer ∧ buffer.length ≤ limit := by
  unfold cut at h
  split at h
  · dsimp only at h
    split_ifs at h
  · rename_i hd
    split_ifs at h with hlong hclosed
    exact ⟨by simpa using hclosed, not_mem_of_dropWhile_eq_nil hd, not_lt.1 hlong⟩

theorem cut_finish (h : cut limit closed buffer = .finish) : closed = true ∧ buffer = [] := by
  unfold cut at h
  split at h
  · dsimp only at h
    split_ifs at h
  · split_ifs at h with hlong hclosed hempty
    exact ⟨by simpa using hclosed, by simpa using hempty⟩

/-! ### A buffer -/

theorem chunks_of_event (h : cut limit closed buffer = .event e rest)
    (hb : buffer = bytes ++ rest) :
    chunks limit closed buffer = ⟨e, bytes⟩ :: chunks limit closed rest := by
  have ht : buffer.take (buffer.length - rest.length) = bytes := by
    rw [hb, List.length_append, Nat.add_sub_cancel, List.take_left]
  rw [chunks]
  split
  · rename_i h'
    cases h.symm.trans h'
    rw [ht]
  all_goals cases h.symm.trans ‹cut limit closed buffer = _›

theorem chunks_of_wait (h : cut limit closed buffer = .wait) : chunks limit closed buffer = [] := by
  rw [chunks]
  split
  · cases h.symm.trans ‹cut limit closed buffer = _›
  all_goals rfl

theorem chunks_of_finish (h : cut limit closed buffer = .finish) :
    chunks limit closed buffer = [] := by
  rw [chunks]
  split
  · cases h.symm.trans ‹cut limit closed buffer = _›
  all_goals rfl

theorem chunks_nil : chunks limit closed [] = [] := by
  cases h : cut limit closed [] with
  | event e rest => exact absurd (length_rest_lt h) (Nat.not_lt_zero _)
  | wait => exact chunks_of_wait h
  | finish => exact chunks_of_finish h

theorem readFrom_of_event (h : cut limit closed buffer = .event e rest) (found : List Event) :
    readFrom limit closed found buffer = readFrom limit closed (e :: found) rest := by
  rw [readFrom]
  split
  · cases h.symm.trans ‹cut limit closed buffer = _›
    rfl
  all_goals cases h.symm.trans ‹cut limit closed buffer = _›

theorem readFrom_of_wait (h : cut limit closed buffer = .wait) (found : List Event) :
    readFrom limit closed found buffer = ⟨found.reverse, buffer, false⟩ := by
  rw [readFrom]
  split
  · cases h.symm.trans ‹cut limit closed buffer = _›
  · rfl
  · cases h.symm.trans ‹cut limit closed buffer = _›

theorem readFrom_of_finish (h : cut limit closed buffer = .finish) (found : List Event) :
    readFrom limit closed found buffer = ⟨found.reverse, [], true⟩ := by
  rw [readFrom]
  split
  · cases h.symm.trans ‹cut limit closed buffer = _›
  · cases h.symm.trans ‹cut limit closed buffer = _›
  · rfl

/-- What the reader takes from a buffer and what it leaves. -/
structure Cuts (limit : Nat) (closed : Bool) (buffer : Bytes) (r : Reading) (cs : List Chunk) :
    Prop where
  events : r.events = cs.map Chunk.event
  bytes : buffer = cs.flatMap Chunk.bytes ++ r.rest
  fits : ∀ c ∈ cs, c.Fits limit closed
  /-- Only the last chunk may have no line feed. -/
  final : ∀ front c back, cs = front ++ c :: back → lineFeed ∉ c.bytes → back = [] ∧ r.rest = []
  /-- What is left is the beginning of a line. -/
  rest : lineFeed ∉ r.rest ∧ r.rest.length ≤ limit
  finished : r.finished = closed
  emptied : closed = true → r.rest = []

theorem readFrom_cuts (found : List Event) (buffer : Bytes) : ∃ r,
    readFrom limit closed found buffer = { r with events := found.reverse ++ r.events } ∧
      Cuts limit closed buffer r (chunks limit closed buffer) := by
  induction found, buffer using readFrom.induct limit closed with
  | case1 found buffer e rest hcut _ ih =>
    obtain ⟨r, hr, h⟩ := ih
    obtain ⟨bytes, hb, hfits, hfeed⟩ := exists_chunk_of_cut hcut
    refine ⟨{ r with events := e :: r.events }, ?_, ?_⟩
    · rw [readFrom_of_event hcut, hr, List.reverse_cons, List.append_assoc]
      rfl
    · rw [chunks_of_event hcut hb]
      refine ⟨?_, ?_, ?_, ?_, h.rest, h.finished, h.emptied⟩
      · rw [List.map_cons, ← h.events]
      · rw [List.flatMap_cons, List.append_assoc, ← h.bytes]
        exact hb
      · rintro c (_ | ⟨_, hc⟩)
        exacts [hfits, h.fits c hc]
      · rintro (_ | ⟨d, front⟩) c back hcs hc
        · obtain ⟨rfl, rfl⟩ := List.cons.inj hcs
          obtain rfl := hfeed hc
          exact ⟨chunks_nil, (List.append_eq_nil_iff.1 h.bytes.symm).2⟩
        · exact h.final front c back (List.cons.inj hcs).2 hc
  | case2 found buffer hcut =>
    obtain ⟨hclosed, hfeed, hlength⟩ := cut_wait hcut
    refine ⟨⟨[], buffer, false⟩, ?_, ?_⟩
    · rw [readFrom_of_wait hcut, List.append_nil]
    · rw [chunks_of_wait hcut]
      exact ⟨rfl, rfl, by simp, by simp, ⟨hfeed, hlength⟩, hclosed.symm, by simp [hclosed]⟩
  | case3 found buffer hcut =>
    obtain ⟨hclosed, rfl⟩ := cut_finish hcut
    refine ⟨⟨[], [], true⟩, ?_, ?_⟩
    · rw [readFrom_of_finish hcut, List.append_nil]
    · rw [chunks_of_finish hcut]
      exact ⟨rfl, rfl, by simp, by simp, ⟨List.not_mem_nil, Nat.zero_le _⟩, hclosed.symm,
        fun _ => rfl⟩

/-- Reading a buffer finds the events of its chunks. -/
theorem read_cuts (limit : Nat) (closed : Bool) (buffer : Bytes) :
    Cuts limit closed buffer (read limit closed buffer) (chunks limit closed buffer) := by
  obtain ⟨r, hr, h⟩ := readFrom_cuts [] buffer
  rw [read, hr]
  exact h

/-! ### The lines of a stream -/

/-- The lines of a stream: what stands before each line feed, and what stands behind the last one
unless that is nothing. -/
def linesIn (stream : Bytes) : List Bytes :=
  let parts := Text.splitAt lineFeed stream
  (if parts.getLast? = some [] then parts.dropLast else parts).map trimEnd

theorem linesIn_nil : linesIn [] = [] := by
  rw [linesIn, Text.splitAt_of_not_mem List.not_mem_nil]
  rfl

theorem linesIn_of_not_mem {raw : Bytes} (h : lineFeed ∉ raw) (hne : raw ≠ []) :
    linesIn raw = [trimEnd raw] := by
  rw [linesIn, Text.splitAt_of_not_mem h]
  exact congrArg _ (if_neg fun he => hne (Option.some.inj he))

theorem linesIn_line {raw : Bytes} (h : lineFeed ∉ raw) (rest : Bytes) :
    linesIn (raw ++ [lineFeed] ++ rest) = trimEnd raw :: linesIn rest := by
  obtain ⟨part, parts, hp⟩ := Text.exists_splitAt_eq_cons lineFeed rest
  rw [linesIn, linesIn, List.append_assoc, List.singleton_append, Text.splitAt_append_cons h, hp,
    List.getLast?_cons_cons, List.dropLast_cons_cons]
  split_ifs <;> rfl

/-- Whether no line of a stream has more than `limit` bytes. -/
def KeepsTo (limit : Nat) (stream : Bytes) : Prop :=
  ∀ part ∈ Text.splitAt lineFeed stream, part.length ≤ limit

instance (limit : Nat) (stream : Bytes) : Decidable (KeepsTo limit stream) :=
  inferInstanceAs (Decidable (∀ part ∈ _, _))

theorem KeepsTo.of_line {raw : Bytes} (h : lineFeed ∉ raw)
    (hk : KeepsTo limit (raw ++ [lineFeed] ++ rest)) : raw.length ≤ limit ∧ KeepsTo limit rest := by
  rw [KeepsTo, List.append_assoc, List.singleton_append, Text.splitAt_append_cons h] at hk
  exact ⟨hk raw List.mem_cons_self, fun part hp => hk part (List.mem_cons_of_mem _ hp)⟩

theorem KeepsTo.of_append {raw : Bytes} (h : lineFeed ∉ raw) (hk : KeepsTo limit (raw ++ rest)) :
    raw.length ≤ limit := by
  obtain ⟨part, parts, -, hp⟩ := Text.splitAt_append h rest
  have hl := hk (raw ++ part) (hp ▸ List.mem_cons_self)
  rw [List.length_append] at hl
  exact Nat.le_of_add_right_le hl

/-- A stream without a line that is too long is cut into its lines. -/
theorem linesOf_append_linesIn (hfits : ∀ c ∈ cs, ∃ closed, c.Fits limit closed)
    (hfinal : ∀ front c back, cs = front ++ c :: back → lineFeed ∉ c.bytes → ¬c.IsTorn →
      back = [] ∧ rest = [])
    (hk : KeepsTo limit (cs.flatMap Chunk.bytes ++ rest)) :
    linesOf (cs.map Chunk.event) ++ linesIn rest = linesIn (cs.flatMap Chunk.bytes ++ rest) := by
  induction cs with
  | nil => rfl
  | cons c cs ih =>
    have ih := ih (fun c hc => hfits c (List.mem_cons_of_mem _ hc)) fun front d back hcs =>
      hfinal (c :: front) d back (congrArg _ hcs)
    rw [List.flatMap_cons, List.append_assoc] at hk ⊢
    obtain ⟨closed, hc⟩ := hfits c List.mem_cons_self
    cases hc with
    | line raw noFeed short =>
      rw [linesIn_line noFeed, ← ih (hk.of_line noFeed).2]
      rfl
    | last raw noFeed short some =>
      -- Nothing follows the end of the stream, which is a line without a line feed.
      obtain ⟨rfl, rfl⟩ := hfinal [] _ cs rfl noFeed nofun
      rw [List.flatMap_nil, List.nil_append, List.append_nil, linesIn_of_not_mem noFeed some,
        linesIn_nil]
      rfl
    | long raw noFeed long => exact absurd (hk.of_line noFeed).1 (not_le.2 long)
    | torn raw noFeed long => exact absurd (hk.of_append noFeed) (not_le.2 long)

end GuestLink.Framing
