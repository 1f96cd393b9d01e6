import GuestLink.Proofs.Console.Intake
import GuestLink.Proofs.Session.Ownership
import GuestLink.Proofs.Session.Upstream

/-!
# What a session receives
-/

namespace GuestLink

namespace Session

open Framing Serial

/-- What arrives with a move; behind the end of the stream nothing does. -/
def arrives (s : Session) : Move → Bytes
  | .receive data => if s.console.inputClosed then [] else data
  | _ => []

/-- What arrives in a run. -/
def received (s : Session) : List Move → Bytes
  | [] => []
  | m :: moves => s.arrives m ++ (s.step m).received moves

/-- The chunks that the reader takes with a move. -/
def chunk (s : Session) : Move → List Chunk
  | .read => if s.console.reader = .ready then s.console.chunks else []
  | _ => []

/-- The chunks that the reader takes in a run. -/
def chunks (s : Session) : List Move → List Chunk
  | [] => []
  | m :: moves => s.chunk m ++ (s.step m).chunks moves

/-- What lies in the buffer or arrives in a run. -/
def stream (s : Session) (moves : List Move) : Bytes := s.console.buffer ++ s.received moves

variable {s : Session} {m : Move} {moves : List Move} {c : Chunk} {front back : List Chunk}

/-- Whether a reader that has finished has told so and, unless the stream broke, come to its end. -/
def Exhausts (c : Console) : Prop :=
  c.reader = .finished →
    c.ended = true ∧ (c.inputFault = none → c.inputClosed = true ∧ c.buffer = [])

/-- What becomes of the incoming half of a console as `data` arrives and `cs` are read. -/
structure Inflow (c c' : Console) (data : Bytes) (cs : List Chunk) : Prop where
  limit : c'.limit = c.limit
  bytes : c.buffer ++ data = cs.flatMap Chunk.bytes ++ c'.buffer
  fits : ∀ d ∈ cs, d.Fits c.limit c.inputClosed
  final : ∀ front d back, cs = front ++ d :: back → lineFeed ∉ d.bytes → back = [] ∧ c'.buffer = []
  closed : c.inputClosed = true → c'.inputClosed = true
  exhausts : Exhausts c → Exhausts c'

namespace Inflow

variable {c c' : Console}

theorem of_nil {data : Bytes} (hlimit : c'.limit = c.limit) (hbytes : c.buffer ++ data = c'.buffer)
    (hclosed : c.inputClosed = true → c'.inputClosed = true)
    (hexhausts : Exhausts c → Exhausts c') : Inflow c c' data [] :=
  ⟨hlimit, hbytes, by simp, by simp, hclosed, hexhausts⟩

theorem of_upstream (h : c.Upstream c') : Inflow c c' [] [] := by
  refine .of_nil h.limit ((List.append_nil _).trans h.buffer.symm) h.inputClosed.trans ?_
  intro he hr
  rcases h.reader with ⟨hr', -⟩ | hr'
  · rw [h.inputClosed, h.buffer, h.inputFault]
    exact (he (hr'.symm.trans hr)).imp_left h.ended
  · cases hr'.symm.trans hr

end Inflow

theorem wakeReader_cases (c : Console) (arrived : Bool) : c.wakeReader arrived = c ∨
    c.wakeReader arrived = { c with reader := .ready, woken := arrived } := by
  unfold Console.wakeReader
  split_ifs
  · exact .inr rfl
  · exact .inl rfl

theorem receive_inflow (c : Console) (data : Bytes) :
    Inflow c (c.receive data) (if c.inputClosed then [] else data) [] := by
  unfold Console.receive
  split_ifs with hclosed
  · exact .of_nil rfl (List.append_nil _) id id
  · rcases wakeReader_cases { c with buffer := c.buffer ++ data } true with h | h <;> rw [h]
    · exact .of_nil rfl rfl id fun he hr =>
        ⟨(he hr).1, fun hf => absurd ((he hr).2 hf).1 hclosed⟩
    · exact .of_nil rfl rfl id nofun

theorem closeInput_inflow (c : Console) : Inflow c c.closeInput [] [] := by
  unfold Console.closeInput
  rcases wakeReader_cases { c with inputClosed := true } true with h | h <;> rw [h]
  · exact .of_nil rfl (List.append_nil _) (fun _ => rfl) fun he hr =>
      ⟨(he hr).1, fun hf => ⟨rfl, ((he hr).2 hf).2⟩⟩
  · exact .of_nil rfl (List.append_nil _) (fun _ => rfl) nofun

theorem breakInput_inflow (c : Console) (i : Incident) : Inflow c (c.breakInput i) [] [] := by
  unfold Console.breakInput
  rcases wakeReader_cases { c with inputFault := some i } false with h | h <;> rw [h]
  · exact .of_nil rfl (List.append_nil _) id fun he hr => ⟨(he hr).1, nofun⟩
  · exact .of_nil rfl (List.append_nil _) id nofun

theorem startReader_inflow (c : Console) : Inflow c c.startReader [] [] := by
  unfold Console.startReader
  split_ifs
  · exact .of_nil rfl (List.append_nil _) id nofun
  · exact .of_nil rfl (List.append_nil _) id id

/-- What the reader does when it has its turn. -/
inductive Reads (s : Session) : Prop
  | rests (step : s.step .read = s) (lines : linesOf (s.happening .read) = [])
      (chunk : s.chunk .read = [])
  | takes (ready : s.console.reader = .ready)
      (console : (s.step .read).console = { s.console with
        buffer := s.console.intake.rest
        lines := Console.enqueue s.console.lines (Framing.linesOf s.console.intake.events)
        reader := s.console.intake.stop.reader
        ended := s.console.ended || s.console.intake.stop.isEnd
        entered := true
        woken := false })
      (lines : linesOf (s.happening .read) = Framing.linesOf s.console.intake.events)
      (takes : s.console.Takes s.console.intake (s.chunk .read))

theorem reads (s : Session) : s.Reads := by
  by_cases hr : s.console.reader = .ready
  · refine .takes hr (step_read_console hr) ?_ ?_
    · rw [happening, if_pos hr, linesOf_append, linesOf_map_line]
      split_ifs <;> exact List.append_nil _
    · rw [chunk, if_pos hr]
      exact Console.intake_takes s.console
  · exact .rests (read_of_not_ready hr).2 (by rw [(read_of_not_ready hr).1]; rfl) (if_neg hr)

theorem read_inflow (s : Session) :
    Inflow s.console (s.step .read).console [] (s.chunk .read) := by
  cases s.reads with
  | rests step lines chunk =>
    rw [step, chunk]
    exact .of_nil rfl (List.append_nil _) id id
  | takes ready console lines takes =>
    rw [console]
    refine ⟨rfl, (List.append_nil _).trans takes.bytes, takes.fits, takes.final, id, fun _ hn => ?_⟩
    cases hs : s.console.intake.stop with
    | waits =>
      rw [hs] at hn
      cases hn
    | finishes => exact ⟨Bool.or_true _, fun _ => takes.finishes hs⟩
    | breaks i => exact ⟨Bool.or_true _, fun hf => by cases hf.symm.trans (takes.breaks i hs)⟩

theorem step_inflow (s : Session) (m : Move) :
    Inflow s.console (s.step m).console (s.arrives m) (s.chunk m) := by
  cases m with
  | receive data => exact receive_inflow s.console data
  | closeInput => exact closeInput_inflow s.console
  | breakInput i => exact breakInput_inflow s.console i
  | startReader => exact startReader_inflow s.console
  | read => exact read_inflow s
  | _ => exact .of_upstream (step_upstream nofun nofun nofun nofun nofun)

/-! ### Runs -/

/-- What has lain in the buffer or arrived has been read or lies in the buffer. -/
theorem stream_eq (s : Session) (moves : List Move) :
    s.stream moves = (s.chunks moves).flatMap Chunk.bytes ++ (s.run moves).console.buffer := by
  induction moves generalizing s with
  | nil => exact List.append_nil _
  | cons m moves ih =>
    rw [stream, received, ← List.append_assoc, (step_inflow s m).bytes, List.append_assoc, chunks,
      List.flatMap_append, List.append_assoc]
    exact congrArg _ (ih (s.step m))

theorem chunks_fit (hc : c ∈ s.chunks moves) : ∃ closed, c.Fits s.console.limit closed := by
  induction moves generalizing s with
  | nil => cases hc
  | cons m moves ih =>
    rcases List.mem_append.1 hc with hc | hc
    · exact ⟨_, (step_inflow s m).fits c hc⟩
    · rw [← (step_inflow s m).limit]
      exact ih hc

theorem inputClosed_run (h : s.console.inputClosed = true) (moves : List Move) :
    (s.run moves).console.inputClosed = true := by
  induction moves generalizing s with
  | nil => exact h
  | cons m moves ih => exact ih ((step_inflow s m).closed h)

theorem received_of_closed (h : s.console.inputClosed = true) (moves : List Move) :
    s.received moves = [] := by
  induction moves generalizing s with
  | nil => rfl
  | cons m moves ih =>
    have ha : s.arrives m = [] := by
      cases m with
      | receive data => exact if_pos h
      | _ => rfl
    rw [received, ha, ih ((step_inflow s m).closed h)]
    rfl

/-- Behind the end of the stream there is nothing to read. -/
theorem chunks_of_over (hc : s.console.inputClosed = true) (hb : s.console.buffer = [])
    (moves : List Move) : s.chunks moves = [] ∧ (s.run moves).console.buffer = [] := by
  have h := stream_eq s moves
  rw [stream, hb, received_of_closed hc] at h
  obtain ⟨hchunks, hbuffer⟩ := List.append_eq_nil_iff.1 h.symm
  refine ⟨List.eq_nil_iff_forall_not_mem.2 fun c hm => ?_, hbuffer⟩
  obtain ⟨closed, hfits⟩ := chunks_fit hm
  exact hfits.bytes_ne_nil (List.flatMap_eq_nil_iff.1 hchunks c hm)

theorem closed_of_last {closed : Bool} {limit : Nat} (h : c.Fits limit closed)
    (hc : lineFeed ∉ c.bytes) (ht : ¬c.IsTorn) : closed = true := by
  cases h with
  | line raw | long raw => simp at hc
  | last raw _ _ _ closed => exact closed
  | torn raw noFeed => exact absurd ⟨rfl, noFeed⟩ ht

/-- The rest of a stream behind its last line feed is the last that is read. -/
theorem chunks_final (hcs : s.chunks moves = front ++ c :: back) (hc : lineFeed ∉ c.bytes)
    (ht : ¬c.IsTorn) :
    back = [] ∧ (s.run moves).console.buffer = [] ∧ (s.run moves).console.inputClosed = true := by
  induction moves generalizing s front with
  | nil => simp [chunks] at hcs
  | cons m moves ih =>
    have hi := step_inflow s m
    -- The chunk is found by a later move, or by this one and the stream is over.
    rcases List.append_eq_append_iff.1 hcs with ⟨front', -, hb⟩ | ⟨_ | ⟨d, back'⟩, hf, hb⟩
    · exact ih hb
    · have hb' : (s.step m).chunks moves = [] ++ c :: back := hb.symm
      exact ih hb'
    · obtain ⟨rfl, rfl⟩ := List.cons.inj hb
      have hm : c ∈ s.chunk m := hf ▸ List.mem_append_right front List.mem_cons_self
      have hclosed := hi.closed (closed_of_last (hi.fits c hm) hc ht)
      obtain ⟨rfl, hbuffer⟩ := hi.final _ _ _ hf hc
      obtain ⟨hnil, hrest⟩ := chunks_of_over hclosed hbuffer moves
      exact ⟨hnil, hrest, inputClosed_run hclosed moves⟩

theorem linesOf_happening_eq (s : Session) (m : Move) :
    linesOf (s.happening m) = Framing.linesOf ((s.chunk m).map Chunk.event) := by
  by_cases hm : m = .read
  · subst hm
    cases s.reads with
    | rests step lines chunk =>
      rw [lines, chunk]
      rfl
    | takes ready console lines takes => rw [lines, takes.events]
  · rw [linesOf_happening hm]
    cases m with
    | read => exact absurd rfl hm
    | _ => rfl

/-- The lines that are found are those among the chunks. -/
theorem linesOf_happenings (s : Session) (moves : List Move) :
    linesOf (s.happenings moves) = Framing.linesOf ((s.chunks moves).map Chunk.event) := by
  induction moves generalizing s with
  | nil => rfl
  | cons m moves ih =>
    rw [happenings, linesOf_append, ih, linesOf_happening_eq, chunks, List.map_append,
      Framing.linesOf, Framing.linesOf, Framing.linesOf, List.filterMap_append]

/-- However a stream was cut on its way, its lines are found in order, if none is too long. -/
theorem found_append_linesIn (hk : KeepsTo s.console.limit (s.stream moves)) :
    linesOf (s.happenings moves) ++ linesIn (s.run moves).console.buffer =
      linesIn (s.stream moves) := by
  rw [stream_eq] at hk ⊢
  rw [linesOf_happenings]
  exact linesOf_append_linesIn (fun _ => chunks_fit) (fun front c back hcs hc ht =>
    have hfinal := chunks_final hcs hc ht
    ⟨hfinal.1, hfinal.2.1⟩) hk

theorem exhausts_run (h : Exhausts s.console) (moves : List Move) :
    Exhausts (s.run moves).console := by
  induction moves generalizing s with
  | nil => exact h
  | cons m moves ih => exact ih ((step_inflow s m).exhausts h)

end Session

end GuestLink
