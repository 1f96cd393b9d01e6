import GuestLink.Console
import GuestLink.Proofs.Console.Chunk

/-!
# What a reader takes in

When the reader of a console runs, it takes chunks off the head of the buffer (`chunks`): all that
there are or, of a broken stream, at most the one that it was waiting for.  What it takes in are
their events, and how the run ends says what is left (`intake_takes`).
-/

namespace GuestLink.Console

open Framing

variable {c : Console}

/-- The chunks that the reader takes when it runs. -/
def chunks (c : Console) : List Chunk :=
  match c.inputFault, c.woken with
  | none, _ => Framing.chunks c.limit c.inputClosed c.buffer
  | some _, true => (Framing.chunks c.limit c.inputClosed c.buffer).take 1
  | some _, false => []

/-- What the reader takes in as the chunks `cs`, and what it leaves. -/
structure Takes (c : Console) (i : Intake) (cs : List Chunk) : Prop where
  events : i.events = cs.map Chunk.event
  bytes : c.buffer = cs.flatMap Chunk.bytes ++ i.rest
  fits : ∀ d ∈ cs, d.Fits c.limit c.inputClosed
  /-- Only the last chunk may have no line feed. -/
  final : ∀ front d back, cs = front ++ d :: back → lineFeed ∉ d.bytes → back = [] ∧ i.rest = []
  /-- It waits for the end of a line. -/
  waits : i.stop = .waits → c.inputClosed = false ∧ lineFeed ∉ i.rest ∧ i.rest.length ≤ c.limit
  finishes : i.stop = .finishes → c.inputClosed = true ∧ i.rest = []
  breaks : ∀ f, i.stop = .breaks f → c.inputFault = some f

/-- All that lies in the buffer is taken. -/
theorem Takes.of_cuts {r : Reading} {cs : List Chunk} (h : Cuts c.limit c.inputClosed c.buffer r cs) :
    c.Takes ⟨r.events, r.rest, if r.finished then .finishes else .waits⟩ cs := by
  refine ⟨h.events, h.bytes, h.fits, h.final, fun hs => ?_, fun hs => ?_, fun f hs => ?_⟩
  all_goals
    dsimp only at hs
    split_ifs at hs with hf
  · exact ⟨h.finished.symm.trans (eq_false_of_ne_true hf), h.rest⟩
  · exact ⟨h.finished.symm.trans hf, h.emptied (h.finished.symm.trans hf)⟩

/-- One chunk is taken. -/
theorem Takes.of_cut {e : Event} {rest bytes : Bytes} {f : Incident} (hf : c.inputFault = some f)
    (hb : c.buffer = bytes ++ rest) (hfits : Chunk.Fits c.limit c.inputClosed ⟨e, bytes⟩)
    (hfeed : lineFeed ∉ bytes → rest = []) : c.Takes ⟨[e], rest, .breaks f⟩ [⟨e, bytes⟩] := by
  refine ⟨rfl, by simpa using hb, by simpa using hfits, ?_, nofun, nofun, fun _ h => ?_⟩
  · rintro (_ | ⟨_, front⟩) d back hcs hd
    · obtain ⟨rfl, rfl⟩ := List.cons.inj hcs
      exact ⟨rfl, hfeed hd⟩
    · simp at hcs
  · cases h
    exact hf

theorem intake_takes (c : Console) : c.Takes c.intake c.chunks := by
  cases hf : c.inputFault with
  | none =>
    simp only [intake, chunks, hf]
    exact .of_cuts (read_cuts ..)
  | some f =>
    cases hw : c.woken with
    | false =>
      simp only [intake, chunks, hf, hw]
      refine ⟨rfl, rfl, by simp, by simp, nofun, nofun, fun _ h => ?_⟩
      cases h
      exact hf
    | true =>
      simp only [intake, chunks, hf, hw]
      cases hcut : cut c.limit c.inputClosed c.buffer with
      | event e rest =>
        obtain ⟨bytes, hb, hfits, hfeed⟩ := exists_chunk_of_cut hcut
        rw [chunks_of_event hcut hb]
        exact .of_cut hf hb hfits hfeed
      | wait =>
        rw [chunks_of_wait hcut]
        exact ⟨rfl, rfl, by simp, by simp, fun _ => cut_wait hcut, nofun, nofun⟩
      | finish =>
        rw [chunks_of_finish hcut]
        obtain ⟨hclosed, hempty⟩ := cut_finish hcut
        exact ⟨rfl, hempty, by simp, by simp, nofun, fun _ => ⟨hclosed, rfl⟩, nofun⟩

/-- The lines that a reader takes in are lines. -/
theorem isLine_of_intake {line : Bytes} (h : line ∈ linesOf c.intake.events) : IsLine line := by
  obtain ⟨e, he, hl⟩ := List.mem_filterMap.1 h
  rw [(intake_takes c).events] at he
  obtain ⟨d, hd, rfl⟩ := List.mem_map.1 he
  cases (intake_takes c).fits d hd with
  | line raw noFeed | last raw noFeed =>
    cases hl
    exact isLine_trimEnd noFeed
  | long | torn => cases hl

end GuestLink.Console
