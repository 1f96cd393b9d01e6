import GuestLink.Text.Utf8

/-!
# Lines of a byte stream

`Framing.read` takes from a buffer all lines that have arrived, and leaves what may still become
one.  A line may have at most `limit` bytes.  A longer one is dropped when its end has arrived; a
buffer that outgrows the limit without an end of line is dropped as it stands, and what arrives of
that line later counts as a new one.  At the end of the stream the rest of the buffer is a line.
-/

namespace GuestLink.Framing

/-- The byte that ends a line. -/
def lineFeed : UInt8 := 10

/-- A line without the carriage returns and line feeds at its end. -/
def trimEnd (line : Bytes) : Bytes :=
  (line.reverse.dropWhile fun b => b == 10 || b == 13).reverse

/-- What is found in a stream. -/
inductive Event where
  | line (content : Bytes)
  /-- A line was too long and is lost. -/
  | oversized
  deriving DecidableEq, Repr

/-- What the head of a buffer is. -/
inductive Cut where
  /-- A line or the loss of one, and what follows it. -/
  | event (e : Event) (rest : Bytes)
  /-- The beginning of a line. -/
  | wait
  /-- The end of the stream. -/
  | finish
  deriving DecidableEq, Repr

/-- Examines the head of a buffer, to which more may come unless the stream is `closed`. -/
def cut (limit : Nat) (closed : Bool) (buffer : Bytes) : Cut :=
  match buffer.dropWhile (· != lineFeed) with
  | _ :: rest =>
    let line := buffer.takeWhile (· != lineFeed)
    if limit < line.length then .event .oversized rest else .event (.line (trimEnd line)) rest
  | [] =>
    if limit < buffer.length then .event .oversized []
    else if !closed then .wait
    else if buffer.isEmpty then .finish
    else .event (.line (trimEnd buffer)) []

theorem length_rest_lt {limit : Nat} {closed : Bool} {buffer rest : Bytes} {e : Event}
    (h : cut limit closed buffer = .event e rest) : rest.length < buffer.length := by
  unfold cut at h
  split at h
  · rename_i x tail hd
    have hs := (List.dropWhile_suffix (l := buffer) (· != lineFeed)).length_le
    rw [hd, List.length_cons] at hs
    dsimp only at h
    split at h <;> cases h <;> omega
  · split at h
    · cases h
      simp only [List.length_nil]
      omega
    · split at h
      · cases h
      · split at h
        · cases h
        · rename_i hne
          cases h
          cases buffer with
          | nil => simp at hne
          | cons b bs => simp

/-- All that is found in a buffer. -/
structure Reading where
  events : List Event
  /-- The beginning of a line. -/
  rest : Bytes
  /-- Whether the stream is over. -/
  finished : Bool
  deriving DecidableEq, Repr

/-- Reads a buffer behind the events already `found`, last first. -/
def readFrom (limit : Nat) (closed : Bool) (found : List Event) (buffer : Bytes) : Reading :=
  match h : cut limit closed buffer with
  | .event e rest =>
    have := length_rest_lt h
    readFrom limit closed (e :: found) rest
  | .wait => ⟨found.reverse, buffer, false⟩
  | .finish => ⟨found.reverse, [], true⟩
termination_by buffer.length

/-- Takes all lines out of a buffer. -/
def read (limit : Nat) (closed : Bool) (buffer : Bytes) : Reading := readFrom limit closed [] buffer

/-- The lines among events. -/
def linesOf (events : List Event) : List Bytes :=
  events.filterMap fun
    | .line content => some content
    | .oversized => none

end GuestLink.Framing
