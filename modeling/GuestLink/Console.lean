import GuestLink.Console.Framing
import GuestLink.Incident
import GuestLink.Log.Record

/-!
# The serial console

A `Console` is the host's end of the guest's serial line.  Bytes arrive in a buffer; a reader cuts
them into lines and queues these for whoever waits for one; what is sent goes out through a writer.
The queue holds `queueDepth` lines and loses its oldest for a new one.  `Console.reset` empties it.
Only one command may own the console at a time.
-/

namespace GuestLink

/-- How many lines the queue of a console holds. -/
def queueDepth : Nat := 4096

/-- How many bytes a line may have by default. -/
def lineLimit : Nat := 65536

/-- What became of the task that reads a console. -/
inductive ReaderTask where
  /-- There is none. -/
  | absent
  /-- It has something to do. -/
  | ready
  /-- It waits for something to arrive. -/
  | waiting
  /-- It came to the end of the stream. -/
  | finished
  /-- It was ended by an incident that it does not handle. -/
  | failed (i : Incident)
  deriving DecidableEq, Repr

/-- How a run of the reader ends. -/
inductive Stop where
  /-- Nothing more has arrived. -/
  | waits
  /-- The stream has ended. -/
  | finishes
  /-- The stream has broken. -/
  | breaks (i : Incident)
  deriving DecidableEq, Repr

/-- What the reader takes in when it runs. -/
structure Intake where
  events : List Framing.Event
  /-- What is left in the buffer. -/
  rest : Bytes
  stop : Stop
  deriving DecidableEq, Repr

/-- What waiting for the end of a writer comes to. -/
inductive CloseWait where
  | done
  | hangs
  | raises (i : Incident)
  deriving DecidableEq, Repr

/-- The outgoing half of a console. -/
structure Writer where
  closing : Bool := false
  /-- What goes wrong when bytes are handed over. -/
  writeFault : Option Incident := none
  /-- What goes wrong when bytes handed over are flushed. -/
  drainFault : Option Incident := none
  /-- Whether bytes handed over are flushed later only. -/
  paused : Bool := false
  closeWait : CloseWait := .done
  deriving DecidableEq, Repr

/-- The host's end of a serial line. -/
structure Console where
  limit : Nat := lineLimit
  /-- What has arrived and is not yet cut into lines. -/
  buffer : Bytes := []
  /-- Whether nothing more will arrive. -/
  inputClosed : Bool := false
  /-- What went wrong with the incoming half. -/
  inputFault : Option Incident := none
  reader : ReaderTask := .absent
  /-- Whether the reader has run since it was started. -/
  entered : Bool := false
  /-- Whether the reader was waiting for the end of a line when something arrived. -/
  woken : Bool := false
  /-- The lines that nobody has taken yet. -/
  lines : List Bytes := []
  /-- Whether the reader has told that the stream is over. -/
  ended : Bool := false
  /-- Whether a command owns the console. -/
  owned : Bool := false
  writer : Writer := {}
  deriving DecidableEq, Repr

namespace Console

/-- The last `n` elements of a list. -/
def keepLast {α : Type} (n : Nat) (xs : List α) : List α := xs.drop (xs.length - n)

/-- The queue with more lines; the oldest are lost when they are too many. -/
def enqueue (queue batch : List Bytes) : List Bytes := keepLast queueDepth (queue ++ batch)

/-- Wakes a reader that waits; it goes on with its line only if something has arrived. -/
def wakeReader (c : Console) (arrived : Bool) : Console :=
  if c.reader = .waiting then { c with reader := .ready, woken := arrived } else c

/-- The console after bytes have arrived; nothing arrives behind the end of the stream. -/
def receive (c : Console) (data : Bytes) : Console :=
  if c.inputClosed then c else { c with buffer := c.buffer ++ data }.wakeReader true

/-- The console after the stream has ended. -/
def closeInput (c : Console) : Console := { c with inputClosed := true }.wakeReader true

/-- The console after the stream has broken. -/
def breakInput (c : Console) (i : Incident) : Console :=
  { c with inputFault := some i }.wakeReader false

/-- Starts a reader unless there is one. -/
def startReader (c : Console) : Console :=
  if c.reader = .absent then { c with reader := .ready, entered := false, woken := false } else c

/-- The record that tells of the end of the stream. -/
def endedRecord : Log.Record := Log.record .debug .console "Serial console stream ended"

/-- The record that tells of a lost line. -/
def oversizedRecord : Log.Record :=
  Log.record .warning .console "Dropping oversized serial console line"

/-- The record that tells of a broken stream. -/
def brokenRecord (i : Incident) : Log.Record :=
  Log.record .warning .console "Serial console read failed" [("error", .text i.text)]

/-- The record that tells of a reader that was ended by an incident. -/
def failedRecord (i : Incident) : Log.Record :=
  { Log.record .error .console "Serial reader task failed"
      [("task_name", .text "serial-console-reader")] with incident := some i }

/-- The record that tells of lines discarded by a reset. -/
def discardedRecord (count : Nat) : Log.Record :=
  Log.record .debug .console "Discarded stale serial output" [("lines", .int count)]

end Console

/-- What becomes of the reader.  A fault of the operating system is the end of the stream, any other
incident ends the reader. -/
def Stop.reader : Stop → ReaderTask
  | .waits => .waiting
  | .finishes => .finished
  | .breaks i => if i.isOs then .finished else .failed i

/-- Whether the stream is over. -/
def Stop.isEnd : Stop → Bool
  | .waits => false
  | _ => true

/-- What is told of the end of the stream. -/
def Stop.records : Stop → List Log.Record
  | .waits => []
  | .finishes => [Console.endedRecord]
  | .breaks i =>
    if i.isOs then [Console.brokenRecord i, Console.endedRecord]
    else [Console.endedRecord, Console.failedRecord i]

namespace Console

/-- What the reader takes in when it runs.  Of a broken stream it takes in nothing, unless it was
waiting for the end of a line: then it still looks at the head of the buffer, and waits again if
that is the beginning of a line. -/
def intake (c : Console) : Intake :=
  match c.inputFault, c.woken with
  | none, _ =>
    let r := Framing.read c.limit c.inputClosed c.buffer
    ⟨r.events, r.rest, if r.finished then .finishes else .waits⟩
  | some i, true =>
    match Framing.cut c.limit c.inputClosed c.buffer with
    | .event e rest => ⟨[e], rest, .breaks i⟩
    | .wait => ⟨[], c.buffer, .waits⟩
    | .finish => ⟨[], [], .finishes⟩
  | some i, false => ⟨[], c.buffer, .breaks i⟩

/-- How many lines the reader will queue when it runs. -/
def arriving (c : Console) : Nat :=
  if c.reader = .ready then (Framing.linesOf c.intake.events).length else 0

/-- Lets the reader run until it waits or ends. -/
def read (c : Console) : Console × List Log.Record :=
  if c.reader = .ready then
    ({ c with
        buffer := c.intake.rest
        lines := enqueue c.lines (Framing.linesOf c.intake.events)
        reader := c.intake.stop.reader
        ended := c.ended || c.intake.stop.isEnd
        entered := true
        woken := false },
      (c.intake.events.filter (· == .oversized)).map (fun _ => oversizedRecord) ++
        c.intake.stop.records)
  else (c, [])

/-- Discards the queued lines. -/
def reset (c : Console) : Console × List Log.Record :=
  ({ c with lines := [] }, if c.lines.isEmpty then [] else [discardedRecord c.lines.length])

/-- Whether the stream is over and no line is left. -/
def atEnd (c : Console) : Bool := c.ended && c.lines.isEmpty

/-- What comes of sending bytes. -/
inductive WriteResult where
  | sent
  /-- The bytes were taken and are still to be flushed. -/
  | held
  /-- The writer is closed. -/
  | closed
  /-- The bytes were not taken. -/
  | unsent (i : Incident)
  /-- The bytes were taken and could not be flushed. -/
  | unflushed (i : Incident)
  deriving DecidableEq, Repr

/-- Sends bytes. -/
def write (c : Console) : WriteResult :=
  if c.writer.closing then .closed
  else
    match c.writer.writeFault, c.writer.drainFault with
    | some i, _ => .unsent i
    | none, some i => .unflushed i
    | none, none => if c.writer.paused then .held else .sent

/-- Ends the reader, if there is one.  One that has never run does not tell of the end of the stream.
The incident that ended it before is raised now. -/
def stopReader (c : Console) : Except Incident (Console × List Log.Record) :=
  match c.reader with
  | .absent => .ok (c, [])
  | .ready | .waiting =>
    .ok ({ c with reader := .absent, ended := c.ended || c.entered },
      if c.entered then [endedRecord] else [])
  | .finished => .ok ({ c with reader := .absent }, [])
  | .failed i => .error i

end Console

end GuestLink
