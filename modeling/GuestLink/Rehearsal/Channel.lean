import GuestLink.Capture

/-!
# Rehearsed channels

A `Channel` answers the queries of a capture from a script: the bytes in its buffers, those that
come together with the exit status, and what goes wrong.
-/

namespace GuestLink.Rehearsal

/-- A channel with a script. -/
structure Channel where
  out : Bytes := []
  err : Bytes := []
  /-- What arrives together with the exit status. -/
  lateOut : Bytes := []
  lateErr : Bytes := []
  exit : Option Int := none
  closed : Bool := false
  /-- What goes wrong when a command is run. -/
  execFault : Option Incident := none
  /-- What goes wrong when data is received. -/
  receiveFault : Option Incident := none
  deriving Repr

/-- A call on a channel. -/
inductive ChannelCall where
  | exec (command : String)
  /-- Data was handed over, or an incident raised. -/
  | receive (s : Capture.Stream) (count : Option Nat)
  | select
  | exitStatus
  | close
  deriving Repr

namespace Channel

/-- The buffer of a stream. -/
def buffer (ch : Channel) : Capture.Stream → Bytes
  | .out => ch.out
  | .err => ch.err

/-- The channel with another buffer for a stream. -/
def setBuffer (ch : Channel) (s : Capture.Stream) (bs : Bytes) : Channel :=
  match s with
  | .out => { ch with out := bs }
  | .err => { ch with err := bs }

/-- The channel after its exit status has been seen. -/
def arrive (ch : Channel) : Channel :=
  { ch with out := ch.out ++ ch.lateOut, err := ch.err ++ ch.lateErr, lateOut := [], lateErr := [] }

/-- The answer to a query, the channel after it, and the call that it was.  Only waiting has no
answer. -/
def reply (ch : Channel) (command : String) :
    Capture.Query → Option (Capture.Answer × Channel × List ChannelCall)
  | .exec =>
    some (match ch.execFault with
      | some i => (.raised i, ch, [.exec command])
      | none => (.done, ch, [.exec command]))
  | .ready s => some (.flag !(ch.buffer s).isEmpty, ch, [])
  | .receive s =>
    some (match ch.receiveFault with
      | some i => (.raised i, ch, [.receive s none])
      | none =>
        let data := (ch.buffer s).take receiveSize
        (.data data, ch.setBuffer s ((ch.buffer s).drop receiveSize), [.receive s data.length]))
  | .statusReady =>
    some (if ch.exit.isSome then (.flag true, ch.arrive, []) else (.flag false, ch, []))
  | .isClosed => some (.flag ch.closed, ch, [])
  | .wait => none
  | .status => some (.status (ch.exit.getD (-1)), ch, [.exitStatus])

/-- Serves a capture until it ends or has to wait. -/
def serve (command : String) :
    Nat → Channel → Capture → List ChannelCall → Channel × Capture × List ChannelCall
  | 0, ch, capture, calls => (ch, capture, calls)
  | fuel + 1, ch, capture, calls =>
    match capture.query? with
    | none => (ch, capture, calls)
    | some q =>
      match ch.reply command q with
      | none => (ch, capture, calls ++ [.select])
      | some (answer, ch, more) => serve command fuel ch (capture.step answer) (calls ++ more)

/-- Enough steps to serve a capture: four for each piece of data, and as many for the rest. -/
def stepBound (ch : Channel) : Nat :=
  4 * (ch.out.length + ch.err.length + ch.lateOut.length + ch.lateErr.length) + 16

end Channel

end GuestLink.Rehearsal
