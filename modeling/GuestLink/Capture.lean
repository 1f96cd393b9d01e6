import GuestLink.CommandResult
import GuestLink.Incident

/-!
# Capturing the output of a remote command

A `Capture` runs one command on a channel and collects what it prints.  It is a machine that puts
one `Query` at a time to the channel and goes on with the answer, so that the channel may change
between any two of them.  Both streams are drained in one loop, lest a full window of one stall the
other; after the exit status is there both are drained once more.
-/

namespace GuestLink

/-- How many bytes are received at once. -/
def receiveSize : Nat := 32768

namespace Capture

/-- The streams of a command. -/
inductive Stream where
  | out
  | err
  deriving DecidableEq, Repr

/-- What a capture asks of its channel. -/
inductive Query where
  /-- Run the command. -/
  | exec
  /-- Is there data? -/
  | ready (s : Stream)
  /-- Hand over data, at most `receiveSize` bytes. -/
  | receive (s : Stream)
  /-- Is there an exit status? -/
  | statusReady
  /-- Is the channel closed? -/
  | isClosed
  /-- Wait until something changes. -/
  | wait
  /-- Hand over the exit status. -/
  | status
  deriving DecidableEq, Repr

/-- What a channel answers. -/
inductive Answer where
  | done
  | flag (b : Bool)
  | data (bs : Bytes)
  | status (code : Int)
  | raised (i : Incident)
  deriving DecidableEq, Repr

/-- The incident of a channel that closes too early. -/
def closedEarly : Incident := ⟨.ssh, "channel closed before exit status was received"⟩

end Capture

/-- A capture in progress or at its end. -/
inductive Capture where
  /-- It will put `query`; once `draining`, the exit status is known to be there. -/
  | asking (query : Capture.Query) (draining : Bool) (stdout stderr : Bytes)
  | finished (result : CommandResult)
  | failed (i : Incident) (stdout stderr : Bytes)
  deriving DecidableEq, Repr

namespace Capture

/-- The beginning of a capture. -/
def start : Capture := .asking .exec false [] []

/-- The query that a capture puts next. -/
def query? : Capture → Option Query
  | .asking q _ _ _ => some q
  | _ => none

/-- The capture after an answer.  An answer of a form that the query does not call for changes
nothing. -/
def step (c : Capture) (a : Answer) : Capture :=
  match c with
  | .asking q draining out err =>
    match q, a with
    | _, .raised i => .failed i out err
    | .exec, .done => .asking (.ready .out) false out err
    | .ready .out, .flag true => .asking (.receive .out) draining out err
    | .ready .out, .flag false => .asking (.ready .err) draining out err
    | .receive .out, .data bs => .asking (.ready .out) draining (out ++ bs) err
    | .ready .err, .flag true => .asking (.receive .err) draining out err
    | .ready .err, .flag false =>
      .asking (if draining then .status else .statusReady) draining out err
    | .receive .err, .data bs =>
      .asking (.ready (if draining then .err else .out)) draining out (err ++ bs)
    | .statusReady, .flag true => .asking (.ready .out) true out err
    | .statusReady, .flag false => .asking .isClosed draining out err
    | .isClosed, .flag true => .failed closedEarly out err
    | .isClosed, .flag false => .asking .wait draining out err
    | .wait, .done => .asking (.ready .out) draining out err
    | .status, .status code => .finished ⟨out, err, code⟩
    | _, _ => c
  | c => c

end Capture

end GuestLink
