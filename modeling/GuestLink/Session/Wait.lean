import GuestLink.Session.Bootstrap

/-!
# Waiting for lines

Lines are handed to the tasks that wait for one.  A task is told when its wait is over, and goes on
then.  A signal that is raised in between comes too late for it, and one that is lowered again has
called it off nevertheless.  A task that is called off loses the line that it was handed; a task
whose time has run out ends before it looks at one.
-/

namespace GuestLink.Session

/-- Goes on with a line that was waited for. -/
def consume (s : Session) (t : Task) (line : Bytes) : Session :=
  match t.stage with
  | .next _ => s.succeed t.id (.line line)
  | .take signal left got =>
    if left ≤ 1 then s.succeed t.id (.lines (line :: got).reverse)
    else s.suspend t.id (.take signal (left - 1) (line :: got))
  | .reply errand e => s.acceptLine t.id errand e line
  | _ => s

/-- Gives up a wait for a line; a command gives up the console with it. -/
def giveUp (s : Session) (t : Task) : Session :=
  match t.stage with
  | .reply .. => s.release
  | _ => s

/-- Hands the oldest line to a task that waits for one. -/
def deal (s : Session) (t : Task) : Session :=
  match s.console.lines, t.stage.lineSignal?, t.hand with
  | line :: rest, some _, none =>
    { s with
      console := { s.console with lines := rest }
      tasks := s.tasks.map fun u => if u.id = t.id then { u with hand := some line } else u }
  | _, _, _ => s

/-- Whether a task is called off: it was told so, or it was told nothing and its signal is
raised. -/
def isCalledOff (s : Session) (t : Task) : Bool :=
  match t.stage.signal?, t.notice with
  | none, _ => false
  | some _, some notice => notice == .calledOff
  | some signal, none => s.isRaised signal

/-- Goes on with a task that waits for a line.  Its signal comes before a line, a line before the
end of the console. -/
def resumeWait (s : Session) (t : Task) : Session :=
  if s.isCalledOff t then (s.giveUp t).fail t.id .waitCancelled
  else
    match t.hand, s.console.ended, s.console.lines with
    | some line, _, _ => s.consume t line
    | none, true, line :: rest =>
      { s with console := { s.console with lines := rest } }.consume t line
    | none, true, [] => (s.giveUp t).fail t.id .consoleEnded
    | none, false, _ => s

/-- Whether a task can go on without an answer from outside. -/
def canResume (s : Session) (t : Task) : Bool :=
  s.isCalledOff t || t.stage.lineSignal?.isSome && (t.hand.isSome || s.console.ended)

/-- What a task is told whose wait is over. -/
def notice (s : Session) (t : Task) : Notice := if s.isCalledOff t then .calledOff else .ready

/-- Tells a task that its wait is over, if it is, unless it has been told before. -/
def notify (s : Session) (t : Task) : Session :=
  if s.canResume t then
    { s with tasks := s.tasks.map fun u =>
        if u.id = t.id then { u with notice := some (s.notice t) } else u }
  else s

/-- Goes on with a task, whether or not it has been told. -/
def resume (s : Session) (t : Task) : Session :=
  match t.stage.lineSignal?, t.stage with
  | some _, _ => s.resumeWait t
  | none, .capturing channel command _ =>
    if s.isCalledOff t then
      (s.emit (.closeChannel channel)).suspend t.id (.abandoning channel command)
    else s
  | none, _ => s

/-- Whether the time of a task has run out. -/
def canExpire (s : Session) (t : Task) : Bool :=
  match t.stage.deadline? with
  | some d => d.due s.now
  | none => false

/-- Ends a task whose time has run out. -/
def expire (s : Session) (t : Task) : Session :=
  if s.canExpire t then
    match t.stage with
    | .reply _ e => (s.release.tell [e.failedRecord "timeout"]).fail t.id (.timedOut e)
    | .closingWriter _ => s.succeed t.id .nothing
    | .dialing path _ => s.fail t.id (.dial path ⟨.timeout, ""⟩)
    | _ => s
  else s

/-- Ends a task for its caller.  What it asked for outside is not called back, but a client that was
to connect and a channel in use are closed. -/
def abort (s : Session) (t : Task) : Session :=
  let s := match t.stage with
    | .flushing .. | .reply .. => s.release
    | .connecting c .. => s.emit (.closeClient c)
    | .capturing channel .. | .abandoning channel _ => s.emit (.closeChannel channel)
    | _ => s
  s.finish t.id .aborted

end GuestLink.Session
