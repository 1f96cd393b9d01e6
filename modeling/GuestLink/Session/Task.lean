import GuestLink.Session

/-!
# Tasks of a session

A task of a session ends with an outcome or waits in a stage.  Whatever it does on the way is added
to the history, so that the order of acts is the order in which they were done.
-/

namespace GuestLink.Session

/-- Does something. -/
def emit (s : Session) (a : Act) : Session := { s with history := s.history ++ [a] }

/-- Tells records. -/
def tell (s : Session) (rs : List Log.Record) : Session :=
  { s with history := s.history ++ rs.map .log }

/-- Ends a task. -/
def finish (s : Session) (id : TaskId) (o : Outcome) : Session :=
  { s with tasks := s.tasks.filter (·.id != id) }.emit (.finish id o)

/-- Ends a task with a trouble. -/
def fail (s : Session) (id : TaskId) (t : Trouble) : Session := s.finish id (.failed t)

/-- Ends a task with a result. -/
def succeed (s : Session) (id : TaskId) (r : Result) : Session := s.finish id (.ok r)

/-- Lets a task wait, behind all others that wait. -/
def suspend (s : Session) (id : TaskId) (stage : Stage) : Session :=
  { s with tasks := s.tasks.filter (·.id != id) ++ [{ id, stage }] }

/-- The waiting task of that number. -/
def task? (s : Session) (id : TaskId) : Option Task := s.tasks.find? (·.id == id)

/-- Whether a signal is raised. -/
def isRaised (s : Session) : Signal → Bool
  | .closed => s.closed
  | .named name => s.signals.contains name

/-- The ownership of the console is given up. -/
def release (s : Session) : Session := { s with console := { s.console with owned := false } }

end GuestLink.Session
