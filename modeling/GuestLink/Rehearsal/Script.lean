import GuestLink.Rehearsal.Settle

/-!
# Scripts

A script is a list of steps.  `Rehearsal.play` makes one step, lets everything settle, and reports
what has happened: what the step itself came to, which tasks have ended, which still wait, and what
the outside was asked meanwhile.
-/

namespace GuestLink

namespace Rehearsal

/-- What a step changes of a channel. -/
structure ChannelChange where
  out : Bytes := []
  err : Bytes := []
  lateOut : Bytes := []
  lateErr : Bytes := []
  exit : Option Int := none
  closed : Option Bool := none
  /-- What goes wrong in the wait for the channel. -/
  fault : Option Incident := none

/-- What a step changes of the console's writer. -/
structure WriterChange where
  writeFault : Option (Option Incident) := none
  drainFault : Option (Option Incident) := none
  closeWait : Option CloseWait := none
  closing : Option Bool := none

/-- One step of a script. -/
inductive Step where
  /-- Bytes of the guest arrive, at the end of its stream if so said. -/
  | feed (data : Bytes) (last : Bool)
  | endInput
  | breakInput (i : Incident)
  | writer (w : WriterChange)
  /-- One more answer of the guest to a write. -/
  | respond (data : Bytes)
  | startReader
  | reset
  | send (data : Bytes)
  | acquire
  | release
  | raise (name : String)
  | lower (name : String)
  | abort (name : String)
  | advance (millis : Nat)
  | unhold
  | channel (ch : ChannelId) (change : ChannelChange)
  /-- The session is used as a scope, which it enters. -/
  | enter
  /-- A job starts as the task of that name. -/
  | job (name : String) (j : Job)
  /-- A connection to a console is asked for, and comes to what the script says. -/
  | dial (name : String) (path : Path) (timeout : Datum) (outcome : DialScript)

/-- What a step itself comes to. -/
inductive StepResult where
  | nothing
  | count (n : Nat)
  | flag (b : Bool)
  | trouble (t : Trouble)

/-- What a step and all that followed from it came to. -/
structure StepReport where
  result : StepResult
  /-- The tasks that have ended. -/
  finished : List (String × Outcome)
  /-- The tasks that wait, by name. -/
  waiting : List String
  events : Events

/-- The name of a task, if it still has one. -/
def nameOf? (r : Rehearsal) (t : TaskRef) : Option String := r.names.lookup t

/-- The task of that name. -/
def taskOf? (r : Rehearsal) (name : String) : Option TaskRef :=
  (r.names.find? (·.2 == name)).map (·.1)

/-- Starts a job under a name, which an earlier task of that name loses. -/
def startJob (r : Rehearsal) (k : SceneId) (name : String) (j : Job) : Rehearsal :=
  let task : TaskRef := ⟨k, (r.scene k).session.started⟩
  { r with names := (task, name) :: r.names.filter (·.2 != name) }.move k (.start j)

/-- The scene in which a job is done: jobs on the console where the script acts, all others with
the guest. -/
def sceneFor (r : Rehearsal) : Job → SceneId
  | .next _ | .take .. | .closeConsole => r.focus
  | _ => 0

/-- A change as a writer. -/
def WriterChange.apply (w : WriterChange) (old : Writer) : Writer :=
  { old with
    writeFault := w.writeFault.getD old.writeFault
    drainFault := w.drainFault.getD old.drainFault
    closeWait := w.closeWait.getD old.closeWait
    closing := w.closing.getD old.closing }

/-- A change as a channel. -/
def ChannelChange.apply (c : ChannelChange) (old : Channel) : Channel :=
  { old with
    out := old.out ++ c.out
    err := old.err ++ c.err
    lateOut := old.lateOut ++ c.lateOut
    lateErr := old.lateErr ++ c.lateErr
    exit := c.exit <|> old.exit
    closed := c.closed.getD old.closed }

/-- How a task has ended, if it has. -/
def outcome? (s : Session) (id : TaskId) : Option Outcome :=
  s.history.findSome? fun
    | .finish id' o => if id' = id then some o else none
    | _ => none

/-- Sends bytes to the guest. -/
def send (r : Rehearsal) (data : Bytes) : Rehearsal × StepResult :=
  let task := r.focused.session.started
  let r := r.move r.focus (.start (.write data))
  match outcome? r.focused.session task with
  | some (.failed t) => (r, .trouble t)
  | _ => (r, .nothing)

/-- The failure of a step for which there is no console. -/
def StepResult.noConsole (wanted : String) : StepResult := .trouble (.noConsole wanted)

/-- Makes a step. -/
def act (r : Rehearsal) : Step → Rehearsal × StepResult
  | .feed data last =>
    let r := r.move r.focus (.receive data)
    (if last then r.move r.focus .closeInput else r, .nothing)
  | .endInput => (r.move r.focus .closeInput, .nothing)
  | .breakInput i => (r.move r.focus (.breakInput i), .nothing)
  | .writer w => (r.move r.focus (.rig (w.apply r.focused.session.console.writer)), .nothing)
  | .respond data => ({ r with responses := r.responses ++ [data] }, .nothing)
  | .startReader =>
    if r.focused.session.plugged then (r.move r.focus .startReader, .nothing)
    else (r, .noConsole "start")
  | .reset =>
    if r.focused.session.plugged then
      (r.move r.focus .reset, .count r.focused.session.reset.2)
    else (r, .noConsole "reset")
  | .send data => r.send data
  | .acquire =>
    match r.focused.session.acquire.2 with
    | .ok () => ({ r with claims := r.focus :: r.claims }.move r.focus .acquire, .nothing)
    | .error t => (r, .trouble t)
  | .release =>
    match r.claims with
    | [] => (r, .nothing)
    | k :: rest => ({ r with claims := rest }.move k .release, .nothing)
  | .raise name => (r.moveAll (.raise name), .nothing)
  | .lower name => (r.moveAll (.lower name), .nothing)
  | .abort name =>
    match r.taskOf? name with
    | some t =>
      if ((r.scene t.scene).session.task? t.task).isSome then
        ((r.forget t.scene t.task).move t.scene (.abort t.task), .flag true)
      else (r, .flag false)
    | none => (r, .flag false)
  | .advance millis => (r.moveAll (.pass (millis * nanosPerMilli)), .nothing)
  | .unhold => ({ r with queue := r.queue ++ r.held, held := [] }, .nothing)
  | .channel ch change =>
    let r := { r with channels := r.channels.modify ch change.apply }
    (r.wake ch (match change.fault with | some i => .raised i | none => .done), .nothing)
  | .enter => (r, .flag true)
  | .job name j => (r.startJob (r.sceneFor j) name j, .nothing)
  | .dial name path timeout outcome =>
    ({ r with dial := outcome }.startJob 0 name (.dial path timeout), .nothing)

/-- The names of the tasks that wait in a scene. -/
def waitingIn (r : Rehearsal) (k : SceneId) : List String :=
  (r.scene k).session.tasks.filterMap fun t => r.nameOf? ⟨k, t.id⟩

/-- Makes a step, lets everything settle and reports. -/
def play (r : Rehearsal) (step : Step) : Rehearsal × StepReport :=
  let (r, result) := r.act step
  let r := r.settle
  ({ r with events := {} },
    { result
      finished := r.events.finished.filterMap fun (t, outcome) =>
        (r.nameOf? t).map fun name => (name, outcome)
      waiting := ((List.range r.scenes.length).flatMap r.waitingIn).mergeSort (· ≤ ·)
      events := r.events })

end Rehearsal

end GuestLink
