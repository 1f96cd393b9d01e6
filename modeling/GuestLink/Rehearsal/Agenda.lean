import GuestLink.Rehearsal

/-!
# Turns

A task that begins to wait for a line has two turns.  In the first it looks for a line; if there is
none it waits to be called for one, behind all others that do.  In the second it looks whether its
signal is raised or the console has ended, and waits to be called for that.  Once it has found
something it is told so, and goes on a turn later.

Each line that the reader queues calls one task.  A task that was called may find that another one
has taken the line before it; then it waits anew, behind the others.
-/

namespace GuestLink.Rehearsal

/-- Gives something its turn behind all others. -/
def plan (r : Rehearsal) (k : SceneId) (turns : List Turn) : Rehearsal :=
  { r with turns := r.turns ++ turns.map (k, ·) }

/-- Whether a task has a turn to come or waits to be called. -/
def knows (r : Rehearsal) (k : SceneId) (t : TaskId) : Bool :=
  (r.turns.any fun turn => turn.1 == k && turn.2.task? == some t) ||
    (r.scene k).forLine.contains t || (r.scene k).forEnd.contains t

/-- Whether a wait is over though no line may have come. -/
def isOver (s : Session) (t : TaskId) : Bool :=
  match (s.task? t).bind (·.stage.lineSignal?) with
  | some signal => s.isRaised signal || s.console.ended
  | none => false

/-- Plans what has come up in a scene: the reader first, then the tasks whose wait is over, then
those that have begun to wait. -/
def planScene (r : Rehearsal) (k : SceneId) : Rehearsal :=
  let s := (r.scene k).session
  let r := if s.console.reader = .ready ∧ (k, Turn.read) ∉ r.turns then r.plan k [.read] else r
  let (called, still) := (r.scene k).forEnd.partition (isOver s)
  let r := (r.withScene k ({ · with forEnd := still })).plan k (called.map .heed)
  let begun := s.tasks.filter fun t => t.stage.lineSignal?.isSome && !r.knows k t.id
  r.plan k (begun.flatMap fun t => [.look t.id, .heed t.id])

/-- Plans what has come up in all scenes. -/
def planAll (r : Rehearsal) : Rehearsal := (List.range r.scenes.length).foldl planScene r

/-- Calls the first `count` tasks that wait to be called for a line. -/
def callForLine (r : Rehearsal) (k : SceneId) (count : Nat) : Rehearsal :=
  let called := (r.scene k).forLine.take count
  (r.withScene k fun s => { s with forLine := s.forLine.drop count }).plan k (called.map .look)

/-- Tells a task that its wait is over, unless it was told already. -/
def tell (r : Rehearsal) (k : SceneId) (t : TaskId) : Rehearsal :=
  if (k, Turn.tell t) ∈ r.turns ∨ (k, Turn.resume t) ∈ r.turns then r else r.plan k [.tell t]

/-- What is left of a turn when a task no longer waits. -/
def Turn.without (t : TaskId) (turn : Turn) : Option Turn :=
  if turn = .look t then some .pass
  else if turn.task? = some t then none
  else some turn

/-- Ends the waits of a task. -/
def forget (r : Rehearsal) (k : SceneId) (t : TaskId) : Rehearsal :=
  let turns := r.turns.filterMap fun (scene, turn) =>
    if scene = k then (turn.without t).map (scene, ·) else some (scene, turn)
  { r with turns }.withScene k fun s =>
    { s with forLine := s.forLine.filter (· != t), forEnd := s.forEnd.filter (· != t) }

/-- Lets a task go on, or end if its time has run out. -/
def resume (r : Rehearsal) (k : SceneId) (t : TaskId) : Rehearsal :=
  let due := ((r.scene k).session.task? t).any (r.scene k).session.canExpire
  (r.forget k t).move k (if due then .expire t else .resume t)

/-- Takes a turn. -/
def takeTurn (r : Rehearsal) (k : SceneId) : Turn → Rehearsal
  | .read =>
    let console := (r.scene k).session.console
    let count := if (r.scene k).forLine.isEmpty then 0 else console.arriving
    (r.move k .read).callForLine k count
  | .look t =>
    if (r.scene k).session.console.lines.isEmpty then
      r.withScene k fun s => { s with forLine := s.forLine ++ [t] }
    else (r.move k (.deal t)).tell k t
  | .heed t =>
    if isOver (r.scene k).session t then r.tell k t
    else r.withScene k fun s => { s with forEnd := s.forEnd ++ [t] }
  | .tell t => (r.move k (.notify t)).plan k [.resume t]
  | .resume t => r.resume k t
  | .pass => if (r.scene k).session.console.lines.isEmpty then r else r.callForLine k 1

end GuestLink.Rehearsal
