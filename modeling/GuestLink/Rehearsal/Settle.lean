import GuestLink.Rehearsal.Agenda
import GuestLink.Rehearsal.Outside

/-!
# Settling

After each step of a script the rehearsal goes on until nothing is left to do.  What the sessions
have done is carried out first; then turns are taken; when there is none, times that have run out
end tasks, remote commands that were called off are abandoned, and at last the calls to the outside
are made in the order in which they came.
-/

namespace GuestLink.Rehearsal

/-- Whether a task is a remote command that was called off. -/
def isCalledOff (s : Session) (t : Task) : Bool := t.stage.lineSignal?.isNone && s.canResume t

/-- The task of a scene that goes on of its own when no turn is left. -/
def idleTask? (p : Session → Task → Bool) (r : Rehearsal) : Option TaskRef :=
  (List.range r.scenes.length).findSome? fun k =>
    let s := (r.scene k).session
    (s.tasks.find? (p s)).map fun t => ⟨k, t.id⟩

/-- Takes the next of the things that are left to do when all acts are carried out. -/
def advance? (r : Rehearsal) : Option Rehearsal :=
  match r.turns with
  | (k, turn) :: rest => some ({ r with turns := rest }.takeTurn k turn)
  | [] =>
    match r.idleTask? Session.canExpire, r.idleTask? isCalledOff, r.queue with
    | some t, _, _ => some ((r.forget t.scene t.task).move t.scene (.expire t.task))
    | none, some t, _ => some (r.move t.scene (.resume t.task))
    | none, none, call :: rest => some ({ r with queue := rest }.perform call)
    | none, none, [] => none

/-- Goes on until nothing is left to do. -/
def settleFor : Nat → Rehearsal → Rehearsal
  | 0, r => r
  | fuel + 1, r =>
    if r.scenes.any (!·.session.history.isEmpty) then settleFor fuel r.carryOutAll
    else
      let r := r.planAll
      match r.advance? with
      | some r => settleFor fuel r
      | none => r

/-- Enough rounds to settle.  A line, or a byte that may be one, takes few rounds, and so does all
that a task does besides waiting for lines. -/
def roundBound (r : Rehearsal) : Nat :=
  let lines := r.scenes.map fun s =>
    s.session.console.lines.length + s.session.console.buffer.length + 8 * s.session.tasks.length
  32 * (lines.foldl (· + ·) 0 + (r.responses.map (·.length + 1)).foldl (· + ·) 0 +
    8 * (r.queue.length + r.selecting.length + r.scenes.length + 1))

/-- Goes on until nothing is left to do. -/
def settle (r : Rehearsal) : Rehearsal := settleFor r.roundBound r

end GuestLink.Rehearsal
