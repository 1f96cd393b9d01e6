import GuestLink.Rehearsal

/-!
# The scripted outside

`Rehearsal.carryOut` turns an act of a session into what it causes outside.  `Rehearsal.perform`
does the work of a call: it consults the script and answers the guest's session, which alone calls
the outside, or holds the rest of the work up.
-/

namespace GuestLink.Rehearsal

/-- Writes down what the outside is asked. -/
def note (r : Rehearsal) (n : Note) : Rehearsal :=
  { r with events := { r.events with notes := r.events.notes ++ [n] } }

/-- The script of a client. -/
def clientScript (r : Rehearsal) (c : ClientId) : ClientScript := r.clients.getD c {}

/-- Puts work off until held work is released. -/
def hold (r : Rehearsal) (c : Call) : Rehearsal := { r with held := r.held ++ [c] }

/-- Adds work. -/
def enqueue (r : Rehearsal) (task : TaskId) (work : Work) : Rehearsal :=
  { r with queue := r.queue ++ [⟨task, work⟩] }

/-- Whether a call waits for that channel. -/
def Call.selects (ch : ChannelId) (c : Call) : Bool :=
  match c.work with
  | .capture channel .. => channel == ch
  | _ => false

/-- The capture of a call after an answer. -/
def Call.answered (c : Call) (a : Capture.Answer) : Call :=
  match c.work with
  | .capture channel command state => { c with work := .capture channel command (state.step a) }
  | _ => c

/-- Ends the waits for a channel. -/
def wake (r : Rehearsal) (ch : ChannelId) (a : Capture.Answer) : Rehearsal :=
  { r with
    queue := r.queue ++ (r.selecting.filter (·.selects ch)).map (·.answered a)
    selecting := r.selecting.filter fun c => !c.selects ch }

/-- Carries out an act of the session in a scene. -/
def carryOut (k : SceneId) (r : Rehearsal) : Act → Rehearsal
  | .log record => { r with events := { r.events with logs := r.events.logs ++ [record] } }
  | .send data =>
    let r := { r with events := { r.events with sent := r.events.sent ++ data } }
    match r.responses with
    | [] => r
    | response :: rest => { r with responses := rest }.move k (.receive response)
  | .closeWriter => r
  | .generate task bits => r.enqueue task (.generate bits)
  | .newClient _ => r
  | .pin c => r.note (.pin c)
  | .connect task c request => r.enqueue task (.connect c request)
  | .closeClient c => r.note (.closeClient c)
  | .retireClient task c => r.enqueue task (.retire c)
  | .openChannel task c => r.enqueue task (.openChannel c)
  | .capture task channel command => r.enqueue task (.capture channel command .start)
  | .closeChannel channel =>
    { r with channels := r.channels.modify channel ({ · with closed := true }) }.note
      (.channel channel .close) |>.wake channel .done
  | .dial task path =>
    let r := r.note (.dial path)
    match r.dial with
    | .connects => r.move k (.answer task (.dialed (.ok ())))
    | .raises i => r.move k (.answer task (.dialed (.error i)))
    | .hangs => r
  | .finish task outcome =>
    let r := { r with
      events := { r.events with finished := r.events.finished ++ [(⟨k, task⟩, outcome)] } }
    if outcome.isConsole then r.connectConsole else r

/-- Carries out what the session in a scene has done. -/
def carryOutScene (r : Rehearsal) (k : SceneId) : Rehearsal :=
  let acts := (r.scene k).session.history
  acts.foldl (carryOut k)
    (r.withScene k fun s => { s with session := { s.session with history := [] } })

/-- Carries out what all sessions have done. -/
def carryOutAll (r : Rehearsal) : Rehearsal :=
  (List.range r.scenes.length).foldl carryOutScene r

/-- What comes of an offered server key and of connecting. -/
def connectAnswer (script : ClientScript) (request : ConnectRequest) : Except ConnectFault Unit :=
  match script.offer with
  | some (type, key) =>
    match request.hostKeys.check type key with
    | .error rejection => .error (.rejected rejection)
    | .ok () => script.fault.elim (.ok ()) (.error ∘ .incident)
  | none => script.fault.elim (.ok ()) (.error ∘ .incident)

/-- Lets a client connect: the server offers its key, then the script says what happens. -/
def finishConnect (r : Rehearsal) (task : TaskId) (c : ClientId) (request : ConnectRequest) :
    Rehearsal :=
  let script := r.clientScript c
  let r := match script.offer with
    | some (type, key) => r.move 0 (.judge request type key)
    | none => r
  r.move 0 (.answer task (.connected (connectAnswer script request)))

/-- Opens a channel, or fails to. -/
def finishOpen (r : Rehearsal) (task : TaskId) (script : ChannelScript) : Rehearsal :=
  match script.fault with
  | some i => r.move 0 (.answer task (.channel (.error i)))
  | none =>
    { r with channels := r.channels ++ [script.channel] }.move 0
      (.answer task (.channel (.ok r.channels.length)))

/-- Does the work of a call. -/
def perform (r : Rehearsal) (call : Call) : Rehearsal :=
  match call.work with
  | .generate bits =>
    let r := r.note (.generate bits)
    let script := r.keys.headD ⟨.ok ⟨"ssh-rsa", utf8 "KEY", "SHA256:stub", none⟩, false⟩
    let r := { r with keys := r.keys.tail }
    if script.hold then r.hold ⟨call.task, .deliverKey script.answer⟩
    else r.move 0 (.answer call.task (.keyPair script.answer))
  | .deliverKey answer => r.move 0 (.answer call.task (.keyPair answer))
  | .connect c request =>
    let r := r.note (.connect c request)
    if (r.clientScript c).holdConnect then r.hold ⟨call.task, .finishConnect c request⟩
    else r.finishConnect call.task c request
  | .finishConnect c request => r.finishConnect call.task c request
  | .retire c =>
    let r := r.note (.closeClient c)
    if (r.clientScript c).holdClose then r.hold ⟨call.task, .finishRetire⟩
    else r.move 0 (.answer call.task (.clientClosed (.ok ())))
  | .finishRetire => r.move 0 (.answer call.task (.clientClosed (.ok ())))
  | .openChannel c =>
    let r := r.note (.openChannel c)
    let script := r.scripts.headD {}
    let r := { r with scripts := r.scripts.tail }
    if script.hold then r.hold ⟨call.task, .finishOpen script⟩ else r.finishOpen call.task script
  | .finishOpen script => r.finishOpen call.task script
  | .capture channel command state =>
    let ch := r.channels.getD channel {}
    let (ch, state, calls) := ch.serve command ch.stepBound state []
    let r := { r with channels := r.channels.set channel ch }
    let r := calls.foldl (fun r c => r.note (.channel channel c)) r
    match state with
    | .finished result => r.move 0 (.answer call.task (.captured (.ok result)))
    | .failed i _ _ => r.move 0 (.answer call.task (.captured (.error i)))
    | .asking .. =>
      { r with selecting := r.selecting ++ [⟨call.task, .capture channel command state⟩] }

end GuestLink.Rehearsal
