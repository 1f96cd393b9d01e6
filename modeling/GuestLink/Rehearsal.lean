import GuestLink.Rehearsal.Channel
import GuestLink.Session.Step

/-!
# Rehearsals

A `Rehearsal` plays a session against a scripted outside: a guest whose answers are written down, a
clock that moves when it is told to, key pairs, SSH clients and channels that do what their scripts
say.  What the outside does for a task is a `Call`; calls wait in a queue, some are held up until
the script releases them.

A script may connect further consoles.  Each makes a `Scene` of its own, on which the steps of the
script act from then on; the guest's session keeps its console, and so does every task.

What a session can do next of its own waits for its `Turn`.  Turns are taken in the order in which
they came up.
-/

namespace GuestLink

namespace Rehearsal

/-- What the key generator does. -/
structure KeyScript where
  answer : Except Incident KeyPair
  hold : Bool := false

/-- What an SSH client does. -/
structure ClientScript where
  /-- The key that the server offers. -/
  offer : Option (String × Bytes) := none
  /-- What goes wrong when it connects. -/
  fault : Option Incident := none
  holdConnect : Bool := false
  holdClose : Bool := false
  /-- Whether its connection is gone as soon as it is made. -/
  dead : Bool := false

/-- What a client does when it is asked for a channel. -/
structure ChannelScript where
  hold : Bool := false
  fault : Option Incident := none
  channel : Channel := {}

/-- What comes of a connection to a console. -/
inductive DialScript where
  | connects
  | hangs
  | raises (i : Incident)

/-- What is done outside for a task, or the part of it that is left after a hold. -/
inductive Work where
  | generate (bits : Int)
  | deliverKey (answer : Except Incident KeyPair)
  | connect (c : ClientId) (r : ConnectRequest)
  | finishConnect (c : ClientId) (r : ConnectRequest)
  | retire (c : ClientId)
  | finishRetire
  | openChannel (c : ClientId)
  | finishOpen (script : ChannelScript)
  | capture (channel : ChannelId) (command : String) (state : Capture)

/-- Work for a task. -/
structure Call where
  task : TaskId
  work : Work

/-- Something that the outside has been asked. -/
inductive Note where
  | generate (bits : Int)
  | dial (path : Path)
  | pin (c : ClientId)
  | connect (c : ClientId) (r : ConnectRequest)
  | openChannel (c : ClientId)
  | closeClient (c : ClientId)
  | channel (ch : ChannelId) (call : ChannelCall)

/-- The number of a scene. -/
abbrev SceneId := Nat

/-- A task of a scene. -/
structure TaskRef where
  scene : SceneId
  task : TaskId
  deriving DecidableEq

/-- What has happened since the last step began. -/
structure Events where
  notes : List Note := []
  logs : List Log.Record := []
  sent : Bytes := []
  finished : List (TaskRef × Outcome) := []

/-- Something that a session can do of its own. -/
inductive Turn where
  /-- The reader of the console runs. -/
  | read
  /-- A task looks for a line. -/
  | look (task : TaskId)
  /-- A task looks whether its signal is raised or its console has ended. -/
  | heed (task : TaskId)
  /-- A task is told that its wait is over. -/
  | tell (task : TaskId)
  /-- A task goes on. -/
  | resume (task : TaskId)
  /-- A task that was called for a line and wants none any more calls the next one. -/
  | pass
  deriving DecidableEq

/-- The task whose turn it is, if it is a task's. -/
def Turn.task? : Turn → Option TaskId
  | .look t | .heed t | .tell t | .resume t => some t
  | .read | .pass => none

/-- A session on a console, and those of its tasks that wait to be called. -/
structure Scene where
  session : Session
  /-- The tasks to be called for a line, in this order. -/
  forLine : List TaskId := []
  /-- The tasks to be called when their signal is raised or the console has ended. -/
  forEnd : List TaskId := []

end Rehearsal

open Rehearsal in
/-- The scenes of a script and the outside they are played against. -/
structure Rehearsal where
  /-- The scene of the guest. -/
  guest : Scene
  /-- The scenes on consoles that were connected later. -/
  others : List Scene := []
  /-- The scene on whose console the steps of the script act. -/
  focus : SceneId := 0
  /-- What waits for its turn. -/
  turns : List (SceneId × Turn) := []
  /-- The scenes whose console the script has claimed, latest first. -/
  claims : List SceneId := []
  /-- The names that the script gives to tasks. -/
  names : List (TaskRef × String) := []
  keys : List KeyScript := []
  clients : List ClientScript := []
  /-- The channels that are still to be opened. -/
  scripts : List ChannelScript := []
  /-- The channels that were opened. -/
  channels : List Channel := []
  /-- What the guest answers to the next writes. -/
  responses : List Bytes := []
  /-- What comes of the next connection to a console. -/
  dial : DialScript := .connects
  /-- Work that is waiting to be done. -/
  queue : List Call := []
  /-- Work that is held up. -/
  held : List Call := []
  /-- Captures that wait for their channel. -/
  selecting : List Call := []
  events : Events := {}

namespace Rehearsal

/-- All scenes. -/
def scenes (r : Rehearsal) : List Scene := r.guest :: r.others

/-- The scene of that number. -/
def scene (r : Rehearsal) (k : SceneId) : Scene := r.scenes.getD k r.guest

/-- Changes the scene of that number. -/
def withScene (r : Rehearsal) (k : SceneId) (f : Scene → Scene) : Rehearsal :=
  match k with
  | 0 => { r with guest := f r.guest }
  | k + 1 => { r with others := r.others.modify k f }

/-- The scene on whose console the steps of the script act. -/
def focused (r : Rehearsal) : Scene := r.scene r.focus

/-- Makes a move in a scene. -/
def move (r : Rehearsal) (k : SceneId) (m : Move) : Rehearsal :=
  r.withScene k fun s => { s with session := s.session.step m }

/-- Makes a move in every scene. -/
def moveAll (r : Rehearsal) (m : Move) : Rehearsal :=
  let play (s : Scene) : Scene := { s with session := s.session.step m }
  { r with guest := play r.guest, others := r.others.map play }

/-- A session on another console, which has just been connected. -/
def onNewConsole (s : Session) : Session :=
  { settings := s.settings, host := s.host, port := s.port, now := s.now, signals := s.signals
    console := Console.startReader {} }

/-- Sets up a scene on a new console, on which the steps of the script act from now on. -/
def connectConsole (r : Rehearsal) : Rehearsal :=
  { r with
    others := r.others ++ [{ session := onNewConsole r.guest.session }]
    focus := r.others.length + 1 }

end Rehearsal

end GuestLink
