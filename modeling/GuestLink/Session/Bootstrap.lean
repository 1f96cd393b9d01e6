import GuestLink.Session.Task

/-!
# From the serial line to SSH

A bootstrap sets the guest up for a new identity, scans its host keys and connects to it, which the
guest has to prove with one of those keys.  The steps can also be taken one by one.  Each serial
command owns the console until it has ended.
-/

namespace GuestLink.Session

/-- Asks a new client to connect. -/
def beginConnect (s : Session) (id : TaskId) (identity : Identity) (hostKeys : HostKeys)
    (boot : Bool) : Session :=
  let c := s.clients
  let r : ConnectRequest :=
    { host := s.host, port := s.port, user := s.settings.user, timeout := s.settings.connectTimeout
      key := identity.key, hostKeys }
  let s := ({ s with clients := c + 1 }.emit (.newClient c)).emit (.pin c)
  (s.suspend id (.connecting c r boot)).emit (.connect id c r)

/-- Waits for the answer to a serial command, from now on. -/
def awaitReply (s : Session) (id : TaskId) (errand : Errand) (timeout : Binary64) : Session :=
  s.suspend id (.reply errand { operation := errand.operation, deadline := ⟨s.now, timeout⟩ })

/-- Sends a command line, provided that nobody owns the console and the session is open.  What the
guest printed before is discarded.  The time for the answer begins once the line is flushed. -/
def beginCommand (s : Session) (id : TaskId) (errand : Errand) (line : Bytes)
    (timeout : Binary64) : Session :=
  if !s.plugged then s.fail id (.noConsole "exclusive")
  else if s.console.owned then s.fail id .consoleBusy
  else if s.closed then s.fail id (.closedBefore errand.operation)
  else
    let (console, records) := s.console.reset
    let s := { s with console }.tell records
    match console.write with
    | .closed => s.fail id .consoleClosed
    | .unsent i => s.fail id (.send i)
    | .unflushed i => (s.emit (.send line)).fail id (.send i)
    | .held =>
      let s := { s with console := { console with owned := true } }.emit (.send line)
      s.suspend id (.flushing errand timeout)
    | .sent =>
      let s := { s with console := { console with owned := true } }.emit (.send line)
      s.awaitReply id errand timeout

/-- Sends the scan command. -/
def beginScan (s : Session) (id : TaskId) (boot : Option Identity) : Session :=
  s.beginCommand id (.scan boot) (utf8 Serial.scanCommand) s.settings.scanTimeout

/-- Sends the setup command for an identity. -/
def beginSetup (s : Session) (id : TaskId) (identity : Identity) (boot : Bool) : Session :=
  match Serial.setupCommand identity.authorizedKey with
  | .error f => s.fail id (.keyText f)
  | .ok line =>
    s.beginCommand id (.setup identity boot) (Utf8.encode line) s.settings.setupTimeout

/-- Goes on after the guest has reported success. -/
def afterSuccess (s : Session) (id : TaskId) (errand : Errand) (e : Serial.Exchange) : Session :=
  let s := s.tell [e.succeededRecord]
  match errand with
  | .setup identity boot =>
    let s := { s with identity := some identity }.tell
      [Log.record .info .session "Guest sshd configured over serial console"]
    if boot then s.beginScan id (some identity) else s.succeed id (.identity identity)
  | .scan none => s.succeed id (.output e.output)
  | .scan (some identity) =>
    match HostKeys.parse e.output with
    | .error f => s.fail id (.scan f)
    | .ok keys => (s.tell [keys.parsedRecord]).beginConnect id identity keys true

/-- Goes on with one more line of the guest. -/
def acceptLine (s : Session) (id : TaskId) (errand : Errand) (e : Serial.Exchange)
    (line : Bytes) : Session :=
  match e.accept line with
  | (e, none) => s.suspend id (.reply errand e)
  | (e, some .succeeded) => s.release.afterSuccess id errand e
  | (e, some (.failed status)) =>
    (s.release.tell [e.failedRecord status]).fail id (.badStatus e status)
  | (e, some .statusMissing) =>
    (s.release.tell [e.failedRecord "missing"]).fail id (.statusMissing e)

/-- Goes on after an attempt to connect.  A client that did not connect is closed; one that did, but
only after a bootstrap's session was closed, is not kept. -/
def afterConnect (s : Session) (id : TaskId) (c : ClientId) (r : ConnectRequest) (boot : Bool)
    (answer : Except ConnectFault Unit) : Session :=
  match answer with
  | .error f => (s.emit (.closeClient c)).fail id (f.trouble r)
  | .ok () =>
    let s := s.tell [Log.record .info .session "SSH connection to guest established"
      [("host", .text r.host), ("port", .int r.port)]]
    if boot then
      if s.closed then (s.suspend id (.discarding c)).emit (.retireClient id c)
      else { s with client := some c }.succeed id (.client c)
    else s.succeed id (.client c)

end GuestLink.Session
