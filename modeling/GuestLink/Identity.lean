import GuestLink.Base64
import GuestLink.Failure
import GuestLink.Log.Record

/-!
# Identities

An `Identity` is a key pair made for one session.  The private half never leaves the key generator
here: of it we keep what the library shows, a fingerprint, and what the SSH client is handed, the
encoded public key.  `Identity.make` turns the generator's answer into an identity; a key that was
not made cleanly is not used.
-/

namespace GuestLink

/-- A generated key pair. -/
structure KeyPair where
  /-- The name of the key type. -/
  type : String
  /-- The encoded public key. -/
  blob : Bytes
  fingerprint : String
  /-- What goes wrong when the public key is asked for, if anything. -/
  encodeFault : Option Incident := none
  deriving DecidableEq, Repr

/-- A key pair and its line in the guest's list of accepted keys. -/
structure Identity where
  key : KeyPair
  authorizedKey : Bytes
  deriving DecidableEq, Repr

namespace Identity

/-- The size of generated keys. -/
def defaultBits : Int := 4096

/-- Why no identity was made. -/
inductive Fault where
  /-- The generator failed. -/
  | generate (bits : Int) (i : Incident)
  /-- The public key could not be encoded. -/
  | encode (bits : Int) (i : Incident)
  deriving DecidableEq, Repr

/-- The incident behind a fault. -/
def Fault.incident : Fault → Incident
  | .generate _ i | .encode _ i => i

/-- The size that was asked for. -/
def Fault.bits : Fault → Int
  | .generate bits _ | .encode bits _ => bits

/-- The fault in words. -/
def Fault.message : Fault → String
  | .generate _ i => "generate rsa private key: " ++ i.text
  | .encode _ i => "encode public key: " ++ i.text

/-- The failure that a fault makes.  Incidents of the SSH library and invalid values are reported as
such, all others pass. -/
def Fault.failure (f : Fault) : Failure :=
  if f.incident.isSsh || f.incident.isValue then
    .report (.make .keyGeneration (.text f.message) [] [("bits", .int f.bits)]
      (some (.incident f.incident)))
  else .incident f.incident

/-- The line of a key in the guest's list of accepted keys. -/
def authorizedLine (type : String) (blob : Bytes) : Bytes :=
  utf8 type ++ utf8 " " ++ Utf8.encode (Base64.encode blob) ++ utf8 "\n"

/-- The identity that the generator's answer gives. -/
def make (bits : Int) (answer : Except Incident KeyPair) : Except Fault Identity :=
  match answer with
  | .error i => .error (.generate bits i)
  | .ok key =>
    match key.encodeFault with
    | some i => .error (.encode bits i)
    | none => .ok ⟨key, authorizedLine key.type key.blob⟩

/-- The record that tells of a new identity. -/
def madeRecord (bits : Int) (identity : Identity) : Log.Record :=
  Log.record .debug .identity "Generated ephemeral SSH identity"
    [("bits", .int bits), ("fingerprint", .text identity.key.fingerprint)]

end Identity

end GuestLink
