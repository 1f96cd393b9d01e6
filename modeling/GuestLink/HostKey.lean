import GuestLink.Base64
import GuestLink.Failure
import GuestLink.Log.Record
import GuestLink.Text.Line

/-!
# Pinned host keys

`HostKeys` is a table from key types to keys.  `HostKeys.parse` reads it from the output of a key
scan, one record a line: a host, a key type and a Base64 key, separated by single spaces.  Of two
records of one type the later one counts.  `HostKeys.check` accepts exactly the keys of the table;
there is no trust on first use.
-/

namespace GuestLink

/-- The pinned key of each type. -/
structure HostKeys where
  entries : List (String × Bytes)
  deriving DecidableEq, Repr

/-- Why a server's key is refused. -/
inductive HostKeyRejection where
  /-- No key of the type is pinned. -/
  | unknownType (type : String)
  /-- Another key of the type is pinned. -/
  | mismatch (type : String)
  deriving DecidableEq, Repr

/-- Why a record cannot be read. -/
inductive ScanFault where
  /-- It has another number of fields than three. -/
  | fieldCount (line : String) (count : Nat)
  /-- Its key is not Base64. -/
  | key (line : String) (flaw : Base64.Flaw)
  deriving DecidableEq, Repr

namespace HostKeyRejection

/-- The rejection in words. -/
def message : HostKeyRejection → String
  | .unknownType type => s!"unknown key type '{type}'"
  | .mismatch _ => "public key mismatch"

/-- The key type that was offered. -/
def type : HostKeyRejection → String
  | .unknownType type | .mismatch type => type

/-- The rejection as a report. -/
def report (r : HostKeyRejection) : Report :=
  .make .hostKeyRejected (.text r.message) [] [("key_type", .text r.type)]

end HostKeyRejection

namespace HostKeys

/-- The table without keys. -/
def empty : HostKeys := ⟨[]⟩

/-- The pinned key of a type. -/
def lookup (keys : HostKeys) (type : String) : Option Bytes := keys.entries.lookup type

/-- The table with `key` pinned for `type`. -/
def insert (keys : HostKeys) (type : String) (key : Bytes) : HostKeys :=
  ⟨keys.entries.filter (·.1 != type) ++ [(type, key)]⟩

/-- The types of the pinned keys, in ascending order. -/
def types (keys : HostKeys) : List String := (keys.entries.map (·.1)).mergeSort (· ≤ ·)

/-- Accepts the key that a server offers if it is pinned. -/
def check (keys : HostKeys) (type : String) (key : Bytes) : Except HostKeyRejection Unit :=
  match keys.lookup type with
  | none => .error (.unknownType type)
  | some known => if key = known then .ok () else .error (.mismatch type)

/-- The number of fields of a record. -/
def fieldCount : Nat := 3

/-- A line without the carriage returns at its end. -/
def dropReturns (line : List Char) : List Char := (line.reverse.dropWhile (· == '\r')).reverse

/-- The key type and the key of a record. -/
def parseRecord (line : List Char) : Except ScanFault (String × Bytes) :=
  match Text.splitAt ' ' line with
  | [_, type, key] =>
    match Base64.decode key with
    | .ok bytes => .ok (String.ofList type, bytes)
    | .error flaw => .error (.key (String.ofList line) flaw)
  | fields => .error (.fieldCount (String.ofList line) fields.length)

/-- The table with one more line of a scan; blank lines say nothing. -/
def addLine (keys : HostKeys) (line : List Char) : Except ScanFault HostKeys :=
  match dropReturns line with
  | [] => .ok keys
  | line => (parseRecord line).map fun (type, key) => keys.insert type key

/-- The table that the output of a key scan pins, or the first fault in it. -/
def parse (scan : Bytes) : Except ScanFault HostKeys :=
  (Text.splitAt '\n' (Utf8.decodeLossy scan)).foldlM addLine empty

/-- The record that tells of a table that was read. -/
def parsedRecord (keys : HostKeys) : Log.Record :=
  Log.record .debug .hostKeys "Parsed host keys" [("key_types", .list (keys.types.map .text))]

/-- The record that tells of a refused key. -/
def rejectedRecord (host type : String) : Log.Record :=
  Log.record .warning .hostKeys "Rejected SSH host key"
    [("hostname", .text host), ("key_type", .text type)]

end HostKeys

/-- The failure that a fault in a scan makes.  A key outside ASCII is reported as the invalid value
that it is, without the line. -/
def ScanFault.failure : ScanFault → Failure
  | .fieldCount line count =>
    .report (.make .hostKeyFormat
      (.text ("bad split ssh identity string length: " ++
        s!"want {HostKeys.fieldCount}, have {count} (" ++ Text.quoted line ++ ")"))
      [] [("line", .text line)])
  | .key _ .notAscii => .incident ⟨.value, Base64.Flaw.message .notAscii⟩
  | .key line flaw =>
    .report (.make .hostKeyFormat (.text ("decode base64 public key: " ++ flaw.message)) []
      [("line", .text line)] (some .base64))

end GuestLink
