import GuestLink.Log.Format

/-!
# Records on the terminal

`Log.write` sends a record to the standard error stream, one text a record, coloured by severity on
a terminal.  Elsewhere every terminal code is taken out, also those in the message.
-/

namespace GuestLink.Log

/-- What turns all terminal attributes off. -/
def resetCode : String := "\x1b[0m"

/-- The terminal attributes of a severity: yellow and red at normal intensity, or dimmed. -/
def attributeCodes (s : Severity) : String :=
  if s = Severity.warning then "\x1b[33m\x1b[22m"
  else if s = Severity.error ∨ s = Severity.critical then "\x1b[31m\x1b[22m"
  else "\x1b[2m"

/-- The characters that stand first in a terminal code. -/
def isCodeParameter (c : Char) : Bool := '0' ≤ c && c ≤ '?'

/-- The characters that stand behind the parameters of a terminal code. -/
def isCodeIntermediate (c : Char) : Bool := ' ' ≤ c && c ≤ '/'

/-- The characters that end a terminal code. -/
def isCodeFinal (c : Char) : Bool := '@' ≤ c && c ≤ '~'

/-- What follows the terminal code at the head of `cs`, if there is one. -/
def afterCode? : List Char → Option (List Char)
  | '\x1b' :: '[' :: rest =>
    match (rest.dropWhile isCodeParameter).dropWhile isCodeIntermediate with
    | c :: rest => if isCodeFinal c then some rest else none
    | [] => none
  | _ => none

theorem length_afterCode? {cs rest : List Char} (h : afterCode? cs = some rest) :
    rest.length < cs.length := by
  unfold afterCode? at h
  split at h
  · rename_i tail
    have h1 := (List.dropWhile_suffix (l := tail) isCodeParameter).length_le
    have h2 := (List.dropWhile_suffix (l := tail.dropWhile isCodeParameter)
      isCodeIntermediate).length_le
    split at h
    · rename_i c r e
      rw [e, List.length_cons] at h2
      split at h
      · cases h
        simp only [List.length_cons]
        omega
      · cases h
    · cases h
  · cases h

/-- The text without the terminal codes in it. -/
def stripCodes (cs : List Char) : List Char :=
  match h : afterCode? cs with
  | some rest =>
    have := length_afterCode? h
    stripCodes rest
  | none =>
    match cs with
    | [] => []
    | c :: rest => c :: stripCodes rest
termination_by cs.length

/-- What is sent to the stream for a record with the given text. -/
def rendered (terminal : Bool) (s : Severity) (text : String) : String :=
  let styled := attributeCodes s ++ text ++ resetCode
  (if terminal then styled else String.ofList (stripCodes styled.toList)) ++ "\n"

/-- What goes wrong when a record is written. -/
inductive WriteFault where
  | format (fault : FormatFault)
  | stream (i : Incident)

/-- What comes of a record: its text, nothing where the stream would have to wait, or a fault. -/
def write (terminal : Bool) (tail : Int) (streamFault : Option Incident) (r : Record) :
    Except WriteFault String := do
  let text ← (Log.format tail r).mapError .format
  match streamFault with
  | none => return rendered terminal r.severity text
  | some i => if i.kind = .blocked then return "" else throw (.stream i)

end GuestLink.Log
