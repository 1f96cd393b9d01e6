import GuestLink.Check.Validation

/-!
# Results of remote commands
-/

namespace GuestLink

/-- What a remote command printed, and the status in which it ended. -/
structure CommandResult where
  stdout : Bytes
  stderr : Bytes
  exitStatus : Int
  deriving DecidableEq, Repr

namespace CommandResult

/-- Checks the fields of a result.  Fields of other names are ignored. -/
def ofFields (v : Validation) (fs : Fields) : Checked CommandResult :=
  (Checked.ok CommandResult.mk)
    |>.ap (v.field fs "stdout" none v.bytes)
    |>.ap (v.field fs "stderr" (some []) v.bytes)
    |>.ap (v.field fs "exit_status" (some 0) v.integer)

end CommandResult

end GuestLink
