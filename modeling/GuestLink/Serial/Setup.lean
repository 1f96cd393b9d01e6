import GuestLink.Shell.Word
import GuestLink.Text.Blank
import GuestLink.Text.Utf8

/-!
# Serial command lines

The two lines that are sent to the guest's shell.  Each ends by printing the status line, and each
is one line whatever it carries.
-/

namespace GuestLink.Serial

/-- What a status line begins with; the character behind it is the status. -/
def statusMark : String := "SERIAL STATUS: "

/-- The script that accepts a public key and starts the SSH daemon. -/
def setupScript (key : List Char) : List Char :=
  ("set -ex; ifconfig eth0 up; ifconfig lo up; udhcpc; mkdir -p ~/.ssh; echo ").toList ++
    Shell.quote key ++
    (" > ~/.ssh/authorized_keys; rc-update add sshd; service sshd start").toList

/-- The command line that runs a script in a shell of its own and prints the status in which that
one ends. -/
def setupLine (script : List Char) : List Char :=
  ("set -ex; do_setup () \x7b sh -c ").toList ++ Shell.quote script ++
    ("; echo \"SERIAL STATUS: $?\"; \x7d; do_setup\n").toList

/-- The command line that sets the guest up for the public key `authorizedKey`. -/
def setupCommand (authorizedKey : Bytes) : Except Utf8.Fault (List Char) :=
  (Utf8.decode authorizedKey).map fun key => setupLine (setupScript (Text.trim key))

/-- The command line that scans the host keys of the guest. -/
def scanCommand : String :=
  "ssh-keyscan -H localhost; echo \"SERIAL STATUS: $?\"; rm /root/.ash_history\n"

end GuestLink.Serial
