import GuestLink.Argument
import GuestLink.Argument.Error
import GuestLink.Argument.Option
import GuestLink.Base64
import GuestLink.Binary64
import GuestLink.Binary64.Decimal
import GuestLink.Binary64.Rounded
import GuestLink.Capture
import GuestLink.Check
import GuestLink.Check.Frozen
import GuestLink.Check.Reader
import GuestLink.Check.Validation
import GuestLink.Clock
import GuestLink.Clock.Allowance
import GuestLink.CommandResult
import GuestLink.Console
import GuestLink.Console.Framing
import GuestLink.Datum
import GuestLink.Digits
import GuestLink.Failure
import GuestLink.Failure.Binding
import GuestLink.HostKey
import GuestLink.HostKey.File
import GuestLink.Identity
import GuestLink.Incident
import GuestLink.Log.Format
import GuestLink.Log.Logger
import GuestLink.Log.Output
import GuestLink.Log.Pattern
import GuestLink.Log.Pattern.Directive
import GuestLink.Log.Pattern.Fault
import GuestLink.Log.Pattern.Field
import GuestLink.Log.Record
import GuestLink.Log.Relay
import GuestLink.Log.Time
import GuestLink.Machine
import GuestLink.Machine.CommandLine
import GuestLink.Numeral
import GuestLink.Path
import GuestLink.Proofs.Argument.Building
import GuestLink.Proofs.Argument.Reading
import GuestLink.Proofs.Argument.Request
import GuestLink.Proofs.Argument.Words
import GuestLink.Proofs.Base64
import GuestLink.Proofs.Capture
import GuestLink.Proofs.Capture.Completeness
import GuestLink.Proofs.Capture.LostChannel
import GuestLink.Proofs.Capture.Talk
import GuestLink.Proofs.Check
import GuestLink.Proofs.Console.Chunk
import GuestLink.Proofs.Console.Find
import GuestLink.Proofs.Console.Framing
import GuestLink.Proofs.Digits
import GuestLink.Proofs.Except
import GuestLink.Proofs.Failure.LogSuffix
import GuestLink.Proofs.HostKey.Fault
import GuestLink.Proofs.HostKey.Listing
import GuestLink.Proofs.HostKey.Record
import GuestLink.Proofs.HostKey.Scan
import GuestLink.Proofs.Log.Configuration
import GuestLink.Proofs.Log.Excerpt
import GuestLink.Proofs.Machine.CommandLine
import GuestLink.Proofs.Machine.Forwarding
import GuestLink.Proofs.Machine.Validity
import GuestLink.Proofs.Numeral
import GuestLink.Proofs.Path
import GuestLink.Proofs.Serial.Guest
import GuestLink.Proofs.Serial.Setup
import GuestLink.Proofs.Serial.Timeline
import GuestLink.Proofs.Session.Account
import GuestLink.Proofs.Session.Acting
import GuestLink.Proofs.Session.Attendance
import GuestLink.Proofs.Session.Bootstrap
import GuestLink.Proofs.Session.Closing
import GuestLink.Proofs.Session.Command
import GuestLink.Proofs.Session.Completion
import GuestLink.Proofs.Session.Conclusion
import GuestLink.Proofs.Session.Custody
import GuestLink.Proofs.Session.Dealing
import GuestLink.Proofs.Session.Delivery
import GuestLink.Proofs.Session.Departure
import GuestLink.Proofs.Session.Doing
import GuestLink.Proofs.Session.Exclusion
import GuestLink.Proofs.Session.Flow
import GuestLink.Proofs.Session.Forgetting
import GuestLink.Proofs.Session.Frame
import GuestLink.Proofs.Session.Overlap
import GuestLink.Proofs.Session.Ownership
import GuestLink.Proofs.Session.Pinning
import GuestLink.Proofs.Session.Reception
import GuestLink.Proofs.Session.Release
import GuestLink.Proofs.Session.Remote
import GuestLink.Proofs.Session.RemoteReport
import GuestLink.Proofs.Session.Settling
import GuestLink.Proofs.Session.Transcript
import GuestLink.Proofs.Session.Turn
import GuestLink.Proofs.Session.Upstream
import GuestLink.Proofs.Session.Wholeness
import GuestLink.Proofs.Shell.Word
import GuestLink.Proofs.Text.Blank
import GuestLink.Proofs.Text.Split
import GuestLink.Proofs.Text.Utf8
import GuestLink.Proofs.Text.Utf8.Strict
import GuestLink.Rehearsal
import GuestLink.Rehearsal.Agenda
import GuestLink.Rehearsal.Channel
import GuestLink.Rehearsal.Outside
import GuestLink.Rehearsal.Script
import GuestLink.Rehearsal.Settle
import GuestLink.Serial.Exchange
import GuestLink.Serial.Setup
import GuestLink.Session
import GuestLink.Session.Bootstrap
import GuestLink.Session.Remote
import GuestLink.Session.Shutdown
import GuestLink.Session.Step
import GuestLink.Session.Task
import GuestLink.Session.Trouble
import GuestLink.Session.Wait
import GuestLink.Settings
import GuestLink.Shell.Word
import GuestLink.Text.Blank
import GuestLink.Text.Line
import GuestLink.Text.Point
import GuestLink.Text.Printable
import GuestLink.Text.Quoted
import GuestLink.Text.Utf8
