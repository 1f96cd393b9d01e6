import GuestLink.Argument
import GuestLink.Log.Record
import GuestLink.Machine
import GuestLink.Settings

/-!
# The emulator's command line

`Machine.arguments` describes a machine in options of the emulator, and `Machine.commandLine` is the
program and its words.  The guest gets exactly two channels: a serial console on a Unix socket, and
a network card whose host port leads to its SSH daemon.
-/

namespace GuestLink.Machine

/-- The name of the serial device. -/
def serialDevice : String := "serial0"

/-- The name of the network device. -/
def networkDevice : String := "net0"

/-- The port on which the SSH daemon of the guest listens. -/
def guestPort : Nat := 22

/-- The items of the accelerator option.  Without hardware support, processors share one thread. -/
def acceleratorItems (a : Accelerator) : List (String × String) :=
  ("accel", a.name) :: if a = .tcg then [("thread", "single")] else []

/-- The items of the serial device. -/
def serialItems (m : Machine) : List (String × String) :=
  [("backend", "socket"), ("id", serialDevice), ("path", m.serialSocket.text), ("server", "on"),
    ("wait", "off")]

/-- The rule that forwards the host port, of which this is the numeral, to the guest. -/
def forwardRule (m : Machine) (port : String) : String :=
  "tcp:" ++ m.forwardHost ++ ":" ++ port ++ "-:" ++ toString guestPort

/-- The items of the network. -/
def networkItems (m : Machine) (port : String) : List (String × String) :=
  [("type", "user"), ("id", networkDevice), ("hostfwd", m.forwardRule port)]

/-- The items of the network card. -/
def cardItems : List (String × String) := [("driver", "virtio-net-pci"), ("netdev", networkDevice)]

/-- The items of the boot drive, to which the guest never writes. -/
def bootItems (m : Machine) : List (String × String) :=
  [("file", m.bootImage.text), ("format", m.bootFormat.name), ("if", "virtio"), ("snapshot", "on")]

/-- The items of a further disk. -/
def diskItems (d : Disk) : List (String × String) :=
  [("file", d.path.text), ("format", d.format.name), ("if", "virtio")] ++
    (if d.readOnly then [("readonly", "on")] else []) ++
    (if d.snapshot then [("snapshot", "on")] else [])

/-- The options that describe a machine, in the order in which they are checked. -/
def arguments (limit : DigitLimit) (m : Machine) : Except ArgumentFault (List Argument) := do
  let model ← Argument.ofItems "machine" [("type", m.model)]
  let accelerator ← Argument.ofItems "accel" (acceleratorItems m.accelerator)
  let memory ← Argument.ofUint limit "m" (.int m.memory)
  let cores ← Argument.ofUint limit "smp" (.int m.cores)
  let noGraphic ← Argument.fixedFlag "nographic"
  let noReboot ← Argument.fixedFlag "no-reboot"
  let device ← Argument.ofItems "chardev" m.serialItems
  let serial ← Argument.ofString "serial" ("chardev:" ++ serialDevice)
  let port ← (limit.write m.forwardPort).mapError .excess
  let network ← Argument.ofItems "netdev" (m.networkItems port)
  let card ← Argument.ofItems "device" cardItems
  let boot ← Argument.ofItems "drive" m.bootItems
  let disks ← m.disks.mapM fun d => Argument.ofItems "drive" (diskItems d)
  return [model, accelerator, memory, cores, noGraphic, noReboot, device, serial, network, card,
    boot] ++ disks

/-- The record that tells of the options of a machine. -/
def builtRecord (m : Machine) (args : List Argument) : Log.Record :=
  Log.record .debug .machine "Built QEMU args"
    [("arg_count", .int args.length), ("disks", .int m.disks.length),
      ("accel", .text m.accelerator.name)]

/-- The words of an argument list behind the program. -/
def program (limit : DigitLimit) (settings : Settings) (args : List Argument) :
    Except ArgumentFault (List String) :=
  (Argument.encode limit args).map (settings.emulator.text :: ·)

/-- The program and the words that start the emulator. -/
def commandLine (limit : DigitLimit) (settings : Settings) (m : Machine) :
    Except ArgumentFault (List String) :=
  m.arguments limit >>= program limit settings

end GuestLink.Machine
