import GuestLink.Check.Validation

/-!
# Machines

A `Machine` describes the emulated computer of one guest session: memory, processors, the image it
boots, more disks, and its two channels to the host, a serial console on a Unix socket and a host
port that is forwarded to the SSH daemon of the guest.  `Machine.ofFields` checks untyped fields,
`Machine.toFields` gives them back.
-/

namespace GuestLink

/-- The accelerators of the emulator. -/
inductive Accelerator where
  | kvm
  | hvf
  | tcg
  deriving DecidableEq, Repr

/-- The name of an accelerator. -/
def Accelerator.name : Accelerator → String
  | .kvm => "kvm"
  | .hvf => "hvf"
  | .tcg => "tcg"

/-- The formats of disk images. -/
inductive ImageFormat where
  | raw
  | qcow2
  deriving DecidableEq, Repr

/-- The name of an image format. -/
def ImageFormat.name : ImageFormat → String
  | .raw => "raw"
  | .qcow2 => "qcow2"

/-- A block device of the guest. -/
structure Disk where
  /-- The image file or host device. -/
  path : Path
  format : ImageFormat
  readOnly : Bool
  /-- Whether what the guest writes is thrown away in the end. -/
  snapshot : Bool
  deriving DecidableEq, Repr

/-- The emulated computer of one guest session. -/
structure Machine where
  /-- Memory in megabytes. -/
  memory : Nat
  cores : Nat
  accelerator : Accelerator
  /-- The name of the machine type. -/
  model : String
  bootImage : Path
  bootFormat : ImageFormat
  disks : List Disk
  /-- The socket of the serial console. -/
  serialSocket : Path
  /-- The host address that is forwarded to the guest. -/
  forwardHost : String
  /-- The host port that is forwarded to the guest. -/
  forwardPort : Nat
  deriving DecidableEq, Repr

/-- The memory of a machine by default, in megabytes. -/
def defaultMemory : Nat := 512

/-- The least memory of a machine, in megabytes. -/
def minMemory : Nat := 128

/-- The number of processors of a machine by default. -/
def defaultCores : Nat := 1

/-- The host address that is forwarded to the guest by default. -/
def defaultForwardHost : String := "127.0.0.1"

/-- The accelerators by their names. -/
def Accelerator.byName : List (String × Accelerator) :=
  [Accelerator.kvm, .hvf, .tcg].map fun a => (a.name, a)

/-- The image formats by their names. -/
def ImageFormat.byName : List (String × ImageFormat) :=
  [ImageFormat.raw, .qcow2].map fun f => (f.name, f)

namespace Disk

/-- The names of the fields of a disk. -/
def fieldNames : List String := ["path", "format", "read_only", "snapshot"]

/-- Checks the fields of a disk. -/
def ofFields (v : Validation) (fs : Fields) : Checked Disk :=
  ((Checked.ok Disk.mk)
    |>.ap (v.field fs "path" none v.path)
    |>.ap (v.field fs "format" (some .raw) (v.oneOf ImageFormat.byName))
    |>.ap (v.field fs "read_only" (some false) v.truth)
    |>.ap (v.field fs "snapshot" (some false) v.truth)).but (v.unknown fs fieldNames)

/-- Reads a disk. -/
def read (v : Validation) : Reader Disk := v.record "DiskSpec" (ofFields v)

/-- The fields of a disk. -/
def toFields (d : Disk) : Fields :=
  [("path", .text d.path.text), ("format", .text d.format.name), ("read_only", .bool d.readOnly),
    ("snapshot", .bool d.snapshot)]

end Disk

namespace Machine

/-- The names of the fields of a machine. -/
def fieldNames : List String :=
  ["memory_mb", "cpu_cores", "accel", "machine", "boot_image", "boot_image_format", "disks",
    "serial_socket_path", "ssh_forward_host", "ssh_forward_port"]

/-- Checks the fields of a machine. -/
def ofFields (v : Validation) (fs : Fields) : Checked Machine :=
  ((Checked.ok Machine.mk)
    |>.ap (v.field fs "memory_mb" (some defaultMemory) (v.natural minMemory none))
    |>.ap (v.field fs "cpu_cores" (some defaultCores) (v.natural 1 (some 64)))
    |>.ap (v.field fs "accel" (some .kvm) (v.oneOf Accelerator.byName))
    |>.ap (v.field fs "machine" (some "q35") v.text)
    |>.ap (v.field fs "boot_image" none v.path)
    |>.ap (v.field fs "boot_image_format" (some .qcow2) (v.oneOf ImageFormat.byName))
    |>.ap (v.field fs "disks" (some []) (v.each (Disk.read v)))
    |>.ap (v.field fs "serial_socket_path" none v.path)
    |>.ap (v.field fs "ssh_forward_host" (some defaultForwardHost) v.text)
    |>.ap (v.field fs "ssh_forward_port" none (v.natural 1 (some 65535)))).but
      (v.unknown fs fieldNames)

/-- The fields of a machine. -/
def toFields (m : Machine) : Fields :=
  [("memory_mb", .int m.memory), ("cpu_cores", .int m.cores), ("accel", .text m.accelerator.name),
    ("machine", .text m.model), ("boot_image", .text m.bootImage.text),
    ("boot_image_format", .text m.bootFormat.name),
    ("disks", .list (m.disks.map (.record ·.toFields))),
    ("serial_socket_path", .text m.serialSocket.text), ("ssh_forward_host", .text m.forwardHost),
    ("ssh_forward_port", .int m.forwardPort)]

end Machine

end GuestLink
