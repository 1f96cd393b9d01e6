import GuestLink.Check.Validation

/-!
# Settings

How the library runs: which emulator, how long it waits for the guest, and as whom it logs in.
Settings come from the environment, where their names are in any case behind a common first part,
and from explicit fields, which win.
-/

namespace GuestLink

/-- How the library runs.  Times are in seconds. -/
structure Settings where
  /-- The emulator's program file. -/
  emulator : Path
  /-- How long the guest may take over the setup command. -/
  setupTimeout : Binary64
  /-- How long the guest may take over the key-scan command. -/
  scanTimeout : Binary64
  /-- The user to log in as. -/
  user : String
  /-- How long connecting may take. -/
  connectTimeout : Binary64
  deriving DecidableEq, Repr

namespace Settings

/-- The names of the settings. -/
def fieldNames : List String :=
  ["qemu_bin", "serial_command_timeout_seconds", "keyscan_timeout_seconds", "ssh_user",
    "ssh_connect_timeout_seconds"]

/-- What the names of settings begin with in the environment, in lower case. -/
def environmentStem : String := "vmshuttle_"

/-- The time the guest may take over a serial command by default. -/
def defaultCommandTimeout : Binary64 := .ofInt 5

/-- The time that connecting may take by default. -/
def defaultConnectTimeout : Binary64 := .ofInt 10

/-- The user to log in as by default. -/
def defaultUser : String := "root"

/-- The lower case of a character, as far as that is a letter in the name of a setting.  The sign of
the unit kelvin has a letter of that set as its lower case. -/
def lowerChar (c : Char) : Char := if c = '\u212a' then 'k' else c.toLower

/-- Whether `given` differs from `name`, which is in lower case, in case at most. -/
def matchesName (name given : String) : Bool := given.toList.map lowerChar == name.toList

/-- The explicit datum for the setting `name`: the first one of that name. -/
def explicit? (fields : Fields) (name : String) : Option Datum :=
  (fields.find? fun f => matchesName name f.1).map (·.2)

/-- The text that the environment gives for the setting `name`: the last one of that name. -/
def fromEnvironment? (environment : List (String × String)) (name : String) : Option Datum :=
  (environment.reverse.find? fun v => matchesName (environmentStem ++ name) v.1).map (.text ·.2)

/-- The data of all settings that are given, each under its name. -/
def given (environment : List (String × String)) (fields : Fields) : Fields :=
  fieldNames.filterMap fun name =>
    (explicit? fields name <|> fromEnvironment? environment name).map (name, ·)

/-- The settings where nothing else is given. -/
def default : Settings :=
  { emulator := .ofText "/usr/bin/qemu-system-x86_64"
    setupTimeout := defaultCommandTimeout
    scanTimeout := defaultCommandTimeout
    user := defaultUser
    connectTimeout := defaultConnectTimeout }

/-- Checks the fields of settings. -/
def ofFields (v : Validation) (fs : Fields) : Checked Settings :=
  (Checked.ok Settings.mk)
    |>.ap (v.field fs "qemu_bin" (some default.emulator) v.path)
    |>.ap (v.field fs "serial_command_timeout_seconds" (some default.setupTimeout) v.positive)
    |>.ap (v.field fs "keyscan_timeout_seconds" (some default.scanTimeout) v.positive)
    |>.ap (v.field fs "ssh_user" (some default.user) v.text)
    |>.ap (v.field fs "ssh_connect_timeout_seconds" (some default.connectTimeout) v.positive)

/-- The settings that an environment and explicit fields give together. -/
def load (v : Validation) (environment : List (String × String)) (fields : Fields) :
    Checked Settings :=
  ofFields v (given environment fields)

/-- The fields of settings. -/
def toFields (s : Settings) : Fields :=
  [("qemu_bin", .text s.emulator.text),
    ("serial_command_timeout_seconds", .float s.setupTimeout),
    ("keyscan_timeout_seconds", .float s.scanTimeout), ("ssh_user", .text s.user),
    ("ssh_connect_timeout_seconds", .float s.connectTimeout)]

end Settings

end GuestLink
