import GuestLink.HostKey
import GuestLink.Path

/-!
# Host keys in a file

`HostKeys.load` reads a table from a file in the format of a key scan.  Paths are looked up in a
`Directory`, from which a path is followed component by component.
-/

namespace GuestLink

/-- A directory: the files and the empty directories below it, by their paths from there. -/
structure Directory where
  files : List (String × Bytes)
  directories : List String

namespace Directory

/-- The paths that a name leads along from `path` on, last component first. -/
def trail (path : List String) : List String → List (List String)
  | [] => []
  | name :: rest =>
    let next := if name = ".." then path.tail else name :: path
    next :: trail next rest

/-- The paths that a name leads along from the directory itself. -/
def trailOf (name : String) : List String :=
  (trail [] ((Path.components name.toList).map String.ofList)).map fun path =>
    "/".intercalate path.reverse

/-- The directory in which files and directories of the given names were made, with all directories
on the way to them.  Of two files at one place the later one is there. -/
def ofNames (files : List (String × Bytes)) (directories : List String) : Directory where
  files := (files.map fun f => ((trailOf f.1).getLastD "", f.2)).reverse
  directories := directories.flatMap trailOf ++ files.flatMap fun f => (trailOf f.1).dropLast

/-- Where a path has led so far. -/
inductive Spot where
  /-- The directory itself, or the one below it with that path, last component first. -/
  | inside (path : List String)
  /-- A directory outside, of which nothing is known. -/
  | outside
  /-- A file. -/
  | file (content : Bytes)

/-- Why a file cannot be read, by the error number of the operating system. -/
inductive Refusal where
  | notFound
  | notDirectory
  | isDirectory
  | nameTooLong
  deriving DecidableEq, Repr

/-- The error number. -/
def Refusal.number : Refusal → Nat
  | .notFound => 2
  | .notDirectory => 20
  | .isDirectory => 21
  | .nameTooLong => 36

/-- The kind of incident. -/
def Refusal.kind : Refusal → Incident.Kind
  | .notFound => .notFound
  | .notDirectory => .notDirectory
  | .isDirectory => .isDirectory
  | .nameTooLong => .os

/-- The refusal in words. -/
def Refusal.message : Refusal → String
  | .notFound => "No such file or directory"
  | .notDirectory => "Not a directory"
  | .isDirectory => "Is a directory"
  | .nameTooLong => "File name too long"

/-- The greatest number of bytes in a component of a path. -/
def maxName : Nat := 255

/-- The greatest number of bytes in a path. -/
def maxPath : Nat := 4095

/-- Whether there is a directory with that path below. -/
def hasDirectory (d : Directory) (path : String) : Bool :=
  (d.directories ++ d.files.map (·.1)).any fun p =>
    (path ++ "/").toList.isPrefixOf (p ++ "/").toList

/-- Where a component leads from a spot. -/
def step (d : Directory) (spot : Spot) (name : String) : Except Refusal Spot :=
  match spot with
  | .file _ => .error .notDirectory
  | .inside path =>
    if name = ".." then
      match path with
      | [] => .ok .outside
      | _ :: parent => .ok (.inside parent)
    else if maxName < (utf8 name).length then .error .nameTooLong
    else
      let below := "/".intercalate (name :: path).reverse
      match d.files.lookup below with
      | some content => .ok (.file content)
      | none => if d.hasDirectory below then .ok (.inside (name :: path)) else .error .notFound
  | .outside =>
    if name = ".." then .ok .outside
    else if maxName < (utf8 name).length then .error .nameTooLong
    else .error .notFound

/-- The content of the file at `path`. -/
def read (d : Directory) (path : Path) : Except Refusal Bytes := do
  let cs := path.text.toList
  if maxPath < (utf8 path.text).length then throw .nameTooLong
  let start := if cs.head? = some '/' then .outside else .inside []
  match ← ((Path.components cs).map String.ofList).foldlM d.step start with
  | .file content => return content
  | .inside _ | .outside => throw .isDirectory

end Directory

namespace HostKeys

/-- Why a table cannot be read from a file. -/
inductive LoadFault where
  /-- The path holds the character that ends paths. -/
  | nullInPath
  | refused (path : Path) (refusal : Directory.Refusal)
  | scan (fault : ScanFault)

/-- The failure that a fault makes. -/
def LoadFault.failure : LoadFault → Failure
  | .nullInPath => .incident ⟨.value, "embedded null byte"⟩
  | .refused path refusal =>
    let text := s!"[Errno {refusal.number}] " ++ refusal.message ++ ": " ++ Text.quoted path.text
    .report (.make .hostKeyFormat (.text ("read host key file: " ++ text)) []
      [("path", .text path.text)] (some (.incident ⟨refusal.kind, text⟩)))
  | .scan fault => fault.failure

/-- The table that the file at `path` pins. -/
def load (d : Directory) (path : Path) : Except LoadFault HostKeys := do
  if path.text.toList.contains '\x00' then throw .nullInPath
  let content ← (d.read path).mapError (.refused path)
  (parse content).mapError .scan

end HostKeys

end GuestLink
