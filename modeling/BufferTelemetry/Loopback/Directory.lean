import BufferTelemetry.AgentConfig

/-!
# A directory inside the program

A directory that holds at most one file, as a value, and what the system reports
when a path in it is read. A path is walked name by name. Of what lies around the
directory no more is known than that there are directories above it, up to a
root with the usual directories in it.
-/

namespace BufferTelemetry.Loopback

/-- A directory with at most one file. -/
structure Directory where
  /-- The name and the bytes of the file. -/
  file : Option (String × List UInt8)

/-- Where a walk along a path has arrived. -/
inductive Spot where
  /-- At the directory. -/
  | inside
  /-- At a directory around it. -/
  | outside
  /-- At the root. -/
  | root
  /-- At the file. -/
  | file (bytes : List UInt8)

/-- Why a path leads to nothing that can be read. -/
inductive PathError where
  | missing
  | directory
  | notDirectory
  | tooLong
  | zeroByte
  deriving DecidableEq, Repr

/-- What the system reports. -/
def PathError.message : PathError → String
  | .missing => "No such file or directory (os error 2)"
  | .directory => "Is a directory (os error 21)"
  | .notDirectory => "Not a directory (os error 20)"
  | .tooLong => "File name too long (os error 36)"
  | .zeroByte => "file name contained an unexpected NUL byte"

namespace Directory

/-- The greatest number of bytes of a name in a path. -/
def maxName : Nat := 255

/-- The greatest number of bytes of a path. -/
def maxPath : Nat := 4095

/-- The directories that every root holds. -/
def rootNames : List String :=
  ["bin", "boot", "dev", "etc", "home", "lib", "media", "mnt", "opt", "proc", "root", "run",
    "sbin", "srv", "sys", "tmp", "usr", "var"]

/-- Walks to the entry with the given name. -/
def lookup (d : Directory) (name : String) : Spot → Except PathError Spot
  | .inside =>
    match d.file with
    | some (file, bytes) => if name = file then .ok (.file bytes) else .error .missing
    | none => .error .missing
  | .root => if rootNames.contains name then .ok .outside else .error .missing
  | _ => .error .missing

/-- Walks one name further. -/
def enter (d : Directory) (spot : Spot) (name : String) : Except PathError Spot :=
  match spot with
  | .file _ => .error .notDirectory
  | spot =>
    if name = "" ∨ name = "." then .ok spot
    else if name = ".." then
      match spot with
      | .root => .ok .root
      | _ => .ok .outside
    else if maxName < name.utf8ByteSize then .error .tooLong
    else d.lookup name spot

/-- Walks along a path. -/
def walk (d : Directory) (path : String) : Except PathError Spot :=
  let names := (path.toList.splitOn '/').map String.ofList
  if path.toList.contains (Char.ofNat 0) then .error .zeroByte
  else if path = "" then .error .missing
  else if maxPath < path.utf8ByteSize then .error .tooLong
  else names.foldlM d.enter (if names.head? = some "" then .root else .inside)

/-- Reads the file behind a path. -/
def read (d : Directory) (path : String) : FileContents :=
  match d.walk path with
  | .ok (.file bytes) => .bytes bytes
  | .ok _ => .unreadable PathError.directory.message
  | .error .missing => .missing
  | .error e => .unreadable e.message

/-- Whether a path leads to the file. -/
def reaches (d : Directory) (path : String) : Bool :=
  match d.walk path with
  | .ok (.file _) => true
  | _ => false

end Directory

end BufferTelemetry.Loopback
