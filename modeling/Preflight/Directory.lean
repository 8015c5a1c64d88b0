import Preflight.Path
import Preflight.TextMap

/-!
# Directories kept in memory

`Directory.read` reads a file of a directory whose files are kept as texts by their paths.  It
follows a path step by step: only a directory can be stepped through, so a path that goes on after
a file, if only with a slash, leads nowhere.  Of what lies outside the directory nothing is known
but that directories are above it and where an empty file is.
-/

namespace Preflight

/-- Why a file could not be read. -/
inductive ReadError where
  | notFound
  | isDirectory
  | notADirectory
  | nameTooLong
  | other (reason : String)
  deriving DecidableEq, Repr

/-- The wording of the error. -/
def ReadError.message : ReadError → String
  | .notFound => "No such file or directory (os error 2)"
  | .isDirectory => "Is a directory (os error 21)"
  | .notADirectory => "Not a directory (os error 20)"
  | .nameTooLong => "File name too long (os error 36)"
  | .other reason => reason

/-- The files of a directory and of those below it, by their paths. -/
abbrev Directory := TextMap String

namespace Directory

/-! ## Places -/

/-- A place that a path leads to. -/
inductive Place where
  | file (text : String)
  /-- A directory by the names that lead to it, the last one first. -/
  | inside (names : List String)
  /-- A directory that is not among those kept in memory. -/
  | outside
  deriving DecidableEq, Repr

/-- The directory above a place that is one. -/
def Place.above : Place → Place
  | .inside (_ :: names) => .inside names
  | _ => .outside

/-- The longest name that a file can have, in bytes. -/
def maxNameSize : Nat := 255

/-- The longest path that is followed, in bytes. -/
def maxPathSize : Nat := 4095

variable (d : Directory)

/-- Look a name up in a directory, whose own names are given with the last one first. -/
def lookUp (names : List String) (name : String) : Except ReadError Place :=
  let parts := (name :: names).reverse
  match d.entries.find? fun e => Path.components e.1 == parts with
  | some (_, text) => .ok (.file text)
  | none =>
    if d.keys.any fun file => parts.isPrefixOf (Path.components file) then
      .ok (.inside (name :: names))
    else .error .notFound

/-- Take one step from a place. -/
def step (place : Place) (name : String) : Except ReadError Place :=
  match place with
  | .file _ => .error .notADirectory
  | place =>
    if Path.stays name then .ok place
    else if name = ".." then .ok place.above
    else if name.utf8ByteSize > maxNameSize then .error .nameTooLong
    else
      match place with
      | .inside names => d.lookUp names name
      | _ => .error .notFound

/-- The place that a path leads to. -/
def resolve (path : String) : Except ReadError Place :=
  if path = "" then .error .notFound
  else if path.utf8ByteSize > maxPathSize then .error .nameTooLong
  else (Path.steps path).foldlM d.step (if Path.isAbsolute path then .outside else .inside [])

/-- The path of a file that is empty wherever the directory stands. -/
def emptyFile : String := "/dev/null"

/-- Read a file. -/
def read (path : String) : Except ReadError String := do
  if path = emptyFile then return ""
  match ← d.resolve path with
  | .file text => return text
  | _ => throw .isDirectory

end Directory

end Preflight
