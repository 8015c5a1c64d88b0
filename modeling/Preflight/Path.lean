import Preflight.Text

/-!
# Paths of files

A path names a file relative to a directory, component by component.  Empty components and `.`
stay where they are, so they change nothing about the place a path leads to.
-/

namespace Preflight

namespace Path

/-- What stands between the slashes of a path. -/
def steps (path : String) : List String := (splitParts '/' path.toList).map String.ofList

/-- Whether a step stays where it is. -/
def stays (step : String) : Bool := step == "" || step == "."

/-- The components of a path, without those that change nothing. -/
def components (path : String) : List String := (steps path).filter fun step => !stays step

/-- A path without the components that change nothing. -/
def clean (path : String) : String := "/".intercalate (components path)

/-- Whether a path does not start from the current directory. -/
def isAbsolute (path : String) : Bool := path.toList.head? == some '/'

/-- A path with a suffix on the file name that it ends in.  There is none if the path ends in no
file name, as `..` does. -/
def withSuffix? (path suffix : String) : Option String :=
  match (steps path).reverse.dropWhile stays with
  | [] => none
  | name :: above =>
    if name = ".." then none else some ("/".intercalate ((name ++ suffix) :: above).reverse)

/-- The extension of a file name: what follows the last dot, unless only that dot begins it. -/
def extension? (path : String) : Option String :=
  let name := ((splitParts '/' path.toList).getLast?).getD []
  match (splitParts '.' name).reverse with
  | last :: before :: rest =>
    if before.isEmpty && rest.isEmpty then none else some (String.ofList last)
  | _ => none

end Path

end Preflight
