import Preflight.Toml

/-!
# Tables under construction

A TOML document builds its root table line by line: headers open tables and append to arrays of
tables, and keys, possibly dotted, add values.  A table that only came into being on the way to
another one may still be opened by a header of its own, once; a table made by dotted keys may
only grow by further dotted keys.  `Members.insertValue?`, `Members.openTable?` and
`Members.appendTable?` are the three kinds of lines; each answers `none` for a line that these
rules forbid.
-/

namespace Preflight

namespace Toml

/-- A part of a table under construction. -/
inductive Node where
  | value (v : Toml)
  /-- A table; `implicit` when it was only passed through so far, `dotted` when dotted keys made
  it. -/
  | table (implicit dotted : Bool) (members : List (String × Node))
  /-- An array of tables, never empty; the last one is under construction. -/
  | tables (items : List (List (String × Node)))
  deriving Inhabited

/-- The members of a table under construction. -/
abbrev Members := List (String × Node)

namespace Members

/-- Replace the member of a name, or append it. -/
def put (ms : Members) (name : String) (node : Node) : Members :=
  if ms.any (·.1 == name) then
    ms.map fun (n, old) => if n == name then (n, node) else (n, old)
  else ms ++ [(name, node)]

/-- Edit the table at a path, passing through tables and through the last table of arrays and
making the tables that are missing.  `edit` is told whether the table it edits was made by dotted
keys.  A dotted path may not pass through a table that a header opened. -/
def editAt? (dotted : Bool) (edit : Bool → Members → Option Members) :
    List String → Bool → Members → Option Members
  | [], madeDotted, ms => edit madeDotted ms
  | name :: path, _, ms =>
    match List.lookup name ms with
    | none => (editAt? dotted edit path dotted []).map fun sub =>
        put ms name (.table true dotted sub)
    | some (.value _) => none
    | some (.tables items) =>
      match items.getLast? with
      | none => none
      | some last => (editAt? dotted edit path false last).map fun sub =>
          put ms name (.tables (items.dropLast ++ [sub]))
    | some (.table implicit madeDotted sub) =>
      if dotted && !implicit then none
      else (editAt? dotted edit path madeDotted sub).map fun sub =>
        put ms name (.table implicit madeDotted sub)

/-- Add a value under a dotted key to the table that is open. -/
def insertDotted? (path : List String) (name : String) (node : Node) (ms : Members) :
    Option Members :=
  editAt? true (fun madeDotted ms =>
    if madeDotted == path.isEmpty then none
    else if ms.any (·.1 == name) then none
    else some (ms ++ [(name, node)])) path false ms

/-- Add a value under a dotted key to the table that the last header opened. -/
def insertValue? (header path : List String) (name : String) (v : Toml) (ms : Members) :
    Option Members :=
  editAt? false (fun _ ms => insertDotted? path name (.value v) ms) header false ms

/-- Open a table by a header. -/
def openTable? (path : List String) (name : String) (ms : Members) : Option Members :=
  editAt? false (fun _ ms =>
    match List.lookup name ms with
    | none => some (put ms name (.table false false []))
    | some (.table true false sub) => some (put ms name (.table false false sub))
    | some _ => none) path false ms

/-- Append a table to an array of tables by a header. -/
def appendTable? (path : List String) (name : String) (ms : Members) : Option Members :=
  editAt? false (fun _ ms =>
    match List.lookup name ms with
    | none => some (put ms name (.tables [[]]))
    | some (.tables items) => some (put ms name (.tables (items ++ [[]])))
    | some _ => none) path false ms

end Members

mutual

/-- The value of a finished node. -/
def Node.finish : Node → Toml
  | .value v => v
  | .table _ _ members => .table (finishMembers members)
  | .tables items => .list (finishTables items)

/-- The values of finished members. -/
def finishMembers : List (String × Node) → List (String × Toml)
  | [] => []
  | (name, node) :: members => (name, node.finish) :: finishMembers members

/-- The values of finished tables. -/
def finishTables : List (List (String × Node)) → List Toml
  | [] => []
  | members :: items => .table (finishMembers members) :: finishTables items

end

end Toml

end Preflight
