import Preflight.Binary64.Text
import Preflight.Json
import Preflight.Text
import Preflight.Text.LowerCase
import Preflight.Text.Quoted

/-!
# Setting trees

Settings are layered: built-in values, then a settings file, then environment variables.  A
`SettingTree` is what the layers amount to, each value with the place that it comes from.

`SettingTree.setMember` puts a value into a table under a name.  A table is not put there as it is
but laid over what stands there, member by member, so that members it does not mention are kept;
any other value takes the place of what stood there.  Names are in lower case once they are set,
so tables that differ in letter case only are one.
-/

namespace Preflight

/-! ## Values -/

/-- A single value among settings. -/
inductive SettingValue where
  | null
  | bool (value : Bool)
  | int (value : Int)
  | float (value : Binary64)
  | text (value : String)
  deriving DecidableEq, Repr, Inhabited

/-- A tree of settings.  Every part of it says where it comes from, unless it is built in or came
about when layers were put together. -/
inductive SettingTree where
  | single (origin : Option String) (value : SettingValue)
  | list (origin : Option String) (items : List SettingTree)
  | table (origin : Option String) (members : List (String × SettingTree))
  deriving Inhabited

namespace SettingTree

/-- The value of a place that nothing was put into. -/
def null : SettingTree := .single none .null

/-- The table of the given members. -/
def ofMembers (members : List (String × SettingTree)) : SettingTree := .table none members

mutual

/-- A JSON value whose members do not repeat.  Integers of more than 64 bits are rounded. -/
def ofJson (origin : Option String) : Json → SettingTree
  | .null => .single origin .null
  | .bool b => .single origin (.bool b)
  | .int n =>
    if fitsInt64 n then .single origin (.int n)
    else .single origin (.float (Binary64.ofRatio (n < 0) n.natAbs 1))
  | .float x => .single origin (.float x)
  | .text s => .single origin (.text s)
  | .list items => .list origin (ofJsonItems origin items)
  | .record members => .table origin (ofJsonMembers origin members)
  | .unreadable => .single origin .null

/-- `ofJson` of every item of a list. -/
def ofJsonItems (origin : Option String) : List Json → List SettingTree
  | [] => []
  | item :: items => ofJson origin item :: ofJsonItems origin items

/-- `ofJson` of every member of a record. -/
def ofJsonMembers (origin : Option String) : List (String × Json) → List (String × SettingTree)
  | [] => []
  | (name, value) :: members => (name, ofJson origin value) :: ofJsonMembers origin members

end

/-! ## Tables and lists -/

/-- The origin and the members of a tree.  One that is no table gives way to an empty table. -/
def asTable : SettingTree → Option String × List (String × SettingTree)
  | .table origin members => (origin, members)
  | _ => (none, [])

/-- The origin and the items of a tree.  One that is no list gives way to an empty list. -/
def asList : SettingTree → Option String × List SettingTree
  | .list origin items => (origin, items)
  | _ => (none, [])

/-- Replace the member of a name, or append it. -/
def put (name : String) (tree : SettingTree) (members : List (String × SettingTree)) :
    List (String × SettingTree) :=
  if members.any (·.1 == name) then
    members.map fun m => if m.1 == name then (name, tree) else m
  else members ++ [(name, tree)]

mutual

/-- Put a value into a tree under a name. -/
def setMember (tree : SettingTree) (name : String) : SettingTree → SettingTree
  | .table _ incoming =>
    let (origin, members) := tree.asTable
    let old := (List.lookup (Text.toLower name) members).getD (ofMembers [])
    .table origin (put (Text.toLower name) (setMembers old incoming) members)
  | value =>
    let (origin, members) := tree.asTable
    .table origin (put (Text.toLower name) value members)

/-- Put values into a tree under their names, one after the other. -/
def setMembers (tree : SettingTree) : List (String × SettingTree) → SettingTree
  | [] => tree
  | (name, value) :: members => setMembers (setMember tree name value) members

end

/-! ## Descriptions -/

/-- Where a tree comes from. -/
def origin : SettingTree → Option String
  | .single origin _ | .list origin _ | .table origin _ => origin

/-- How messages describe numbers. -/
structure NumberStyle where
  intWord : String
  /-- Whether a number of the type of fractions has a point even if it is whole. -/
  showsPoint : Bool
  deriving DecidableEq, Repr

/-- A value between backticks, after a word for its kind. -/
def describeAs (kind value : String) : String := kind ++ " `" ++ value ++ "`"

/-- The text of a truth value. -/
def boolText (b : Bool) : String := if b then "true" else "false"

/-- How messages describe a tree that is of the wrong type. -/
def describe (style : NumberStyle) : SettingTree → String
  | .single _ .null => "unit value"
  | .single _ (.bool b) => describeAs "boolean" (boolText b)
  | .single _ (.int n) => describeAs style.intWord (toString n)
  | .single _ (.float x) =>
    let digits := x.plainText
    describeAs "floating point"
      (if style.showsPoint && !digits.toList.contains '.' then digits ++ ".0" else digits)
  | .single _ (.text s) => "string " ++ Text.quoted s
  | .list _ _ => "sequence"
  | .table _ _ => "map"

/-! ## Defaults -/

/-- The built-in values. -/
def builtIn : SettingTree :=
  ofMembers [
    ("defaults", ofMembers [("wait_timeout", null), ("lease_timeout", null), ("vm_size", null),
      ("strategy", null)]),
    ("logging", ofMembers [("level", .single none (.text "warn")),
      ("json", .single none (.bool false))])]

end SettingTree

end Preflight
