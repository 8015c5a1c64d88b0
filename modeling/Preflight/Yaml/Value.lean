import Preflight.Binary64.Text
import Preflight.Json
import Preflight.Text

/-!
# YAML values

The value that a YAML document stands for.  Numbers with a fraction or an exponent are kept as
they are written, for some of the ways to write infinity and the like have no other meaning.

`Yaml.ofPlain` says what text without quotes stands for, and `Yaml.ofTagged` what it stands for
under a tag.
-/

namespace Preflight

/-- A YAML value. -/
inductive Yaml where
  | null
  | bool (value : Bool)
  | int (value : Int)
  /-- A number that is not an integer of 64 bits, as it is written. -/
  | real (text : String)
  | text (value : String)
  | list (items : List Yaml)
  /-- Members by name, in document order. -/
  | record (members : List (String × Yaml))
  deriving Inhabited, Repr

namespace Yaml

/-! ## Plain text -/

/-- Whether text stands for a number that is not an integer. -/
def isReal (s : String) : Bool :=
  s ∈ [".inf", ".Inf", ".INF", "+.inf", "+.Inf", "+.INF", "-.inf", "-.Inf", "-.INF", ".nan",
    ".NAN"] || (Binary64.ofText? s).isSome

/-- The integer that text stands for, after a mark for its base or a plus sign if there is one. -/
def integer? (cs : List Char) : Option Int :=
  let marked := match cs with
    | '0' :: 'x' :: digits => int64? 16 digits
    | '0' :: 'o' :: digits => int64? 8 digits
    | '+' :: digits => int64? 10 digits
    | _ => none
  marked.or (int64? 10 cs)

/-- The value of plain text. -/
def ofPlain (s : String) : Yaml :=
  if s = "~" || s = "null" then .null
  else if s = "true" then .bool true
  else if s = "false" then .bool false
  else
    match integer? s.toList with
    | some n => .int n
    | none => if isReal s then .real s else .text s

/-- The types that a tag can demand. -/
inductive TagType where
  | bool
  | int
  | real
  | null
  | text
  deriving DecidableEq, Repr

/-- The value of plain text of a type, null if it is not of that type. -/
def ofTagged (type : TagType) (s : String) : Yaml :=
  match type with
  | .bool => if s = "true" then .bool true else if s = "false" then .bool false else .null
  | .int =>
    match int64? 10 s.toList with
    | some n => .int n
    | none => .null
  | .real => if isReal s then .real s else .null
  | .null => .null
  | .text => .text s

/-! ## Members -/

/-- The name of the member that a key gives; only texts and integers are keys. -/
def keyName? : Yaml → Option String
  | .text s => some s
  | .int n => some (toString n)
  | _ => none

/-! ## JSON -/

mutual

/-- The JSON value of a YAML value.  The error is a number that has none. -/
def toJson : Yaml → Except String Json
  | .null => .ok .null
  | .bool b => .ok (.bool b)
  | .int n => .ok (.int n)
  | .real s =>
    match Binary64.ofText? s with
    | some x => .ok (.float x)
    | none => .error s
  | .text s => .ok (.text s)
  | .list items => (toJsonItems items).map .list
  | .record members => (toJsonMembers members).map .record

/-- `toJson` of every item of a list. -/
def toJsonItems : List Yaml → Except String (List Json)
  | [] => .ok []
  | item :: items => do return (← toJson item) :: (← toJsonItems items)

/-- `toJson` of every member of a record. -/
def toJsonMembers : List (String × Yaml) → Except String (List (String × Json))
  | [] => .ok []
  | (name, value) :: members => do return (name, ← toJson value) :: (← toJsonMembers members)

end

end Yaml

end Preflight
