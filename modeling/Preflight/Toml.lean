import Preflight.Binary64
import Preflight.Json

/-!
# TOML values

The value a TOML document stands for.  A date or time is kept as its text in one fixed form.

Configurations and settings are decoded from documents of several formats by the same rules, so a
TOML value has a JSON form (`Toml.toJson`).  What a date or time becomes there is up to the reader
of the document: its text, or a record with one reserved member, which no field matches.
-/

namespace Preflight

/-- A TOML value. -/
inductive Toml where
  | text (value : String)
  | int (value : Int)
  | float (value : Binary64)
  | bool (value : Bool)
  /-- A date, a time, or both. -/
  | datetime (text : String)
  | list (items : List Toml)
  | table (members : List (String × Toml))
  deriving Inhabited, Repr

namespace Toml

mutual

/-- The JSON form of a value, given that of dates and times. -/
def toJson (date : String → Json) : Toml → Json
  | .text s => .text s
  | .int n => .int n
  | .float x => .float x
  | .bool b => .bool b
  | .datetime s => date s
  | .list items => .list (toJsonItems date items)
  | .table members => .record (toJsonMembers date members)

/-- The JSON forms of the items of a list. -/
def toJsonItems (date : String → Json) : List Toml → List Json
  | [] => []
  | item :: items => toJson date item :: toJsonItems date items

/-- The JSON forms of the members of a table. -/
def toJsonMembers (date : String → Json) : List (String × Toml) → List (String × Json)
  | [] => []
  | (name, value) :: members => (name, toJson date value) :: toJsonMembers date members

end

/-- A date or time as a record of its own kind. -/
def markedDate (text : String) : Json := .record [("$__toml_private_datetime", .text text)]

end Toml

end Preflight
