import Preflight.Binary64

/-!
# JSON values

The value a JSON document stands for.  Members of a record keep the order of the document, and a
document may repeat a member; what a repeated member means is decided by whoever decodes it.

A document can be well-formed and still hold parts that stand for no value: a string with an
unpaired surrogate escape, a number beyond the range of binary64, or a list or record that is
nested too deep.  Such a part reads as `Json.unreadable`, from which nothing decodes, so it does
no harm where nobody looks.
-/

namespace Preflight

/-- A JSON value. -/
inductive Json where
  | null
  | bool (value : Bool)
  /-- A number without fraction or exponent, between `-2 ^ 63` and `2 ^ 64 - 1`. -/
  | int (value : Int)
  /-- Any other number. -/
  | float (value : Binary64)
  | text (value : String)
  | list (items : List Json)
  /-- Members by name, in document order. -/
  | record (members : List (String × Json))
  /-- A part of a document that stands for no value. -/
  | unreadable
  deriving Inhabited, Repr

namespace Json

/-! ## Structure -/

mutual

/-- Whether every part of a value can be read. -/
def isReadable : Json → Bool
  | .list items => areReadable items
  | .record members => haveReadable members
  | .unreadable => false
  | _ => true

/-- Whether every item of a list can be read. -/
def areReadable : List Json → Bool
  | [] => true
  | item :: items => isReadable item && areReadable items

/-- Whether every member of a record can be read. -/
def haveReadable : List (String × Json) → Bool
  | [] => true
  | (_, value) :: members => isReadable value && haveReadable members

end

mutual

/-- A value with the lists and records that are nested more than `depth` deep made unreadable. -/
def limitDepth : Nat → Json → Json
  | 0, .list _ => .unreadable
  | 0, .record _ => .unreadable
  | depth + 1, .list items => .list (limitItems depth items)
  | depth + 1, .record members => .record (limitMembers depth members)
  | _, other => other

/-- `limitDepth` of every item of a list. -/
def limitItems : Nat → List Json → List Json
  | _, [] => []
  | depth, item :: items => limitDepth depth item :: limitItems depth items

/-- `limitDepth` of every member of a record. -/
def limitMembers : Nat → List (String × Json) → List (String × Json)
  | _, [] => []
  | depth, (name, value) :: members =>
    (name, limitDepth depth value) :: limitMembers depth members

end

mutual

/-- Drop every member that a later member of the same record repeats. -/
def dropRepeated : Json → Json
  | .list items => .list (dropRepeatedItems items)
  | .record members => .record (dropRepeatedMembers members)
  | other => other

/-- `dropRepeated` of every item of a list. -/
def dropRepeatedItems : List Json → List Json
  | [] => []
  | item :: items => dropRepeated item :: dropRepeatedItems items

/-- `dropRepeated` of the members of a record that are not repeated later. -/
def dropRepeatedMembers : List (String × Json) → List (String × Json)
  | [] => []
  | (name, value) :: members =>
    if members.any (·.1 == name) then dropRepeatedMembers members
    else (name, dropRepeated value) :: dropRepeatedMembers members

end

/-- The member of a record with the given name; the last one when the name is repeated. -/
def member? (name : String) : Json → Option Json
  | .record members => (members.reverse.find? (·.1 == name)).map (·.2)
  | _ => none

end Json

end Preflight
