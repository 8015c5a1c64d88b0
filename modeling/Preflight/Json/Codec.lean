import Preflight.Json
import Preflight.TextMap

/-!
# Encoding and decoding

`Codec α` gives the JSON form of a type: `encode` writes a value, `decode` reads it back or
answers `none` when the document has another shape.

A record decodes from its members by name, in any order, members of other names being ignored.
It also decodes from a list of its fields in their declared order, from which a tail of fields
with a default may be missing.  `Json.members?` brings both forms to a list of named members;
`required` and `withDefault` then pick a field.  A field that a document names twice is an error,
whereas a map takes the last value of a repeated key.
-/

namespace Preflight

/-- The JSON form of a type. -/
class Codec (α : Type) where
  encode : α → Json
  decode : Json → Option α

export Codec (encode decode)

/-! ## Basic types -/

instance : Codec String where
  encode := .text
  decode
    | .text s => some s
    | _ => none

instance : Codec Bool where
  encode := .bool
  decode
    | .bool b => some b
    | _ => none

/-- Read a natural number below a bound. -/
def decodeNatBelow (bound : Nat) : Json → Option Nat
  | .int n => if 0 ≤ n && n < bound then some n.toNat else none
  | _ => none

instance : Codec UInt64 where
  encode n := .int n.toNat
  decode j := (decodeNatBelow UInt64.size j).map UInt64.ofNat

instance : Codec UInt32 where
  encode n := .int n.toNat
  decode j := (decodeNatBelow UInt32.size j).map UInt32.ofNat

/-- Counts are natural numbers below `2 ^ 64`. -/
instance : Codec Nat where
  encode n := .int n
  decode := decodeNatBelow UInt64.size

/-- Any document that is readable throughout; of repeated members the last one counts. -/
instance : Codec Json where
  encode := id
  decode j := if j.isReadable then some j.dropRepeated else none

instance {α : Type} [Codec α] : Codec (Option α) where
  encode
    | none => .null
    | some a => Codec.encode a
  decode
    | .null => some none
    | j => (Codec.decode j).map some

/-- Decode every item of a list. -/
def decodeItems {α : Type} [Codec α] : List Json → Option (List α)
  | [] => some []
  | item :: items => do
    let a ← decode item
    let as ← decodeItems items
    some (a :: as)

instance {α : Type} [Codec α] : Codec (List α) where
  encode as := .list (as.map encode)
  decode
    | .list items => decodeItems items
    | _ => none

/-- Decode the value of every member of a map. -/
def decodeEntries {α : Type} [Codec α] : List (String × Json) → Option (List (String × α))
  | [] => some []
  | (key, item) :: members => do
    let a ← decode item
    let entries ← decodeEntries members
    some ((key, a) :: entries)

instance {α : Type} [Codec α] : Codec (TextMap α) where
  encode m := .record (m.entries.map fun e => (e.1, encode e.2))
  decode
    | .record members => (decodeEntries members).map TextMap.ofList
    | _ => none

/-! ## Records -/

/-- The members of a record, given by name or as a list of fields in declared order.  At least
the first `leading` fields must stand in a list. -/
def Json.members? (fields : List String) (leading : Nat) : Json → Option (List (String × Json))
  | .record members => some members
  | .list items =>
    if leading ≤ items.length && items.length ≤ fields.length then some (fields.zip items)
    else none
  | _ => none

/-- The value of a field: absent, given once, or repeated. -/
inductive FieldValue where
  | absent
  | given (value : Json)
  | repeated

/-- Look a field up among the members of a record. -/
def fieldValue (members : List (String × Json)) (name : String) : FieldValue :=
  match members.filter (·.1 == name) with
  | [] => .absent
  | [(_, value)] => .given value
  | _ => .repeated

/-- The value of a field that must be there. -/
def required {α : Type} [Codec α] (members : List (String × Json)) (name : String) : Option α :=
  match fieldValue members name with
  | .given value => decode value
  | _ => none

/-- The value of a field that may be left out. -/
def withDefault {α : Type} [Codec α] (members : List (String × Json)) (name : String)
    (default : α) : Option α :=
  match fieldValue members name with
  | .absent => some default
  | .given value => decode value
  | .repeated => none

/-! ## Enumerations -/

/-- The name of an enumeration value: a string, or a record whose one member has that name and
the value null. -/
def variantName? : Json → Option String
  | .text s => some s
  | .record [(name, .null)] => some name
  | _ => none

/-- Decode an enumeration from a table of its values and their names. -/
def decodeVariant {α : Type} (names : List (String × α)) (j : Json) : Option α :=
  (variantName? j).bind fun name => List.lookup name names

end Preflight
