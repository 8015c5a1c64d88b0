import Preflight.Binary64.Text
import Preflight.Json
import Preflight.Text

/-!
# Writing JSON text

Two layouts of one document: `Json.compact` on a single line without blanks, and `Json.pretty`
with one item or member per line, indented by two spaces a level; an empty list or record stays
`[]` or `{}` in both.
-/

namespace Preflight

namespace Json

/-! ## Strings -/

/-- One character inside a string: quotes, backslashes and control characters are escaped. -/
def escapeChar (c : Char) : String :=
  match c with
  | '"' => "\\\""
  | '\\' => "\\\\"
  | '\x08' => "\\b"
  | '\x0c' => "\\f"
  | '\n' => "\\n"
  | '\r' => "\\r"
  | '\t' => "\\t"
  | c => if c.toNat < 0x20 then "\\u" ++ hexText 4 c.toNat else c.toString

/-- A string with its quotes. -/
def quoteText (s : String) : String :=
  "\"" ++ String.join (s.toList.map escapeChar) ++ "\""

/-! ## Layouts -/

mutual

/-- A value on one line. -/
def compact : Json → String
  | .null => "null"
  | .bool b => if b then "true" else "false"
  | .int n => toString n
  | .float x => x.documentText
  | .text s => quoteText s
  | .list items => "[" ++ ",".intercalate (compactItems items) ++ "]"
  | .record members => "\x7b" ++ ",".intercalate (compactMembers members) ++ "\x7d"
  | .unreadable => "null"

/-- The items of a list, each on one line. -/
def compactItems : List Json → List String
  | [] => []
  | item :: items => compact item :: compactItems items

/-- The members of a record, each on one line. -/
def compactMembers : List (String × Json) → List String
  | [] => []
  | (name, value) :: members =>
    (quoteText name ++ ":" ++ compact value) :: compactMembers members

end

/-- The blanks before a line of the given nesting level. -/
def indent (level : Nat) : String := String.ofList (List.replicate (2 * level) ' ')

/-- Lines between an opening and a closing bracket, one level deeper than the brackets. -/
def bracketed (opening closing : String) (level : Nat) (lines : List String) : String :=
  if lines.isEmpty then opening ++ closing
  else
    opening ++ "\n" ++ ",\n".intercalate (lines.map (indent (level + 1) ++ ·)) ++ "\n"
      ++ indent level ++ closing

mutual

/-- A value over several lines, its first line already indented to `level`. -/
def prettyAt (level : Nat) : Json → String
  | .list items => bracketed "[" "]" level (prettyItems (level + 1) items)
  | .record members =>
    bracketed "\x7b" "\x7d" level (prettyMembers (level + 1) members)
  | other => compact other

/-- The items of a list, each over several lines. -/
def prettyItems (level : Nat) : List Json → List String
  | [] => []
  | item :: items => prettyAt level item :: prettyItems level items

/-- The members of a record, each over several lines. -/
def prettyMembers (level : Nat) : List (String × Json) → List String
  | [] => []
  | (name, value) :: members =>
    (quoteText name ++ ": " ++ prettyAt level value) :: prettyMembers level members

end

/-- A document over several lines. -/
def pretty (value : Json) : String := prettyAt 0 value

end Json

end Preflight
