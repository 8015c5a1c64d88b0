import Preflight.Json
import Preflight.Yaml.Scalar

/-!
# Writing YAML text

A JSON value as a YAML document in block style.  Lists under a key are not indented further, and
the first member of a record in a list follows its dash.
-/

namespace Preflight

namespace Yaml

/-- Text that is written after a key or a dash: on the same line, or below it. -/
inductive Layout where
  | inline (text : String)
  | below (text : String)

/-- Text with a line end after it, unless it ends a line itself, as a block of lines may. -/
def endLine (text : String) : String :=
  if text.toList.getLast?.any isBreak then text else text ++ "\n"

/-- Join a key with its value. -/
def Layout.after (key : String) : Layout → String
  | .inline text => key ++ " " ++ endLine text
  | .below text => key ++ "\n" ++ text

mutual

/-- A value under a key, its lines indented by `indent` for lists and by two more for records. -/
def layout (indent : Nat) : Json → Layout
  | .null => .inline "null"
  | .bool b => .inline (if b then "true" else "false")
  | .int n => .inline (toString n)
  | .float x => .inline x.plainText
  | .text s => .inline (scalar (indent + 2) s)
  | .list [] => .inline "[]"
  | .list items => .below (layoutItems indent items)
  | .record [] => .inline "\x7b\x7d"
  | .record members => .below (layoutMembers (indent + 2) members)
  | .unreadable => .inline "null"

/-- The items of a list, each after a dash.  The first line of a record follows its dash. -/
def layoutItems (indent : Nat) : List Json → String
  | [] => ""
  | item :: items =>
    let text := match item with
      | .record (m :: members) =>
        blanks indent ++ "- "
          ++ String.ofList ((layoutMembers (indent + 2) (m :: members)).toList.drop (indent + 2))
      | other => (layout indent other).after (blanks indent ++ "-")
    text ++ layoutItems indent items

/-- The members of a record, each on a line of its own. -/
def layoutMembers (indent : Nat) : List (String × Json) → String
  | [] => ""
  | (name, value) :: members =>
    (layout indent value).after (blanks indent ++ scalar indent name ++ ":")
      ++ layoutMembers indent members

end

/-- A document. -/
def render : Json → String
  | .record (m :: members) => layoutMembers 0 (m :: members)
  | .list (item :: items) => layoutItems 0 (item :: items)
  | other =>
    match layout 0 other with
    | .inline text => endLine text
    | .below text => text

end Yaml

end Preflight
