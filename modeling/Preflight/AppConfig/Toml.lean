import Preflight.AppConfig
import Preflight.Toml.Reader

/-!
# Configurations in TOML

The configuration of an application is kept in a TOML file.  It decodes from the JSON form of the
document, with one difference: where a list of fields stands for a record, further items are
ignored.
-/

namespace Preflight

namespace AppConfig

/-- Cut a list that stands for a record of `count` fields to that length. -/
def clipRecord (count : Nat) : Json → Json
  | .list items => .list (items.take count)
  | other => other

/-- Cut the lists that stand for records inside a configuration. -/
def clipMember : String × Json → String × Json
  | ("deploy", value) => ("deploy", clipRecord 2 value)
  | ("mounts", .list items) => ("mounts", .list (items.map (clipRecord 3)))
  | other => other

/-- Read a configuration. -/
def ofToml? (text : String) : Option AppConfig := do
  let members ← Toml.parse? text
  decode (.record ((Toml.toJsonMembers Toml.markedDate members).map clipMember))

end AppConfig

end Preflight
