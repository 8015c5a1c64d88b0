import Preflight.Binary64.Text
import Preflight.Settings.Path
import Preflight.Text
import Preflight.TextMap

/-!
# Settings from environment variables

A variable whose name begins with `HANGAR__`, in any letter case, is a setting; double underscores
stand for the points of its path.  The text of the variable is taken as a truth value or a number
where it reads as one.
-/

namespace Preflight

/-- The value that an environment variable's text stands for. -/
def environmentValue (text : String) : SettingValue :=
  let word := Text.toLower text
  if word = "true" then .bool true
  else if word = "false" then .bool false
  else
    match int64? 10 text.toList with
    | some n => .int n
    | none =>
      match Binary64.ofText? text with
      | some x => .float x
      | none => .text text

/-- Write double underscores as points. -/
def pointLevels : List Char → List Char
  | [] => []
  | '_' :: '_' :: cs => '.' :: pointLevels cs
  | c :: cs => c :: pointLevels cs

/-- The name of the setting that an environment variable gives, if it is one. -/
def settingName? (name : String) : Option String :=
  (dropLeading? "hangar__".toList (Text.toLower name).toList).map fun rest =>
    String.ofList (pointLevels rest)

/-- The settings among environment variables, in the order of the variables' names. -/
def environmentSettings (env : List (String × String)) : List (String × SettingTree) :=
  (TextMap.ofList env).entries.filterMap fun (name, text) =>
    (settingName? name).map fun setting =>
      (setting, .single (some "the environment") (environmentValue text))

end Preflight
