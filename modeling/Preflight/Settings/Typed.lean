import Preflight.Settings
import Preflight.Settings.Tree

/-!
# Settings from a tree

`SettingTree.toSettings` gives the values of a tree their types.  It is liberal: a text setting
takes numbers and truth values in their text form, a truth value may be written as a number or as
text, and a section may list its settings in order instead of naming them.  What the tree does not
mention keeps its default.
-/

namespace Preflight

/-! ## Errors -/

/-- Why a tree stands for no settings. -/
inductive SettingError where
  /-- A section that is a single value. -/
  | noSection (found expected : String)
  /-- A setting of the wrong type. -/
  | wrongType (found expected key : String) (origin : Option String)
  deriving DecidableEq, Repr

/-- The wording of an error. -/
def SettingError.message : SettingError → String
  | .noSection found expected => "invalid type: " ++ found ++ ", expected " ++ expected
  | .wrongType found expected key origin =>
    "invalid type: " ++ found ++ ", expected " ++ expected ++ " for key \x60" ++ key ++ "\x60"
      ++ (match origin with
        | some origin => " in " ++ origin
        | none => "")

namespace SettingTree

/-- Settings of the wrong type are described with points in their fractions. -/
def settingStyle : NumberStyle := ⟨"integer", true⟩

/-! ## Values of a type -/

/-- Read a text. -/
def readText (key : String) (tree : SettingTree) : Except SettingError String :=
  match tree with
  | .single _ (.bool b) => .ok (boolText b)
  | .single _ (.int n) => .ok (toString n)
  | .single _ (.float x) => .ok x.plainText
  | .single _ (.text s) => .ok s
  | other => .error (.wrongType (other.describe settingStyle) "a string" key other.origin)

/-- Read a text that may be absent, which null stands for. -/
def readOptionalText (key : String) (tree : SettingTree) : Except SettingError (Option String) :=
  match tree with
  | .single _ .null => .ok none
  | other => (readText key other).map some

/-- Read a truth value.  Text is taken without regard to letter case. -/
def readBool (key : String) (tree : SettingTree) : Except SettingError Bool :=
  match tree with
  | .single _ (.bool b) => .ok b
  | .single _ (.int n) => .ok (n != 0)
  | .single _ (.float x) => .ok !x.isZero
  | .single origin (.text s) =>
    let word := Text.toLower s
    if word ∈ ["1", "true", "on", "yes"] then .ok true
    else if word ∈ ["0", "false", "off", "no"] then .ok false
    else
      let found := describe settingStyle (.single origin (.text word))
      .error (.wrongType found "a boolean" key origin)
  | other => .error (.wrongType (other.describe settingStyle) "a boolean" key other.origin)

/-! ## Sections -/

/-- Read the setting of a section, which has a name and a place in the order of the section. -/
def readField {α : Type} (read : String → SettingTree → Except SettingError α) (default : α)
    (sectionName : String) (place : Nat) (name : String) :
    SettingTree → Except SettingError α
  | .table _ members =>
    match List.lookup name members with
    | some tree => read (sectionName ++ "." ++ name) tree
    | none => .ok default
  | .list _ items =>
    match items[place]? with
    | some tree => read (sectionName ++ "[" ++ toString place ++ "]") tree
    | none => .ok default
  | .single _ _ => .ok default

/-- A section of a tree, which is a table or a list. -/
def readSection (expected name : String) (tree : SettingTree) : Except SettingError SettingTree :=
  match List.lookup name tree.asTable.2 with
  | none => .ok (ofMembers [])
  | some (.single origin value) =>
    .error (.noSection (describe settingStyle (.single origin value)) expected)
  | some other => .ok other

/-- Read the defaults of flags. -/
def readFlagDefaults (tree : SettingTree) : Except SettingError FlagDefaults := do
  let part ← readSection "struct DeployDefaults" "defaults" tree
  let text := readField readOptionalText none "defaults"
  return {
    waitTimeout := ← text 0 "wait_timeout" part
    leaseTimeout := ← text 1 "lease_timeout" part
    vmSize := ← text 2 "vm_size" part
    strategy := ← text 3 "strategy" part }

/-- Read the settings of logging. -/
def readLogging (tree : SettingTree) : Except SettingError LoggingSettings := do
  let part ← readSection "struct LoggingConfig" "logging" tree
  return {
    level := ← readField readText "warn" "logging" 0 "level" part
    json := ← readField readBool false "logging" 1 "json" part }

/-- The settings of a tree. -/
def toSettings (tree : SettingTree) : Except SettingError Settings := do
  return { defaults := ← readFlagDefaults tree, logging := ← readLogging tree }

end SettingTree

end Preflight
