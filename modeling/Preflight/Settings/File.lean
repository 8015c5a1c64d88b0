import Preflight.Json.Reader
import Preflight.Path
import Preflight.Settings.Path
import Preflight.Toml.Reader
import Preflight.Yaml.Reader

/-!
# Settings files

A settings file is a document in one of several formats, told apart by the extension of its name.
The document is a record, whose members `SettingsFile.read` answers as settings.
-/

namespace Preflight

/-- The formats of settings files. -/
inductive SettingsFormat where
  | toml
  | json
  | yaml
  deriving DecidableEq, Repr

/-- Why a file holds no settings. -/
inductive SettingsFileError where
  | malformed
  /-- A number that is written as a word that has no value. -/
  | wordNumber (text : String)
  /-- A number of documents other than one. -/
  | severalDocuments (count : Nat)
  /-- A document that is no record. -/
  | noRecord (found : String)
  deriving DecidableEq, Repr

/-- The wording of an error in a file. -/
def SettingsFileError.message (file : String) : SettingsFileError → String
  | .malformed => "cannot parse settings " ++ file ++ ": malformed or of another shape"
  | .wordNumber text => "Parsing " ++ text ++ " as floating point number failed in " ++ file
  | .severalDocuments count =>
    "Got " ++ toString count ++ " YAML documents, expected 1 in " ++ file
  | .noRecord found =>
    "invalid type: " ++ found ++ ", expected a map in " ++ file ++ " in " ++ file

namespace SettingsFormat

/-- The file name extensions of the formats. -/
def extensions : List (String × SettingsFormat) :=
  [("toml", .toml), ("json", .json), ("yaml", .yaml), ("yml", .yaml)]

/-- The format of a file by its extension. -/
def ofPath? (path : String) : Option SettingsFormat :=
  (Path.extension? path).bind fun e => List.lookup e extensions

/-- Read a document of a format.  A text without a YAML document is a record without members. -/
def parse (format : SettingsFormat) (text : String) : Except SettingsFileError Json :=
  match format with
  | .toml =>
    match Toml.parse? text with
    | some members => .ok (.record (Toml.toJsonMembers .text members))
    | none => .error .malformed
  | .json =>
    match Json.parse? text with
    | some document => if document.isReadable then .ok document else .error .malformed
    | none => .error .malformed
  | .yaml =>
    match Yaml.documents? text with
    | none => .error .malformed
    | some [] => .ok (.record [])
    | some [document] => (Yaml.toJson document).mapError .wordNumber
    | some documents => .error (.severalDocuments documents.length)

end SettingsFormat

namespace SettingsFile

/-- A text without the mark of its encoding, which some editors put in front. -/
def withoutMark (text : String) : String :=
  match text.toList with
  | '\ufeff' :: cs => String.ofList cs
  | _ => text

/-- A document that is no record is described with the size of its integers. -/
def documentStyle : SettingTree.NumberStyle := ⟨"64-bit integer", false⟩

/-- The settings in a file, each with the file as its origin.  Of a repeated member the last one
counts. -/
def read (format : SettingsFormat) (file text : String) :
    Except SettingsFileError (List (String × SettingTree)) := do
  let document ← format.parse (withoutMark text)
  match SettingTree.ofJson (some file) document.dropRepeated with
  | .table _ members => .ok members
  | other => .error (.noRecord (other.describe documentStyle))

end SettingsFile

end Preflight
