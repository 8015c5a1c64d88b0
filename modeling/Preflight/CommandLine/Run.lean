import Preflight.AppConfig.Toml
import Preflight.CommandLine.Report
import Preflight.ControlPlane.Snapshot
import Preflight.Directory
import Preflight.Settings.Environment
import Preflight.Settings.File
import Preflight.Settings.Typed
import Preflight.Text.Quoted

/-!
# Running commands

`run` carries out a command line.  All it needs from its surroundings is the environment and a way
to read files, which is a parameter, so that it runs as well against a directory kept in memory.

`rehearse` is the heart of the `preflight` command: it makes the plan of a recorded application
from the flags, the settings, the configuration and the snapshot.
-/

namespace Preflight

namespace CommandLine

/-! ## Outcomes -/

/-- How a command ended. -/
structure Outcome where
  exitCode : UInt32
  stdout : String := ""
  /-- The diagnostic, if there is one. -/
  error : Option String := none
  deriving DecidableEq, Repr

/-- The files that a preflight reads. -/
inductive InputFile where
  | appConfig
  | state
  deriving DecidableEq, Repr

/-- A file in messages. -/
def InputFile.name : InputFile → String
  | .appConfig => "app config"
  | .state => "state"

/-- Why a command failed. -/
inductive CommandError where
  | unreadable (file : InputFile) (path : String) (cause : ReadError)
  | malformed (file : InputFile) (path : String)
  | settingsFile (file : String) (cause : SettingsFileError)
  | setting (cause : SettingError)
  | duration (cause : DurationSettingError)
  | noApp
  | plane (cause : ControlPlaneError)
  | preflight (cause : PreflightError)
  deriving DecidableEq, Repr

/-- The wording of a failure. -/
def CommandError.message : CommandError → String
  | .unreadable file path cause =>
    "cannot read " ++ file.name ++ " " ++ path ++ ": " ++ cause.message
  | .malformed file path =>
    "cannot parse " ++ file.name ++ " " ++ path ++ ": malformed or of another shape"
  | .settingsFile file cause => cause.message file
  | .setting cause => cause.message
  | .duration cause => cause.message
  | .noApp => "state snapshot does not name an app"
  | .plane cause => cause.message
  | .preflight cause => cause.message

/-! ## The preflight command -/

/-- The request that flags and settings make for an application.  A setting counts only where its
flag is not given. -/
def PreflightFlags.toArgs (flags : PreflightFlags) (defaults : FlagDefaults) (app : AppHandle) :
    Except DurationSettingError DeploymentArgs := do
  let waitTimeout ← match flags.waitTimeout with
    | some d => pure (some d)
    | none => defaults.waitDuration
  let leaseTimeout ← match flags.leaseTimeout with
    | some d => pure (some d)
    | none => defaults.leaseDuration
  return {
    app := some app
    image := flags.image
    strategy := flags.strategy.or defaults.strategy
    overrides := { env := flags.env, primaryRegion := flags.region, appName := flags.app }
    skipHealthChecks := flags.skipHealthChecks
    restartOnly := flags.restartOnly
    waitTimeout
    leaseTimeout
    vmSize := flags.vmSize.or defaults.vmSize }

/-- The plan for a recorded application. -/
def rehearse (newId : UInt64 → String) (flags : PreflightFlags) (settings : Settings)
    (config : AppConfig) (snapshot : Snapshot) : Except CommandError DeploymentPlan := do
  let some app := snapshot.app | throw .noApp
  let plane ← (InMemoryPlane.ofSnapshot newId snapshot).mapError .plane
  let args ← (flags.toArgs settings.defaults app).mapError .duration
  ((DeploymentPlan.prepare .idle (some config) args).from plane).1.mapError .preflight

/-! ## Files -/

section Files

variable {m : Type → Type} [Monad m] (readFile : String → m (Except ReadError String))

/-- Read a file and decode it. -/
def loadFile {α : Type} (file : InputFile) (path : String) (parse? : String → Option α) :
    ExceptT CommandError m α := do
  match ← ExceptT.lift (readFile path) with
  | .error cause => throw (.unreadable file path cause)
  | .ok text =>
    match parse? text with
    | some value => return value
    | none => throw (.malformed file path)

/-- The first of some files that can be read, with its text. -/
def firstReadable : List String → m (Option (String × String))
  | [] => return none
  | path :: paths => do
    match ← readFile path with
    | .ok text => return some (path, text)
    | .error _ => firstReadable paths

/-- The paths at which a settings file is looked for: the one that is given, and that with the
extension of a format. -/
def settingsPaths (path : String) : List String :=
  path :: SettingsFormat.extensions.filterMap fun (e, _) => Path.withSuffix? path ("." ++ e)

/-- The settings of a file.  One that is missing or of no known format counts as empty. -/
def loadSettingsFile (path : String) :
    ExceptT CommandError m (List (String × SettingTree)) := do
  match ← ExceptT.lift (firstReadable readFile (settingsPaths path)) with
  | none => return []
  | some (path, text) =>
    let file := Path.clean path
    match SettingsFormat.ofPath? path with
    | none => return []
    | some format =>
      liftExcept ((SettingsFile.read format file text).mapError (CommandError.settingsFile file))

/-- Load the settings: the built-in ones, those of a file, and those of the environment, each
layer laid over the one before. -/
def loadSettings (env : List (String × String)) (path : Option String) :
    ExceptT CommandError m Settings := do
  let inFile ← match path with
    | none => pure []
    | some path => loadSettingsFile readFile path
  let tree := (SettingTree.builtIn.overlay inFile).overlay (environmentSettings env)
  liftExcept (tree.toSettings.mapError CommandError.setting)

/-! ## Commands -/

/-- Read a state snapshot. -/
def parseSnapshot? (text : String) : Option Snapshot := (Json.parse? text).bind decode

/-- Carry out a command and answer what it prints. -/
def execute (newId : UInt64 → String) (env : List (String × String)) (flags : GlobalFlags)
    (command : Command) : ExceptT CommandError m String := do
  let settings ← loadSettings readFile env flags.config
  match command with
  | .preflight given =>
    let config ← loadFile readFile .appConfig given.appConfig AppConfig.ofToml?
    let snapshot ← loadFile readFile .state given.state parseSnapshot?
    let plan ← liftExcept (rehearse newId given settings config snapshot)
    return renderSummary flags.output plan.summary
  | .sizes => return renderSizes flags.output
  | .config =>
    let path := match flags.config with
      | some path => "Some(" ++ Text.quoted path ++ ")"
      | none => "None"
    return "Config file: " ++ path ++ "\n" ++ settings.render

/-- The name and version of the program. -/
def versionText : String := "hangar 0.1.0\n"

/-- How to use the program. -/
def helpText : String :=
  "Usage: hangar [OPTIONS] <COMMAND>\n\n"
    ++ "Commands:\n"
    ++ "  preflight  Validate a deployment against a recorded fleet snapshot\n"
    ++ "  sizes      List recognized machine sizes\n"
    ++ "  config     Show configuration\n"
    ++ "  help       Show this text\n"

/-- Carry out a command line. -/
def run (newId : UInt64 → String) (env : List (String × String)) (words : List String) :
    m Outcome := do
  match parse env words with
  | .help => return { exitCode := 0, stdout := helpText }
  | .version => return { exitCode := 0, stdout := versionText }
  | .mistake => return { exitCode := 2 }
  | .run flags command =>
    match ← (execute readFile newId env flags command).run with
    | .ok text => return { exitCode := 0, stdout := text }
    | .error e => return { exitCode := 1, error := some e.message }

end Files

end CommandLine

end Preflight
