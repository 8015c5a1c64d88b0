import Preflight.CommandLine.Options
import Preflight.Duration.Text

/-!
# Arguments

The commands of the program and what can be asked of each.  Options that concern the whole program
stand before the command, those of a command after it.  `parse` reads the words of a command line
and the two environment variables that stand for options; a value of the wrong form, a repeated
option and a missing one are all mistakes.
-/

namespace Preflight

namespace CommandLine

/-! ## Arguments of the commands -/

/-- The form of the output. -/
inductive OutputFormat where
  | text
  | json
  | yaml
  deriving DecidableEq, Repr, Inhabited

/-- The format of a name. -/
def OutputFormat.ofName? (s : String) : Option OutputFormat :=
  List.lookup s [("text", .text), ("json", .json), ("yaml", .yaml)]

/-- What can be asked of the whole program. -/
structure GlobalFlags where
  /-- Path of the settings file. -/
  config : Option String := none
  output : OutputFormat := .text
  verbose : Bool := false
  logJson : Bool := false
  deriving DecidableEq, Repr, Inhabited

/-- What can be asked of a preflight. -/
structure PreflightFlags where
  /-- Path of the application's configuration. -/
  appConfig : String
  /-- Path of the recorded state. -/
  state : String
  image : Option String := none
  strategy : Option String := none
  env : List String := []
  region : Option String := none
  app : Option String := none
  vmSize : Option String := none
  waitTimeout : Option Duration := none
  leaseTimeout : Option Duration := none
  restartOnly : Bool := false
  skipHealthChecks : Bool := false
  deriving DecidableEq, Repr, Inhabited

/-- A command with its arguments. -/
inductive Command where
  | preflight (flags : PreflightFlags)
  | sizes
  | config
  deriving DecidableEq, Repr

/-- What a command line asks for. -/
inductive Request where
  | run (flags : GlobalFlags) (command : Command)
  | help
  | version
  | mistake
  deriving DecidableEq, Repr

/-! ## Options -/

/-- The options of the whole program. -/
def globalSpec : CommandSpec where
  options := [{ name := "config", letter := some 'c' }, { name := "output", letter := some 'o' },
    { name := "verbose", letter := some 'v', takesValue := false },
    { name := "log-json", takesValue := false }]
  hasVersion := true

/-- The options of a preflight. -/
def preflightSpec : CommandSpec where
  options := [{ name := "app-config" }, { name := "state" },
    { name := "image", letter := some 'i' }, { name := "strategy" },
    { name := "env", letter := some 'e' }, { name := "region" }, { name := "app" },
    { name := "vm-size" }, { name := "wait-timeout" }, { name := "lease-timeout" },
    { name := "restart-only", takesValue := false },
    { name := "skip-health-checks", takesValue := false }]

/-- The options of a command without any. -/
def plainSpec : CommandSpec := { options := [] }

/-! ## Reading -/

/-- The duration that an option gives; the outer `none` is a value of the wrong form. -/
def durationOf? (name : String) (given : List Given) : Option (Option Duration) :=
  match valueOf? name given with
  | none => some none
  | some text => (Duration.parse text).toOption.map some

/-- The path that a required option gives. -/
def pathOf? (name : String) (given : List Given) : Option String :=
  (valueOf? name given).filter (· != "")

/-- The flags of a preflight. -/
def preflightFlags? (given : List Given) : Option PreflightFlags := do
  if isRepeated ["env"] given then none
  let appConfig ← pathOf? "app-config" given
  let state ← pathOf? "state" given
  let waitTimeout ← durationOf? "wait-timeout" given
  let leaseTimeout ← durationOf? "lease-timeout" given
  some {
    appConfig
    state
    image := valueOf? "image" given
    strategy := valueOf? "strategy" given
    env := valuesOf "env" given
    region := valueOf? "region" given
    app := valueOf? "app" given
    vmSize := valueOf? "vm-size" given
    waitTimeout
    leaseTimeout
    restartOnly := hasSwitch "restart-only" given
    skipHealthChecks := hasSwitch "skip-health-checks" given }

/-- Whether the options of a preflight that were given have values of the right form. -/
def preflightValuesOk (given : List Given) : Bool :=
  !isRepeated ["env"] given && valueOf? "app-config" given != some ""
    && valueOf? "state" given != some "" && (durationOf? "wait-timeout" given).isSome
    && (durationOf? "lease-timeout" given).isSome

/-- Whether the options of the whole program that were given have values of the right form. -/
def globalValuesOk (given : List Given) : Bool :=
  !isRepeated [] given && (valuesOf "output" given).all fun s =>
    (OutputFormat.ofName? s).isSome

/-- Read the words of a command.  `ok` checks the options given before the reading stopped. -/
def parseCommand (spec : CommandSpec) (ok : List Given → Bool)
    (finish : List Given → Option Command) (flags : GlobalFlags) (words : List String) : Request :=
  let (given, stop) := scan spec words
  if !ok given then .mistake
  else
    match stop with
    | .finished =>
      match finish given with
      | some command => .run flags command
      | none => .mistake
    | .help => .help
    | .version => .version
    | .word _ _ => .mistake
    | .mistake => .mistake

/-- The names of the commands. -/
def commandNames : List String := ["preflight", "sizes", "config", "help"]

/-- Read a request for help on a command. -/
def parseHelp (words : List String) : Request :=
  match words with
  | [] => .help
  | [name] => if commandNames.contains name || name = "--help" || name = "-h" then .help
      else .mistake
  | _ => .mistake

/-- The flags of the whole program, those that are not given taken from the environment. -/
def globalFlags? (given : List Given) (env : List (String × String)) : Option GlobalFlags := do
  let output ← match valueOf? "output" given with
    | none => some .text
    | some name => OutputFormat.ofName? name
  let logJson ←
    if hasSwitch "log-json" given then some true
    else
      match List.lookup "HANGAR_LOG_JSON" env with
      | none => some false
      | some text => List.lookup text [("true", true), ("false", false)]
  some {
    config := (valueOf? "config" given).or (List.lookup "HANGAR_CONFIG" env)
    output
    verbose := hasSwitch "verbose" given
    logJson }

/-- Read a command line. -/
def parse (env : List (String × String)) (words : List String) : Request :=
  let (given, stop) := scan globalSpec words
  if !globalValuesOk given then .mistake
  else
    match stop with
    | .help => .help
    | .version => .version
    | .finished => .mistake
    | .mistake => .mistake
    | .word name rest =>
      if name = "help" then parseHelp rest
      else
        let flags := globalFlags? given env
        let request := match name with
          | "preflight" => parseCommand preflightSpec preflightValuesOk
              (fun given => (preflightFlags? given).map .preflight) (flags.getD {}) rest
          | "sizes" => parseCommand plainSpec (fun _ => true) (fun _ => some .sizes)
              (flags.getD {}) rest
          | "config" => parseCommand plainSpec (fun _ => true) (fun _ => some .config)
              (flags.getD {}) rest
          | _ => .mistake
        match request with
        | .run _ _ => if flags.isSome then request else .mistake
        | other => other

end CommandLine

end Preflight
