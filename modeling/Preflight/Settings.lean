import Preflight.Duration.Text
import Preflight.Toml.Printer

/-!
# Settings

Settings give the defaults of flags and configure logging.  Durations among them stay text until
they are used, so a setting that does not read does harm only where its flag is not given.
-/

namespace Preflight

/-! ## Settings -/

/-- The defaults of flags. -/
structure FlagDefaults where
  waitTimeout : Option String := none
  leaseTimeout : Option String := none
  vmSize : Option String := none
  strategy : Option String := none
  deriving DecidableEq, Repr, Inhabited

/-- How much is logged, and in which form. -/
structure LoggingSettings where
  level : String := "warn"
  json : Bool := false
  deriving DecidableEq, Repr, Inhabited

/-- All settings. -/
structure Settings where
  defaults : FlagDefaults := {}
  logging : LoggingSettings := {}
  deriving DecidableEq, Repr, Inhabited

/-- A duration setting that does not read. -/
structure DurationSettingError where
  key : String
  value : String
  cause : Duration.ParseError
  deriving DecidableEq, Repr

/-- The wording of the error. -/
def DurationSettingError.message (e : DurationSettingError) : String :=
  "invalid duration for " ++ e.key ++ ": '" ++ e.value ++ "': " ++ e.cause.message

/-- The duration of a setting; an empty one counts as absent. -/
def optionalDuration (key : String) (value : Option String) :
    Except DurationSettingError (Option Duration) :=
  match value with
  | none => .ok none
  | some text =>
    if text = "" then .ok none
    else
      match Duration.parse text with
      | .ok d => .ok (some d)
      | .error cause => .error ⟨key, text, cause⟩

namespace FlagDefaults

/-- The default of the wait timeout. -/
def waitDuration (d : FlagDefaults) : Except DurationSettingError (Option Duration) :=
  optionalDuration "defaults.wait_timeout" d.waitTimeout

/-- The default of the lease timeout. -/
def leaseDuration (d : FlagDefaults) : Except DurationSettingError (Option Duration) :=
  optionalDuration "defaults.lease_timeout" d.leaseTimeout

end FlagDefaults

namespace Settings

/-! ## Writing -/

/-- A line that sets a key to a text, nothing for an absent one. -/
def textLine (key : String) (value : Option String) : String :=
  match value with
  | some s => key ++ " = " ++ Toml.quoteText s ++ "\n"
  | none => ""

/-- The settings as a TOML document. -/
def render (s : Settings) : String :=
  "[defaults]\n" ++ textLine "wait_timeout" s.defaults.waitTimeout
    ++ textLine "lease_timeout" s.defaults.leaseTimeout ++ textLine "vm_size" s.defaults.vmSize
    ++ textLine "strategy" s.defaults.strategy
    ++ "\n[logging]\n" ++ textLine "level" (some s.logging.level)
    ++ "json = " ++ (if s.logging.json then "true" else "false") ++ "\n"

end Settings

end Preflight
