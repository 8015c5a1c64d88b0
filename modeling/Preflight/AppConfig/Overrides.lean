import Preflight.PreflightError
import Preflight.Text

/-!
# Overrides

A caller may override parts of an application's configuration: environment variables by
`KEY=VALUE` tokens, the primary region and the application name.  `Overrides.resolve` merges them
into the configuration and validates the outcome.  Region and name apply only when they are not
empty, so an override never clears a value.
-/

namespace Preflight

/-- What a caller overrides. -/
structure Overrides where
  /-- `KEY=VALUE` tokens. -/
  env : List String := []
  primaryRegion : Option String := none
  appName : Option String := none
  deriving DecidableEq, Repr, Inhabited

namespace Overrides

/-- The variable and value of a token.  The value may contain further `=`. -/
def parseToken (token : String) : Except ConfigurationFault (String × String) :=
  match splitAtFirst? '=' token with
  | some (key, value) =>
    if key = "" then .error (.malformedOverride token) else .ok (key, value)
  | none => .error (.malformedOverride token)

/-- The variables and values of all tokens, in order. -/
def parseTokens (tokens : List String) : Except ConfigurationFault (List (String × String)) :=
  tokens.mapM parseToken

/-- The variables that tokens set; of two tokens for one variable the later one wins. -/
def parseEnv (tokens : List String) : Except ConfigurationFault (TextMap String) :=
  (parseTokens tokens).map TextMap.ofList

/-- The configuration with its overrides, not yet validated. -/
def merge (o : Overrides) (env : TextMap String) (c : AppConfig) : AppConfig :=
  { c with
    env := c.env.insertAll env.entries
    primaryRegion := (nonEmpty o.primaryRegion).getD c.primaryRegion
    appName := (nonEmpty o.appName).getD c.appName }

/-- The effective configuration. -/
def resolve (o : Overrides) (ambient : Option AppConfig) : Except PreflightError AppConfig :=
  match ambient with
  | none => .error (.contractViolation .noConfiguration)
  | some c => do
    let env ← (parseEnv o.env).mapError .configuration
    let merged := o.merge env c
    merged.validate.mapError fun e => .configuration (.invalid e)
    return merged

end Overrides

end Preflight
