import Preflight.PreflightError
import Preflight.ShellWords

/-!
# How a deploy rolls out

What the deploy section of a configuration settles, together with what the caller asks for: the
words of the release command and the rollout strategy.
-/

namespace Preflight

namespace AppConfig

/-- The words of the release command, if there is one.  The command is never run here. -/
def releaseCommandWords (c : AppConfig) :
    Except PreflightError (Option (List String)) :=
  match c.releaseCommand with
  | none => .ok none
  | some command =>
    match ShellWords.split? command with
    | some words => .ok (some words)
    | none => .error (.configuration (.unsplittableCommand command))

/-- The strategy: the explicit one, else the configured one, else the default.  Empty names count
as absent. -/
def resolveStrategy (c : AppConfig) (explicit : Option String) :
    Except PreflightError RolloutStrategy :=
  match (nonEmpty explicit).or c.deployStrategy with
  | some name => (RolloutStrategy.ofName name).mapError .unsupportedStrategy
  | none => .ok .default

end AppConfig

end Preflight
