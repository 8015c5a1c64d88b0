import Preflight.Json.Codec

/-!
# Rollout strategies

How the machines of an application are replaced.  Names are matched exactly; the release ledger
knows the same strategies under their names in capitals.
-/

namespace Preflight

/-- How machines are replaced. -/
inductive RolloutStrategy where
  /-- One after the other. -/
  | rolling
  /-- All at once. -/
  | immediate
  deriving DecidableEq, Repr, Inhabited

namespace RolloutStrategy

/-- Every strategy. -/
def all : List RolloutStrategy := [.rolling, .immediate]

/-- The strategy when none is asked for. -/
def default : RolloutStrategy := .rolling

/-- The name of a strategy. -/
def name : RolloutStrategy → String
  | .rolling => "rolling"
  | .immediate => "immediate"

/-- The name of a strategy in the release ledger. -/
def ledgerName (s : RolloutStrategy) : String :=
  String.ofList (s.name.toList.map Char.toUpper)

/-- A strategy name that is not known. -/
structure Unsupported where
  name : String
  deriving DecidableEq, Repr

/-- The wording of the error. -/
def Unsupported.message (e : Unsupported) : String :=
  "unsupported deployment strategy '" ++ e.name ++ "'; machine deployments support "
    ++ " and ".intercalate (all.map RolloutStrategy.name) ++ " strategies"

/-- The strategy of a name. -/
def ofName (s : String) : Except Unsupported RolloutStrategy :=
  match all.find? (·.name == s) with
  | some strategy => .ok strategy
  | none => .error ⟨s⟩

/-- The strategy of a ledger name. -/
def ofLedgerName? (s : String) : Option RolloutStrategy := all.find? (·.ledgerName == s)

end RolloutStrategy

instance : Codec RolloutStrategy where
  encode s := .text s.name
  decode := decodeVariant (RolloutStrategy.all.map fun s => (s.name, s))

end Preflight
