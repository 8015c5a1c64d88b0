import Preflight.Json.Codec

/-!
# Application configuration

An `AppConfig` describes what should be running: process groups with their commands, the volumes
they mount, and how a deploy should roll out.

Process groups are declared by the `processes` map.  An application that declares none has the
single group `app`; every function below that mentions groups follows this rule:

* `AppConfig.groupNames` lists the groups in order, and is never empty;
* `AppConfig.hasGroup` decides membership;
* `AppConfig.defaultGroup` is the group of machines that carry no group of their own;
* `AppConfig.flatten` is the view of one group, with the mounts that apply to it.

`AppConfig.validate` reports the first fault in a fixed order.
-/

namespace Preflight

/-! ## Parts -/

/-- A volume and the path where it is mounted. -/
structure MountSpec where
  /-- Name of the volume. -/
  source : String
  /-- Path inside the machine. -/
  destination : String
  /-- Groups that mount it; none listed means every group. -/
  processes : List String := []
  deriving DecidableEq, Repr, Inhabited

/-- Whether a mount applies to a group. -/
def MountSpec.appliesTo (m : MountSpec) (group : String) : Bool :=
  m.processes.isEmpty || m.processes.contains group

/-- How a deploy should roll out. -/
structure DeploySection where
  /-- Default rollout strategy. -/
  strategy : Option String := none
  /-- Command run on a machine of its own before the rollout. -/
  releaseCommand : Option String := none
  deriving DecidableEq, Repr, Inhabited

/-- The desired state of an application. -/
structure AppConfig where
  appName : String := ""
  /-- Region where new machines are placed. -/
  primaryRegion : String := ""
  /-- Environment variables of every machine. -/
  env : TextMap String := ∅
  /-- Commands of the process groups. -/
  processes : TextMap String := ∅
  mounts : List MountSpec := []
  deploy : Option DeploySection := none
  deriving DecidableEq, Repr, Inhabited

/-- The application being deployed. -/
structure AppHandle where
  name : String
  /-- Whether the application ever had a release deployed. -/
  deployed : Bool := false
  deriving DecidableEq, Repr, Inhabited

/-- The configuration of one process group. -/
structure GroupConfig where
  name : String
  command : Option String
  mounts : List MountSpec
  deriving DecidableEq, Repr

/-- The mount of a group that counts; further ones are not supported. -/
def GroupConfig.primaryMount (g : GroupConfig) : Option MountSpec := g.mounts.head?

/-- A text that is present and not empty. -/
def nonEmpty (s : Option String) : Option String := s.filter (· != "")

/-! ## Faults -/

/-- What can be wrong with a configuration. -/
inductive ConfigError where
  | emptyAppName
  | emptyMountSource (index : Nat)
  | relativeMountDestination (source destination : String)
  | unknownMountGroup (source group : String)
  | unknownGroup (group : String)
  deriving DecidableEq, Repr

/-- The wording of a fault. -/
def ConfigError.message : ConfigError → String
  | .emptyAppName => "app name cannot be empty"
  | .emptyMountSource index => "mount #" ++ toString index ++ " has an empty source"
  | .relativeMountDestination source destination =>
    "mount '" ++ source ++ "' destination '" ++ destination ++ "' must be an absolute path"
  | .unknownMountGroup source group =>
    "mount '" ++ source ++ "' references undeclared process group '" ++ group ++ "'"
  | .unknownGroup group =>
    "process group '" ++ group ++ "' is not declared in the configuration"

namespace AppConfig

/-! ## Process groups -/

/-- The group of an application that declares none. -/
def soleGroup : String := "app"

/-- The declared groups in order. -/
def groupNames (c : AppConfig) : List String :=
  if c.processes.isEmpty then [soleGroup] else c.processes.keys

/-- The group of machines that carry none. -/
def defaultGroup (c : AppConfig) : String :=
  if c.processes.isEmpty || c.processes.contains soleGroup then soleGroup
  else c.processes.keys.headD soleGroup

/-- Whether a group is declared. -/
def hasGroup (c : AppConfig) (group : String) : Bool :=
  if c.processes.isEmpty then group == soleGroup else c.processes.contains group

/-- Whether any group mounts a volume. -/
def hasMounts (c : AppConfig) : Bool := !c.mounts.isEmpty

/-- The view of one group with only the mounts that apply to it. -/
def flatten (c : AppConfig) (group : String) : Except ConfigError GroupConfig :=
  if c.hasGroup group then
    .ok ⟨group, c.processes.get? group, c.mounts.filter (·.appliesTo group)⟩
  else .error (.unknownGroup group)

/-! ## Deploy section -/

/-- The declared strategy, if any. -/
def deployStrategy (c : AppConfig) : Option String := nonEmpty (c.deploy.bind (·.strategy))

/-- The declared release command, if any. -/
def releaseCommand (c : AppConfig) : Option String :=
  nonEmpty (c.deploy.bind (·.releaseCommand))

/-! ## Validation -/

/-- Check one mount: its source, its destination, then its groups. -/
def validateMount (c : AppConfig) (index : Nat) (m : MountSpec) : Except ConfigError Unit :=
  if m.source = "" then .error (.emptyMountSource index)
  else if m.destination.toList.head? ≠ some '/' then
    .error (.relativeMountDestination m.source m.destination)
  else
    match m.processes.find? (!c.hasGroup ·) with
    | some group => .error (.unknownMountGroup m.source group)
    | none => .ok ()

/-- Check mounts in order, the first of them numbered `index`. -/
def validateMounts (c : AppConfig) : Nat → List MountSpec → Except ConfigError Unit
  | _, [] => .ok ()
  | index, m :: ms => do
    validateMount c index m
    validateMounts c (index + 1) ms

/-- Check the parts of the configuration that a deploy relies on. -/
def validate (c : AppConfig) : Except ConfigError Unit :=
  if c.appName = "" then .error .emptyAppName else c.validateMounts 0 c.mounts

end AppConfig

/-! ## JSON forms -/

instance : Codec MountSpec where
  encode m := .record [("source", encode m.source), ("destination", encode m.destination),
    ("processes", encode m.processes)]
  decode j := do
    let ms ← j.members? ["source", "destination", "processes"] 2
    let source ← required ms "source"
    let destination ← required ms "destination"
    let processes ← withDefault ms "processes" []
    some ⟨source, destination, processes⟩

instance : Codec DeploySection where
  encode d := .record [("strategy", encode d.strategy),
    ("release_command", encode d.releaseCommand)]
  decode j := do
    let ms ← j.members? ["strategy", "release_command"] 0
    let strategy ← withDefault ms "strategy" none
    let releaseCommand ← withDefault ms "release_command" none
    some ⟨strategy, releaseCommand⟩

instance : Codec AppConfig where
  encode c := .record [("app_name", encode c.appName),
    ("primary_region", encode c.primaryRegion), ("env", encode c.env),
    ("processes", encode c.processes), ("mounts", encode c.mounts), ("deploy", encode c.deploy)]
  decode j := do
    let ms ← j.members?
      ["app_name", "primary_region", "env", "processes", "mounts", "deploy"] 0
    let appName ← withDefault ms "app_name" ""
    let primaryRegion ← withDefault ms "primary_region" ""
    let env ← withDefault ms "env" ∅
    let processes ← withDefault ms "processes" ∅
    let mounts ← withDefault ms "mounts" []
    let deploy ← withDefault ms "deploy" none
    some ⟨appName, primaryRegion, env, processes, mounts, deploy⟩

instance : Codec AppHandle where
  encode a := .record [("name", encode a.name), ("deployed", encode a.deployed)]
  decode j := do
    let ms ← j.members? ["name", "deployed"] 1
    let name ← required ms "name"
    let deployed ← withDefault ms "deployed" false
    some ⟨name, deployed⟩

end Preflight
