import Preflight.DeploymentPlan
import Preflight.Duration.Text

/-!
# Plan summaries

What a plan will do, in a form that can be printed or handed to another tool.
-/

namespace Preflight

/-- What a plan says about one process group. -/
structure GroupSummary where
  name : String
  /-- The number of existing machines. -/
  machines : Nat
  /-- The volume that the group mounts. -/
  mount : Option String
  /-- The number of free volumes for the mount. -/
  reservable : Nat
  deriving DecidableEq, Repr, Inhabited

/-- What a plan will do.  Durations are in text form. -/
structure PlanSummary where
  app : String
  releaseId : String
  releaseVersion : UInt64
  image : String
  imageSource : ImageSource
  strategy : RolloutStrategy
  guest : Option GuestSpec
  waitTimeout : String
  leaseTimeout : String
  leaseDelayBetween : String
  firstDeploy : Bool
  skipHealthChecks : Bool
  restartOnly : Bool
  groups : List GroupSummary
  releaseCommandMachine : Option String
  deriving DecidableEq, Repr, Inhabited

namespace DeploymentPlan

/-- The summary of one process group. -/
def summarizeGroup (plan : DeploymentPlan) (name : String) : GroupSummary :=
  let mount := (plan.config.flatten name).toOption.bind fun g => g.primaryMount.map (·.source)
  { name
    machines := (plan.inventory.inGroup name).length
    mount
    reservable := (mount.map plan.volumes.queueLength).getD 0 }

/-- The summary of a plan. -/
def summary (plan : DeploymentPlan) : PlanSummary where
  app := plan.session.app.name
  releaseId := plan.release.id
  releaseVersion := plan.release.version
  image := plan.image.reference
  imageSource := plan.image.source
  strategy := plan.strategy
  guest := plan.guest
  waitTimeout := plan.lease.waitTimeout.render
  leaseTimeout := plan.lease.leaseTimeout.render
  leaseDelayBetween := plan.lease.delayBetween.render
  firstDeploy := plan.firstDeploy
  skipHealthChecks := plan.skipHealthChecks
  restartOnly := plan.restartOnly
  groups := plan.config.groupNames.map plan.summarizeGroup
  releaseCommandMachine := plan.inventory.releaseCommand.map (·.id)

end DeploymentPlan

/-! ## JSON forms -/

instance : Codec GroupSummary where
  encode g := .record [("name", encode g.name), ("machines", encode g.machines),
    ("mount", encode g.mount), ("reservable", encode g.reservable)]
  decode j := do
    let ms ← j.members? ["name", "machines", "mount", "reservable"] 4
    let name ← required ms "name"
    let machines ← required ms "machines"
    let mount ← withDefault ms "mount" none
    let reservable ← required ms "reservable"
    some ⟨name, machines, mount, reservable⟩

instance : Codec PlanSummary where
  encode s := .record [("app", encode s.app), ("release_id", encode s.releaseId),
    ("release_version", encode s.releaseVersion), ("image", encode s.image),
    ("image_source", encode s.imageSource), ("strategy", encode s.strategy),
    ("guest", encode s.guest), ("wait_timeout", encode s.waitTimeout),
    ("lease_timeout", encode s.leaseTimeout),
    ("lease_delay_between", encode s.leaseDelayBetween), ("first_deploy", encode s.firstDeploy),
    ("skip_health_checks", encode s.skipHealthChecks), ("restart_only", encode s.restartOnly),
    ("groups", encode s.groups),
    ("release_command_machine", encode s.releaseCommandMachine)]
  decode j := do
    let ms ← j.members? ["app", "release_id", "release_version", "image", "image_source",
      "strategy", "guest", "wait_timeout", "lease_timeout", "lease_delay_between",
      "first_deploy", "skip_health_checks", "restart_only", "groups",
      "release_command_machine"] 15
    let app ← required ms "app"
    let releaseId ← required ms "release_id"
    let releaseVersion ← required ms "release_version"
    let image ← required ms "image"
    let imageSource ← required ms "image_source"
    let strategy ← required ms "strategy"
    let guest ← withDefault ms "guest" none
    let waitTimeout ← required ms "wait_timeout"
    let leaseTimeout ← required ms "lease_timeout"
    let leaseDelayBetween ← required ms "lease_delay_between"
    let firstDeploy ← required ms "first_deploy"
    let skipHealthChecks ← required ms "skip_health_checks"
    let restartOnly ← required ms "restart_only"
    let groups ← required ms "groups"
    let releaseCommandMachine ← withDefault ms "release_command_machine" none
    some ⟨app, releaseId, releaseVersion, image, imageSource, strategy, guest, waitTimeout,
      leaseTimeout, leaseDelayBetween, firstDeploy, skipHealthChecks, restartOnly, groups,
      releaseCommandMachine⟩

end Preflight
