import Preflight.AppConfig.Overrides
import Preflight.AppConfig.Rollout
import Preflight.LeaseTiming
import Preflight.ProvisionHook
import Preflight.ReleaseRecorder
import Preflight.ResolvedImage
import Preflight.Topology

/-!
# Deployment plans

`DeploymentPlan.prepare` turns a request into a plan.  It is a straight line of stages, the first
failure of which ends it:

* `Brief.ofRequest` settles what needs no control plane: the application, the effective
  configuration, the session, the words of the release command, lease timing, strategy and guest;
* the inventory of machines, the free volumes and the image are taken from the control plane;
* on a first deploy the provisioning hook runs;
* the topology is checked, with the volumes that the hook has left;
* the release is recorded.

The last stage is the only one that changes anything on the control plane.  A plan keeps its own
reservations: taking volumes from a plan changes that plan and nothing else.
-/

namespace Preflight

/-! ## Requests -/

/-- What a caller asks for. -/
structure DeploymentArgs where
  app : Option AppHandle := none
  image : Option String := none
  strategy : Option String := none
  overrides : Overrides := {}
  skipHealthChecks : Bool := false
  /-- Restart the machines without changing their image. -/
  restartOnly : Bool := false
  waitTimeout : Option Duration := none
  leaseTimeout : Option Duration := none
  vmSize : Option String := none
  deriving DecidableEq, Repr, Inhabited

/-- The explicit image, an empty one counting as absent. -/
def DeploymentArgs.explicitImage (args : DeploymentArgs) : Option String := nonEmpty args.image

/-- What is settled before the control plane is asked. -/
structure Brief where
  session : ControlPlaneSession
  config : AppConfig
  lease : LeaseTiming
  strategy : RolloutStrategy
  guest : Option GuestSpec
  deriving DecidableEq, Repr

/-- Settle a request as far as it goes without the control plane. -/
def Brief.ofRequest (ambient : Option AppConfig) (args : DeploymentArgs) :
    Except PreflightError Brief := do
  let some app := args.app | throw (.contractViolation .noAppHandle)
  if args.restartOnly && args.explicitImage.isSome then
    throw (.contractViolation .imageOnRestart)
  let config ← args.overrides.resolve ambient
  let session ← (ControlPlaneSession.ofApp app).mapError fun e =>
    .contractViolation (.noSession e)
  let _ ← config.releaseCommandWords
  let lease := LeaseTiming.resolve args.waitTimeout args.leaseTimeout
  let strategy ← config.resolveStrategy args.strategy
  let guest ← (GuestSpec.ofToken args.vmSize).mapError .invalidSize
  return ⟨session, config, lease, strategy, guest⟩

/-! ## Plans -/

/-- A validated rollout whose release is recorded. -/
structure DeploymentPlan where
  session : ControlPlaneSession
  /-- The effective configuration. -/
  config : AppConfig
  image : ResolvedImage
  strategy : RolloutStrategy
  /-- The guest of the machines; `none` keeps each machine's own. -/
  guest : Option GuestSpec
  lease : LeaseTiming
  inventory : MachineInventory
  /-- The volumes that are still free. -/
  volumes : VolumeReservations
  firstDeploy : Bool
  skipHealthChecks : Bool
  restartOnly : Bool
  /-- The release as it was created. -/
  release : Release
  deriving DecidableEq, Repr

namespace DeploymentPlan

variable {σ : Type} [ControlPlaneClient σ]

/-- Make a plan. -/
def prepare (hook : ProvisionHook σ) (ambient : Option AppConfig) (args : DeploymentArgs) :
    Action σ PreflightError DeploymentPlan := do
  let brief ← liftExcept (Brief.ofRequest ambient args)
  let inventory ← MachineInventory.survey brief.session brief.config
  let listed ← VolumeReservations.reconcile brief.session brief.config
  let image ← ResolvedImage.resolve args.explicitImage brief.session inventory
  let firstDeploy := inventory.isFirstDeploy brief.session.app
  let volumes ←
    if firstDeploy then hook.run ⟨brief.session, brief.config, image.reference, listed⟩
    else pure listed
  liftExcept (checkTopology brief.config inventory volumes)
  let release ← ReleaseRecorder.create brief.session brief.config brief.strategy image.reference
  return {
    session := brief.session
    config := brief.config
    image
    strategy := brief.strategy
    guest := brief.guest
    lease := brief.lease
    inventory
    volumes
    firstDeploy
    skipHealthChecks := args.skipHealthChecks
    restartOnly := args.restartOnly
    release }

/-- Take the volume that a new machine of a group should mount; `none` when the group mounts
nothing or no volume is left. -/
def reserveVolumeFor (plan : DeploymentPlan) (group : String) :
    Except PreflightError (Option Volume × DeploymentPlan) := do
  let group ← (plan.config.flatten group).mapError fun e => .configuration (.invalid e)
  match group.primaryMount.bind fun mount => plan.volumes.reserve? mount.source with
  | some (volume, volumes) => return (some volume, { plan with volumes })
  | none => return (none, plan)

/-- Record how the rollout ended. -/
def finalize (plan : DeploymentPlan) (status : ReleaseStatus) : Action σ PreflightError Unit :=
  ReleaseRecorder.update plan.release.id status

end DeploymentPlan

end Preflight
