import Preflight.ControlPlane
import Preflight.GuestSpec

/-!
# Why a preflight fails

Every failure names its cause together with the machine, group, volume or release concerned, so
that it can be acted on without asking the platform again.  `PreflightError.message` gives the
wording.
-/

namespace Preflight

/-- A misuse of the library by its caller. -/
inductive ContractViolation where
  | noAppHandle
  | imageOnRestart
  | noConfiguration
  | noSession (cause : ControlPlaneError)
  | statusNotTerminal (release : String) (status : ReleaseStatus)
  deriving DecidableEq, Repr

/-- The wording of a misuse. -/
def ContractViolation.message : ContractViolation → String
  | .noAppHandle => "no application handle was supplied"
  | .imageOnRestart => "a restart-only deploy cannot also change the image"
  | .noConfiguration => "no application configuration was supplied"
  | .noSession cause => cause.message
  | .statusNotTerminal release status =>
    "release " ++ release ++ " can only move to a terminal status, not " ++ status.name

/-- A fault of the configuration or of its overrides. -/
inductive ConfigurationFault where
  | malformedOverride (token : String)
  | invalid (cause : ConfigError)
  | unsplittableCommand (command : String)
  deriving DecidableEq, Repr

/-- The wording of a fault. -/
def ConfigurationFault.message : ConfigurationFault → String
  | .malformedOverride token =>
    "environment override '" ++ token ++ "' must have the form KEY=VALUE"
  | .invalid cause => cause.message
  | .unsplittableCommand command =>
    "could not split release command '" ++ command ++ "' into shell tokens"

/-- Why a preflight, or a step after it, fails. -/
inductive PreflightError where
  | contractViolation (violation : ContractViolation)
  | configuration (fault : ConfigurationFault)
  | unsupportedStrategy (cause : RolloutStrategy.Unsupported)
  | invalidSize (cause : GuestSpec.SizeError)
  /-- Machines are alive that this deployment path does not manage. -/
  | unmanagedMachines (count : Nat)
  /-- A machine mounts a volume though its group mounts none. -/
  | mountOrphaned (machine group volume : String)
  /-- A machine mounts no volume though its group mounts one. -/
  | mountMissing (machine group expected : String)
  /-- A machine mounts another volume than its group. -/
  | mountMismatch (machine group expected found : String)
  /-- A group without machines has no volume to start from. -/
  | volumeUnavailable (group volume : String)
  /-- No source gives an image; the cause is the failure of the call for the latest release, if
  it failed. -/
  | imageUnknown (cause : Option ControlPlaneError)
  | backend (cause : ControlPlaneError)
  | provision (hook reason : String)
  | releaseNotFinalized (release : String) (cause : ControlPlaneError)
  deriving DecidableEq, Repr

/-- The wording of a failure. -/
def PreflightError.message : PreflightError → String
  | .contractViolation violation => "contract violation: " ++ violation.message
  | .configuration fault => "invalid configuration: " ++ fault.message
  | .unsupportedStrategy cause => cause.message
  | .invalidSize cause => cause.message
  | .unmanagedMachines count =>
    "found " ++ toString count ++ " unmanaged machine(s); deploys only update machines whose "
      ++ "metadata carries " ++ Machine.platformVersionKey ++ "=" ++ Machine.managedVersion
      ++ ". Tag each machine with that metadata and its process group, then deploy again"
  | .mountOrphaned machine group volume =>
    "machine " ++ machine ++ " in group '" ++ group ++ "' has volume '" ++ volume
      ++ "' mounted but the configuration declares no mount for the group; detach the volume or "
      ++ "declare the mount"
  | .mountMissing machine group expected =>
    "machine " ++ machine ++ " in group '" ++ group ++ "' has no volume but the configuration "
      ++ "mounts '" ++ expected ++ "'; volumes cannot be attached to existing machines, "
      ++ "recreate the machine"
  | .mountMismatch machine group expected found =>
    "machine " ++ machine ++ " in group '" ++ group ++ "' has volume '" ++ found
      ++ "' mounted but the configuration mounts '" ++ expected ++ "'"
  | .volumeUnavailable group volume =>
    "group '" ++ group ++ "' needs an unattached volume named '" ++ volume
      ++ "' but none is available"
  | .imageUnknown cause =>
    "could not determine the image to deploy: "
      ++ (match cause with
        | none => "no release found"
        | some e => e.message)
  | .backend cause => "control plane error: " ++ cause.message
  | .provision hook reason => "provisioning hook '" ++ hook ++ "' failed: " ++ reason
  | .releaseNotFinalized release cause =>
    "release " ++ release ++ " was left unfinalized: " ++ cause.message

/-- Make a call, its failure being one of the preflight. -/
def viaBackend {σ α : Type} (call : Action σ ControlPlaneError α) : Action σ PreflightError α :=
  call.adapt .backend

end Preflight
