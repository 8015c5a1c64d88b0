import Preflight.ControlPlane

/-!
# Calls

The calls of a control plane as values, so that they can be logged and counted.
-/

namespace Preflight

/-! ## Operations -/

/-- The operations of a control plane. -/
inductive Operation where
  | listMachines
  | listActiveMachines
  | listVolumes
  | latestReleaseImage
  | createRelease
  | updateRelease
  deriving DecidableEq, Repr, Inhabited

namespace Operation

/-- Every operation. -/
def all : List Operation :=
  [.listMachines, .listActiveMachines, .listVolumes, .latestReleaseImage, .createRelease,
    .updateRelease]

/-- The name of an operation. -/
def name : Operation → String
  | .listMachines => "list_machines"
  | .listActiveMachines => "list_active_machines"
  | .listVolumes => "list_volumes"
  | .latestReleaseImage => "latest_release_image"
  | .createRelease => "create_release"
  | .updateRelease => "update_release"

end Operation

/-! ## Calls -/

/-- One call of a control plane with its arguments. -/
inductive Call where
  | listMachines (app : String)
  | listActiveMachines (app : String)
  | listVolumes (app : String)
  | latestReleaseImage (app : String)
  | createRelease (input : ReleaseInput)
  | updateRelease (id : String) (status : ReleaseStatus)
  deriving Repr

namespace Call

/-- The operation of a call. -/
def operation : Call → Operation
  | .listMachines _ => .listMachines
  | .listActiveMachines _ => .listActiveMachines
  | .listVolumes _ => .listVolumes
  | .latestReleaseImage _ => .latestReleaseImage
  | .createRelease _ => .createRelease
  | .updateRelease _ _ => .updateRelease

/-- What a call is about: the application, or the release to update. -/
def subject : Call → String
  | .listMachines app => app
  | .listActiveMachines app => app
  | .listVolumes app => app
  | .latestReleaseImage app => app
  | .createRelease input => input.appId
  | .updateRelease id _ => id

end Call

end Preflight
