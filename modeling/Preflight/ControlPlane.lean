import Preflight.AppConfig
import Preflight.Machine
import Preflight.Release
import Preflight.Volume

/-!
# The control plane

Everything a preflight learns from the platform, and everything it changes there, goes through
six calls.  `ControlPlaneClient σ` is a control plane whose state is a value of `σ`: each call
answers or fails, and gives the state after it, in both cases.

A `ControlPlaneSession` is bound to one application with a non-empty name and makes its calls for
that application.
-/

namespace Preflight

/-! ## Answers -/

/-- Why a call failed. -/
inductive ControlPlaneError where
  | releaseNotFound (id : String)
  | invalidRequest (reason : String)
  | unavailable (reason : String)
  deriving DecidableEq, Repr

/-- The wording of a failure. -/
def ControlPlaneError.message : ControlPlaneError → String
  | .releaseNotFound id => "release not found: " ++ id
  | .invalidRequest reason => "invalid request: " ++ reason
  | .unavailable reason => "control plane unavailable: " ++ reason

/-- The managed machines of an application. -/
structure MachineListing where
  /-- The ordinary machines. -/
  machines : List Machine := []
  /-- The machine that runs the release command, if there is one. -/
  releaseCommand : Option Machine := none
  deriving DecidableEq, Repr, Inhabited

/-! ## Calls -/

/-- A computation that changes a state of `σ` and answers an `α` or fails with an `ε`.  What it
did to the state stands also when it fails. -/
abbrev Action (σ ε α : Type) := ExceptT ε (StateM σ) α

/-- Run an action from a state. -/
def Action.from {σ ε α : Type} (action : Action σ ε α) (s : σ) : Except ε α × σ :=
  StateT.run (ExceptT.run action) s

/-- The calls of a control plane with states in `σ`. -/
class ControlPlaneClient (σ : Type) where
  /-- The managed machines of an application. -/
  listMachines : (app : String) → Action σ ControlPlaneError MachineListing
  /-- The machines of an application that are alive, managed or not, without the one that runs
  the release command. -/
  listActiveMachines : (app : String) → Action σ ControlPlaneError (List Machine)
  /-- The volumes of an application. -/
  listVolumes : (app : String) → Action σ ControlPlaneError (List Volume)
  /-- The image of the latest release of an application, if it has one. -/
  latestReleaseImage : (app : String) → Action σ ControlPlaneError (Option String)
  /-- Create a release; the control plane gives it an identifier and a version. -/
  createRelease : (input : ReleaseInput) → Action σ ControlPlaneError Release
  /-- Move a release to a status. -/
  updateRelease : (id : String) → (status : ReleaseStatus) → Action σ ControlPlaneError Unit

/-! ## Sessions -/

/-- The right to make calls for one application. -/
structure ControlPlaneSession where
  app : AppHandle
  /-- The application has a name. -/
  named : app.name ≠ ""
  deriving DecidableEq, Repr

namespace ControlPlaneSession

/-- The session of an application. -/
def ofApp (app : AppHandle) : Except ControlPlaneError ControlPlaneSession :=
  if h : app.name = "" then
    .error (.invalidRequest "cannot open a session without an app name")
  else .ok ⟨app, h⟩

variable {σ : Type} [ControlPlaneClient σ] (session : ControlPlaneSession)

/-- `ControlPlaneClient.listMachines` of the session's application. -/
def listMachines : Action σ ControlPlaneError MachineListing :=
  ControlPlaneClient.listMachines session.app.name

/-- `ControlPlaneClient.listActiveMachines` of the session's application. -/
def listActiveMachines : Action σ ControlPlaneError (List Machine) :=
  ControlPlaneClient.listActiveMachines session.app.name

/-- `ControlPlaneClient.listVolumes` of the session's application. -/
def listVolumes : Action σ ControlPlaneError (List Volume) :=
  ControlPlaneClient.listVolumes session.app.name

/-- `ControlPlaneClient.latestReleaseImage` of the session's application. -/
def latestReleaseImage : Action σ ControlPlaneError (Option String) :=
  ControlPlaneClient.latestReleaseImage session.app.name

end ControlPlaneSession

end Preflight
