import Preflight.PreflightError

/-!
# Recording releases

A plan enters its release in the ledger when it is made and moves it to a terminal status when it
has been carried out.
-/

namespace Preflight

namespace ReleaseRecorder

variable {σ : Type} [ControlPlaneClient σ]

/-- The request for the release of a plan. -/
def request (session : ControlPlaneSession) (config : AppConfig) (strategy : RolloutStrategy)
    (image : String) : ReleaseInput :=
  ⟨session.app.name, ReleaseInput.platform, strategy.ledgerName, encode config, image⟩

/-- Create the release of a plan. -/
def create (session : ControlPlaneSession) (config : AppConfig) (strategy : RolloutStrategy)
    (image : String) : Action σ PreflightError Release :=
  viaBackend (ControlPlaneClient.createRelease (request session config strategy image))

/-- Move a release to a terminal status. -/
def update (id : String) (status : ReleaseStatus) : Action σ PreflightError Unit :=
  if status.isTerminal then
    (ControlPlaneClient.updateRelease id status).adapt (.releaseNotFinalized id)
  else throw (.contractViolation (.statusNotTerminal id status))

end ReleaseRecorder

end Preflight
