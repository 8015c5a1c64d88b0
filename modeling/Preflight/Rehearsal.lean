import Preflight.ControlPlane.InMemory
import Preflight.ProvisionHook

/-!
# Rehearsals

A rehearsal runs against a plane in memory and lets more be seen and bent than the plane itself
does: the answer for the latest image can be pinned, and every context in which a hook ran is
kept.  Pinning changes one answer and nothing else; keeping contexts changes no answer.
-/

namespace Preflight

/-- A plane in memory under observation. -/
structure Rehearsal where
  plane : InMemoryPlane
  /-- The pinned answer for the latest image, if it is pinned. -/
  pinnedImage : Option (Option String) := none
  /-- The contexts in which observed hooks ran, in order. -/
  provisioned : List ProvisionContext := []

namespace Rehearsal

/-- Make a call of the plane. -/
def onPlane {ε α : Type} (call : Action InMemoryPlane ε α) : Action Rehearsal ε α :=
  ExceptT.mk fun r =>
    let (answer, plane) := call.from r.plane
    (answer, { r with plane })

instance : ControlPlaneClient Rehearsal where
  listMachines app := onPlane (ControlPlaneClient.listMachines app)
  listActiveMachines app := onPlane (ControlPlaneClient.listActiveMachines app)
  listVolumes app := onPlane (ControlPlaneClient.listVolumes app)
  latestReleaseImage app := do
    let image ← onPlane (ControlPlaneClient.latestReleaseImage app)
    return ((← get).pinnedImage).getD image
  createRelease input := onPlane (ControlPlaneClient.createRelease input)
  updateRelease id status := onPlane (ControlPlaneClient.updateRelease id status)

/-- The hook that also keeps the context in which it runs. -/
def observed (hook : ProvisionHook Rehearsal) : ProvisionHook Rehearsal :=
  ⟨hook.name, fun context => do
    modify fun r => { r with provisioned := r.provisioned ++ [context] }
    hook.provision context⟩

end Rehearsal

end Preflight
