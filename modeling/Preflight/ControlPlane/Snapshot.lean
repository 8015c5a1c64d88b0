import Preflight.ControlPlane.InMemory

/-!
# Snapshots

The recorded state of one application, and the control plane in memory that it makes.  A rehearsal
runs against such a plane.
-/

namespace Preflight

/-- The recorded state of one application. -/
structure Snapshot where
  app : Option AppHandle
  /-- Every machine, managed or not. -/
  machines : List Machine := []
  /-- Every volume, free or not. -/
  volumes : List Volume := []
  /-- The image of the current release, if the application was deployed before. -/
  currentImage : Option String := none
  deriving DecidableEq, Repr, Inhabited

instance : Codec Snapshot where
  encode s := .record [("app", encode s.app), ("machines", encode s.machines),
    ("volumes", encode s.volumes), ("current_image", encode s.currentImage)]
  decode j := do
    let ms ← j.members? ["app", "machines", "volumes", "current_image"] 1
    let app ← withDefault ms "app" none
    let machines ← withDefault ms "machines" []
    let volumes ← withDefault ms "volumes" []
    let currentImage ← withDefault ms "current_image" none
    some ⟨app, machines, volumes, currentImage⟩

/-- The plane of a recorded application. -/
def InMemoryPlane.ofSnapshot (newId : UInt64 → String) (s : Snapshot) :
    Except ControlPlaneError InMemoryPlane :=
  match s.app with
  | none => .error (.invalidRequest "snapshot does not name an app")
  | some app =>
    let plane := s.machines.foldl (·.addMachine app.name ·) (.empty newId)
    let plane := s.volumes.foldl (·.addVolume app.name ·) plane
    .ok (match s.currentImage with
      | none => plane
      | some image => plane.seedRelease app.name image)

end Preflight
