import Preflight.VolumeReservations

/-!
# Provisioning hooks

On the first deploy of an application a hook may prepare what its machines will need.  It sees
the configuration, the image and the free volumes, may take some of the volumes, and answers with
those that are left, or with the reason why it failed.
-/

namespace Preflight

/-- What a hook sees. -/
structure ProvisionContext where
  session : ControlPlaneSession
  config : AppConfig
  /-- Reference of the image to deploy. -/
  image : String
  /-- The free volumes. -/
  volumes : VolumeReservations
  deriving DecidableEq, Repr

/-- A named preparation of a first deploy. -/
structure ProvisionHook (σ : Type) where
  name : String
  /-- Prepare, and answer with the volumes that are left or with the reason of a failure. -/
  provision : ProvisionContext → StateM σ (Except String VolumeReservations)

namespace ProvisionHook

/-- The hook that prepares nothing. -/
def idle {σ : Type} : ProvisionHook σ := ⟨"noop", fun context => return .ok context.volumes⟩

/-- Take one volume of each name, in order. -/
def reserveAll : List String → VolumeReservations → Except String VolumeReservations
  | [], volumes => .ok volumes
  | name :: names, volumes =>
    match volumes.reserve? name with
    | some (_, volumes) => reserveAll names volumes
    | none => .error ("no volume named " ++ name)

/-- The hook that takes one volume of each name and then fails, if it has a reason to. -/
def reserving {σ : Type} (name : String) (names : List String) (failure : Option String) :
    ProvisionHook σ :=
  ⟨name, fun context => return do
    let volumes ← reserveAll names context.volumes
    match failure with
    | some reason => .error reason
    | none => .ok volumes⟩

/-- Run a hook as a step of a preflight. -/
def run {σ : Type} (hook : ProvisionHook σ) (context : ProvisionContext) :
    Action σ PreflightError VolumeReservations := do
  match ← ExceptT.lift (hook.provision context) with
  | .ok volumes => return volumes
  | .error reason => throw (.provision hook.name reason)

end ProvisionHook

end Preflight
