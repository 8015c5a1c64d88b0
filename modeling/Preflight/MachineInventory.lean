import Preflight.PreflightError

/-!
# Machine inventory

The managed machines of an application, each with its process group.  A machine whose metadata
names no group belongs to the default group; the assignment is kept in a map by machine
identifier, and the machines themselves stay as listed.  When machines share an identifier, the
last of them decides the group of all, the machine for the release command coming after the
others.

`MachineInventory.survey` takes the inventory from a control plane and refuses to go on while
machines are alive that nobody manages.
-/

namespace Preflight

/-- The managed machines of an application. -/
structure MachineInventory where
  /-- The ordinary machines, as listed. -/
  machines : List Machine := []
  /-- The machine that runs the release command, if there is one. -/
  releaseCommand : Option Machine := none
  /-- The process group of each machine, by identifier. -/
  groups : TextMap String := ∅
  deriving DecidableEq, Repr, Inhabited

namespace MachineInventory

/-! ## Construction -/

/-- The group a machine's metadata names, or the default group. -/
def groupOrDefault (defaultGroup : String) (m : Machine) : String :=
  if m.processGroup = "" then defaultGroup else m.processGroup

/-- The inventory of a listing. -/
def ofListing (listing : MachineListing) (defaultGroup : String) : MachineInventory where
  machines := listing.machines
  releaseCommand := listing.releaseCommand
  groups := .ofList ((listing.machines ++ listing.releaseCommand.toList).map fun m =>
    (m.id, groupOrDefault defaultGroup m))

/-- The inventory of the session's application. -/
def survey {σ : Type} [ControlPlaneClient σ] (session : ControlPlaneSession)
    (config : AppConfig) : Action σ PreflightError MachineInventory := do
  let listing ← viaBackend session.listMachines
  if listing.machines.isEmpty then
    let active ← viaBackend session.listActiveMachines
    if !active.isEmpty then throw (.unmanagedMachines active.length)
  return ofListing listing config.defaultGroup

/-! ## Views -/

/-- Whether there is no ordinary machine. -/
def isEmpty (i : MachineInventory) : Bool := i.machines.isEmpty

/-- The process group of a machine of the inventory. -/
def groupOf? (i : MachineInventory) (m : Machine) : Option String := i.groups.get? m.id

/-- The ordinary machines of a group, as listed. -/
def inGroup (i : MachineInventory) (group : String) : List Machine :=
  i.machines.filter fun m => i.groupOf? m == some group

/-- The ordinary machines by group. -/
def byGroup (i : MachineInventory) : TextMap (List Machine) :=
  i.machines.foldl (fun acc m =>
    match i.groupOf? m with
    | some group => acc.push group m
    | none => acc) ∅

/-- The image of the first ordinary machine that has one. -/
def firstImage (i : MachineInventory) : Option String :=
  (i.machines.map (·.image)).find? (· != "")

/-- Whether this is the first deploy of an application: it never had a release deployed and has
no machine.  An application scaled down to no machines was deployed before. -/
def isFirstDeploy (i : MachineInventory) (app : AppHandle) : Bool := !app.deployed && i.isEmpty

end MachineInventory

end Preflight
