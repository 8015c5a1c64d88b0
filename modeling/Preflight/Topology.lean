import Preflight.MachineInventory
import Preflight.VolumeReservations

/-!
# Topology

The gate between looking and acting.  For each process group the machines that exist must mount
what the configuration says, and a group without machines needs a free volume for each of its
mounts.  Only the first mount of a group or machine is compared; a name that is empty on either
side matches everything.
-/

namespace Preflight

/-- Check the mount of one machine against its group. -/
def checkMachineMount (group : GroupConfig) (machine : Machine) : Except PreflightError Unit :=
  match group.primaryMount, machine.primaryMount with
  | none, none => .ok ()
  | none, some found => .error (.mountOrphaned machine.id group.name found.name)
  | some expected, none => .error (.mountMissing machine.id group.name expected.source)
  | some expected, some found =>
    if expected.source ≠ "" ∧ found.name ≠ "" ∧ expected.source ≠ found.name then
      .error (.mountMismatch machine.id group.name expected.source found.name)
    else .ok ()

/-- Check that each mount of a group without machines has a free volume. -/
def checkReservable (group : GroupConfig) (volumes : VolumeReservations) :
    Except PreflightError Unit :=
  match group.mounts.find? fun m => !volumes.hasReservable m.source with
  | some m => .error (.volumeUnavailable group.name m.source)
  | none => .ok ()

/-- Check one process group. -/
def checkGroup (config : AppConfig) (inventory : MachineInventory) (volumes : VolumeReservations)
    (name : String) : Except PreflightError Unit := do
  let group ← (config.flatten name).mapError fun e => .configuration (.invalid e)
  match inventory.inGroup name with
  | [] => checkReservable group volumes
  | machines => machines.forM (checkMachineMount group)

/-- Check every process group, in order. -/
def checkTopology (config : AppConfig) (inventory : MachineInventory)
    (volumes : VolumeReservations) : Except PreflightError Unit :=
  config.groupNames.forM (checkGroup config inventory volumes)

end Preflight
