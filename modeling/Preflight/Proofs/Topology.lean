import Preflight.Proofs.AppConfig
import Preflight.Proofs.Results
import Preflight.Topology

/-!
# When the topology is accepted

The gate between looking and acting, condition by condition.  `MountsAgree` is what a machine's
first mount must be to that of its group; `checkTopology_ok_iff` says that the gate opens when
every machine agrees with its group and every group without machines finds a free volume for each
of its mounts.
-/

namespace Preflight

open Result

/-- The first mount of a group and that of a machine are both absent, or both there with names
that are equal unless one of them is empty. -/
def MountsAgree : Option MountSpec → Option MachineMount → Prop
  | none, none => True
  | some expected, some found =>
    expected.source = "" ∨ found.name = "" ∨ expected.source = found.name
  | _, _ => False

theorem checkMachineMount_ok_iff {group : GroupConfig} {machine : Machine} :
    checkMachineMount group machine = .ok () ↔
      MountsAgree group.primaryMount machine.primaryMount := by
  unfold checkMachineMount MountsAgree
  cases group.primaryMount with
  | none => cases machine.primaryMount <;> simp
  | some expected =>
    cases machine.primaryMount with
    | none => simp
    | some found =>
      by_cases hsource : expected.source = ""
      · simp [hsource]
      · by_cases hname : found.name = ""
        · simp [hname]
        · by_cases hsame : expected.source = found.name
          · simp [hsame]
          · simp [hsource, hname, hsame]

theorem checkReservable_ok_iff {group : GroupConfig} {volumes : VolumeReservations} :
    checkReservable group volumes = .ok () ↔
      ∀ m ∈ group.mounts, 0 < volumes.queueLength m.source := by
  have hfind : group.mounts.find? (fun m => !volumes.hasReservable m.source) = none ↔
      ∀ m ∈ group.mounts, 0 < volumes.queueLength m.source := by
    simp [VolumeReservations.hasReservable, Nat.pos_iff_ne_zero]
  rw [← hfind]
  unfold checkReservable
  split
  · rename_i m hm
    simp [hm]
  · rename_i hnone
    simp [hnone]

/-- A declared group passes when its machines agree with its mount or, if it has none, each of
its mounts has a free volume. -/
theorem checkGroup_ok_iff {config : AppConfig} {inventory : MachineInventory}
    {volumes : VolumeReservations} {group : String} (hgroup : group ∈ config.groupNames) :
    checkGroup config inventory volumes group = .ok () ↔
      (inventory.inGroup group = [] →
        ∀ m ∈ config.mountsOf group, 0 < volumes.queueLength m.source) ∧
      ∀ machine ∈ inventory.inGroup group,
        MountsAgree (config.mountsOf group).head? machine.primaryMount := by
  unfold checkGroup
  rw [config.flatten_of_mem hgroup, mapError_ok]
  cases inventory.inGroup group with
  | nil =>
    refine checkReservable_ok_iff.trans ?_
    simp
  | cons machine rest =>
    refine forM_ok_iff.trans ?_
    simp [checkMachineMount_ok_iff, GroupConfig.primaryMount]

/-- The gate opens when every declared group passes. -/
theorem checkTopology_ok_iff {config : AppConfig} {inventory : MachineInventory}
    {volumes : VolumeReservations} :
    checkTopology config inventory volumes = .ok () ↔
      ∀ group ∈ config.groupNames,
        (inventory.inGroup group = [] →
          ∀ m ∈ config.mountsOf group, 0 < volumes.queueLength m.source) ∧
        ∀ machine ∈ inventory.inGroup group,
          MountsAgree (config.mountsOf group).head? machine.primaryMount := by
  rw [checkTopology, forM_ok_iff]
  constructor
  · intro h group hgroup
    exact (checkGroup_ok_iff hgroup).1 (h group hgroup)
  · intro h group hgroup
    exact (checkGroup_ok_iff hgroup).2 (h group hgroup)

/-! ## How the gate stays shut -/

/-- The failures that concern a mount of a group. -/
def PreflightError.IsMountFault : PreflightError → Prop
  | .mountOrphaned .. | .mountMissing .. | .mountMismatch .. | .volumeUnavailable .. => True
  | _ => False

theorem checkMachineMount_failsOnly (group : GroupConfig) (machine : Machine) :
    FailsOnly PreflightError.IsMountFault (checkMachineMount group machine) := by
  unfold checkMachineMount
  split
  · exact failsOnly_ok ()
  · exact failsOnly_error trivial
  · exact failsOnly_error trivial
  · split
    · exact failsOnly_error trivial
    · exact failsOnly_ok ()

theorem checkReservable_failsOnly (group : GroupConfig) (volumes : VolumeReservations) :
    FailsOnly PreflightError.IsMountFault (checkReservable group volumes) := by
  unfold checkReservable
  split
  · exact failsOnly_error trivial
  · exact failsOnly_ok ()

/-- The groups that are checked all have a view, so that only their mounts can be at fault. -/
theorem checkTopology_failsOnly (config : AppConfig) (inventory : MachineInventory)
    (volumes : VolumeReservations) :
    FailsOnly PreflightError.IsMountFault (checkTopology config inventory volumes) := by
  refine failsOnly_forM ?_
  intro group hgroup
  unfold checkGroup
  rw [config.flatten_of_mem hgroup, mapError_ok]
  refine failsOnly_bind (failsOnly_ok _) ?_
  intro view
  split
  · exact checkReservable_failsOnly _ _
  · exact failsOnly_forM fun machine _ => checkMachineMount_failsOnly _ _

end Preflight
