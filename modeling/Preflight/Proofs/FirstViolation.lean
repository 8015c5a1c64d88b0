import Preflight.Proofs.Runs
import Preflight.Proofs.Topology

/-!
# The violation that is reported

Where the gate between looking and acting stays shut, it names one thing that is wrong, and that
is the first: groups are taken in the order of their names, the machines of a group as they are
listed, and the mounts of a group as they are configured.

* `MountViolation` says what can be wrong with one machine, and how it is reported; it does not
  mention the check.
* `GroupViolation` is the first violation in one group: of a machine, or, in a group without
  machines, of a mount that finds no free volume.
* `checkTopology_reports_first` puts the groups together.  It also says that the gate takes
  nothing: a plan has the volumes that its hook has left.
-/

namespace Preflight

open Result Preflight.Action

/-! ## Violations -/

/-- What is wrong with the first mount of a machine, given that of its group. -/
inductive MountViolation (group : String) (machine : Machine) :
    Option MountSpec → PreflightError → Prop where
  | orphaned {found : MachineMount} (hfound : machine.mounts.head? = some found) :
      MountViolation group machine none (.mountOrphaned machine.id group found.name)
  | missing {expected : MountSpec} (hnone : machine.mounts.head? = none) :
      MountViolation group machine (some expected)
        (.mountMissing machine.id group expected.source)
  | mismatch {expected : MountSpec} {found : MachineMount}
      (hfound : machine.mounts.head? = some found) (hsource : expected.source ≠ "")
      (hname : found.name ≠ "") (hdiffer : expected.source ≠ found.name) :
      MountViolation group machine (some expected)
        (.mountMismatch machine.id group expected.source found.name)

/-- The machine and the group that a violation by a machine is about. -/
def PreflightError.machineAtFault? : PreflightError → Option (String × String)
  | .mountOrphaned machine group _ => some (machine, group)
  | .mountMissing machine group _ => some (machine, group)
  | .mountMismatch machine group _ _ => some (machine, group)
  | _ => none

theorem MountViolation.machineAtFault?_eq {group : String} {machine : Machine}
    {expected : Option MountSpec} {e : PreflightError}
    (h : MountViolation group machine expected e) :
    e.machineAtFault? = some (machine.id, group) := by
  cases h <;> rfl

/-- A group passes the gate. -/
def GroupFits (config : AppConfig) (inventory : MachineInventory) (volumes : VolumeReservations)
    (group : String) : Prop :=
  (inventory.inGroup group = [] →
    ∀ m ∈ config.mountsOf group, 0 < volumes.queueLength m.source) ∧
  ∀ machine ∈ inventory.inGroup group,
    MountsAgree (config.mountsOf group).head? machine.primaryMount

/-- The first violation in a group. -/
inductive GroupViolation (config : AppConfig) (inventory : MachineInventory)
    (volumes : VolumeReservations) (group : String) : PreflightError → Prop where
  | mount {before after : List Machine} {machine : Machine} {e : PreflightError}
      (hmachines : inventory.inGroup group = before ++ machine :: after)
      (hbefore : ∀ m ∈ before, MountsAgree (config.mountsOf group).head? m.primaryMount)
      (h : MountViolation group machine (config.mountsOf group).head? e) :
      GroupViolation config inventory volumes group e
  | unavailable {before after : List MountSpec} {mount : MountSpec}
      (hmachines : inventory.inGroup group = [])
      (hmounts : config.mountsOf group = before ++ mount :: after)
      (hbefore : ∀ m ∈ before, 0 < volumes.queueLength m.source)
      (hnone : volumes.queueLength mount.source = 0) :
      GroupViolation config inventory volumes group (.volumeUnavailable group mount.source)

/-! ## One group -/

theorem mountViolation_none_iff {group : String} {machine : Machine} {e : PreflightError} :
    MountViolation group machine none e ↔ ∃ found, machine.mounts.head? = some found ∧
      .mountOrphaned machine.id group found.name = e := by
  constructor
  · rintro ⟨hfound⟩
    exact ⟨_, hfound, rfl⟩
  · rintro ⟨found, hfound, rfl⟩
    exact .orphaned hfound

theorem mountViolation_some_iff {group : String} {machine : Machine} {expected : MountSpec}
    {e : PreflightError} :
    MountViolation group machine (some expected) e ↔
      machine.mounts.head? = none ∧ .mountMissing machine.id group expected.source = e ∨
      ∃ found, machine.mounts.head? = some found ∧
        (expected.source ≠ "" ∧ found.name ≠ "" ∧ expected.source ≠ found.name) ∧
        .mountMismatch machine.id group expected.source found.name = e := by
  constructor
  · rintro (_ | ⟨hnone⟩ | ⟨hfound, hsource, hname, hdiffer⟩)
    · exact .inl ⟨hnone, rfl⟩
    · exact .inr ⟨_, hfound, ⟨hsource, hname, hdiffer⟩, rfl⟩
  · rintro (⟨hnone, rfl⟩ | ⟨found, hfound, ⟨hsource, hname, hdiffer⟩, rfl⟩)
    · exact .missing hnone
    · exact .mismatch hfound hsource hname hdiffer

theorem checkMachineMount_error_iff {group : GroupConfig} {machine : Machine}
    {e : PreflightError} :
    checkMachineMount group machine = .error e ↔
      MountViolation group.name machine group.primaryMount e := by
  unfold checkMachineMount Machine.primaryMount
  cases group.primaryMount with
  | none =>
    rw [mountViolation_none_iff]
    cases machine.mounts.head? <;> simp
  | some expected =>
    rw [mountViolation_some_iff]
    cases machine.mounts.head? with
    | none => simp
    | some found =>
      refine guard_error_iff.trans ?_
      simp

theorem checkReservable_error_iff {group : GroupConfig} {volumes : VolumeReservations}
    {e : PreflightError} :
    checkReservable group volumes = .error e ↔
      ∃ before mount after, group.mounts = before ++ mount :: after ∧
        (∀ m ∈ before, 0 < volumes.queueLength m.source) ∧
        volumes.queueLength mount.source = 0 ∧
        e = .volumeUnavailable group.name mount.source := by
  have hfound : ∀ mount, group.mounts.find? (fun m => !volumes.hasReservable m.source) =
      some mount ↔ volumes.queueLength mount.source = 0 ∧
        ∃ before after, group.mounts = before ++ mount :: after ∧
          ∀ m ∈ before, 0 < volumes.queueLength m.source := by
    intro mount
    simp [List.find?_eq_some_iff_append, VolumeReservations.hasReservable]
  unfold checkReservable
  cases hfind : group.mounts.find? fun m => !volumes.hasReservable m.source with
  | none =>
    constructor
    · intro h
      cases h
    · rintro ⟨before, mount, after, hsplit, hbefore, hnone, -⟩
      have hsome := (hfound mount).2 ⟨hnone, before, after, hsplit, hbefore⟩
      rw [hfind] at hsome
      cases hsome
  | some first =>
    constructor
    · rintro ⟨⟩
      obtain ⟨hnone, before, after, hsplit, hbefore⟩ := (hfound first).1 hfind
      exact ⟨before, first, after, hsplit, hbefore, hnone, rfl⟩
    · rintro ⟨before, mount, after, hsplit, hbefore, hnone, rfl⟩
      have hsome := (hfound mount).2 ⟨hnone, before, after, hsplit, hbefore⟩
      obtain rfl := Option.some.inj (hfind.symm.trans hsome)
      rfl

/-- A declared group fails the gate with its first violation. -/
theorem checkGroup_error_iff {config : AppConfig} {inventory : MachineInventory}
    {volumes : VolumeReservations} {group : String} (hgroup : group ∈ config.groupNames)
    {e : PreflightError} :
    checkGroup config inventory volumes group = .error e ↔
      GroupViolation config inventory volumes group e := by
  unfold checkGroup
  rw [config.flatten_of_mem hgroup, mapError_ok]
  cases hmachines : inventory.inGroup group with
  | nil =>
    refine checkReservable_error_iff.trans ?_
    constructor
    · rintro ⟨before, mount, after, hsplit, hbefore, hnone, rfl⟩
      exact .unavailable hmachines hsplit hbefore hnone
    · rintro (⟨hlisted, -, -⟩ | ⟨-, hsplit, hbefore, hnone⟩)
      · rw [hmachines] at hlisted
        simp at hlisted
      · exact ⟨_, _, _, hsplit, hbefore, hnone, rfl⟩
  | cons head rest =>
    refine forM_error_iff.trans ?_
    simp only [checkMachineMount_ok_iff, checkMachineMount_error_iff]
    rw [← hmachines]
    constructor
    · rintro ⟨before, machine, after, hsplit, hbefore, h⟩
      exact .mount hsplit hbefore h
    · rintro (⟨hsplit, hbefore, h⟩ | ⟨hlisted, -, -, -⟩)
      · exact ⟨_, _, _, hsplit, hbefore, h⟩
      · rw [hmachines] at hlisted
        cases hlisted

/-! ## All groups -/

/-- The gate stays shut with the first violation in the first group that has one. -/
theorem checkTopology_error_iff {config : AppConfig} {inventory : MachineInventory}
    {volumes : VolumeReservations} {e : PreflightError} :
    checkTopology config inventory volumes = .error e ↔
      ∃ before group after, config.groupNames = before ++ group :: after ∧
        (∀ earlier ∈ before, GroupFits config inventory volumes earlier) ∧
        GroupViolation config inventory volumes group e := by
  rw [checkTopology, forM_error_iff]
  refine exists_congr fun before => exists_congr fun group => exists_congr fun after => ?_
  refine and_congr_right fun hsplit => ?_
  have hmem : ∀ g, g ∈ before ++ group :: after → g ∈ config.groupNames := by
    intro g hg
    rwa [hsplit]
  refine and_congr ?_ ?_
  · refine forall₂_congr fun earlier hearlier => ?_
    exact checkGroup_ok_iff (hmem earlier (List.mem_append_left _ hearlier))
  · exact checkGroup_error_iff (hmem group (by simp))

namespace DeploymentPlan

variable {σ : Type} [ControlPlaneClient σ]

/-- The plan has the volumes with which the gate was passed: those that its hook has left or, where
no hook was run, those that were listed. -/
def HasVolumesLeft (plan : DeploymentPlan) (hook : ProvisionHook σ) (args : DeploymentArgs)
    (s : σ) : Prop :=
  checkTopology plan.config plan.inventory plan.volumes = .ok () ∧
  ∃ (listed : VolumeReservations) (s₁ s₂ s₃ s₄ : σ),
    (MachineInventory.survey plan.session plan.config).from s = (.ok plan.inventory, s₁) ∧
    (VolumeReservations.reconcile plan.session plan.config).from s₁ = (.ok listed, s₂) ∧
    (ResolvedImage.resolve args.explicitImage plan.session plan.inventory).from s₂ =
      (.ok plan.image, s₃) ∧
    if plan.firstDeploy = true then
      (hook.run ⟨plan.session, plan.config, plan.image.reference, listed⟩).from s₃ =
        (.ok plan.volumes, s₄)
    else plan.volumes = listed

theorem hasVolumesLeft_of_prepare {hook : ProvisionHook σ} {ambient : Option AppConfig}
    {args : DeploymentArgs} {s t : σ} {plan : DeploymentPlan}
    (h : (prepare hook ambient args).from s = (.ok plan, t)) :
    plan.HasVolumesLeft hook args s := by
  obtain ⟨d, u, release, hdraft, -, rfl⟩ := prepare_ok_iff.1 h
  obtain ⟨-, s₁, s₂, s₃, listed, hinventory, hlisted, himage, hvolumes, htopology⟩ :=
    Draft.make_ok_iff.1 hdraft
  refine ⟨htopology, listed, s₁, s₂, s₃, u, hinventory, hlisted, himage, ?_⟩
  unfold Draft.provision at hvolumes
  show if d.inventory.isFirstDeploy d.brief.session.app = true then _ else d.volumes = listed
  split
  · rename_i hfirst
    rw [if_pos hfirst] at hvolumes
    exact hvolumes
  · rename_i hlater
    rw [if_neg hlater] at hvolumes
    exact (Except.ok.inj (congrArg Prod.fst hvolumes)).symm

end DeploymentPlan

/-- Groups are checked in the order of their names, each once.  The gate opens exactly when every
group fits, and otherwise reports the first violation in the first group that has one.  It takes no
volume: a plan has those with which the gate was passed. -/
theorem checkTopology_reports_first (config : AppConfig) (inventory : MachineInventory)
    (volumes : VolumeReservations) :
    config.groupNames.Pairwise (· < ·) ∧
    (∀ group, group ∈ config.groupNames ↔ config.hasGroup group = true) ∧
    (checkTopology config inventory volumes = .ok () ↔
      ∀ group ∈ config.groupNames, GroupFits config inventory volumes group) ∧
    (∀ e, checkTopology config inventory volumes = .error e ↔
      ∃ before group after, config.groupNames = before ++ group :: after ∧
        (∀ earlier ∈ before, GroupFits config inventory volumes earlier) ∧
        GroupViolation config inventory volumes group e) ∧
    ∀ {σ : Type} [ControlPlaneClient σ] (hook : ProvisionHook σ) ambient args (s t : σ) plan,
      (DeploymentPlan.prepare hook ambient args).from s = (.ok plan, t) →
      plan.HasVolumesLeft hook args s := by
  refine ⟨config.groupNames_sorted, config.mem_groupNames_iff, checkTopology_ok_iff, ?_, ?_⟩
  · intro e
    exact checkTopology_error_iff
  · intro σ _ hook ambient args s t plan h
    exact DeploymentPlan.hasVolumesLeft_of_prepare h

/-- Two machines of one group, of which the second mounts another volume than the group. -/
def mixedMounts : MachineInventory :=
  let mounting (id volume : String) : Machine :=
    ((Machine.started id "shop:1").managed "web").withMount ⟨"vol_1", volume, "/data"⟩
  .ofListing ⟨[mounting "m1" "data", mounting "m2" "logs"], none⟩ "web"

/-- The second machine is reported, not the group after it, which finds no volume. -/
theorem shop_reports_first :
    checkTopology .shop mixedMounts .empty = .error (.mountMismatch "m2" "web" "data" "logs") ∧
    ∃ after, AppConfig.shop.groupNames = "web" :: after ∧
      GroupViolation .shop mixedMounts .empty "web" (.mountMismatch "m2" "web" "data" "logs") := by
  have hfails : checkTopology .shop mixedMounts .empty =
      .error (.mountMismatch "m2" "web" "data" "logs") := by decide +kernel
  obtain ⟨-, -, -, hreports, -⟩ := checkTopology_reports_first .shop mixedMounts .empty
  obtain ⟨before, group, after, hgroups, -, hviolation⟩ := (hreports _).1 hfails
  have hgroup : "web" = group := by
    cases hviolation with
    | mount _ _ h => exact (Prod.mk.inj (Option.some.inj h.machineAtFault?_eq)).2
  subst hgroup
  refine ⟨hfails, after, ?_, hviolation⟩
  have hnames : AppConfig.shop.groupNames = ["web", "worker"] := by decide +kernel
  rw [hnames] at hgroups ⊢
  cases before with
  | nil => exact hgroups
  | cons first before =>
    obtain ⟨-, hrest⟩ := List.cons.inj hgroups
    cases before <;> simp at hrest

end Preflight
