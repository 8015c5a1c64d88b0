import Preflight.Proofs.GuestSpec
import Preflight.Proofs.Inventory
import Preflight.Proofs.Overrides
import Preflight.Proofs.Topology
import Preflight.Proofs.Views

/-!
# When a preparation succeeds

The exact condition in terms of the request and the records of the plane.  It has two parts:
`DeploymentArgs.Acceptable` is what the request and the configuration must satisfy by themselves,
`InMemoryPlane.Supports` what the plane must hold.

The second part speaks of machines, volumes and releases as they are recorded, not of what the
stages make of them on the way; each stage has a lemma that says what it makes of the records
when no failure is set.

* `surveyed_ok_iff` and `inGroup_surveyed`: the survey gives each group the machines that
  `InMemoryPlane.members` lists.
* `reconciled_eq` and `queueLength_listed`: the queues are as long as `InMemoryPlane.freeVolumes`
  says.
* `exists_resolved_iff`: there is an image.
* `provisioned_ok_iff`: a hook that reserves leaves what it did not take.

The last section puts the stages together.
-/

namespace Preflight

open Result

/-! ## The condition -/

/-- What a request must satisfy by itself, for the application and the effective configuration. -/
structure DeploymentArgs.Acceptable (args : DeploymentArgs) (app : AppHandle)
    (config : AppConfig) : Prop where
  named : app.name ≠ ""
  restart : ¬(args.restartOnly = true ∧ ∃ image, args.image = some image ∧ image ≠ "")
  tokens : ∀ token ∈ args.overrides.env, Overrides.IsAssignment token
  valid : config.validate = .ok ()
  command : ∀ command, config.releaseCommand = some command →
    (ShellWords.split? command).isSome = true
  strategy : ∀ name, (nonEmpty args.strategy).or config.deployStrategy = some name →
    name = "rolling" ∨ name = "immediate"
  size : ∀ token, args.vmSize = some token →
    isBlank token = true ∨ token ∈ GuestSpec.presetNames

namespace InMemoryPlane

/-- The machines that are alive, managed or not, without those for the release command. -/
def ordinary (p : InMemoryPlane) (app : String) : List Machine :=
  (p.machinesOf app).filter fun m => m.isActive && m.processGroup != Machine.releaseCommandGroup

/-- The managed ones among them of a group; those without a group are in the default group. -/
def members (p : InMemoryPlane) (app : String) (config : AppConfig) (group : String) :
    List Machine :=
  (p.ordinary app).filter fun m => m.isManaged &&
    (if m.processGroup = "" then config.defaultGroup else m.processGroup) == group

/-- The number of volumes of a name that nothing holds, if the configuration mounts any. -/
def freeVolumes (p : InMemoryPlane) (app : String) (config : AppConfig) (name : String) : Nat :=
  if config.hasMounts then
    (p.volumesOf app).countP fun v =>
      v.attachedMachine.isNone && v.attachedAllocation.isNone && v.name == name
  else 0

/-- The application was never deployed and has no ordinary machine. -/
def FirstDeploy (p : InMemoryPlane) (app : AppHandle) : Prop :=
  app.deployed = false ∧ p.ordinary app.name = []

instance (p : InMemoryPlane) (app : AppHandle) : Decidable (p.FirstDeploy app) :=
  inferInstanceAs (Decidable (_ ∧ _))

/-- How many volumes of a name a hook takes that reserves some names. -/
def takenVolumes (p : InMemoryPlane) (app : AppHandle) (names : List String) (name : String) :
    Nat :=
  if p.FirstDeploy app then names.count name else 0

/-- What the plane must hold for a deploy whose hook reserves some names. -/
structure Supports (p : InMemoryPlane) (names : List String) (args : DeploymentArgs)
    (app : AppHandle) (config : AppConfig) : Prop where
  managed : (∃ m ∈ p.ordinary app.name, m.isManaged = true) ∨ p.ordinary app.name = []
  image : (∃ image, args.image = some image ∧ image ≠ "") ∨
    (∃ r, (p.ledger.releases.filter (·.appName == app.name)).getLast? = some r ∧ r.image ≠ "") ∨
    ∃ m ∈ p.ordinary app.name, m.isManaged = true ∧ m.image ≠ ""
  hook : ∀ name, p.takenVolumes app names name ≤ p.freeVolumes app.name config name
  groups : ∀ group ∈ config.groupNames,
    (p.members app.name config group = [] → ∀ mount ∈ config.mountsOf group,
      p.takenVolumes app names mount.source < p.freeVolumes app.name config mount.source) ∧
    ∀ m ∈ p.members app.name config group,
      MountsAgree (config.mountsOf group).head? m.mounts.head?

/-! ## The survey -/

section Stages

variable {p : InMemoryPlane} (hclear : ∀ op, p.failures op = none)

theorem listingOf_machinesOf (p : InMemoryPlane) (app : String) :
    (listingOf (p.machinesOf app)).machines = (p.ordinary app).filter (·.isManaged) :=
  listingOf_machines _

theorem isFirstDeploy_ofListing (app : AppHandle) (defaultGroup : String)
    (hmanaged : (∃ m ∈ p.ordinary app.name, m.isManaged = true) ∨ p.ordinary app.name = []) :
    (MachineInventory.ofListing (listingOf (p.machinesOf app.name)) defaultGroup).isFirstDeploy
      app = true ↔ p.FirstDeploy app := by
  have hempty : (p.ordinary app.name).filter (·.isManaged) = [] ↔ p.ordinary app.name = [] := by
    rw [List.filter_eq_nil_iff]
    constructor
    · intro hnone
      rcases hmanaged with ⟨m, hm, hmanaged⟩ | hnil
      · exact absurd hmanaged (hnone m hm)
      · exact hnil
    · intro hnil
      simp [hnil]
  simp only [MachineInventory.isFirstDeploy, MachineInventory.isEmpty, MachineInventory.ofListing,
    listingOf_machinesOf, FirstDeploy, Bool.and_eq_true, Bool.not_eq_true', List.isEmpty_iff,
    hempty]

/-- The survey refuses an application whose ordinary machines are all unmanaged.  It asks for
machines that nobody manages only when it finds no managed one. -/
theorem surveyed_ok_iff {session : ControlPlaneSession} {config : AppConfig}
    {inventory : MachineInventory} :
    p.surveyed session config = .ok inventory ↔
      p.failures .listMachines = none ∧
      ((∃ m ∈ p.ordinary session.app.name, m.isManaged = true) ∨
        p.ordinary session.app.name = [] ∧ p.failures .listActiveMachines = none) ∧
      inventory = .ofListing (listingOf (p.machinesOf session.app.name)) config.defaultGroup := by
  have hactive : activeOf (p.machinesOf session.app.name) = p.ordinary session.app.name := rfl
  simp only [surveyed, unlessFailing, hactive]
  cases p.failures .listMachines with
  | some e => simp [bind, Except.bind]
  | none =>
    by_cases hmanaged : ∃ m ∈ p.ordinary session.app.name, m.isManaged = true
    · have hne : (listingOf (p.machinesOf session.app.name)).machines.isEmpty = false := by
        obtain ⟨m, hm, hm'⟩ := hmanaged
        rw [listingOf_machinesOf, List.isEmpty_eq_false_iff_exists_mem]
        exact ⟨m, List.mem_filter.2 ⟨hm, hm'⟩⟩
      simp only [mapError_ok, bind, Except.bind, pure, Except.pure, hne, hmanaged,
        Bool.false_eq_true, if_false, Except.ok.injEq, true_or, true_and]
      exact eq_comm
    · have hempty : (listingOf (p.machinesOf session.app.name)).machines.isEmpty = true := by
        rw [listingOf_machinesOf, List.isEmpty_iff, List.filter_eq_nil_iff]
        exact fun m hm hm' => hmanaged ⟨m, hm, hm'⟩
      cases p.failures .listActiveMachines with
      | some e => simp [bind, Except.bind, hempty, hmanaged]
      | none =>
        cases hordinary : p.ordinary session.app.name with
        | nil =>
          simp only [mapError_ok, bind, Except.bind, pure, Except.pure, hempty, List.isEmpty_nil,
            Bool.not_true, Bool.false_eq_true, if_true, if_false, Except.ok.injEq, or_true,
            true_and, and_self]
          exact eq_comm
        | cons m rest =>
          rw [hordinary] at hmanaged
          simp only [hmanaged, reduceCtorEq, or_self, false_and, and_false, iff_false]
          simp [bind, Except.bind, hempty, throw, throwThe, MonadExceptOf.throw]

include hclear in
theorem surveyed_ok_iff_of_clear {session : ControlPlaneSession} {config : AppConfig}
    {inventory : MachineInventory} :
    p.surveyed session config = .ok inventory ↔
      ((∃ m ∈ p.ordinary session.app.name, m.isManaged = true) ∨
        p.ordinary session.app.name = []) ∧
      inventory = .ofListing (listingOf (p.machinesOf session.app.name)) config.defaultGroup := by
  simp only [surveyed_ok_iff, hclear, and_true, true_and]

/-- The groups of the inventory are the members that the records give them. -/
theorem inGroup_surveyed {app : String} {config : AppConfig}
    (hids : ((p.machinesOf app).map (·.id)).Nodup) (group : String) :
    (MachineInventory.ofListing (listingOf (p.machinesOf app)) config.defaultGroup).inGroup group =
      p.members app config group := by
  rw [MachineInventory.inGroup_ofListing (nodup_listingOf hids), listingOf_machinesOf,
    List.filter_filter, members]
  refine List.filter_congr ?_
  intro m _
  rw [Bool.and_comm]
  rfl

/-! ## The volumes -/

/-- The free volumes that are listed. -/
def listed (p : InMemoryPlane) (app : String) (config : AppConfig) : VolumeReservations :=
  if config.hasMounts then .ofVolumes (p.volumesOf app) else .empty

theorem queueLength_listed (p : InMemoryPlane) (app : String) (config : AppConfig)
    (name : String) :
    (p.listed app config).queueLength name = p.freeVolumes app config name := by
  unfold listed freeVolumes
  split
  · exact VolumeReservations.queueLength_ofVolumes _ _
  · rfl

include hclear in
theorem reconciled_eq (session : ControlPlaneSession) (config : AppConfig) :
    p.reconciled session config = .ok (p.listed session.app.name config) := by
  unfold reconciled listed
  rw [unlessFailing_of_none (hclear _)]
  split <;> rfl

theorem provisioned_ok_iff {hook : ProvisionHook InMemoryPlane} {names : List String}
    (hhook : hook.ReservesInOrder names) {brief : Brief} {inventory : MachineInventory}
    {image : ResolvedImage} {free left : VolumeReservations} :
    p.provisioned hook brief inventory image free = .ok left ↔
      if inventory.isFirstDeploy brief.session.app = true then
        ProvisionHook.reserveAll names free = .ok left
      else free = left := by
  unfold provisioned
  split
  · obtain ⟨outcome, houtcome, hleft⟩ :=
      hhook ⟨brief.session, brief.config, image.reference, free⟩
    rw [mapError_ok_iff, houtcome]
    exact hleft left
  · exact ⟨Except.ok.inj, congrArg Except.ok⟩

section Provision

variable {hook : ProvisionHook InMemoryPlane} {names : List String} {brief : Brief}
  {inventory : MachineInventory} {image : ResolvedImage}
  (hhook : hook.ReservesInOrder names)
  (hfirst : inventory.isFirstDeploy brief.session.app = true ↔ p.FirstDeploy brief.session.app)
include hhook hfirst

theorem queueLength_of_provisioned {left : VolumeReservations}
    (h : p.provisioned hook brief inventory image (p.listed brief.session.app.name brief.config) =
      .ok left) (name : String) :
    p.freeVolumes brief.session.app.name brief.config name =
      left.queueLength name + p.takenVolumes brief.session.app names name := by
  rw [provisioned_ok_iff hhook] at h
  rw [← queueLength_listed, takenVolumes]
  by_cases hdeploy : p.FirstDeploy brief.session.app
  · rw [if_pos (hfirst.2 hdeploy)] at h
    rw [if_pos hdeploy]
    exact ProvisionHook.queueLength_of_reserveAll h name
  · rw [if_neg (mt hfirst.1 hdeploy)] at h
    rw [if_neg hdeploy, h, Nat.add_zero]

/-- The hook finds what it takes when no name is taken more often than it is free. -/
theorem exists_provisioned_iff :
    (∃ left, p.provisioned hook brief inventory image
        (p.listed brief.session.app.name brief.config) = .ok left) ↔
      ∀ name, p.takenVolumes brief.session.app names name ≤
        p.freeVolumes brief.session.app.name brief.config name := by
  constructor
  · rintro ⟨left, h⟩ name
    have hlength := queueLength_of_provisioned hhook hfirst h name
    omega
  · intro h
    simp only [provisioned_ok_iff hhook]
    by_cases hdeploy : p.FirstDeploy brief.session.app
    · simp only [if_pos (hfirst.2 hdeploy)]
      rw [ProvisionHook.reserveAll_ok_iff]
      intro name
      have hname := h name
      rwa [takenVolumes, if_pos hdeploy, ← queueLength_listed] at hname
    · simp only [if_neg (mt hfirst.1 hdeploy)]
      exact ⟨_, rfl⟩

end Provision

/-! ## The image -/

theorem isSome_nonEmpty_explicitImage_iff {args : DeploymentArgs} :
    (nonEmpty args.explicitImage).isSome = true ↔
      ∃ image, args.image = some image ∧ image ≠ "" := by
  rw [← isSome_nonEmpty_iff]
  simp only [DeploymentArgs.explicitImage, nonEmpty, Option.filter_filter, Bool.and_self]

include hclear in
/-- An image is resolved when the caller names one, the latest release has one or a machine of
the inventory has one. -/
theorem exists_resolved_iff (hregular : p.ledger.Regular) (room : p.ledger.HasRoom)
    (fresh : Function.Injective p.ledger.newId) (args : DeploymentArgs)
    (session : ControlPlaneSession) (inventory : MachineInventory) :
    (∃ image, p.resolved args.explicitImage session inventory = .ok image) ↔
      (∃ image, args.image = some image ∧ image ≠ "") ∨
      (∃ r, (p.ledger.releases.filter (·.appName == session.app.name)).getLast? = some r ∧
        r.image ≠ "") ∨
      ∃ m ∈ inventory.machines, m.image ≠ "" := by
  have hlatest : (nonEmpty (p.ledger.latestImage? session.app.name)).isSome = true ↔
      ∃ r, (p.ledger.releases.filter (·.appName == session.app.name)).getLast? = some r ∧
        r.image ≠ "" := by
    rw [hregular.latestImage?_eq room fresh, isSome_nonEmpty_iff]
    cases (p.ledger.releases.filter (·.appName == session.app.name)).getLast? with
    | none => simp
    | some r => simp [Option.filter_eq_some_iff]
  rw [← isSome_nonEmpty_explicitImage_iff, ← hlatest, ← MachineInventory.isSome_firstImage_iff]
  unfold resolved
  rw [unlessFailing_of_none (hclear _)]
  cases nonEmpty args.explicitImage with
  | some image => simp
  | none =>
    unfold ResolvedImage.ofAnswer ResolvedImage.ofInventory
    cases hrelease : nonEmpty (p.ledger.latestImage? session.app.name) with
    | some image => simp [hrelease]
    | none => cases inventory.firstImage <;> simp [hrelease]

/-! ## All stages -/

include hclear in
/-- The stages after the brief succeed when the plane supports the deploy. -/
theorem exists_stages_iff {hook : ProvisionHook InMemoryPlane} {names : List String}
    (hhook : hook.ReservesInOrder names) (hregular : p.ledger.Regular) (room : p.ledger.HasRoom)
    (fresh : Function.Injective p.ledger.newId) {args : DeploymentArgs} {brief : Brief}
    (hids : ((p.machinesOf brief.session.app.name).map (·.id)).Nodup) :
    (∃ inventory, p.surveyed brief.session brief.config = .ok inventory ∧
      ∃ free, p.reconciled brief.session brief.config = .ok free ∧
      ∃ image, p.resolved args.explicitImage brief.session inventory = .ok image ∧
      ∃ left, p.provisioned hook brief inventory image free = .ok left ∧
        checkTopology brief.config inventory left = .ok ()) ↔
      p.Supports names args brief.session.app brief.config := by
  have hmachine : ∀ m, m ∈ (MachineInventory.ofListing
      (listingOf (p.machinesOf brief.session.app.name)) brief.config.defaultGroup).machines ↔
      m ∈ p.ordinary brief.session.app.name ∧ m.isManaged = true := by
    intro m
    rw [MachineInventory.ofListing, listingOf_machinesOf, List.mem_filter]
  constructor
  · rintro ⟨inventory, hinventory, free, hfree, image, himage, left, hleft, htopology⟩
    obtain ⟨hmanaged, rfl⟩ := (surveyed_ok_iff_of_clear hclear).1 hinventory
    obtain rfl : p.listed brief.session.app.name brief.config = free := by
      rw [reconciled_eq hclear] at hfree
      exact Except.ok.inj hfree
    have hfirst := isFirstDeploy_ofListing brief.session.app brief.config.defaultGroup hmanaged
    have hlength := queueLength_of_provisioned hhook hfirst hleft
    have hresolved := (exists_resolved_iff hclear hregular room fresh _ _ _).1 ⟨image, himage⟩
    simp only [hmachine, and_assoc] at hresolved
    refine ⟨hmanaged, hresolved, ?_, ?_⟩
    · exact (exists_provisioned_iff hhook hfirst).1 ⟨left, hleft⟩
    · intro group hgroup
      have hpass := checkTopology_ok_iff.1 htopology group hgroup
      rw [inGroup_surveyed hids] at hpass
      refine ⟨?_, hpass.2⟩
      intro hempty mount hmount
      have hpos := hpass.1 hempty mount hmount
      have hsource := hlength mount.source
      omega
  · rintro ⟨hmanaged, himage, htaken, hgroups⟩
    have hfirst := isFirstDeploy_ofListing brief.session.app brief.config.defaultGroup hmanaged
    have hsource := (exists_resolved_iff hclear hregular room fresh args brief.session
      (.ofListing (listingOf (p.machinesOf brief.session.app.name)) brief.config.defaultGroup)).2
    simp only [hmachine, and_assoc] at hsource
    obtain ⟨image, hresolved⟩ := hsource himage
    obtain ⟨left, hleft⟩ : ∃ left, p.provisioned hook brief _ image
        (p.listed brief.session.app.name brief.config) = .ok left :=
      (exists_provisioned_iff hhook hfirst).2 htaken
    have hlength := queueLength_of_provisioned hhook hfirst hleft
    refine ⟨_, (surveyed_ok_iff_of_clear hclear).2 ⟨hmanaged, rfl⟩, _, reconciled_eq hclear _ _,
      image, hresolved, left, hleft, checkTopology_ok_iff.2 ?_⟩
    intro group hgroup
    rw [inGroup_surveyed hids]
    refine ⟨?_, (hgroups group hgroup).2⟩
    intro hempty mount hmount
    have hmore := (hgroups group hgroup).1 hempty mount hmount
    have hqueue := hlength mount.source
    omega

end Stages

/-! ## The whole -/

/-- The local stages succeed when the request is acceptable. -/
theorem exists_brief_iff {ambient : Option AppConfig} {args : DeploymentArgs} {app : AppHandle}
    {config : AppConfig} :
    (∃ brief, Brief.ofRequest ambient args = .ok brief ∧ brief.session.app = app ∧
      brief.config = config) ↔
      args.app = some app ∧ ∃ c, ambient = some c ∧ config = args.overrides.merged c ∧
        args.Acceptable app config := by
  have himage : args.explicitImage.isSome = true ↔
      ∃ image, args.image = some image ∧ image ≠ "" := isSome_nonEmpty_iff
  rw [Brief.exists_ofRequest_iff, Overrides.resolve_ok_iff,
    AppConfig.exists_releaseCommandWords_iff, AppConfig.exists_resolveStrategy_iff,
    GuestSpec.exists_ofToken_iff, himage]
  constructor
  · rintro ⟨happ, hnamed, hrestart, ⟨c, hambient, htokens, hconfig, hvalid⟩, hcommand, hstrategy,
      hsize⟩
    exact ⟨happ, c, hambient, hconfig,
      ⟨hnamed, hrestart, htokens, hvalid, hcommand, hstrategy, hsize⟩⟩
  · rintro ⟨happ, c, hambient, hconfig, h⟩
    exact ⟨happ, h.named, h.restart, ⟨c, hambient, h.tokens, hconfig, h.valid⟩, h.command,
      h.strategy, h.size⟩

theorem exists_brief_iff_acceptable {ambient : Option AppConfig} {args : DeploymentArgs} :
    (∃ brief, Brief.ofRequest ambient args = .ok brief) ↔
      ∃ app c, args.app = some app ∧ ambient = some c ∧
        args.Acceptable app (args.overrides.merged c) := by
  constructor
  · rintro ⟨brief, hbrief⟩
    obtain ⟨happ, c, hambient, hconfig, haccept⟩ := exists_brief_iff.1 ⟨brief, hbrief, rfl, rfl⟩
    exact ⟨_, c, happ, hambient, hconfig ▸ haccept⟩
  · rintro ⟨app, c, happ, hambient, haccept⟩
    obtain ⟨brief, hbrief, -⟩ := exists_brief_iff.2 ⟨happ, c, hambient, rfl, haccept⟩
    exact ⟨brief, hbrief⟩

/-- On a plane that operations have led to, with no failure set and with machines of different
identifiers, a preparation whose hook reserves some names succeeds exactly when the request is
acceptable and the plane supports it. -/
theorem exists_prepare_iff {p : InMemoryPlane} (hreachable : p.Reachable)
    (room : p.ledger.HasRoom) (hclear : ∀ op, p.failures op = none)
    {hook : ProvisionHook InMemoryPlane} {names : List String}
    (hhook : hook.ReservesInOrder names) (ambient : Option AppConfig) (args : DeploymentArgs)
    (hids : ∀ app, args.app = some app → ((p.machinesOf app.name).map (·.id)).Nodup) :
    (∃ plan, ((DeploymentPlan.prepare hook ambient args).from p).1 = .ok plan) ↔
      ∃ app c, args.app = some app ∧ ambient = some c ∧
        args.Acceptable app (args.overrides.merged c) ∧
        p.Supports names args app (args.overrides.merged c) := by
  obtain ⟨newId, hnewId, hrun⟩ := hreachable
  have hregular := hrun.ledger_regular
  have fresh : Function.Injective p.ledger.newId := by
    rw [hrun.newId_eq]
    exact hnewId
  rw [prepare_ok_iff_drafted hhook.onlyReserves]
  simp only [hclear, and_true, drafted, bind_ok_iff, pure_ok_iff]
  constructor
  · rintro ⟨d, brief, hbrief, inventory, hinventory, free, hfree, image, himage, left, hleft, _,
      htopology, -⟩
    obtain ⟨happ, c, hambient, hconfig, hacceptable⟩ := exists_brief_iff.1 ⟨brief, hbrief, rfl, rfl⟩
    have hsupports := (exists_stages_iff hclear hhook hregular room fresh (hids _ happ)).1
      ⟨inventory, hinventory, free, hfree, image, himage, left, hleft, htopology⟩
    rw [hconfig] at hacceptable hsupports
    exact ⟨brief.session.app, c, happ, hambient, hacceptable, hsupports⟩
  · rintro ⟨app, c, happ, hambient, hacceptable, hsupports⟩
    obtain ⟨brief, hbrief, rfl, hconfig⟩ :=
      exists_brief_iff.2 ⟨happ, c, hambient, rfl, hacceptable⟩
    rw [← hconfig] at hsupports
    obtain ⟨inventory, hinventory, free, hfree, image, himage, left, hleft, htopology⟩ :=
      (exists_stages_iff hclear hhook hregular room fresh (hids _ happ)).2 hsupports
    exact ⟨⟨brief, inventory, image, left⟩, brief, hbrief, inventory, hinventory, free, hfree,
      image, himage, left, hleft, (), htopology, rfl⟩

/-- Of two free volumes a hook may take one, not both.  Where the one group has a machine, the
other needs a free volume, and a machine without the mount is in the way; the overrides count, as
here for a configuration that has no name of its own. -/
theorem newShop_supports :
    newShop.Reachable ∧ newShop.ledger.HasRoom ∧ (∀ op, newShop.failures op = none) ∧
    ((newShop.machinesOf "shop").map (·.id)).Nodup ∧
    DeploymentArgs.firstOfShop.Acceptable ⟨"shop", false⟩ .shop ∧
    newShop.Supports ["data"] .firstOfShop ⟨"shop", false⟩ .shop ∧
    ¬newShop.Supports ["data", "data"] .firstOfShop ⟨"shop", false⟩ .shop ∧
    let bare := runningShop.addMachine "shop" ((Machine.started "m_2" "shop:1").managed "web")
    let nameless : AppConfig := { AppConfig.shop with appName := "" }
    let args : DeploymentArgs :=
      { app := some ⟨"shop", true⟩, overrides := { env := ["MODE=blue"], appName := some "shop" } }
    let config := args.overrides.merged nameless
    runningShop.Reachable ∧ bare.Reachable ∧
    config.appName = "shop" ∧ config.env.get? "MODE" = some "blue" ∧
    (bare.members "shop" config "web").map (·.id) = ["m_1", "m_2"] ∧
    args.Acceptable ⟨"shop", true⟩ config ∧ ¬args.Acceptable ⟨"shop", true⟩ nameless ∧
    runningShop.Supports [] args ⟨"shop", true⟩ config ∧
    ¬bare.Supports [] args ⟨"shop", true⟩ config := by
  have room : newShop.ledger.HasRoom := by
    unfold Ledger.HasRoom
    decide +kernel
  have hclear : ∀ op, newShop.failures op = none := fun _ => rfl
  have hmachines : ((newShop.machinesOf "shop").map (·.id)).Nodup := by decide +kernel
  have hids : ∀ app, DeploymentArgs.firstOfShop.app = some app →
      ((newShop.machinesOf app.name).map (·.id)).Nodup := by
    rintro _ ⟨⟩
    exact hmachines
  have hmerged : DeploymentArgs.firstOfShop.overrides.merged .shop = .shop := by decide +kernel
  have hiff : ∀ names, _ := fun names => exists_prepare_iff reachable_newShop room hclear
    (ProvisionHook.reservesInOrder_reserving "claims" names) (some .shop) .firstOfShop hids
  obtain ⟨_, _, ⟨⟩, ⟨⟩, hacceptable, hsupports⟩ := (hiff ["data"]).1 (by
    rw [exists_ok_iff]
    decide +kernel)
  rw [hmerged] at hacceptable hsupports
  refine ⟨reachable_newShop, room, hclear, hmachines, hacceptable, hsupports, ?_, ?_⟩
  · intro hboth
    have hsome := (hiff ["data", "data"]).2
      ⟨_, _, rfl, rfl, hmerged.symm ▸ hacceptable, hmerged.symm ▸ hboth⟩
    rw [exists_ok_iff] at hsome
    exact absurd hsome (by decide +kernel)
  · intro bare nameless args config
    have hbare : bare.Reachable := Run.reachable
      (.addMachine "shop" _ (.addVolume "shop" _ (.addMachine "shop" _ (.refl _))))
    have hroom : runningShop.ledger.HasRoom ∧ bare.ledger.HasRoom := by
      unfold Ledger.HasRoom
      decide +kernel
    have hrunning := exists_prepare_iff reachable_runningShop hroom.1 (fun _ => rfl)
      ProvisionHook.reservesInOrder_idle (some nameless) args (by
        rintro _ ⟨⟩
        decide +kernel)
    have hstopped := exists_prepare_iff hbare hroom.2 (fun _ => rfl)
      ProvisionHook.reservesInOrder_idle (some nameless) args (by
        rintro _ ⟨⟩
        decide +kernel)
    obtain ⟨_, _, ⟨⟩, ⟨⟩, hacceptable, hsupports⟩ := hrunning.1 (by
      rw [exists_ok_iff]
      decide +kernel)
    refine ⟨reachable_runningShop, hbare, by decide +kernel, by decide +kernel, by decide +kernel,
      hacceptable, ?_, hsupports, ?_⟩
    · intro hnameless
      exact absurd hnameless.valid (by decide +kernel)
    · intro hbareSupports
      have hsome := hstopped.2 ⟨_, _, rfl, rfl, hacceptable, hbareSupports⟩
      rw [exists_ok_iff] at hsome
      exact absurd hsome (by decide +kernel)

end InMemoryPlane

end Preflight
