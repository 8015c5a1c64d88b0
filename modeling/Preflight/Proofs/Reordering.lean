import Preflight.PlanSummary
import Preflight.Proofs.Agreement
import Preflight.Proofs.FirstViolation
import Preflight.Proofs.Success

/-!
# The order in which things are listed

A control plane may list the machines and the volumes of an application in any order.  Whether a
preparation succeeds does not depend on it, and the plan and the failure depend on it only where
something is taken from the first machine that fits: the machine for the release command, the image
of a machine, and the machine that a failure of the gate names.

Each stage is run on both planes side by side (`Result.Alike`), and what it hands on is compared in
the respects that the later stages look at: the machines of each group up to their order
(`MachineInventory.SameMachines`), the number of free volumes of each name
(`VolumeReservations.SameLengths`) and the source of the image (`ResolvedImage.SameSource`).  The
failures are the same but for the machine (`PreflightError.SameFault`).

The identifiers of the machines have to differ.  The inventory keeps the groups by identifier, and
where two machines share one, the machine listed last decides.
-/

namespace Preflight

open Result

/-! ## What is compared -/

/-- The same machines, maybe in another order, with identifiers that tell them apart. -/
structure MachineListing.SameMachines (l l' : MachineListing) : Prop where
  machines : l.machines.Perm l'.machines
  ids : ((l.machines ++ l.releaseCommand.toList).map (·.id)).Nodup
  ids' : ((l'.machines ++ l'.releaseCommand.toList).map (·.id)).Nodup

/-- The same machines in the same groups, maybe in another order, with identifiers that tell them
apart. -/
structure MachineInventory.SameMachines (i i' : MachineInventory) : Prop where
  machines : i.machines.Perm i'.machines
  inGroup : ∀ group, (i.inGroup group).Perm (i'.inGroup group)
  ids : (i.machines.map (·.id)).Nodup

/-- The same source, and the same image unless it comes from a machine. -/
structure ResolvedImage.SameSource (i i' : ResolvedImage) : Prop where
  source : i'.source = i.source
  reference : i.source ≠ .existingMachine → i'.reference = i.reference

/-- The failures are the same, or they are about the mounts of two different machines of one
group. -/
def PreflightError.SameFault (e e' : PreflightError) : Prop :=
  e' = e ∨ ∃ group machine machine', machine ≠ machine' ∧
    e.machineAtFault? = some (machine, group) ∧ e'.machineAtFault? = some (machine', group)

theorem PreflightError.sameFault_of_eq {e e' : PreflightError} (h : e = e') : e.SameFault e' :=
  .inl h.symm

theorem alike_sameFault {α β : Type} {A : α → β → Prop} {x : Except PreflightError α}
    {y : Except PreflightError β} (h : Alike Eq A x y) : Alike PreflightError.SameFault A x y :=
  h.mono (fun _ _ => PreflightError.sameFault_of_eq) fun _ _ => id

/-! ## Inventories -/

namespace MachineInventory

theorem SameMachines.ofListing {l l' : MachineListing} (h : l.SameMachines l')
    (defaultGroup : String) :
    (ofListing l defaultGroup).SameMachines (ofListing l' defaultGroup) where
  machines := h.machines
  inGroup group := by
    rw [inGroup_ofListing h.ids, inGroup_ofListing h.ids']
    exact h.machines.filter _
  ids := by
    have hids := h.ids
    rw [List.map_append] at hids
    exact hids.of_append_left

variable {i i' : MachineInventory}

theorem SameMachines.isFirstDeploy_eq (h : i.SameMachines i') (app : AppHandle) :
    i'.isFirstDeploy app = i.isFirstDeploy app := by
  rw [isFirstDeploy, isFirstDeploy, isEmpty, isEmpty, h.machines.isEmpty_eq]

theorem SameMachines.isSome_firstImage (h : i.SameMachines i') :
    i'.firstImage.isSome = i.firstImage.isSome := by
  rw [Bool.eq_iff_iff, isSome_firstImage_iff, isSome_firstImage_iff]
  refine exists_congr fun m => and_congr_left fun _ => ?_
  exact h.machines.mem_iff.symm

end MachineInventory

namespace InMemoryPlane

theorem listingOf_sameMachines {ms ms' : List Machine} (h : ms.Perm ms')
    (hids : (ms.map (·.id)).Nodup) : (listingOf ms).SameMachines (listingOf ms') where
  machines := (h.filter _).filter _
  ids := nodup_listingOf hids
  ids' := nodup_listingOf ((h.map _).nodup_iff.1 hids)

/-- The planes list the machines and the volumes of an application in different orders.  The ledger
may give different identifiers to its next releases. -/
structure Reordered (app : String) (p q : InMemoryPlane) : Prop where
  machines : (p.machinesOf app).Perm (q.machinesOf app)
  volumes : (p.volumesOf app).Perm (q.volumesOf app)
  ledger : ∃ newId, q.ledger = { p.ledger with newId }
  failures : q.failures = p.failures

namespace Reordered

variable {p q : InMemoryPlane}

theorem latestImage?_eq {app : String} (h : Reordered app p q) (app' : String) :
    q.ledger.latestImage? app' = p.ledger.latestImage? app' := by
  obtain ⟨newId, hledger⟩ := h.ledger
  rw [hledger]
  rfl

theorem nextVersion_eq {app : String} (h : Reordered app p q) :
    q.ledger.nextVersion = p.ledger.nextVersion := by
  obtain ⟨newId, hledger⟩ := h.ledger
  rw [hledger]

theorem unlessFailing_alike {app : String} (h : Reordered app p q) (op : Operation) {α : Type}
    {A : α → α → Prop} {a b : α} (hab : A a b) :
    Alike Eq A (p.unlessFailing op (.ok a)) (q.unlessFailing op (.ok b)) := by
  unfold unlessFailing
  rw [h.failures]
  cases p.failures op with
  | some e => exact .error rfl
  | none => exact .ok hab

/-! ## Stage by stage -/

variable {session : ControlPlaneSession}

theorem surveyed_alike (h : Reordered session.app.name p q)
    (hids : ((p.machinesOf session.app.name).map (·.id)).Nodup) (config : AppConfig) :
    Alike Eq MachineInventory.SameMachines (p.surveyed session config)
      (q.surveyed session config) := by
  unfold surveyed
  have hlisting := listingOf_sameMachines h.machines hids
  refine alike_bind (alike_mapError (h.unlessFailing_alike _ hlisting) (by simp)) ?_
  intro listing listing' hsame
  have hempty : listing'.machines.isEmpty = listing.machines.isEmpty :=
    hsame.machines.isEmpty_eq.symm
  rw [hempty]
  split
  · have hactive : (activeOf (p.machinesOf session.app.name)).Perm
        (activeOf (q.machinesOf session.app.name)) := h.machines.filter _
    refine alike_bind (alike_mapError (h.unlessFailing_alike _ hactive) (by simp)) ?_
    intro active active' hperm
    rw [hperm.isEmpty_eq, hperm.length_eq]
    split
    · exact .error rfl
    · exact .ok (.ofListing hsame _)
  · exact .ok (.ofListing hsame _)

theorem reconciled_alike (h : Reordered session.app.name p q) (config : AppConfig) :
    Alike Eq VolumeReservations.SameLengths (p.reconciled session config)
      (q.reconciled session config) := by
  unfold reconciled
  split
  · refine alike_bind (alike_mapError (h.unlessFailing_alike _ h.volumes) (by simp)) ?_
    intro volumes volumes' hperm
    refine .ok ?_
    intro name
    rw [VolumeReservations.queueLength_ofVolumes, VolumeReservations.queueLength_ofVolumes]
    exact (hperm.countP_eq _).symm
  · exact .ok fun _ => rfl

theorem ofInventory_alike {i i' : MachineInventory} (h : i.SameMachines i')
    (cause : Option ControlPlaneError) :
    Alike Eq ResolvedImage.SameSource (ResolvedImage.ofInventory i cause)
      (ResolvedImage.ofInventory i' cause) := by
  have hsome := h.isSome_firstImage
  unfold ResolvedImage.ofInventory
  cases hfirst : i.firstImage with
  | none =>
    cases hfirst' : i'.firstImage with
    | none => exact .error rfl
    | some image' => simp [hfirst, hfirst'] at hsome
  | some image =>
    cases hfirst' : i'.firstImage with
    | none => simp [hfirst, hfirst'] at hsome
    | some image' => exact .ok ⟨rfl, fun hsource => absurd rfl hsource⟩

theorem resolved_alike (h : Reordered session.app.name p q) {i i' : MachineInventory}
    (hsame : i.SameMachines i') (explicit : Option String) :
    Alike Eq ResolvedImage.SameSource (p.resolved explicit session i)
      (q.resolved explicit session i') := by
  unfold resolved
  cases nonEmpty explicit with
  | some image => exact .ok ⟨rfl, fun _ => rfl⟩
  | none =>
    simp only [h.latestImage?_eq, unlessFailing, h.failures, ResolvedImage.ofAnswer]
    cases p.failures .latestReleaseImage with
    | some e => exact ofInventory_alike hsame _
    | none =>
      dsimp only
      cases nonEmpty (p.ledger.latestImage? session.app.name) with
      | some image => exact .ok ⟨rfl, fun _ => rfl⟩
      | none => exact ofInventory_alike hsame _

end Reordered

/-- A hook that tries names is shown equally many volumes of each. -/
theorem provisioned_alike {hook : ProvisionHook InMemoryPlane} {names : List String}
    (hhook : hook.TriesInOrder names) (p q : InMemoryPlane) (brief : Brief)
    {i i' : MachineInventory} (hsame : i.SameMachines i') (image image' : ResolvedImage)
    {listed listed' : VolumeReservations} (hlisted : listed.SameLengths listed') :
    Alike Eq VolumeReservations.SameLengths (p.provisioned hook brief i image listed)
      (q.provisioned hook brief i' image' listed') := by
  obtain ⟨verdict, hverdict⟩ := hhook
  unfold provisioned
  rw [hsame.isFirstDeploy_eq, hverdict, hverdict]
  split
  · exact alike_mapError (ProvisionHook.answerOf_alike hlisted names verdict) (by simp)
  · exact .ok hlisted

end InMemoryPlane

/-! ## The gate -/

/-- Two machines of a group fail the gate in the same way or are two. -/
theorem checkMachineMount_sameFault {group : GroupConfig} {machines : List Machine}
    (hids : (machines.map (·.id)).Nodup) {m m' : Machine} (hm : m ∈ machines)
    (hm' : m' ∈ machines) {e e' : PreflightError} (h : checkMachineMount group m = .error e)
    (h' : checkMachineMount group m' = .error e') : e.SameFault e' := by
  by_cases hid : m.id = m'.id
  · obtain rfl : m = m' := List.inj_on_of_nodup_map hids hm hm' hid
    rw [h] at h'
    exact PreflightError.sameFault_of_eq (Except.error.inj h')
  · exact .inr ⟨group.name, m.id, m'.id, hid,
      (checkMachineMount_error_iff.1 h).machineAtFault?_eq,
      (checkMachineMount_error_iff.1 h').machineAtFault?_eq⟩

section

variable {config : AppConfig} {i i' : MachineInventory} {volumes volumes' : VolumeReservations}
  (hsame : i.SameMachines i') (hlengths : volumes.SameLengths volumes')
include hsame hlengths

theorem checkGroup_alike (name : String) :
    Alike PreflightError.SameFault (fun _ _ => True) (checkGroup config i volumes name)
      (checkGroup config i' volumes' name) := by
  unfold checkGroup
  refine alike_bind (A := Eq) (alike_of_eq (fun _ => .inl rfl) (fun _ => rfl) rfl) ?_
  rintro group _ rfl
  have hperm := hsame.inGroup name
  have hids : ((i.inGroup name).map (·.id)).Nodup :=
    hsame.ids.sublist (List.filter_sublist.map _)
  -- both inventories have machines in the group, or neither has
  cases hmachines : i.inGroup name with
  | nil =>
    rw [hmachines, List.nil_perm] at hperm
    rw [hperm]
    refine alike_of_eq (fun _ => .inl rfl) (fun _ => trivial) ?_
    simp only [checkReservable, VolumeReservations.hasReservable, hlengths _]
  | cons m rest =>
    cases hmachines' : i'.inGroup name with
    | nil =>
      rw [hmachines, hmachines'] at hperm
      simp at hperm
    | cons m' rest' =>
      rw [hmachines, hmachines'] at hperm
      rw [hmachines] at hids
      refine alike_forM_perm hperm ?_
      intro x hx y hy e e' hfails hfails'
      exact checkMachineMount_sameFault hids hx hy hfails hfails'

/-- The first group that does not fit is the same. -/
theorem checkTopology_alike :
    Alike PreflightError.SameFault (fun _ _ => True) (checkTopology config i volumes)
      (checkTopology config i' volumes') :=
  alike_forM fun name _ => checkGroup_alike hsame hlengths name

end

namespace DeploymentPlan

open InMemoryPlane

/-! ## Drafts and plans -/

/-- The drafts agree in what does not depend on the order. -/
structure Draft.SameVerdict (d d' : Draft) : Prop where
  brief : d'.brief = d.brief
  inventory : d.inventory.SameMachines d'.inventory
  image : d.image.SameSource d'.image
  volumes : d.volumes.SameLengths d'.volumes

/-- The summaries agree but for the identifier of the release, the machine for the release command
and an image that comes from a machine. -/
structure SameVerdict (plan plan' : DeploymentPlan) : Prop where
  summary : plan'.summary = { plan.summary with
    releaseId := plan'.summary.releaseId
    releaseCommandMachine := plan'.summary.releaseCommandMachine
    image := plan'.summary.image }
  image : plan.summary.imageSource ≠ .existingMachine →
    plan'.summary.image = plan.summary.image

variable {hook : ProvisionHook InMemoryPlane} {names : List String} {ambient : Option AppConfig}
  {args : DeploymentArgs} {app : String} {p q : InMemoryPlane}

theorem drafted_alike (hhook : hook.TriesInOrder names) (happ : args.IsFor app)
    (h : Reordered app p q) (hids : ((p.machinesOf app).map (·.id)).Nodup) :
    Alike PreflightError.SameFault Draft.SameVerdict (p.drafted hook ambient args)
      (q.drafted hook ambient args) := by
  have hbriefs : Alike PreflightError.SameFault
      (fun brief brief' : Brief => brief' = brief ∧ brief.session.app.name = app)
      (Brief.ofRequest ambient args) (Brief.ofRequest ambient args) := by
    cases hbrief : Brief.ofRequest ambient args with
    | error e => exact .error (.inl rfl)
    | ok brief => exact .ok ⟨rfl, happ.app_name_eq hbrief⟩
  refine alike_bind hbriefs ?_
  rintro _ brief ⟨rfl, rfl⟩
  refine alike_bind (alike_sameFault (h.surveyed_alike hids brief.config)) ?_
  intro i i' hsame
  refine alike_bind (alike_sameFault (h.reconciled_alike brief.config)) ?_
  intro listed listed' hlisted
  refine alike_bind (alike_sameFault (h.resolved_alike hsame args.explicitImage)) ?_
  intro image image' himage
  refine alike_bind
    (alike_sameFault (provisioned_alike hhook p q brief hsame image image' hlisted)) ?_
  intro volumes volumes' hvolumes
  refine alike_bind (checkTopology_alike hsame hvolumes) ?_
  intro _ _ _
  exact .ok ⟨rfl, hsame, himage, hvolumes⟩

/-- Groups are summarized by numbers of machines and of volumes. -/
theorem summary_groups_eq {plan plan' : DeploymentPlan} (hconfig : plan'.config = plan.config)
    (hinventory : plan.inventory.SameMachines plan'.inventory)
    (hvolumes : plan.volumes.SameLengths plan'.volumes) :
    plan'.summary.groups = plan.summary.groups := by
  have hlengths : plan'.volumes.queueLength = plan.volumes.queueLength := funext hvolumes
  show plan'.config.groupNames.map _ = plan.config.groupNames.map _
  rw [hconfig]
  refine List.map_congr_left ?_
  intro name _
  simp only [summarizeGroup, hconfig, hlengths, (hinventory.inGroup name).length_eq]

theorem Draft.SameVerdict.plan {d d' : Draft} (hd : d.SameVerdict d') (h : Reordered app p q)
    (args : DeploymentArgs) :
    (d.plan args (p.releaseFor d)).SameVerdict (d'.plan args (q.releaseFor d')) := by
  have hgroups : (d'.plan args (q.releaseFor d')).summary.groups =
      (d.plan args (p.releaseFor d)).summary.groups :=
    summary_groups_eq (congrArg Brief.config hd.brief) hd.inventory hd.volumes
  have hfirst : d'.firstDeploy = d.firstDeploy := by
    rw [Draft.firstDeploy, Draft.firstDeploy, hd.brief, hd.inventory.isFirstDeploy_eq]
  refine ⟨?_, hd.image.reference⟩
  simp only [summary] at hgroups ⊢
  rw [hgroups]
  simp only [Draft.plan, releaseFor, Ledger.newRelease, hd.brief, hfirst, h.nextVersion_eq,
    hd.image.source]

theorem prepared_alike (hhook : hook.TriesInOrder names) (happ : args.IsFor app)
    (h : Reordered app p q) (hids : ((p.machinesOf app).map (·.id)).Nodup) :
    Alike PreflightError.SameFault SameVerdict (p.prepared hook ambient args)
      (q.prepared hook ambient args) := by
  refine alike_bind (drafted_alike hhook happ h hids) ?_
  intro d d' hd
  have hrelease := h.unlessFailing_alike .createRelease
    (A := fun r r' => r = p.releaseFor d ∧ r' = q.releaseFor d') ⟨rfl, rfl⟩
  refine alike_bind (alike_sameFault (alike_mapError hrelease (by simp))) ?_
  rintro _ _ ⟨rfl, rfl⟩
  exact .ok (hd.plan h args)

/-- In whatever order the machines and the volumes of an application are listed, a preparation
succeeds or fails alike; the plans agree in their summaries and the failures in what they report,
except where the first of several machines is taken. -/
theorem prepare_reordered (hhook : hook.TriesInOrder names) (happ : args.IsFor app)
    (h : Reordered app p q) (hids : ((p.machinesOf app).map (·.id)).Nodup)
    (ambient : Option AppConfig) :
    ((∃ plan, ((prepare hook ambient args).from p).1 = .ok plan) ↔
      ∃ plan', ((prepare hook ambient args).from q).1 = .ok plan') ∧
    (∀ plan plan', ((prepare hook ambient args).from p).1 = .ok plan →
      ((prepare hook ambient args).from q).1 = .ok plan' → plan.SameVerdict plan') ∧
    ∀ e e', ((prepare hook ambient args).from p).1 = .error e →
      ((prepare hook ambient args).from q).1 = .error e' → e.SameFault e' := by
  have halike : Alike PreflightError.SameFault SameVerdict (p.prepared hook ambient args)
      (q.prepared hook ambient args) := prepared_alike hhook happ h hids
  simp only [answer_prepare hhook.onlyReserves]
  exact ⟨halike.exists_ok_iff, fun _ _ => halike.of_ok, fun _ _ => halike.of_error⟩

/-- A shop with its machines and its volumes listed in given orders. -/
def shopOf (machines : List Machine) (volumes : List Volume) : InMemoryPlane :=
  { InMemoryPlane.empty tallyId with
    machines := .ofList [("shop", machines)]
    volumes := .ofList [("shop", volumes)] }

theorem reordered_shopOf {machines machines' : List Machine} {volumes volumes' : List Volume}
    (hmachines : machines.Perm machines') (hvolumes : volumes.Perm volumes') :
    Reordered "shop" (shopOf machines volumes) (shopOf machines' volumes') where
  machines := hmachines
  volumes := hvolumes
  ledger := ⟨tallyId, rfl⟩
  failures := rfl

/-- A machine of a shop that mounts a volume. -/
def machineOfShop (id image volume : String) : Machine :=
  ((Machine.started id image).managed "web").withMount ⟨"vol_3", volume, "/data"⟩

/-- Two machines with different images lead to plans for different images, and two machines that
both fail the gate to failures that name different machines.  On a first deploy, a hook takes the
volume that is listed first, and the plans agree all the same. -/
theorem shopOf_reordered :
    let volumes : List Volume := [.fresh "vol_1" "data", .fresh "vol_2" "data"]
    let good := [machineOfShop "m_1" "shop:1" "data", machineOfShop "m_2" "shop:2" "data"]
    let bad :=
      [machineOfShop "m_3" "shop:1" "logs", (Machine.started "m_4" "shop:1").managed "web"]
    let args : DeploymentArgs := { app := some ⟨"shop", true⟩ }
    let answer (machines : List Machine) (volumes : List Volume) :=
      ((prepare .idle (some .shop) args).from (shopOf machines volumes)).1
    let claims : ProvisionHook InMemoryPlane := .reserving "claims" ["data"] none
    let first (volumes : List Volume) :=
      ((prepare claims (some .shop) .firstOfShop).from (shopOf [] volumes)).1
    let free (plan : DeploymentPlan) := (plan.volumes.queues.listAt "data").map (·.id)
    Reordered "shop" (shopOf good volumes) (shopOf good.reverse volumes.reverse) ∧
    (∃ plan plan', answer good volumes = .ok plan ∧
      answer good.reverse volumes.reverse = .ok plan' ∧ plan.SameVerdict plan' ∧
      plan.image.reference = "shop:1" ∧ plan'.image.reference = "shop:2") ∧
    answer bad volumes = .error (.mountMismatch "m_3" "web" "data" "logs") ∧
    answer bad.reverse volumes.reverse = .error (.mountMissing "m_4" "web" "data") ∧
    PreflightError.SameFault (.mountMismatch "m_3" "web" "data" "logs")
      (.mountMissing "m_4" "web" "data") ∧
    claims.TriesInOrder ["data"] ∧
    ∃ plan plan', first volumes = .ok plan ∧ first volumes.reverse = .ok plan' ∧
      plan.SameVerdict plan' ∧ free plan = ["vol_2"] ∧ free plan' = ["vol_1"] := by
  intro volumes good bad args answer claims first free
  have hidle : (ProvisionHook.idle : ProvisionHook InMemoryPlane).TriesInOrder [] :=
    ProvisionHook.triesInOrder_idle
  have hclaims : claims.TriesInOrder ["data"] :=
    ProvisionHook.triesInOrder_reserving "claims" ["data"] none
  have happ : args.IsFor "shop" := by
    rintro handle ⟨⟩
    rfl
  have hfirst : DeploymentArgs.firstOfShop.IsFor "shop" := by
    rintro handle ⟨⟩
    rfl
  have hreversed (machines : List Machine) :
      Reordered "shop" (shopOf machines volumes) (shopOf machines.reverse volumes.reverse) :=
    reordered_shopOf machines.reverse_perm.symm volumes.reverse_perm.symm
  obtain ⟨plan, hplan, himage⟩ : ∃ plan, answer good volumes = .ok plan ∧
      plan.image.reference = "shop:1" := by
    rw [Result.exists_ok_and_iff]
    decide +kernel
  obtain ⟨plan', hplan', himage'⟩ : ∃ plan, answer good.reverse volumes.reverse = .ok plan ∧
      plan.image.reference = "shop:2" := by
    rw [Result.exists_ok_and_iff]
    decide +kernel
  have hfails : answer bad volumes = .error (.mountMismatch "m_3" "web" "data" "logs") := by
    decide +kernel
  have hfails' : answer bad.reverse volumes.reverse =
      .error (.mountMissing "m_4" "web" "data") := by
    decide +kernel
  obtain ⟨firstPlan, hfirstPlan, hfree⟩ : ∃ plan, first volumes = .ok plan ∧
      free plan = ["vol_2"] := by
    rw [Result.exists_ok_and_iff]
    decide +kernel
  obtain ⟨firstPlan', hfirstPlan', hfree'⟩ : ∃ plan, first volumes.reverse = .ok plan ∧
      free plan = ["vol_1"] := by
    rw [Result.exists_ok_and_iff]
    decide +kernel
  obtain ⟨-, hplans, -⟩ :=
    prepare_reordered hidle happ (hreversed good) (by decide +kernel) (some .shop)
  obtain ⟨-, -, hfaults⟩ :=
    prepare_reordered hidle happ (hreversed bad) (by decide +kernel) (some .shop)
  obtain ⟨-, hfirstPlans, -⟩ :=
    prepare_reordered hclaims hfirst (hreversed []) (by decide +kernel) (some .shop)
  exact ⟨hreversed good,
    ⟨plan, plan', hplan, hplan', hplans plan plan' hplan hplan', himage, himage'⟩,
    hfails, hfails', hfaults _ _ hfails hfails', hclaims, firstPlan, firstPlan', hfirstPlan,
    hfirstPlan', hfirstPlans _ _ hfirstPlan hfirstPlan', hfree, hfree'⟩

end DeploymentPlan

end Preflight
