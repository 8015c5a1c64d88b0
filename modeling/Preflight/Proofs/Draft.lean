import Preflight.DeploymentPlan
import Preflight.Proofs.Action

/-!
# Drafts of plans

`DeploymentPlan.prepare` does two things one after the other.  It makes a draft, a plan that lacks
only its release, for which it asks the control plane but changes nothing there; then it records
the release.  `prepare_eq` says so, and the rest of the development reasons about the two halves.
A draft has two halves of its own, `Draft.make_eq`: an outlook, which is all that is known before
the provisioning hook may run, and the stages from the hook on.

* `Draft.make_ok_iff` lists what has happened when a draft was made, stage by stage.
* `ReadsKeep` and `ReadsCouple` ask of the four reading calls what `Action.Keeps` and
  `Action.Couples` ask of one, and `HooksCouple` of two hooks; they pass to outlooks and drafts,
  and with the call that creates a release to preparations (`prepare_keeps`, `prepare_couples`).
-/

namespace Preflight

open Preflight.Action

variable {σ : Type} [ControlPlaneClient σ]

namespace DeploymentPlan

/-! ## Drafts -/

/-- A plan without its release. -/
structure Draft where
  brief : Brief
  inventory : MachineInventory
  image : ResolvedImage
  /-- The volumes that the provisioning hook has left. -/
  volumes : VolumeReservations

namespace Draft

/-- Whether the draft is one of a first deploy. -/
def firstDeploy (d : Draft) : Bool := d.inventory.isFirstDeploy d.brief.session.app

/-- Run the provisioning hook where a first deploy calls for it. -/
def provision (hook : ProvisionHook σ) (brief : Brief) (inventory : MachineInventory)
    (image : ResolvedImage) (listed : VolumeReservations) :
    Action σ PreflightError VolumeReservations :=
  if inventory.isFirstDeploy brief.session.app then
    hook.run ⟨brief.session, brief.config, image.reference, listed⟩
  else pure listed

/-- Make a draft: every stage of a preparation but the last. -/
def make (hook : ProvisionHook σ) (ambient : Option AppConfig) (args : DeploymentArgs) :
    Action σ PreflightError Draft := do
  let brief ← liftExcept (Brief.ofRequest ambient args)
  let inventory ← MachineInventory.survey brief.session brief.config
  let listed ← VolumeReservations.reconcile brief.session brief.config
  let image ← ResolvedImage.resolve args.explicitImage brief.session inventory
  let volumes ← provision hook brief inventory image listed
  liftExcept (checkTopology brief.config inventory volumes)
  return ⟨brief, inventory, image, volumes⟩

/-- The plan of a draft whose release is recorded. -/
def plan (d : Draft) (args : DeploymentArgs) (release : Release) : DeploymentPlan where
  session := d.brief.session
  config := d.brief.config
  image := d.image
  strategy := d.brief.strategy
  guest := d.brief.guest
  lease := d.brief.lease
  inventory := d.inventory
  volumes := d.volumes
  firstDeploy := d.firstDeploy
  skipHealthChecks := args.skipHealthChecks
  restartOnly := args.restartOnly
  release := release

/-- The request for the release of a draft. -/
def request (d : Draft) : ReleaseInput :=
  ReleaseRecorder.request d.brief.session d.brief.config d.brief.strategy d.image.reference

/-- Record the release of a draft. -/
def record (d : Draft) (args : DeploymentArgs) : Action σ PreflightError DeploymentPlan := do
  let release ← viaBackend (ControlPlaneClient.createRelease d.request)
  return d.plan args release

end Draft

/-- Preparing a plan is making its draft and recording the release. -/
theorem prepare_eq (hook : ProvisionHook σ) (ambient : Option AppConfig)
    (args : DeploymentArgs) :
    prepare hook ambient args = Draft.make hook ambient args >>= fun d => d.record args := by
  simp only [prepare, Draft.make, bind_assoc, pure_bind]
  refine bind_congr fun brief => bind_congr fun inventory => bind_congr fun listed =>
    bind_congr fun image => ?_
  unfold Draft.provision
  by_cases hfirst : inventory.isFirstDeploy brief.session.app = true
  · rw [if_pos hfirst, if_pos hfirst]
    rfl
  · rw [if_neg hfirst, if_neg hfirst, pure_bind]
    rfl

/-! ## Outlooks -/

/-- What is known before the provisioning hook may run. -/
structure Outlook where
  brief : Brief
  inventory : MachineInventory
  /-- The free volumes. -/
  listed : VolumeReservations
  image : ResolvedImage

namespace Outlook

/-- The stages before the hook. -/
def take (ambient : Option AppConfig) (args : DeploymentArgs) :
    Action σ PreflightError Outlook := do
  let brief ← liftExcept (Brief.ofRequest ambient args)
  let inventory ← MachineInventory.survey brief.session brief.config
  let listed ← VolumeReservations.reconcile brief.session brief.config
  let image ← ResolvedImage.resolve args.explicitImage brief.session inventory
  return ⟨brief, inventory, listed, image⟩

/-- Whether the outlook is one of a first deploy. -/
def firstDeploy (o : Outlook) : Bool := o.inventory.isFirstDeploy o.brief.session.app

/-- What a hook is shown. -/
def context (o : Outlook) : ProvisionContext :=
  ⟨o.brief.session, o.brief.config, o.image.reference, o.listed⟩

/-- The stages of a draft from the hook on. -/
def draft (hook : ProvisionHook σ) (o : Outlook) : Action σ PreflightError Draft := do
  let volumes ← Draft.provision hook o.brief o.inventory o.image o.listed
  liftExcept (checkTopology o.brief.config o.inventory volumes)
  return ⟨o.brief, o.inventory, o.image, volumes⟩

end Outlook

/-- Making a draft is taking an outlook and going on from the hook. -/
theorem Draft.make_eq (hook : ProvisionHook σ) (ambient : Option AppConfig)
    (args : DeploymentArgs) :
    Draft.make hook ambient args = Outlook.take ambient args >>= Outlook.draft hook := by
  simp only [Draft.make, Outlook.take, Outlook.draft, bind_assoc, pure_bind]

/-! ## What has happened when a draft was made -/

namespace Draft

/-- A draft is made when every stage succeeds, each from where the one before it stopped. -/
theorem make_ok_iff {hook : ProvisionHook σ} {ambient : Option AppConfig}
    {args : DeploymentArgs} {d : Draft} {s t : σ} :
    (make hook ambient args).from s = (.ok d, t) ↔
      Brief.ofRequest ambient args = .ok d.brief ∧
      ∃ s₁ s₂ s₃ listed,
        (MachineInventory.survey d.brief.session d.brief.config).from s =
          (.ok d.inventory, s₁) ∧
        (VolumeReservations.reconcile d.brief.session d.brief.config).from s₁ =
          (.ok listed, s₂) ∧
        (ResolvedImage.resolve args.explicitImage d.brief.session d.inventory).from s₂ =
          (.ok d.image, s₃) ∧
        (provision hook d.brief d.inventory d.image listed).from s₃ = (.ok d.volumes, t) ∧
        checkTopology d.brief.config d.inventory d.volumes = .ok () := by
  simp only [make, from_bind_ok_iff, from_liftExcept, from_pure, Prod.mk.injEq]
  constructor
  · rintro ⟨brief, _, ⟨hbrief, rfl⟩, inventory, s₁, hinventory, listed, s₂, hlisted, image, s₃,
      himage, volumes, _, hvolumes, ⟨⟩, _, ⟨htopology, rfl⟩, ⟨rfl⟩, rfl⟩
    exact ⟨hbrief, s₁, s₂, s₃, listed, hinventory, hlisted, himage, hvolumes, htopology⟩
  · rintro ⟨hbrief, s₁, s₂, s₃, listed, hinventory, hlisted, himage, hvolumes, htopology⟩
    exact ⟨d.brief, s, ⟨hbrief, rfl⟩, d.inventory, s₁, hinventory, listed, s₂, hlisted, d.image,
      s₃, himage, d.volumes, t, hvolumes, (), t, ⟨htopology, rfl⟩, rfl, rfl⟩

end Draft

omit [ControlPlaneClient σ] in
/-- What a hook leaves, if it is run. -/
theorem Draft.provision_ok_iff {hook : ProvisionHook σ} {brief : Brief}
    {inventory : MachineInventory} {image : ResolvedImage} {listed left : VolumeReservations}
    {s : σ} :
    ((Draft.provision hook brief inventory image listed).from s).1 = .ok left ↔
      if inventory.isFirstDeploy brief.session.app = true then
        (hook.provision ⟨brief.session, brief.config, image.reference, listed⟩ s).1 = .ok left
      else left = listed := by
  unfold Draft.provision
  split
  · rw [ProvisionHook.run, from_bind, from_lift]
    dsimp only
    cases (hook.provision ⟨brief.session, brief.config, image.reference, listed⟩ s).1 with
    | ok volumes => simp
    | error reason =>
      constructor
      · intro h
        cases h
      · intro h
        cases h
  · simp [eq_comm]

omit [ControlPlaneClient σ] in
theorem Outlook.draft_ok_iff {hook : ProvisionHook σ} {o : Outlook} {d : Draft} {s : σ} :
    ((o.draft hook).from s).1 = .ok d ↔
      ∃ left, ((Draft.provision hook o.brief o.inventory o.image o.listed).from s).1 = .ok left ∧
        checkTopology o.brief.config o.inventory left = .ok () ∧
        d = ⟨o.brief, o.inventory, o.image, left⟩ := by
  unfold Outlook.draft
  rw [from_bind]
  rcases (Draft.provision hook o.brief o.inventory o.image o.listed).from s with ⟨e | left, t⟩
  · simp
  · simp only [from_bind, from_liftExcept, from_pure]
    cases htopology : checkTopology o.brief.config o.inventory left with
    | error e => simp [htopology]
    | ok _ => simp [htopology, eq_comm]

/-- A preparation succeeds when its draft is made and its release created. -/
theorem prepare_ok_iff {hook : ProvisionHook σ} {ambient : Option AppConfig}
    {args : DeploymentArgs} {plan : DeploymentPlan} {s u : σ} :
    (prepare hook ambient args).from s = (.ok plan, u) ↔
      ∃ d t release, (Draft.make hook ambient args).from s = (.ok d, t) ∧
        (ControlPlaneClient.createRelease d.request).from t = (.ok release, u) ∧
        plan = d.plan args release := by
  simp only [prepare_eq, Draft.record, viaBackend, from_bind_ok_iff, from_adapt_ok_iff, from_pure,
    Prod.mk.injEq]
  constructor
  · rintro ⟨d, t, hdraft, release, _, hrelease, ⟨rfl⟩, rfl⟩
    exact ⟨d, t, release, hdraft, hrelease, rfl⟩
  · rintro ⟨d, t, release, hdraft, hrelease, rfl⟩
    exact ⟨d, t, hdraft, release, u, hrelease, rfl, rfl⟩

end DeploymentPlan

/-! ## What preparations keep -/

section Keeps

variable {R : σ → σ → Prop} [IsPreorder σ R]

theorem MachineInventory.survey_keeps {session : ControlPlaneSession}
    (hreads : ReadsKeep R session.app.name) (config : AppConfig) :
    Keeps R (MachineInventory.survey session config) := by
  refine keeps_bind (keeps_adapt hreads.listMachines) ?_
  intro listing
  split
  · refine keeps_bind (keeps_adapt hreads.listActiveMachines) ?_
    intro active
    split
    · exact keeps_throw _
    · exact keeps_pure _
  · exact keeps_pure _

theorem VolumeReservations.reconcile_keeps {session : ControlPlaneSession}
    (hreads : ReadsKeep R session.app.name) (config : AppConfig) :
    Keeps R (VolumeReservations.reconcile session config) := by
  unfold VolumeReservations.reconcile
  split
  · refine keeps_bind (keeps_adapt hreads.listVolumes) ?_
    intro volumes
    exact keeps_pure _
  · exact keeps_pure _

theorem ResolvedImage.resolve_keeps {session : ControlPlaneSession}
    (hreads : ReadsKeep R session.app.name) (explicit : Option String)
    (inventory : MachineInventory) :
    Keeps R (ResolvedImage.resolve explicit session inventory) := by
  unfold ResolvedImage.resolve
  split
  · exact keeps_pure _
  · refine keeps_bind ?_ ?_
    · exact hreads.latestReleaseImage
    · intro answer
      exact keeps_liftExcept _

omit [ControlPlaneClient σ] in
theorem ProvisionHook.run_keeps {hook : ProvisionHook σ}
    (hhook : ∀ context s, R s (hook.provision context s).2) (context : ProvisionContext) :
    Keeps R (hook.run context) := by
  unfold ProvisionHook.run
  refine keeps_bind ?_ ?_
  · exact hhook context
  · intro outcome
    cases outcome with
    | ok volumes => exact keeps_pure _
    | error reason => exact keeps_throw _

namespace DeploymentPlan

theorem Outlook.take_keeps (hreads : ∀ app, ReadsKeep R app) (ambient : Option AppConfig)
    (args : DeploymentArgs) : Keeps R (Outlook.take ambient args) := by
  unfold Outlook.take
  refine keeps_bind (keeps_liftExcept _) ?_
  intro brief
  refine keeps_bind (MachineInventory.survey_keeps (hreads _) _) ?_
  intro inventory
  refine keeps_bind (VolumeReservations.reconcile_keeps (hreads _) _) ?_
  intro listed
  refine keeps_bind (ResolvedImage.resolve_keeps (hreads _) _ _) ?_
  intro image
  exact keeps_pure _

omit [ControlPlaneClient σ] in
theorem Outlook.draft_keeps {hook : ProvisionHook σ}
    (hhook : ∀ context s, R s (hook.provision context s).2) (o : Outlook) :
    Keeps R (o.draft hook) := by
  unfold Outlook.draft
  refine keeps_bind ?_ ?_
  · unfold Draft.provision
    split
    · exact ProvisionHook.run_keeps hhook _
    · exact keeps_pure _
  intro volumes
  refine keeps_bind (keeps_liftExcept _) ?_
  intro _
  exact keeps_pure _

theorem Draft.make_keeps {hook : ProvisionHook σ} (hreads : ∀ app, ReadsKeep R app)
    (hhook : ∀ context s, R s (hook.provision context s).2) (ambient : Option AppConfig)
    (args : DeploymentArgs) : Keeps R (Draft.make hook ambient args) := by
  rw [Draft.make_eq]
  exact keeps_bind (Outlook.take_keeps hreads ambient args) (Outlook.draft_keeps hhook)

/-- What the calls and the hook keep, a preparation keeps, whether it succeeds or not. -/
theorem prepare_keeps {hook : ProvisionHook σ} (hreads : ∀ app, ReadsKeep R app)
    (hcreate : ∀ input, Keeps R (ControlPlaneClient.createRelease input))
    (hhook : ∀ context s, R s (hook.provision context s).2) (ambient : Option AppConfig)
    (args : DeploymentArgs) : Keeps R (prepare hook ambient args) := by
  rw [prepare_eq]
  refine keeps_bind (Draft.make_keeps hreads hhook ambient args) ?_
  intro d
  refine keeps_bind (keeps_adapt (hcreate d.request)) ?_
  intro release
  exact keeps_pure _

end DeploymentPlan

end Keeps

/-! ## Preparations side by side -/

section Couples

variable {τ : Type} [ControlPlaneClient τ] {R : σ → τ → Prop}

theorem MachineInventory.survey_couples {session : ControlPlaneSession}
    (hreads : ReadsCouple R session.app.name) (config : AppConfig) :
    Couples R (MachineInventory.survey session config)
      (MachineInventory.survey session config) := by
  refine couples_bind (couples_adapt hreads.listMachines) ?_
  intro listing
  split
  · refine couples_bind (couples_adapt hreads.listActiveMachines) ?_
    intro active
    split
    · exact couples_throw _
    · exact couples_pure _
  · exact couples_pure _

theorem VolumeReservations.reconcile_couples {session : ControlPlaneSession}
    (hreads : ReadsCouple R session.app.name) (config : AppConfig) :
    Couples R (VolumeReservations.reconcile session config)
      (VolumeReservations.reconcile session config) := by
  unfold VolumeReservations.reconcile
  split
  · refine couples_bind (couples_adapt hreads.listVolumes) ?_
    intro volumes
    exact couples_pure _
  · exact couples_pure _

theorem ResolvedImage.resolve_couples {session : ControlPlaneSession}
    (hreads : ReadsCouple R session.app.name) (explicit : Option String)
    (inventory : MachineInventory) :
    Couples R (ResolvedImage.resolve explicit session inventory)
      (ResolvedImage.resolve explicit session inventory) := by
  unfold ResolvedImage.resolve
  split
  · exact couples_pure _
  · refine couples_bind (couples_lift_run hreads.latestReleaseImage) ?_
    intro answer
    exact couples_liftExcept _

/-- From related states two hooks of one name answer alike. -/
structure HooksCouple (R : σ → τ → Prop) (hook : ProvisionHook σ) (hook' : ProvisionHook τ) :
    Prop where
  name : hook.name = hook'.name
  provision : ∀ context, Couples R
    (ExceptT.lift (hook.provision context) : Action σ PreflightError _)
    (ExceptT.lift (hook'.provision context))

omit [ControlPlaneClient σ] [ControlPlaneClient τ] in
theorem HooksCouple.run {hook : ProvisionHook σ} {hook' : ProvisionHook τ}
    (hhook : HooksCouple R hook hook') (context : ProvisionContext) :
    Couples R (hook.run context) (hook'.run context) := by
  unfold ProvisionHook.run
  refine couples_bind (hhook.provision context) ?_
  intro outcome
  cases outcome with
  | ok volumes => exact couples_pure _
  | error reason =>
    rw [hhook.name]
    exact couples_throw _

namespace DeploymentPlan

theorem Outlook.take_couples (hreads : ∀ app, ReadsCouple R app) (ambient : Option AppConfig)
    (args : DeploymentArgs) :
    Couples R (Outlook.take ambient args) (Outlook.take ambient args) := by
  unfold Outlook.take
  refine couples_bind (couples_liftExcept _) ?_
  intro brief
  refine couples_bind (MachineInventory.survey_couples (hreads _) _) ?_
  intro inventory
  refine couples_bind (VolumeReservations.reconcile_couples (hreads _) _) ?_
  intro listed
  refine couples_bind (ResolvedImage.resolve_couples (hreads _) _ _) ?_
  intro image
  exact couples_pure _

omit [ControlPlaneClient σ] [ControlPlaneClient τ] in
theorem Outlook.draft_couples {hook : ProvisionHook σ} {hook' : ProvisionHook τ}
    (hhook : HooksCouple R hook hook') (o : Outlook) :
    Couples R (o.draft hook) (o.draft hook') := by
  unfold Outlook.draft
  refine couples_bind ?_ ?_
  · unfold Draft.provision
    split
    · exact hhook.run _
    · exact couples_pure _
  intro volumes
  refine couples_bind (couples_liftExcept _) ?_
  intro _
  exact couples_pure _

/-- From states that the calls and the hooks cannot tell apart, two preparations of one request
give the same answer. -/
theorem prepare_couples {hook : ProvisionHook σ} {hook' : ProvisionHook τ}
    (hreads : ∀ app, ReadsCouple R app)
    (hcreate : ∀ input, Couples R (ControlPlaneClient.createRelease input)
      (ControlPlaneClient.createRelease input))
    (hhook : HooksCouple R hook hook') (ambient : Option AppConfig) (args : DeploymentArgs) :
    Couples R (prepare hook ambient args) (prepare hook' ambient args) := by
  rw [prepare_eq, prepare_eq, Draft.make_eq, Draft.make_eq]
  refine couples_bind ?_ ?_
  · exact couples_bind (Outlook.take_couples hreads ambient args) (Outlook.draft_couples hhook)
  · intro d
    refine couples_bind (couples_adapt (hcreate d.request)) ?_
    intro release
    exact couples_pure _

end DeploymentPlan

end Couples

end Preflight
