import Preflight.Proofs.Success

/-!
# When the provisioning hook runs

A hook prepares what a new application needs, so it must not run where something is alive.  To
speak of its runs, a preparation is watched: beside the control plane stands a list of the runs,
each with what the hook was shown and with the control plane as it found it.  Watching changes
nothing (`Watched.prepare_eq`), and `Watched.runs_prepare` gives the runs of a preparation in
closed form, on every control plane and for every hook, whatever it does.

On a plane in memory `HookRun.OnNewApp` is what every run can count on.  The survey asks only for
managed machines when it finds one, and the first deploy is decided by them alone; that no other
machine is alive either is what its second call is for (`InMemoryPlane.surveyed_ok_iff`).
-/

namespace Preflight

open Preflight.Action

/-! ## Watched control planes -/

/-- One run of a hook: what it was shown, and the control plane as it found it. -/
structure HookRun (σ : Type) where
  context : ProvisionContext
  found : σ

/-- A control plane and the runs of hooks beside it. -/
structure Watched (σ : Type) where
  plane : σ
  /-- The runs so far, in order. -/
  runs : List (HookRun σ) := []

namespace Watched

variable {σ ε α β : Type}

/-- Do something to the control plane. -/
def onPlane (x : Action σ ε α) : Action (Watched σ) ε α :=
  ExceptT.mk fun w => ((x.from w.plane).1, { w with plane := (x.from w.plane).2 })

instance [ControlPlaneClient σ] : ControlPlaneClient (Watched σ) where
  listMachines app := onPlane (ControlPlaneClient.listMachines app)
  listActiveMachines app := onPlane (ControlPlaneClient.listActiveMachines app)
  listVolumes app := onPlane (ControlPlaneClient.listVolumes app)
  latestReleaseImage app := onPlane (ControlPlaneClient.latestReleaseImage app)
  createRelease input := onPlane (ControlPlaneClient.createRelease input)
  updateRelease id status := onPlane (ControlPlaneClient.updateRelease id status)

/-- The hook whose runs are kept. -/
def watching (hook : ProvisionHook σ) : ProvisionHook (Watched σ) :=
  ⟨hook.name, fun context w =>
    ((hook.provision context w.plane).1,
      ⟨(hook.provision context w.plane).2, w.runs ++ [⟨context, w.plane⟩]⟩)⟩

/-! ## Watching changes nothing -/

/-- The control plane that is watched. -/
def Shows (w : Watched σ) (s : σ) : Prop := w.plane = s

theorem couples_onPlane (x : Action σ ε α) : Couples Shows (onPlane x) x := by
  rintro w _ rfl
  exact ⟨rfl, rfl⟩

theorem readsCouple_shows [ControlPlaneClient σ] (app : String) :
    ReadsCouple (Shows (σ := σ)) app where
  listMachines := couples_onPlane _
  listActiveMachines := couples_onPlane _
  listVolumes := couples_onPlane _
  latestReleaseImage := couples_onPlane _

theorem hooksCouple_watching (hook : ProvisionHook σ) : HooksCouple Shows (watching hook) hook where
  name := rfl
  provision context := by
    rintro w _ rfl
    exact ⟨rfl, rfl⟩

/-- A preparation that is watched answers as it does when it is not, and leaves the same control
plane. -/
theorem prepare_eq [ControlPlaneClient σ] (hook : ProvisionHook σ) (ambient : Option AppConfig)
    (args : DeploymentArgs) (w : Watched σ) :
    ((DeploymentPlan.prepare (watching hook) ambient args).from w).1 =
        ((DeploymentPlan.prepare hook ambient args).from w.plane).1 ∧
      ((DeploymentPlan.prepare (watching hook) ambient args).from w).2.plane =
        ((DeploymentPlan.prepare hook ambient args).from w.plane).2 :=
  DeploymentPlan.prepare_couples readsCouple_shows (fun _ => couples_onPlane _)
    (hooksCouple_watching hook) ambient args w w.plane rfl

/-! ## The runs of a preparation -/

/-- No run was added. -/
def SameRuns (w v : Watched σ) : Prop := v.runs = w.runs

instance : IsPreorder (Watched σ) SameRuns where
  refl _ := rfl
  trans _ _ _ hwv hvu := hvu.trans hwv

theorem keeps_onPlane (x : Action σ ε α) : Keeps SameRuns (onPlane x) := fun _ => rfl

theorem readsKeep_sameRuns [ControlPlaneClient σ] (app : String) :
    ReadsKeep (SameRuns (σ := σ)) app where
  listMachines := keeps_onPlane _
  listActiveMachines := keeps_onPlane _
  listVolumes := keeps_onPlane _
  latestReleaseImage := keeps_onPlane _

/-- What follows runs no hook. -/
theorem runs_bind {x : Action (Watched σ) ε α} {f : α → Action (Watched σ) ε β}
    (hf : ∀ a, Keeps SameRuns (f a)) (w : Watched σ) :
    ((x >>= f).from w).2.runs = (x.from w).2.runs := by
  rw [from_bind]
  rcases x.from w with ⟨e | a, v⟩
  · rfl
  · exact hf a v

theorem runs_run (hook : ProvisionHook σ) (context : ProvisionContext) (w : Watched σ) :
    (((watching hook).run context).from w).2.runs = w.runs ++ [⟨context, w.plane⟩] := by
  unfold ProvisionHook.run
  refine runs_bind ?_ w
  intro outcome
  cases outcome with
  | ok volumes => exact keeps_pure _
  | error reason => exact keeps_throw _

/-- From the hook on: it runs once on a first deploy, and else not at all. -/
theorem runs_draft (hook : ProvisionHook σ) (o : DeploymentPlan.Outlook) (w : Watched σ) :
    ((o.draft (watching hook)).from w).2.runs =
      w.runs ++ if o.firstDeploy then [⟨o.context, w.plane⟩] else [] := by
  have hrest : ∀ left, Keeps (SameRuns (σ := σ)) (do
      liftExcept (checkTopology o.brief.config o.inventory left)
      return (⟨o.brief, o.inventory, o.image, left⟩ : DeploymentPlan.Draft) :
        Action (Watched σ) PreflightError _) := by
    intro left
    exact keeps_bind (keeps_liftExcept _) fun _ => keeps_pure _
  unfold DeploymentPlan.Outlook.draft
  rw [runs_bind hrest]
  unfold DeploymentPlan.Draft.provision DeploymentPlan.Outlook.firstDeploy
  split
  · exact runs_run hook o.context w
  · simp

/-- A preparation runs its hook where the stages before it come to a first deploy, on the control
plane that they leave, and once. -/
theorem runs_prepare [ControlPlaneClient σ] (hook : ProvisionHook σ) (ambient : Option AppConfig)
    (args : DeploymentArgs) (w : Watched σ) :
    ((DeploymentPlan.prepare (watching hook) ambient args).from w).2.runs = w.runs ++
      match (DeploymentPlan.Outlook.take ambient args).from w.plane with
      | (.ok o, s) => if o.firstDeploy then [⟨o.context, s⟩] else []
      | (.error _, _) => [] := by
  have hrecord : ∀ d : DeploymentPlan.Draft, Keeps (SameRuns (σ := σ)) (d.record args) := by
    intro d
    exact keeps_bind (keeps_adapt (keeps_onPlane _)) fun _ => keeps_pure _
  obtain ⟨hanswer, hplane⟩ := DeploymentPlan.Outlook.take_couples readsCouple_shows ambient args
    w w.plane rfl
  have hruns := DeploymentPlan.Outlook.take_keeps readsKeep_sameRuns ambient args w
  rw [DeploymentPlan.prepare_eq, runs_bind hrecord, DeploymentPlan.Draft.make_eq, from_bind]
  rcases hwatched : (DeploymentPlan.Outlook.take ambient args).from w with ⟨r, v⟩
  rcases hplain : (DeploymentPlan.Outlook.take ambient args).from w.plane with ⟨r', s⟩
  rw [hwatched, hplain] at hanswer hplane
  rw [hwatched] at hruns
  obtain rfl : r = r' := hanswer
  obtain rfl : v.plane = s := hplane
  have hsame : v.runs = w.runs := hruns
  cases r with
  | error e => simp [hsame]
  | ok o =>
    show ((o.draft (watching hook)).from v).2.runs = _
    rw [runs_draft, hsame]

end Watched

/-! ## Runs on a plane in memory -/

open InMemoryPlane

/-- What a run can count on that belongs to a preparation from a plane. -/
structure HookRun.OnNewApp (run : HookRun InMemoryPlane) (args : DeploymentArgs)
    (p : InMemoryPlane) : Prop where
  handle : args.app = some run.context.session.app
  undeployed : run.context.session.app.deployed = false
  /-- Nothing of the application is alive, managed or not, but for the release command. -/
  noMachine : ∀ m ∈ run.found.machinesOf run.context.session.app.name, m.isActive = true →
    m.processGroup = Machine.releaseCommandGroup
  /-- The image is the caller's or, without one, that of the latest release. -/
  image : run.context.image ≠ "" ∧ (args.image = some run.context.image ∨
    (∀ image, args.image = some image → image = "") ∧
      p.failures .latestReleaseImage = none ∧
      ∃ r, p.ledger.latest? run.context.session.app.name = some r ∧ r.image = run.context.image)
  /-- No release was created for it, nor anything else changed. -/
  onlyRead : p.OnlyRead run.found

namespace InMemoryPlane

variable {p : InMemoryPlane} {ambient : Option AppConfig} {args : DeploymentArgs}
  {o : DeploymentPlan.Outlook}

/-- The stages before the hook come to a first deploy where there is one by the records. -/
theorem firstDeploy_iff (h : p.outlook ambient args = .ok o) :
    o.firstDeploy = true ↔ p.FirstDeploy o.brief.session.app := by
  obtain ⟨-, hinventory, -, -⟩ := outlook_ok_iff.1 h
  obtain ⟨-, hmanaged, hofListing⟩ := surveyed_ok_iff.1 hinventory
  rw [DeploymentPlan.Outlook.firstDeploy, hofListing]
  exact isFirstDeploy_ofListing _ _ (hmanaged.imp_right And.left)

theorem isEmpty_of_firstDeploy (h : o.firstDeploy = true) : o.inventory.isEmpty = true := by
  rw [DeploymentPlan.Outlook.firstDeploy, MachineInventory.isFirstDeploy, Bool.and_eq_true] at h
  exact h.2

/-- Without machines the image does not come from one. -/
theorem source_ne_existingMachine {explicit : Option String} {session : ControlPlaneSession}
    {inventory : MachineInventory} {image : ResolvedImage} (hnone : inventory.isEmpty = true)
    (h : p.resolved explicit session inventory = .ok image) :
    image.source ≠ .existingMachine := by
  intro hsource
  have hfirst : inventory.firstImage = some image.reference := by
    rw [resolved_ok_iff, hsource] at h
    exact h.2.2
  rw [MachineInventory.firstImage, List.isEmpty_iff.1 hnone] at hfirst
  cases hfirst

theorem eq_listed_of_reconciled {session : ControlPlaneSession} {config : AppConfig}
    {free : VolumeReservations} (h : p.reconciled session config = .ok free) :
    free = p.listed session.app.name config := by
  unfold reconciled at h
  unfold listed
  split at h
  · rename_i hmounts
    rw [if_pos hmounts]
    obtain ⟨volumes, hvolumes, hfree⟩ := Result.bind_ok_iff.1 h
    rw [Result.mapError_ok_iff, unlessFailing_ok_iff] at hvolumes
    obtain rfl := Except.ok.inj hvolumes.2
    exact (Except.ok.inj hfree).symm
  · rename_i hmounts
    rw [if_neg hmounts]
    exact (Except.ok.inj h).symm

theorem listed_eq (p : InMemoryPlane) (app : String) (config : AppConfig) :
    p.listed app config = if config.mounts = [] then .empty else .ofVolumes (p.volumesOf app) := by
  unfold listed AppConfig.hasMounts
  cases config.mounts <;> rfl

/-- Whatever the hook is shown on a first deploy, nothing is there that it could disturb. -/
theorem onNewApp (h : p.outlook ambient args = .ok o) (hfirst : o.firstDeploy = true) :
    HookRun.OnNewApp ⟨o.context, p.atHook ambient args⟩ args p := by
  obtain ⟨hbrief, -, -, himage⟩ := outlook_ok_iff.1 h
  obtain ⟨hundeployed, hordinary⟩ := (firstDeploy_iff h).1 hfirst
  have hempty := isEmpty_of_firstDeploy hfirst
  refine ⟨(Brief.ofRequest_ok_iff.1 hbrief).1, hundeployed, ?_, ?_, ?_⟩
  · intro m hm hactive
    have hm' := List.filter_eq_nil_iff.1 hordinary m hm
    simpa [hactive] using hm'
  · refine ⟨reference_ne_empty_of_resolved himage, ?_⟩
    have hsource := source_ne_existingMachine hempty himage
    rw [resolved_ok_iff] at himage
    split at himage
    · exact .inl (Option.filter_eq_some_iff.1 (Option.filter_eq_some_iff.1 himage).1).1
    · obtain ⟨hnone, hclear, hlatest⟩ := himage
      refine .inr ⟨?_, hclear, ?_⟩
      · intro image hgiven
        by_contra hne
        have hsome := isSome_nonEmpty_explicitImage_iff.2 ⟨image, hgiven, hne⟩
        rw [hnone] at hsome
        cases hsome
      · have hlatest' := (Option.filter_eq_some_iff.1 hlatest).1
        obtain ⟨r, hr, himage⟩ := Option.map_eq_some_iff.1 (Option.filter_eq_some_iff.1 hlatest').1
        exact ⟨r, hr, himage⟩
    · rename_i hmachine
      exact absurd hmachine hsource
  · have hread := DeploymentPlan.Outlook.take_keeps readsKeep_onlyRead ambient args p
    rwa [makes_take ambient args p (.refl p)] at hread

end InMemoryPlane

/-! ## Preparations on a plane in memory -/

namespace DeploymentPlan

open Watched

/-- What a plan tells of the runs of the hook that its preparation was given. -/
structure TellsRuns (plan : DeploymentPlan) (p : InMemoryPlane)
    (runs : List (HookRun InMemoryPlane)) : Prop where
  /-- The hook ran exactly when the application was new. -/
  ran_iff : runs ≠ [] ↔ plan.session.app.deployed = false ∧
    ∀ m ∈ p.machinesOf plan.session.app.name, m.isActive = true →
      m.processGroup = Machine.releaseCommandGroup
  firstDeploy : plan.firstDeploy = true ↔ runs ≠ []
  image : ∀ run ∈ runs, run.context.image = plan.image.reference ∧
    plan.image.source ≠ .existingMachine
  /-- Where no hook has run, the queues hold what is free. -/
  volumes : runs = [] → plan.volumes =
    if plan.config.mounts = [] then .empty else .ofVolumes (p.volumesOf plan.session.app.name)
  queues : runs = [] → ∀ name, plan.volumes.queues.listAt name =
    if plan.config.mounts = [] then [] else (p.volumesOf plan.session.app.name).filter fun v =>
      v.attachedMachine.isNone && v.attachedAllocation.isNone && v.name == name

variable {hook : ProvisionHook InMemoryPlane} {ambient : Option AppConfig} {args : DeploymentArgs}
  {p q : InMemoryPlane} {plan : DeploymentPlan}

/-- The plan of an outlook has the free volumes unless the hook has run. -/
theorem exists_outlook_of_prepare (h : (prepare hook ambient args).from p = (.ok plan, q)) :
    ∃ o left release, p.outlook ambient args = .ok o ∧
      (o.firstDeploy = false → left = o.listed) ∧
      plan = (⟨o.brief, o.inventory, o.image, left⟩ : Draft).plan args release := by
  obtain ⟨d, t, release, hdraft, -, rfl⟩ := prepare_ok_iff.1 h
  rw [Draft.make_eq, from_bind_ok_iff] at hdraft
  obtain ⟨o, s, ho, hd⟩ := hdraft
  rw [makes_take ambient args p (.refl p)] at ho
  obtain ⟨left, hleft, -, rfl⟩ := Outlook.draft_ok_iff.1 (congrArg Prod.fst hd)
  refine ⟨o, left, release, congrArg Prod.fst ho, ?_, rfl⟩
  intro hfirst
  rw [Draft.provision_ok_iff, if_neg] at hleft
  · exact hleft
  · exact ne_true_of_eq_false hfirst

/-- The runs of the hook in a preparation from a plane in memory. -/
def hookRuns (ambient : Option AppConfig) (args : DeploymentArgs) (p : InMemoryPlane) :
    List (HookRun InMemoryPlane) :=
  match p.outlook ambient args with
  | .ok o =>
    if o.firstDeploy then [⟨o.context, p.atHook ambient args⟩] else []
  | .error _ => []

theorem runs_eq_hookRuns (hook : ProvisionHook InMemoryPlane) (ambient : Option AppConfig)
    (args : DeploymentArgs) (p : InMemoryPlane) :
    ((prepare (watching hook) ambient args).from ⟨p, []⟩).2.runs = hookRuns ambient args p := by
  rw [runs_prepare, makes_take ambient args p (.refl p), hookRuns, List.nil_append]
  cases p.outlook ambient args <;> rfl

theorem length_hookRuns_le_one : (hookRuns ambient args p).length ≤ 1 := by
  unfold hookRuns
  split
  · split <;> simp
  · simp

theorem onNewApp_of_mem_hookRuns {run : HookRun InMemoryPlane}
    (h : run ∈ hookRuns ambient args p) : run.OnNewApp args p := by
  unfold hookRuns at h
  split at h
  · rename_i o ho
    split at h
    · rename_i hfirst
      rw [List.mem_singleton.1 h]
      exact onNewApp ho hfirst
    · cases h
  · cases h

theorem tellsRuns_hookRuns (h : (prepare hook ambient args).from p = (.ok plan, q)) :
    plan.TellsRuns p (hookRuns ambient args p) := by
  obtain ⟨o, left, release, ho, hleft, rfl⟩ := exists_outlook_of_prepare h
  obtain ⟨-, -, hlisted, himage⟩ := outlook_ok_iff.1 ho
  have hruns : hookRuns ambient args p =
      if o.firstDeploy then [⟨o.context, p.atHook ambient args⟩] else [] := by
    rw [hookRuns, ho]
  have hran : hookRuns ambient args p ≠ [] ↔ o.firstDeploy = true := by
    rw [hruns]
    split <;> simp_all
  have hidle : hookRuns ambient args p = [] → left = o.listed := by
    intro hnone
    refine hleft ?_
    simpa [hnone] using hran
  have hlisted : o.listed = p.listed o.brief.session.app.name o.brief.config :=
    eq_listed_of_reconciled hlisted
  refine ⟨?_, hran.symm, ?_, ?_, ?_⟩
  · rw [hran, firstDeploy_iff ho]
    simp [FirstDeploy, ordinary, Draft.plan]
  · intro run hrun
    rw [hruns] at hrun
    split at hrun
    · rename_i hfirst
      rw [List.mem_singleton.1 hrun]
      exact ⟨rfl, source_ne_existingMachine (isEmpty_of_firstDeploy hfirst) himage⟩
    · cases hrun
  · intro hnone
    show left = _
    rw [hidle hnone, hlisted, listed_eq]
    rfl
  · intro hnone name
    show left.queues.listAt name = _
    rw [hidle hnone, hlisted, listed_eq]
    show _ = if o.brief.config.mounts = [] then _ else _
    split
    · rfl
    · exact VolumeReservations.listAt_ofVolumes _ _

/-- Whatever a hook does and whichever failures are set, a preparation runs it at most once, and
only for an application that was never deployed, has nothing alive and gets its image from the
caller or from its latest release; where it does not run, the plan has the free volumes. -/
theorem prepare_hookRuns (hook : ProvisionHook InMemoryPlane) (ambient : Option AppConfig)
    (args : DeploymentArgs) (p : InMemoryPlane) :
    ∃ runs,
      (prepare (watching hook) ambient args).from ⟨p, []⟩ =
        (((prepare hook ambient args).from p).1, ⟨((prepare hook ambient args).from p).2, runs⟩) ∧
      runs.length ≤ 1 ∧ (∀ run ∈ runs, run.OnNewApp args p) ∧
      ∀ plan, ((prepare hook ambient args).from p).1 = .ok plan → plan.TellsRuns p runs := by
  refine ⟨hookRuns ambient args p, ?_, length_hookRuns_le_one, fun _ => onNewApp_of_mem_hookRuns,
    ?_⟩
  · obtain ⟨hanswer, hplane⟩ := Watched.prepare_eq hook ambient args ⟨p, []⟩
    rw [← runs_eq_hookRuns hook, ← hanswer, ← hplane]
  · intro plan hplan
    exact tellsRuns_hookRuns (Prod.ext hplan rfl)

/-- The hook finds two free volumes, of which the plan keeps the one that the hook has left. -/
theorem newShop_hookRuns :
    let hook : ProvisionHook InMemoryPlane := .reserving "claims" ["data"] none
    ∃ run plan, ((prepare (watching hook) (some .shop) .firstOfShop).from ⟨newShop, []⟩).2.runs =
        [run] ∧
      ((prepare hook (some .shop) .firstOfShop).from newShop).1 = .ok plan ∧
      run.OnNewApp .firstOfShop newShop ∧ plan.TellsRuns newShop [run] ∧
      run.context.volumes.queueLength "data" = 2 ∧ plan.volumes.queueLength "data" = 1 := by
  intro hook
  obtain ⟨plan, hplan⟩ : ∃ plan,
      ((prepare hook (some .shop) .firstOfShop).from newShop).1 = .ok plan := by
    rw [Result.exists_ok_iff]
    decide +kernel
  obtain ⟨runs, hfrom, -, hnew, htells⟩ :=
    prepare_hookRuns hook (some .shop) .firstOfShop newShop
  have hruns : ((prepare (watching hook) (some .shop) .firstOfShop).from ⟨newShop, []⟩).2.runs =
      runs := by
    rw [hfrom]
  have hshown : runs.map (·.context.volumes.queueLength "data") = [2] := by
    rw [← hruns]
    decide +kernel
  obtain ⟨run, rfl, hrun⟩ := List.map_eq_singleton_iff.1 hshown
  have hleft : ((prepare hook (some .shop) .firstOfShop).from newShop).1.map
      (·.volumes.queueLength "data") = .ok 1 := by decide +kernel
  rw [hplan] at hleft
  exact ⟨run, plan, hruns, hplan, hnew run (List.mem_singleton_self run), htells plan hplan, hrun,
    Except.ok.inj hleft⟩

end DeploymentPlan

end Preflight
