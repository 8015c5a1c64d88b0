import Preflight.PlanSummary
import Preflight.Proofs.FirstViolation
import Preflight.Proofs.ReservationRuns

/-!
# Plans while their volumes are taken

A summary shows of each group how many volumes there are for it, and the group's volumes are taken
one by one.  The two look a group up on their own: the summary by the source of its mount, the
taking by the mount itself.  They agree as long as calls are made, whatever groups are asked for
(`summary_tracks_calls`).

* `askFor` is one call, and `askForEach` a run of calls; a call that fails leaves the plan as it is.
* `CallTracks` is what the summaries before and after a call say about it.  One call by itself is
  `askFor_tracks`.
* That a volume has the name of the mount it is taken for is not the work of a call, but of the
  queues of the plan, which are filed by name from the start (`filedByName_of_prepare`) and stay so.
-/

namespace Preflight

open Preflight.Action

namespace ProvisionHook

/-- Where all volumes are filed by name, the hook leaves them so. -/
def KeepsFiled {σ : Type} (hook : ProvisionHook σ) : Prop :=
  ∀ context s left, context.volumes.FiledByName → (hook.provision context s).1 = .ok left →
    left.FiledByName

theorem OnlyReserves.keepsFiled {σ : Type} {hook : ProvisionHook σ} (h : hook.OnlyReserves) :
    hook.KeepsFiled := by
  intro context s left hfiled hleft
  obtain ⟨outcome, houtcome, hreserved⟩ := h context
  rw [houtcome] at hleft
  obtain ⟨names, hnames⟩ := hreserved left hleft
  exact hfiled.reserveAll hnames

end ProvisionHook

/-- One volume less, if it is the one that the group mounts. -/
def GroupSummary.lowered (g : GroupSummary) (source : String) : GroupSummary :=
  if g.mount = some source then { g with reservable := g.reservable - 1 } else g

/-- One volume less in every group that mounts it. -/
def PlanSummary.lowered (s : PlanSummary) (source : String) : PlanSummary :=
  { s with groups := s.groups.map (·.lowered source) }

namespace DeploymentPlan

/-! ## Calls -/

/-- Ask for the volume of a group: the answer, and the plan after it. -/
def askFor (plan : DeploymentPlan) (group : String) :
    Except PreflightError (Option Volume) × DeploymentPlan :=
  match plan.reserveVolumeFor group with
  | .ok (volume, left) => (.ok volume, left)
  | .error e => (.error e, plan)

/-- Ask for one group after the other. -/
def askForEach : DeploymentPlan → List String →
    List (Except PreflightError (Option Volume)) × DeploymentPlan
  | plan, [] => ([], plan)
  | plan, group :: groups =>
    let rest := (plan.askFor group).2.askForEach groups
    ((plan.askFor group).1 :: rest.1, rest.2)

variable {plan : DeploymentPlan} {group source : String}

theorem askFor_of_undeclared (h : plan.config.hasGroup group = false) :
    plan.askFor group = (.error (.configuration (.invalid (.unknownGroup group))), plan) := by
  have hview : plan.config.flatten group = .error (.unknownGroup group) := by
    simp [AppConfig.flatten, h]
  simp [askFor, reserveVolumeFor, hview, bind, Except.bind]

theorem askFor_of_mountless (hdeclared : plan.config.hasGroup group = true)
    (h : plan.config.mountSource? group = none) : plan.askFor group = (.ok none, plan) := by
  have hview := AppConfig.flatten_of_mem ((plan.config.mem_groupNames_iff group).2 hdeclared)
  have hmount : (plan.config.mountsOf group).head? = none := by
    simpa [AppConfig.mountSource?, hview, Except.toOption, GroupConfig.primaryMount] using h
  simp [askFor, reserveVolumeFor, hview, GroupConfig.primaryMount, hmount, bind, Except.bind, pure,
    Except.pure]

/-- A group that mounts a volume takes the next one from the queue of the name. -/
theorem askFor_of_mountSource? (h : plan.config.mountSource? group = some source) :
    plan.askFor group = (.ok (plan.volumes.reserve source).1,
      { plan with volumes := (plan.volumes.reserve source).2 }) := by
  unfold AppConfig.mountSource? at h
  unfold askFor reserveVolumeFor
  cases hview : plan.config.flatten group with
  | error e => simp [hview, Except.toOption] at h
  | ok view =>
    obtain ⟨mount, hmount, rfl⟩ : ∃ mount, view.primaryMount = some mount ∧
        mount.source = source := by
      simpa [hview, Except.toOption] using h
    simp only [Result.mapError_ok, bind, Except.bind, hmount, Option.bind_some,
      VolumeReservations.reserve]
    cases plan.volumes.reserve? mount.source with
    | none => rfl
    | some taken => rfl

/-- A call changes nothing but the free volumes. -/
theorem exists_askFor_eq (plan : DeploymentPlan) (group : String) :
    ∃ volumes, (plan.askFor group).2 = { plan with volumes } := by
  cases hdeclared : plan.config.hasGroup group with
  | false => exact ⟨plan.volumes, by rw [askFor_of_undeclared hdeclared]⟩
  | true =>
    cases hsource : plan.config.mountSource? group with
    | none => exact ⟨plan.volumes, by rw [askFor_of_mountless hdeclared hsource]⟩
    | some source => exact ⟨_, by rw [askFor_of_mountSource? hsource]⟩

theorem askFor_filedByName (h : plan.volumes.FiledByName) (group : String) :
    (plan.askFor group).2.volumes.FiledByName := by
  cases hdeclared : plan.config.hasGroup group with
  | false => rwa [askFor_of_undeclared hdeclared]
  | true =>
    cases hsource : plan.config.mountSource? group with
    | none => rwa [askFor_of_mountless hdeclared hsource]
    | some source =>
      rw [askFor_of_mountSource? hsource]
      exact h.reserve source

/-! ## Summaries -/

/-- The summary lists the declared groups, each once and in the order of their names, and has each
machine of a declared group in the figures. -/
structure ListsGroups (plan : DeploymentPlan) (summary : PlanSummary) : Prop where
  sorted : (summary.groups.map (·.name)).Pairwise (· < ·)
  declared_iff : ∀ group,
    group ∈ summary.groups.map (·.name) ↔ plan.config.hasGroup group = true
  machines : (summary.groups.map (·.machines)).sum = plan.inventory.machines.countP fun m =>
    (plan.inventory.groupOf? m).any plan.config.hasGroup

/-- What the summaries before and after a call say about it. -/
structure CallTracks (before : DeploymentPlan) (group : String)
    (answer : Except PreflightError (Option Volume)) (after : DeploymentPlan) : Prop where
  /-- A declared group gets a volume exactly when there is one for it. -/
  found_iff : ∀ g ∈ before.summary.groups, g.name = group →
    ((∃ v, answer = .ok (some v)) ↔ 0 < g.reservable)
  /-- The volume is the one that the group mounts. -/
  named : ∀ g ∈ before.summary.groups, g.name = group → ∀ v, answer = .ok (some v) →
    g.mount = some v.name
  /-- A volume that is taken is missing in the groups with the same mount, and makes no other
  difference. -/
  taken : ∀ v, answer = .ok (some v) →
    after.summary = before.summary.lowered v.name ∧
    ∀ g ∈ before.summary.groups, g.mount = some v.name → 0 < g.reservable
  nothing : answer = .ok none → after = before
  /-- A call fails when the group is not listed. -/
  fails_iff : (∃ e, answer = .error e) ↔ group ∉ before.summary.groups.map (·.name)
  failed : ∀ e, answer = .error e →
    e = .configuration (.invalid (.unknownGroup group)) ∧ after = before

theorem mem_summary_groups_iff {g : GroupSummary} :
    g ∈ plan.summary.groups ↔
      plan.config.hasGroup g.name = true ∧ g = plan.summarizeGroup g.name := by
  rw [← AppConfig.mem_groupNames_iff]
  constructor
  · intro h
    obtain ⟨name, hname, rfl⟩ := List.mem_map.1 h
    exact ⟨hname, rfl⟩
  · rintro ⟨hname, hg⟩
    exact List.mem_map.2 ⟨g.name, hname, hg.symm⟩

theorem summary_names (plan : DeploymentPlan) :
    plan.summary.groups.map (·.name) = plan.config.groupNames := by
  simp [summary, summarizeGroup, Function.comp_def]

/-- Over names that differ, the sizes of the groups add up to the number of those that are in one of
them. -/
theorem sum_length_filter {α : Type} (f : α → Option String) (xs : List α) {names : List String}
    (hnames : names.Nodup) :
    (names.map fun name => (xs.filter fun x => f x == some name).length).sum =
      xs.countP fun x => (f x).any (names.contains ·) := by
  induction names with
  | nil => simp
  | cons name names ih =>
    obtain ⟨hnew, hnames⟩ := List.nodup_cons.1 hnames
    -- those in the first group, and those in one of the others
    have hsplit := List.countP_eq_countP_filter_add xs
      (fun x => (f x).any ((name :: names).contains ·)) fun x => f x == some name
    have hfirst : (xs.filter fun x => f x == some name).countP
        (fun x => (f x).any ((name :: names).contains ·)) =
        (xs.filter fun x => f x == some name).length := by
      refine List.countP_eq_length.2 ?_
      intro x hx
      have hin : f x = some name := by simpa using (List.mem_filter.1 hx).2
      simp [hin]
    have hothers : (xs.filter fun x => !(f x == some name)).countP
        (fun x => (f x).any ((name :: names).contains ·)) =
        xs.countP fun x => (f x).any (names.contains ·) := by
      rw [List.countP_filter]
      refine List.countP_congr ?_
      intro x _
      cases hx : f x with
      | none => simp
      | some other =>
        by_cases heq : other = name
        · subst heq
          simp [hnew]
        · simp [heq]
    rw [List.map_cons, List.sum_cons, ih hnames, hsplit, hfirst, hothers]

theorem summary_listsGroups (plan : DeploymentPlan) : plan.ListsGroups plan.summary where
  sorted := by
    rw [summary_names]
    exact plan.config.groupNames_sorted
  declared_iff group := by rw [summary_names, AppConfig.mem_groupNames_iff]
  machines := by
    have hnodup : plan.config.groupNames.Nodup :=
      plan.config.groupNames_sorted.imp fun h => String.ne_of_lt h
    have hsizes : plan.summary.groups.map (·.machines) =
        plan.config.groupNames.map fun name => (plan.inventory.machines.filter fun m =>
          plan.inventory.groupOf? m == some name).length := by
      simp [summary, summarizeGroup, MachineInventory.inGroup, Function.comp_def]
    rw [hsizes, sum_length_filter _ _ hnodup]
    refine List.countP_congr ?_
    intro m _
    cases plan.inventory.groupOf? m with
    | none => simp
    | some name => simp [plan.config.mem_groupNames_iff]

/-! ## One call -/

theorem summarizeGroup_eq (plan : DeploymentPlan) (name : String) :
    plan.summarizeGroup name = ⟨name, (plan.inventory.inGroup name).length,
      plan.config.mountSource? name,
      ((plan.config.mountSource? name).map plan.volumes.queueLength).getD 0⟩ := rfl

/-- With other volumes a plan has another summary of each group, and the same summary otherwise. -/
theorem summary_of_volumes (plan : DeploymentPlan) (volumes : VolumeReservations)
    {f : GroupSummary → GroupSummary}
    (h : ∀ name, { plan with volumes }.summarizeGroup name = f (plan.summarizeGroup name)) :
    { plan with volumes }.summary = { plan.summary with groups := plan.summary.groups.map f } := by
  have hgroups : { plan with volumes }.summary.groups = plan.summary.groups.map f := by
    simp only [summary, List.map_map]
    exact List.map_congr_left fun name _ => h name
  calc { plan with volumes }.summary
    _ = { plan.summary with groups := { plan with volumes }.summary.groups } := rfl
    _ = { plan.summary with groups := plan.summary.groups.map f } := by rw [hgroups]

/-- A volume that is taken from a queue is missing in the groups that mount it. -/
theorem summary_reserve (plan : DeploymentPlan) (source : String) :
    { plan with volumes := (plan.volumes.reserve source).2 }.summary =
      plan.summary.lowered source := by
  refine plan.summary_of_volumes _ ?_
  intro name
  have hfigure : ∀ mount : Option String,
      (mount.map (plan.volumes.reserve source).2.queueLength).getD 0 =
        (mount.map plan.volumes.queueLength).getD 0 - if mount = some source then 1 else 0 := by
    rintro (_ | other)
    · simp
    · simp [VolumeReservations.queueLength_reserve]
  have hgroup : { plan with volumes := (plan.volumes.reserve source).2 }.summarizeGroup name =
      { plan.summarizeGroup name with
        reservable := (plan.summarizeGroup name).reservable -
          if (plan.summarizeGroup name).mount = some source then 1 else 0 } :=
    congrArg
      (GroupSummary.mk name (plan.inventory.inGroup name).length (plan.config.mountSource? name))
      (hfigure (plan.config.mountSource? name))
  rw [hgroup, GroupSummary.lowered]
  by_cases hmount : (plan.summarizeGroup name).mount = some source
  · rw [if_pos hmount, if_pos hmount]
  · rw [if_neg hmount, if_neg hmount, Nat.sub_zero]

theorem callTracks_of_undeclared (h : plan.config.hasGroup group = false) :
    CallTracks plan group (.error (.configuration (.invalid (.unknownGroup group)))) plan := by
  have hunlisted : ∀ g ∈ plan.summary.groups, g.name ≠ group := by
    rintro g hg rfl
    have hdeclared := (mem_summary_groups_iff.1 hg).1
    rw [h] at hdeclared
    cases hdeclared
  exact {
    found_iff := fun g hg hname => absurd hname (hunlisted g hg)
    named := fun g hg hname => absurd hname (hunlisted g hg)
    taken := by rintro v ⟨⟩
    nothing := by rintro ⟨⟩
    fails_iff := by simp [plan.summary_listsGroups.declared_iff, h]
    failed := by
      rintro _ ⟨⟩
      exact ⟨rfl, rfl⟩ }

theorem callTracks_of_mountless (hdeclared : plan.config.hasGroup group = true)
    (h : plan.config.mountSource? group = none) : CallTracks plan group (.ok none) plan where
  found_iff := by
    rintro g hg rfl
    rw [(mem_summary_groups_iff.1 hg).2, summarizeGroup_eq, h]
    simp
  named := by rintro g hg hname v ⟨⟩
  taken := by rintro v ⟨⟩
  nothing := fun _ => rfl
  fails_iff := by simp [plan.summary_listsGroups.declared_iff, hdeclared]
  failed := by rintro e ⟨⟩

theorem callTracks_of_mountSource? (hfiled : plan.volumes.FiledByName)
    (hdeclared : plan.config.hasGroup group = true)
    (h : plan.config.mountSource? group = some source) :
    CallTracks plan group (.ok (plan.volumes.reserve source).1)
      { plan with volumes := (plan.volumes.reserve source).2 } := by
  have hname : ∀ v, (.ok (plan.volumes.reserve source).1 : Except PreflightError _) =
      .ok (some v) → v.name = source ∧ 0 < plan.volumes.queueLength source := by
    intro v hv
    have htaken : (plan.volumes.reserve source).1 = some v := Except.ok.inj hv
    exact ⟨hfiled.name_eq htaken, (plan.volumes.exists_reserve_iff source).1 ⟨v, htaken⟩⟩
  exact {
    found_iff := by
      rintro g hg rfl
      rw [(mem_summary_groups_iff.1 hg).2, summarizeGroup_eq, h]
      simpa using plan.volumes.exists_reserve_iff source
    named := by
      rintro g hg rfl v hv
      obtain ⟨rfl, -⟩ := hname v hv
      rw [(mem_summary_groups_iff.1 hg).2, summarizeGroup_eq, h]
    taken := by
      intro v hv
      obtain ⟨rfl, hpos⟩ := hname v hv
      refine ⟨plan.summary_reserve _, ?_⟩
      intro g hg hmount
      rw [(mem_summary_groups_iff.1 hg).2, summarizeGroup_eq] at hmount ⊢
      have hsource : plan.config.mountSource? g.name = some v.name := hmount
      simpa [hsource] using hpos
    nothing := by
      intro hnone
      rw [VolumeReservations.reserve_of_none (Except.ok.inj hnone)]
    fails_iff := by simp [plan.summary_listsGroups.declared_iff, hdeclared]
    failed := by rintro e ⟨⟩ }

/-- One call, and the summaries around it. -/
theorem askFor_tracks (hfiled : plan.volumes.FiledByName) (group : String) :
    CallTracks plan group (plan.askFor group).1 (plan.askFor group).2 := by
  cases hdeclared : plan.config.hasGroup group with
  | false =>
    rw [askFor_of_undeclared hdeclared]
    exact callTracks_of_undeclared hdeclared
  | true =>
    cases hsource : plan.config.mountSource? group with
    | none =>
      rw [askFor_of_mountless hdeclared hsource]
      exact callTracks_of_mountless hdeclared hsource
    | some source =>
      rw [askFor_of_mountSource? hsource]
      exact callTracks_of_mountSource? hfiled hdeclared hsource

/-! ## Runs of calls -/

theorem length_askForEach (plan : DeploymentPlan) (groups : List String) :
    (plan.askForEach groups).1.length = groups.length := by
  induction groups generalizing plan with
  | nil => rfl
  | cons group groups ih => simp [askForEach, ih]

theorem exists_askForEach_eq (plan : DeploymentPlan) (groups : List String) :
    ∃ volumes, (plan.askForEach groups).2 = { plan with volumes } := by
  induction groups generalizing plan with
  | nil => exact ⟨plan.volumes, rfl⟩
  | cons group groups ih =>
    obtain ⟨first, hfirst⟩ := plan.exists_askFor_eq group
    obtain ⟨volumes, hrest⟩ := ih (plan.askFor group).2
    refine ⟨volumes, ?_⟩
    rw [askForEach, hrest, hfirst]

theorem askForEach_filedByName (h : plan.volumes.FiledByName) (groups : List String) :
    (plan.askForEach groups).2.volumes.FiledByName := by
  induction groups generalizing plan with
  | nil => exact h
  | cons group groups ih => exact ih (askFor_filedByName h group)

/-- A run up to some call is the run before it and the call. -/
theorem askForEach_step (plan : DeploymentPlan) {groups : List String} {i : Nat} {group : String}
    (h : groups[i]? = some group) :
    (plan.askForEach groups).1[i]? =
        some ((plan.askForEach (groups.take i)).2.askFor group).1 ∧
      (plan.askForEach (groups.take (i + 1))).2 =
        ((plan.askForEach (groups.take i)).2.askFor group).2 := by
  induction groups generalizing plan i with
  | nil => simp at h
  | cons first groups ih =>
    cases i with
    | zero =>
      obtain rfl : first = group := by simpa using h
      exact ⟨rfl, rfl⟩
    | succ i => exact ih (plan.askFor first).2 (by simpa using h)

/-- What the summaries say during a run of calls. -/
structure SummaryTracks (plan : DeploymentPlan) (groups : List String) : Prop where
  /-- Every call is answered. -/
  answered : (plan.askForEach groups).1.length = groups.length
  lists : ∀ i, plan.ListsGroups (plan.askForEach (groups.take i)).2.summary
  calls : ∀ i group, groups[i]? = some group → ∃ answer,
    (plan.askForEach groups).1[i]? = some answer ∧
    CallTracks (plan.askForEach (groups.take i)).2 group answer
      (plan.askForEach (groups.take (i + 1))).2

theorem summaryTracks_of_filedByName (h : plan.volumes.FiledByName) (groups : List String) :
    SummaryTracks plan groups where
  answered := plan.length_askForEach groups
  lists i := by
    obtain ⟨volumes, hvolumes⟩ := plan.exists_askForEach_eq (groups.take i)
    have hlists := (plan.askForEach (groups.take i)).2.summary_listsGroups
    rw [hvolumes] at hlists ⊢
    exact ⟨hlists.sorted, hlists.declared_iff, hlists.machines⟩
  calls i group hgroup := by
    obtain ⟨hanswer, hafter⟩ := plan.askForEach_step hgroup
    refine ⟨_, hanswer, ?_⟩
    rw [hafter]
    exact askFor_tracks (askForEach_filedByName h _) group

/-! ## Plans that were prepared -/

section Prepare

variable {σ : Type} [ControlPlaneClient σ] {hook : ProvisionHook σ} {ambient : Option AppConfig}
  {args : DeploymentArgs} {s t : σ}

/-- Volumes are listed by name. -/
theorem filedByName_of_reconcile {session : ControlPlaneSession} {config : AppConfig}
    {listed : VolumeReservations}
    (h : (VolumeReservations.reconcile session config).from s = (.ok listed, t)) :
    listed.FiledByName := by
  unfold VolumeReservations.reconcile at h
  split at h
  · obtain ⟨volumes, u, -, hlisted⟩ := from_bind_ok_iff.1 h
    obtain rfl : .ofVolumes volumes = listed := Except.ok.inj (congrArg Prod.fst hlisted)
    exact VolumeReservations.filedByName_ofVolumes volumes
  · obtain rfl : .empty = listed := Except.ok.inj (congrArg Prod.fst h)
    exact VolumeReservations.filedByName_empty

theorem filedByName_of_prepare (hhook : hook.KeepsFiled)
    (h : (prepare hook ambient args).from s = (.ok plan, t)) : plan.volumes.FiledByName := by
  obtain ⟨d, u, release, hdraft, -, rfl⟩ := prepare_ok_iff.1 h
  obtain ⟨-, s₁, s₂, s₃, listed, -, hlisted, -, hvolumes, -⟩ := Draft.make_ok_iff.1 hdraft
  have hfiled := filedByName_of_reconcile hlisted
  have hleft := Draft.provision_ok_iff.1 (congrArg Prod.fst hvolumes)
  show d.volumes.FiledByName
  split at hleft
  · exact hhook _ _ _ hfiled hleft
  · rwa [hleft]

/-- From a prepared plan any groups may be asked for, declared or not, in any order: what each call
answers and does is what the summary shows before it and no longer shows after it. -/
theorem summary_tracks_calls (hhook : hook.KeepsFiled)
    (h : (prepare hook ambient args).from s = (.ok plan, t)) (groups : List String) :
    SummaryTracks plan groups :=
  summaryTracks_of_filedByName (filedByName_of_prepare hhook h) groups

end Prepare

/-- The hook has left one of two volumes.  The first group takes it, so that the second one gets
none. -/
theorem newShop_summary_tracks :
    let hook : ProvisionHook InMemoryPlane := .reserving "claims" ["data"] none
    hook.KeepsFiled ∧
    ∃ plan, ((prepare hook (some .shop) .firstOfShop).from InMemoryPlane.newShop).1 = .ok plan ∧
      SummaryTracks plan ["web", "worker", "db"] ∧
      plan.summary.groups = [⟨"web", 0, some "data", 1⟩, ⟨"worker", 0, some "data", 1⟩] ∧
      (plan.askForEach ["web"]).2.summary = plan.summary.lowered "data" := by
  intro hook
  have hhook : hook.KeepsFiled :=
    (ProvisionHook.reservesInOrder_reserving _ _).onlyReserves.keepsFiled
  obtain ⟨plan, hplan, hgroups⟩ : ∃ plan,
      ((prepare hook (some .shop) .firstOfShop).from InMemoryPlane.newShop).1 = .ok plan ∧
      plan.summary.groups = [⟨"web", 0, some "data", 1⟩, ⟨"worker", 0, some "data", 1⟩] := by
    rw [Result.exists_ok_and_iff]
    decide +kernel
  have htracks := summary_tracks_calls hhook (Prod.ext hplan rfl) ["web", "worker", "db"]
  refine ⟨hhook, plan, hplan, htracks, hgroups, ?_⟩
  obtain ⟨answer, -, hcall⟩ := htracks.calls 0 "web" rfl
  obtain ⟨v, hv⟩ := (hcall.found_iff ⟨"web", 0, some "data", 1⟩ (by simp [askForEach, hgroups])
    rfl).2 (by decide)
  have hname := hcall.named ⟨"web", 0, some "data", 1⟩ (by simp [askForEach, hgroups]) rfl v hv
  have hname : "data" = v.name := Option.some.inj hname
  rw [hname]
  exact (hcall.taken v hv).1

end DeploymentPlan

end Preflight
