import Mathlib.Data.List.Induction
import Preflight.Proofs.AllOrNothing
import Preflight.Proofs.Topology

/-!
# The volumes of a plan

The gate looks at each group without machines by itself: each of its mounts must find a free
volume.  Reservations come from one queue per name.  So a plan promises a volume to each such
group alone, and to several of them as long as no more of them mount one volume name than there
are free volumes of the name.

* `reserveVolumeFor_ok` says what one call does to a plan.
* `reserveVolumesFor` takes a volume for each of several groups in turn, and
  `reserveVolumesFor_ok` says which of its answers are volumes, for any plan.
* The last section says it for plans that a preparation returned, and adds what the gate has seen
  to; a plan of two groups and one volume shows that no more can be promised.
-/

namespace Preflight

namespace DeploymentPlan

/-! ## One group -/

/-- A group that mounts a volume gets the next one of the name, or none when none is left; the
queue of the name is one shorter, as far as it can be, and the others are as they were. -/
theorem reserveVolumeFor_ok {plan : DeploymentPlan} {group source : String}
    (h : plan.config.mountSource? group = some source) :
    ∃ answer next, plan.reserveVolumeFor group = .ok (answer, next) ∧
      next.config = plan.config ∧
      (answer.isSome = true ↔ 0 < plan.volumes.queueLength source) ∧
      ∀ name, next.volumes.queueLength name =
        plan.volumes.queueLength name - if name = source then 1 else 0 := by
  unfold AppConfig.mountSource? at h
  unfold reserveVolumeFor
  cases hview : plan.config.flatten group with
  | error e => simp [hview, Except.toOption] at h
  | ok view =>
    obtain ⟨mount, hmount, rfl⟩ : ∃ mount, view.primaryMount = some mount ∧
        mount.source = source := by
      simpa [hview, Except.toOption] using h
    simp only [Result.mapError_ok, bind, Except.bind, hmount, Option.bind_some]
    cases hreserve : plan.volumes.reserve? mount.source with
    | none =>
      have hempty := (plan.volumes.reserve?_eq_none_iff mount.source).1 hreserve
      refine ⟨none, plan, rfl, rfl, by simp [hempty], ?_⟩
      intro name
      by_cases hname : name = mount.source
      · rw [hname, hempty, Nat.zero_sub]
      · rw [if_neg hname, Nat.sub_zero]
    | some taken =>
      obtain ⟨volume, volumes⟩ := taken
      have hlengths := VolumeReservations.queueLength_of_reserve? hreserve
      refine ⟨some volume, { plan with volumes }, rfl, rfl, by simp [hlengths], ?_⟩
      intro name
      rw [hlengths, Nat.add_sub_cancel]

/-! ## Several groups -/

/-- Take a volume for each of several groups, in order. -/
def reserveVolumesFor : List String → DeploymentPlan →
    Except PreflightError (List (Option Volume) × DeploymentPlan)
  | [], plan => .ok ([], plan)
  | group :: groups, plan => do
    let (volume, plan) ← plan.reserveVolumeFor group
    let (volumes, plan) ← reserveVolumesFor groups plan
    return (volume :: volumes, plan)

/-- How many of some groups mount a volume name. -/
def mounting (plan : DeploymentPlan) (source : String) (groups : List String) : Nat :=
  groups.countP fun group => plan.config.mountSource? group == some source

theorem mounting_cons (plan : DeploymentPlan) (source group : String) (groups : List String) :
    plan.mounting source (group :: groups) =
      plan.mounting source groups +
        if plan.config.mountSource? group = some source then 1 else 0 := by
  simp [mounting, List.countP_cons]

/-- The answer for a group is a volume when the groups before it have not emptied the queue. -/
theorem reserveVolumesFor_ok {groups : List String} {plan : DeploymentPlan}
    (hmounts : ∀ group ∈ groups, (plan.config.mountSource? group).isSome = true) :
    ∃ answers rest, reserveVolumesFor groups plan = .ok (answers, rest) ∧
      answers.length = groups.length ∧
      ∀ i group source, groups[i]? = some group → plan.config.mountSource? group = some source →
        ((answers[i]?.join).isSome = true ↔
          plan.mounting source (groups.take i) < plan.volumes.queueLength source) := by
  induction groups generalizing plan with
  | nil => exact ⟨[], plan, rfl, rfl, by simp⟩
  | cons head groups ih =>
    obtain ⟨hhead, hgroups⟩ := List.forall_mem_cons.1 hmounts
    obtain ⟨first, hfirst⟩ := Option.isSome_iff_exists.1 hhead
    obtain ⟨answer, next, hcall, hconfig, hanswer, hlengths⟩ := reserveVolumeFor_ok hfirst
    rw [← hconfig] at hgroups
    obtain ⟨answers, rest, hrest, hlength, hanswers⟩ := ih hgroups
    refine ⟨answer :: answers, rest, ?_, by simp [hlength], ?_⟩
    · simp [reserveVolumesFor, hcall, hrest, bind, Except.bind, pure, Except.pure]
    intro i group source hgroup hsource
    cases i with
    | zero =>
      obtain rfl : head = group := by simpa using hgroup
      obtain rfl : first = source := Option.some.inj (hfirst.symm.trans hsource)
      simpa [mounting] using hanswer
    | succ i =>
      have hi := hanswers i group source (by simpa using hgroup) (hconfig ▸ hsource)
      -- the head counts among the groups before, where it has taken one from the queue
      have hcount :
          next.mounting source (groups.take i) = plan.mounting source (groups.take i) := by
        rw [mounting, hconfig, mounting]
      rw [List.getElem?_cons_succ, List.take_succ_cons, mounting_cons, hfirst, hi, hcount, hlengths]
      by_cases heq : first = source
      · simp only [heq, if_true]
        omega
      · simp [heq, Ne.symm heq]

/-- Each occurrence comes after fewer than `n` others exactly when there are `n` at most. -/
theorem countP_le_iff_take {α : Type} {P : α → Bool} {n : Nat} (xs : List α) :
    xs.countP P ≤ n ↔ ∀ i x, xs[i]? = some x → P x = true → (xs.take i).countP P < n := by
  constructor
  · intro h i x hx hP
    have hsplit : (xs.take (i + 1)).countP P = (xs.take i).countP P + 1 := by
      rw [List.take_add_one, hx, List.countP_append]
      simp [hP]
    have hle : (xs.take (i + 1)).countP P ≤ xs.countP P :=
      (List.take_sublist _ _).countP_le
    omega
  · intro h
    induction xs using List.reverseRecOn with
    | nil => simp
    | append_singleton xs x ih =>
      rw [List.countP_append, List.countP_singleton]
      split
      · rename_i hP
        have hlast := h xs.length x (by simp) hP
        rw [List.take_left] at hlast
        omega
      · refine ih ?_
        intro i y hy hP
        have hi : i < xs.length := (List.getElem?_eq_some_iff.1 hy).1
        have hmore := h i y (by rw [List.getElem?_append_left hi, hy]) hP
        rwa [List.take_append_of_le_length (Nat.le_of_lt hi)] at hmore

/-! ## Plans that were prepared -/

section Prepare

variable {σ : Type} [ControlPlaneClient σ] {hook : ProvisionHook σ} {ambient : Option AppConfig}
  {args : DeploymentArgs} {plan : DeploymentPlan} {s t : σ}

theorem checkTopology_of_prepare (h : (prepare hook ambient args).from s = (.ok plan, t)) :
    checkTopology plan.config plan.inventory plan.volumes = .ok () := by
  obtain ⟨d, u, release, hdraft, -, rfl⟩ := prepare_ok_iff.1 h
  obtain ⟨-, s₁, s₂, s₃, listed, -, -, -, -, htopology⟩ := Draft.make_ok_iff.1 hdraft
  exact htopology

/-- A group without machines finds a volume of its name in the fresh plan. -/
theorem queueLength_pos_of_prepare (h : (prepare hook ambient args).from s = (.ok plan, t))
    {group source : String} (hgroup : group ∈ plan.config.groupNames)
    (hempty : plan.inventory.inGroup group = [])
    (hsource : plan.config.mountSource? group = some source) :
    0 < plan.volumes.queueLength source := by
  have hreservable := (checkTopology_ok_iff.1 (checkTopology_of_prepare h) group hgroup).1 hempty
  rw [AppConfig.mountSource?_of_mem hgroup] at hsource
  obtain ⟨m, hm, rfl⟩ := Option.map_eq_some_iff.1 hsource
  exact hreservable m (List.mem_of_mem_head? hm)

/-- What a fresh plan gives to groups without machines, whatever their order: every call is
answered, each group finds a volume of its name in the fresh plan, and it gets one unless the
groups before it have taken them all.  So all of them get one exactly when no volume name is
mounted by more of the groups than there are free volumes of the name. -/
theorem prepare_reserveVolumesFor (h : (prepare hook ambient args).from s = (.ok plan, t))
    {groups : List String}
    (hgroups : ∀ group ∈ groups, group ∈ plan.config.groupNames ∧
      plan.inventory.inGroup group = [] ∧ (plan.config.mountSource? group).isSome = true) :
    ∃ answers rest, reserveVolumesFor groups plan = .ok (answers, rest) ∧
      answers.length = groups.length ∧
      (∀ i group source, groups[i]? = some group →
        plan.config.mountSource? group = some source →
        0 < plan.volumes.queueLength source ∧
        ((answers[i]?.join).isSome = true ↔
          plan.mounting source (groups.take i) < plan.volumes.queueLength source)) ∧
      ((∀ answer ∈ answers, answer.isSome = true) ↔
        ∀ source, plan.mounting source groups ≤ plan.volumes.queueLength source) := by
  obtain ⟨answers, rest, hrest, hlength, hanswers⟩ :=
    reserveVolumesFor_ok fun group hgroup => (hgroups group hgroup).2.2
  refine ⟨answers, rest, hrest, hlength, ?_, ?_⟩
  · intro i group source hgroup hsource
    obtain ⟨hdeclared, hempty, -⟩ := hgroups group (List.mem_of_getElem? hgroup)
    exact ⟨queueLength_pos_of_prepare h hdeclared hempty hsource,
      hanswers i group source hgroup hsource⟩
  · constructor
    · intro hall source
      rw [mounting, countP_le_iff_take]
      intro i group hgroup hsource
      obtain ⟨hi, -⟩ := List.getElem?_eq_some_iff.1 hgroup
      rw [← hlength] at hi
      refine (hanswers i group source hgroup (by simpa using hsource)).1 ?_
      rw [List.getElem?_eq_getElem hi]
      exact hall _ (List.getElem_mem hi)
    · intro henough answer hanswer
      obtain ⟨i, hi, rfl⟩ := List.getElem_of_mem hanswer
      have hgroup := List.getElem?_eq_getElem (hlength ▸ hi)
      obtain ⟨source, hsource⟩ := Option.isSome_iff_exists.1
        (hgroups _ (List.mem_of_getElem? hgroup)).2.2
      have hbefore := (countP_le_iff_take groups).1 (henough source) i _ hgroup
        (by simpa using hsource)
      simpa [List.getElem?_eq_getElem hi] using
        (hanswers i _ source hgroup hsource).2 hbefore

end Prepare

/-- Two volumes for the two groups of a new application. -/
theorem newShop_reserveVolumesFor :
    ∃ plan, ((prepare .idle (some .shop) .firstOfShop).from InMemoryPlane.newShop).1 = .ok plan ∧
      ∃ answers rest, reserveVolumesFor ["web", "worker"] plan = .ok (answers, rest) ∧
        ∀ answer ∈ answers, answer.isSome = true := by
  obtain ⟨plan, hplan, hgroups, hsource, hlength⟩ : ∃ plan,
      ((prepare .idle (some .shop) .firstOfShop).from InMemoryPlane.newShop).1 = .ok plan ∧
      (∀ group ∈ ["web", "worker"], group ∈ plan.config.groupNames ∧
        plan.inventory.inGroup group = [] ∧ (plan.config.mountSource? group).isSome = true) ∧
      (∀ group ∈ ["web", "worker"], plan.config.mountSource? group = some "data") ∧
      plan.volumes.queueLength "data" = 2 := by
    rw [Result.exists_ok_and_iff]
    decide +kernel
  obtain ⟨answers, rest, hrest, -, -, hall⟩ :=
    prepare_reserveVolumesFor (Prod.ext hplan rfl) hgroups
  refine ⟨plan, hplan, answers, rest, hrest, hall.2 ?_⟩
  intro source
  rw [mounting, List.countP_cons, List.countP_cons, List.countP_nil,
    hsource "web" (by simp), hsource "worker" (by simp)]
  by_cases heq : source = "data"
  · simp [heq, hlength]
  · simp [Ne.symm heq]

/-- One volume for two groups that both mount it: the gate opens for each of them, and the second
gets nothing. -/
theorem prepare_may_run_short :
    ∃ plan, ((prepare .idle (some .shop) .firstOfShop).from
        ((InMemoryPlane.empty InMemoryPlane.tallyId).addVolume "shop"
          (.fresh "vol_1" "data"))).1 = .ok plan ∧
      ["web", "worker"].Nodup ∧
      (∀ group ∈ ["web", "worker"], group ∈ plan.config.groupNames ∧
        plan.inventory.inGroup group = [] ∧ (plan.config.mountSource? group).isSome = true) ∧
      (reserveVolumesFor ["web", "worker"] plan).map (·.1) =
        .ok [some (.fresh "vol_1" "data"), none] := by
  rw [Result.exists_ok_and_iff]
  decide +kernel

end DeploymentPlan

end Preflight
