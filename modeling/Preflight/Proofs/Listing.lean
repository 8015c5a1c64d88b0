import Preflight.Proofs.PlanRuns
import Preflight.Proofs.Views

/-!
# Skipping the list of volumes

A preparation does not list the volumes of an application whose configuration mounts none.  Nobody
can tell: what is done with the free volumes afterwards, by the gate, by a summary and by the calls
on a plan, goes through the mounts of some group.

* `prepareBy` is `prepare` with the way in which the free volumes are taken left open, and
  `prepareListing` takes them from a list in any case.
* `SameToGroups` relates plans that differ in volumes that no group mounts; it is kept by the calls
  on a plan (`SameToGroups.askFor`), so that no sequence of calls tells the plans apart.
* `SameButListings` relates planes that differ in the calls for the list.
* A valid configuration that mounts something mounts it in some group (`hasMounts_iff`), so that the
  list is not made when it could be of use to none, and only then.
-/

namespace Preflight

open Preflight.Action

variable {σ : Type} [ControlPlaneClient σ]

/-- The free volumes of the session's application, whatever the configuration mounts. -/
def VolumeReservations.listing (session : ControlPlaneSession) :
    Action σ PreflightError VolumeReservations := do
  return ofVolumes (← viaBackend session.listVolumes)

namespace DeploymentPlan

/-! ## Two ways to the free volumes -/

/-- Make a plan, the free volumes being taken in some way. -/
def prepareBy
    (free : ControlPlaneSession → AppConfig → Action σ PreflightError VolumeReservations)
    (hook : ProvisionHook σ) (ambient : Option AppConfig) (args : DeploymentArgs) :
    Action σ PreflightError DeploymentPlan := do
  let brief ← liftExcept (Brief.ofRequest ambient args)
  let inventory ← MachineInventory.survey brief.session brief.config
  let listed ← free brief.session brief.config
  let image ← ResolvedImage.resolve args.explicitImage brief.session inventory
  let volumes ← Draft.provision hook brief inventory image listed
  liftExcept (checkTopology brief.config inventory volumes)
  Draft.record ⟨brief, inventory, image, volumes⟩ args

theorem prepareBy_reconcile (hook : ProvisionHook σ) (ambient : Option AppConfig)
    (args : DeploymentArgs) :
    prepareBy VolumeReservations.reconcile hook ambient args = prepare hook ambient args := by
  simp only [prepare_eq, Draft.make, prepareBy, bind_assoc, pure_bind]

/-- `prepare`, but for the list of volumes, which is always made. -/
def prepareListing (hook : ProvisionHook σ) (ambient : Option AppConfig) (args : DeploymentArgs) :
    Action σ PreflightError DeploymentPlan :=
  prepareBy (fun session _ => VolumeReservations.listing session) hook ambient args

/-! ## Plans that differ in volumes for no group -/

/-- The plans differ in their volumes at most, and there only if no group mounts any. -/
structure SameToGroups (plan other : DeploymentPlan) : Prop where
  others : ∃ volumes, other = { plan with volumes }
  volumes : other.volumes = plan.volumes ∨ plan.config.mounts = []

theorem SameToGroups.refl (plan : DeploymentPlan) : SameToGroups plan plan :=
  ⟨⟨plan.volumes, rfl⟩, .inl rfl⟩

/-- Either the plans are the same, or they have no mounts. -/
theorem SameToGroups.cases {plan other : DeploymentPlan} (h : SameToGroups plan other) :
    other = plan ∨ plan.config.mounts = [] ∧ ∃ volumes, other = { plan with volumes } := by
  obtain ⟨⟨volumes, rfl⟩, hvolumes | hmounts⟩ := h
  · left
    have hsame : volumes = plan.volumes := hvolumes
    rw [hsame]
  · exact .inr ⟨hmounts, volumes, rfl⟩

theorem SameToGroups.summary_eq {plan other : DeploymentPlan} (h : SameToGroups plan other) :
    other.summary = plan.summary := by
  rcases h.cases with rfl | ⟨hmounts, volumes, rfl⟩
  · rfl
  have hgroup : ∀ name,
      { plan with volumes }.summarizeGroup name = id (plan.summarizeGroup name) := by
    intro name
    have hnone := AppConfig.mountSource?_of_mounts_nil hmounts name
    simp [summarizeGroup_eq, hnone]
  rw [plan.summary_of_volumes volumes hgroup, List.map_id]

/-- A call is answered alike, and does not set the plans further apart. -/
theorem SameToGroups.askFor {plan other : DeploymentPlan} (h : SameToGroups plan other)
    (group : String) :
    (other.askFor group).1 = (plan.askFor group).1 ∧
      SameToGroups (plan.askFor group).2 (other.askFor group).2 := by
  rcases h.cases with rfl | ⟨hmounts, volumes, rfl⟩
  · exact ⟨rfl, .refl _⟩
  cases hdeclared : plan.config.hasGroup group with
  | false =>
    have hother : { plan with volumes }.config.hasGroup group = false := hdeclared
    rw [askFor_of_undeclared hdeclared, askFor_of_undeclared hother]
    exact ⟨rfl, h⟩
  | true =>
    have hother : { plan with volumes }.config.hasGroup group = true := hdeclared
    have hnone := AppConfig.mountSource?_of_mounts_nil hmounts group
    rw [askFor_of_mountless hdeclared hnone, askFor_of_mountless hother hnone]
    exact ⟨rfl, h⟩

/-- No sequence of calls tells the plans apart. -/
theorem SameToGroups.askForEach {plan other : DeploymentPlan} (h : SameToGroups plan other)
    (groups : List String) :
    (other.askForEach groups).1 = (plan.askForEach groups).1 ∧
      SameToGroups (plan.askForEach groups).2 (other.askForEach groups).2 := by
  induction groups generalizing plan other with
  | nil => exact ⟨rfl, h⟩
  | cons group groups ih =>
    obtain ⟨hanswer, hafter⟩ := h.askFor group
    obtain ⟨hanswers, hleft⟩ := ih hafter
    refine ⟨?_, hleft⟩
    rw [DeploymentPlan.askForEach, DeploymentPlan.askForEach, hanswer, hanswers]

end DeploymentPlan

/-- Without mounts the gate does not look at the volumes. -/
theorem checkTopology_of_mounts_nil {config : AppConfig} (h : config.mounts = [])
    (inventory : MachineInventory) (volumes volumes' : VolumeReservations) :
    checkTopology config inventory volumes = checkTopology config inventory volumes' := by
  have hgroup : ∀ group, checkGroup config inventory volumes group =
      checkGroup config inventory volumes' group := by
    intro group
    unfold checkGroup AppConfig.flatten
    split
    · simp only [Result.mapError_ok, bind, Except.bind, h, List.filter_nil]
      cases inventory.inGroup group <;> rfl
    · rfl
  rw [checkTopology, checkTopology, funext hgroup]

namespace InMemoryPlane

/-! ## Planes that differ in calls for the list -/

/-- The planes agree in everything but the calls for the list of volumes, which does not fail. -/
structure SameButListings (p q : InMemoryPlane) : Prop where
  lists : p.failures .listVolumes = none
  sameButLog : p.SameButLog q
  calls : q.calls.filter (·.operation != .listVolumes) =
    p.calls.filter (·.operation != .listVolumes)

theorem keptByCalls_sameButListings : KeptByCalls SameButListings where
  sameButLog := SameButListings.sameButLog
  log call h := {
    lists := h.lists
    sameButLog := keptByCalls_sameButLog.log call h.sameButLog
    calls := by simp only [InMemoryPlane.log, List.filter_append, h.calls] }
  insertRelease r h := {
    lists := h.lists
    sameButLog := keptByCalls_sameButLog.insertRelease r h.sameButLog
    calls := h.calls }

/-- One of two planes is asked for the list. -/
theorem SameButListings.log {p q : InMemoryPlane} (h : SameButListings p q) (app : String) :
    SameButListings p (q.log (.listVolumes app)) where
  lists := h.lists
  sameButLog := h.sameButLog.trans ⟨_, rfl⟩
  calls := by
    rw [InMemoryPlane.log, List.filter_append, h.calls]
    simp [Call.operation]

/-- Whether the list is skipped makes a difference only where nothing is mounted. -/
theorem reconcile_matches_listing (session : ControlPlaneSession) (config : AppConfig) :
    Matches SameButListings (fun free free' => free' = free ∨ config.mounts = [])
      (VolumeReservations.reconcile session config) (VolumeReservations.listing session) := by
  unfold VolumeReservations.reconcile
  split
  · have hreads := keptByCalls_sameButListings.readsCouple session.app.name
    refine Couples.matches_bind (couples_adapt hreads.listVolumes) ?_
    intro volumes
    exact matches_pure (.inl rfl)
  · rename_i hskip
    have hmounts : config.mounts = [] := by simpa [AppConfig.hasMounts] using hskip
    intro p q hpq
    have hfails : q.failures .listVolumes = none := by
      obtain ⟨calls, rfl⟩ := hpq.sameButLog
      exact hpq.lists
    have hlisting : (VolumeReservations.listing session).from q =
        (.ok (.ofVolumes (q.volumesOf session.app.name)),
          q.log (.listVolumes session.app.name)) := by
      simp only [VolumeReservations.listing, viaBackend, ControlPlaneSession.listVolumes, from_bind,
        from_adapt, from_listVolumes, unlessFailing_of_none hfails, Result.mapError_ok, from_pure]
    rw [hlisting]
    exact ⟨.ok (.inr hmounts), hpq.log session.app.name⟩

/-! ## Preparations -/

theorem provision_idle (brief : Brief) (inventory : MachineInventory) (image : ResolvedImage)
    (listed : VolumeReservations) :
    (DeploymentPlan.Draft.provision .idle brief inventory image listed :
      Action InMemoryPlane PreflightError VolumeReservations) = pure listed := by
  unfold DeploymentPlan.Draft.provision
  split
  · rfl
  · rfl

/-- From planes that differ in calls for the list, a preparation that may skip the list and one that
always makes it. -/
theorem prepare_matches_listing (ambient : Option AppConfig) (args : DeploymentArgs) :
    Matches SameButListings DeploymentPlan.SameToGroups
      (DeploymentPlan.prepare .idle ambient args)
      (DeploymentPlan.prepareListing .idle ambient args) := by
  have hkept := keptByCalls_sameButListings
  rw [← DeploymentPlan.prepareBy_reconcile]
  unfold DeploymentPlan.prepareListing DeploymentPlan.prepareBy
  refine Couples.matches_bind (couples_liftExcept _) ?_
  intro brief
  refine Couples.matches_bind (MachineInventory.survey_couples (hkept.readsCouple _) _) ?_
  intro inventory
  refine matches_bind (reconcile_matches_listing brief.session brief.config) ?_
  intro free free' hfree
  refine Couples.matches_bind (ResolvedImage.resolve_couples (hkept.readsCouple _) _ _) ?_
  intro image
  have hgate : checkTopology brief.config inventory free' =
      checkTopology brief.config inventory free := by
    rcases hfree with rfl | hmounts
    · rfl
    · exact checkTopology_of_mounts_nil hmounts inventory free' free
  simp only [provision_idle, pure_bind, hgate]
  refine Couples.matches_bind (couples_liftExcept _) ?_
  intro _
  -- what is asked of the ledger says nothing of the volumes
  refine Couples.matches_bind (couples_adapt (hkept.createRelease_couples _)) ?_
  intro release
  exact matches_pure ⟨⟨free', rfl⟩, hfree⟩

end InMemoryPlane

namespace DeploymentPlan

open InMemoryPlane

/-- Plans that neither their summaries nor calls on them tell apart. -/
structure Indistinguishable (plan other : DeploymentPlan) : Prop extends
    SameToGroups plan other where
  summary : other.summary = plan.summary
  answers : ∀ groups, (other.askForEach groups).1 = (plan.askForEach groups).1
  summaries : ∀ groups,
    (other.askForEach groups).2.summary = (plan.askForEach groups).2.summary

theorem SameToGroups.indistinguishable {plan other : DeploymentPlan}
    (h : SameToGroups plan other) : Indistinguishable plan other where
  toSameToGroups := h
  summary := h.summary_eq
  answers groups := (h.askForEach groups).1
  summaries groups := (h.askForEach groups).2.summary_eq

/-- That a preparation skips the list of volumes where nothing is mounted makes no difference that
could be seen.  And it is skipped, of a valid configuration, exactly when no group has a mount to
look for. -/
theorem skipped_listing_unseen {p : InMemoryPlane} (hlists : p.failures .listVolumes = none)
    (ambient : Option AppConfig) (args : DeploymentArgs) :
    (Result.Alike Eq Indistinguishable ((prepare .idle ambient args).from p).1
        ((prepareListing .idle ambient args).from p).1 ∧
      SameButListings ((prepare .idle ambient args).from p).2
        ((prepareListing .idle ambient args).from p).2) ∧
    ∀ config : AppConfig, config.validate = .ok () →
      (config.hasMounts = true ↔ ∃ group ∈ config.groupNames, ∃ view mount,
        config.flatten group = .ok view ∧ view.primaryMount = some mount) ∧
      ∀ (session : ControlPlaneSession) (q : InMemoryPlane),
        ((VolumeReservations.reconcile session config).from q).2.calls = q.calls ↔
          ¬∃ group ∈ config.groupNames, ∃ view mount,
            config.flatten group = .ok view ∧ view.primaryMount = some mount := by
  constructor
  · have hsame : SameButListings p p := ⟨hlists, .refl p, rfl⟩
    obtain ⟨hanswers, hplanes⟩ := prepare_matches_listing ambient args p p hsame
    refine ⟨hanswers.mono (fun _ _ h => h) ?_, hplanes⟩
    intro plan other h
    exact h.indistinguishable
  · intro config hvalid
    refine ⟨AppConfig.hasMounts_iff hvalid, ?_⟩
    intro session q
    have hcalls : ((VolumeReservations.reconcile session config).from q).2.calls =
        q.calls ++ reconcileCalls session.app.name config := by
      rw [makes_reconcile session config q (.refl q)]
    rw [hcalls, ← AppConfig.hasMounts_iff hvalid, reconcileCalls]
    cases config.hasMounts <;> simp

/-- The volumes of an application that mounts none are not listed; with the list made all the same
they are in the plan, and no group gets any.  Had it mounts, some group would have one. -/
theorem newShop_skips_listing :
    let bare : AppConfig := { AppConfig.shop with mounts := [] }
    newShop.failures .listVolumes = none ∧ bare.validate = .ok () ∧ bare.hasMounts = false ∧
    (∃ plan other, ((prepare .idle (some bare) .firstOfShop).from newShop).1 = .ok plan ∧
      ((prepareListing .idle (some bare) .firstOfShop).from newShop).1 = .ok other ∧
      plan.volumes.total = 0 ∧ other.volumes.total = 2 ∧ Indistinguishable plan other) ∧
    AppConfig.shop.validate = .ok () ∧ ∃ group ∈ AppConfig.shop.groupNames, ∃ view mount,
      AppConfig.shop.flatten group = .ok view ∧ view.primaryMount = some mount := by
  intro bare
  have hlists : newShop.failures .listVolumes = none := rfl
  obtain ⟨⟨halike, -⟩, hmounts⟩ := skipped_listing_unseen hlists (some bare) .firstOfShop
  obtain ⟨plan, hplan, hnone⟩ : ∃ plan,
      ((prepare .idle (some bare) .firstOfShop).from newShop).1 = .ok plan ∧
      plan.volumes.total = 0 := by
    rw [Result.exists_ok_and_iff]
    decide +kernel
  obtain ⟨other, hother, htwo⟩ : ∃ other,
      ((prepareListing .idle (some bare) .firstOfShop).from newShop).1 = .ok other ∧
      other.volumes.total = 2 := by
    rw [Result.exists_ok_and_iff]
    decide +kernel
  have hvalid : AppConfig.shop.validate = .ok () := by decide +kernel
  exact ⟨hlists, by decide +kernel, by decide +kernel,
    ⟨plan, other, hplan, hother, hnone, htwo, halike.of_ok hplan hother⟩,
    hvalid, (hmounts .shop hvalid).1.1 rfl⟩

end DeploymentPlan

end Preflight
