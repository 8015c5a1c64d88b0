import Preflight.PlanSummary
import Preflight.Proofs.CallOrder

/-!
# Which failures of the control plane come through

A preparation asks the control plane for nothing that it would refuse, so that a failure of the
control plane that it answers is always one that was set.

* `PassesOn` says this of one action, with the converse: a set failure that meets one of the calls
  comes through, unless it is the call for the latest image.  Its rules follow the ways in which
  actions are built.
* `releaseOf_request` is why the last call is not refused: its strategy is written by the function
  that the ledger reads back, and its image is not empty, whichever source it comes from.

The checks further down the line have such a promise too: `checkTopology_failsOnly` for the
topology, `AppConfig.flatten_of_mem` for the views of groups.
-/

namespace Preflight

open Preflight.Action

theorem PreflightError.IsMountFault.isOwn {e : PreflightError} (h : e.IsMountFault) :
    e.IsOwn := by
  cases e <;> trivial

namespace InMemoryPlane

/-! ## Failures that come through -/

/-- The operations whose failures end a preparation. -/
def passedOn : List Operation := [.listMachines, .listActiveMachines, .listVolumes, .createRelease]

/-- The action fails by the control plane exactly when one of its calls was set to fail, and then
with what was set. -/
def PassesOn {α : Type} (x : Action InMemoryPlane PreflightError α) : Prop :=
  ∀ p, ∃ made, (x.from p).2.calls = p.calls ++ made ∧ (x.from p).2.failures = p.failures ∧
    ∀ cause, (x.from p).1 = .error (.backend cause) ↔
      ∃ call ∈ made, call.operation ∈ passedOn ∧ p.failures call.operation = some cause

section Rules

variable {α β : Type}

theorem passesOn_liftExcept {r : Except PreflightError α}
    (h : Result.FailsOnly PreflightError.IsOwn r) :
    PassesOn (liftExcept r : Action InMemoryPlane PreflightError α) := by
  intro p
  refine ⟨[], by simp, by simp, ?_⟩
  intro cause
  rw [from_liftExcept]
  constructor
  · intro hr
    exact (h _ hr).elim
  · rintro ⟨_, ⟨⟩, -⟩

theorem passesOn_pure (a : α) : PassesOn (pure a : Action InMemoryPlane PreflightError α) :=
  passesOn_liftExcept (Result.failsOnly_ok a)

theorem passesOn_throw {e : PreflightError} (he : e.IsOwn) :
    PassesOn (throw e : Action InMemoryPlane PreflightError α) :=
  passesOn_liftExcept (Result.failsOnly_error he)

/-- The rule for what follows speaks only of values that the first action answers. -/
theorem passesOn_bind {x : Action InMemoryPlane PreflightError α}
    {f : α → Action InMemoryPlane PreflightError β} (hx : PassesOn x)
    (hf : ∀ a s t, x.from s = (.ok a, t) → PassesOn (f a)) : PassesOn (x >>= f) := by
  intro p
  obtain ⟨made, hmade, hfailures, hblame⟩ := hx p
  rw [from_bind]
  rcases hfrom : x.from p with ⟨e | a, t⟩
  · rw [hfrom] at hmade hfailures hblame
    exact ⟨made, hmade, hfailures, by simpa using hblame⟩
  · obtain ⟨more, hmore, hfailures', hblame'⟩ := hf a p t hfrom t
    rw [hfrom] at hmade hfailures hblame
    dsimp only at hmade hfailures hblame ⊢
    refine ⟨made ++ more, ?_, hfailures'.trans hfailures, ?_⟩
    · rw [hmore, hmade, List.append_assoc]
    · intro cause
      rw [hblame', hfailures]
      constructor
      · rintro ⟨call, hcall, hset⟩
        exact ⟨call, List.mem_append_right _ hcall, hset⟩
      · rintro ⟨call, hcall, hset⟩
        rcases List.mem_append.1 hcall with hcall | hcall
        · -- a call of the first action that was set to fail would have failed it
          cases (hblame cause).2 ⟨call, hcall, hset⟩
        · exact ⟨call, hcall, hset⟩

/-- A call that reads. -/
theorem passesOn_viaBackend {x : Action InMemoryPlane ControlPlaneError α}
    {answer : InMemoryPlane → α} (call : Call)
    (hfrom : ∀ p, x.from p = (p.unlessFailing call.operation (.ok (answer p)), p.log call))
    (hcall : call.operation ∈ passedOn) : PassesOn (viaBackend x) := by
  intro p
  refine ⟨[call], ?_, ?_, ?_⟩
  · rw [viaBackend, from_adapt, hfrom]
    rfl
  · rw [viaBackend, from_adapt, hfrom]
    rfl
  · intro cause
    rw [viaBackend, from_adapt, hfrom, unlessFailing]
    cases hset : p.failures call.operation <;> simp [hcall, hset]

/-- The call for the latest image, whose failure is turned into a value. -/
theorem passesOn_latestReleaseImage (session : ControlPlaneSession) :
    PassesOn (ExceptT.lift (session.latestReleaseImage).run :
      Action InMemoryPlane PreflightError (Except ControlPlaneError (Option String))) := by
  intro p
  have hrun : (session.latestReleaseImage.run p).2 = p.log (.latestReleaseImage session.app.name) :=
    congrArg Prod.snd (from_latestReleaseImage session.app.name p)
  refine ⟨[.latestReleaseImage session.app.name], ?_, ?_, ?_⟩
  · rw [from_lift, hrun]
    rfl
  · rw [from_lift, hrun]
    rfl
  · simp [Call.operation, passedOn]

end Rules

/-! ## The stages -/

theorem survey_passesOn (session : ControlPlaneSession) (config : AppConfig) :
    PassesOn (MachineInventory.survey session config) := by
  unfold MachineInventory.survey
  refine passesOn_bind (passesOn_viaBackend (.listMachines _) (from_listMachines _)
    (by simp [passedOn, Call.operation])) ?_
  intro listing _ _ _
  split
  · refine passesOn_bind (passesOn_viaBackend (.listActiveMachines _) (from_listActiveMachines _)
      (by simp [passedOn, Call.operation])) ?_
    intro active _ _ _
    split
    · exact passesOn_throw trivial
    · exact passesOn_pure _
  · exact passesOn_pure _

theorem reconcile_passesOn (session : ControlPlaneSession) (config : AppConfig) :
    PassesOn (VolumeReservations.reconcile session config) := by
  unfold VolumeReservations.reconcile
  split
  · refine passesOn_bind (passesOn_viaBackend (.listVolumes _) (from_listVolumes _)
      (by simp [passedOn, Call.operation])) ?_
    intro volumes _ _ _
    exact passesOn_pure _
  · exact passesOn_pure _

theorem resolve_passesOn (explicit : Option String) (session : ControlPlaneSession)
    (inventory : MachineInventory) :
    PassesOn (ResolvedImage.resolve explicit session inventory) := by
  have hinventory : ∀ cause, Result.FailsOnly PreflightError.IsOwn
      (ResolvedImage.ofInventory inventory cause) := by
    intro cause
    unfold ResolvedImage.ofInventory
    split
    · exact Result.failsOnly_ok _
    · exact Result.failsOnly_error trivial
  unfold ResolvedImage.resolve
  split
  · exact passesOn_pure _
  · refine passesOn_bind (passesOn_latestReleaseImage session) ?_
    intro answer _ _ _
    refine passesOn_liftExcept ?_
    unfold ResolvedImage.ofAnswer
    split
    · exact hinventory _
    · split
      · exact Result.failsOnly_ok _
      · exact hinventory _

theorem provision_passesOn {hook : ProvisionHook InMemoryPlane} (hhook : hook.OnlyReserves)
    (brief : Brief) (inventory : MachineInventory) (image : ResolvedImage)
    (listed : VolumeReservations) :
    PassesOn (DeploymentPlan.Draft.provision hook brief inventory image listed) := by
  unfold DeploymentPlan.Draft.provision
  split
  · unfold ProvisionHook.run
    obtain ⟨outcome, houtcome, -⟩ :=
      hhook ⟨brief.session, brief.config, image.reference, listed⟩
    rw [houtcome]
    refine passesOn_bind (passesOn_pure outcome) ?_
    intro outcome _ _ _
    cases outcome with
    | ok volumes => exact passesOn_pure _
    | error reason => exact passesOn_throw trivial
  · exact passesOn_pure _

theorem take_passesOn (ambient : Option AppConfig) (args : DeploymentArgs) :
    PassesOn (DeploymentPlan.Outlook.take ambient args) := by
  unfold DeploymentPlan.Outlook.take
  refine passesOn_bind (passesOn_liftExcept (Brief.ofRequest_failsOnly ambient args)) ?_
  intro brief _ _ _
  refine passesOn_bind (survey_passesOn _ _) ?_
  intro inventory _ _ _
  refine passesOn_bind (reconcile_passesOn _ _) ?_
  intro listed _ _ _
  refine passesOn_bind (resolve_passesOn _ _ _) ?_
  intro image _ _ _
  exact passesOn_pure _

theorem draft_passesOn {hook : ProvisionHook InMemoryPlane} (hhook : hook.OnlyReserves)
    (o : DeploymentPlan.Outlook) : PassesOn (o.draft hook) := by
  unfold DeploymentPlan.Outlook.draft
  refine passesOn_bind (provision_passesOn hhook _ _ _ _) ?_
  intro volumes _ _ _
  refine passesOn_bind (passesOn_liftExcept ?_) fun _ _ _ _ => passesOn_pure _
  exact (checkTopology_failsOnly _ _ _).mono fun e => PreflightError.IsMountFault.isOwn

/-! ## The release -/

theorem record_passesOn {d : DeploymentPlan.Draft} (himage : d.image.reference ≠ "")
    (args : DeploymentArgs) : PassesOn (d.record args) := by
  unfold DeploymentPlan.Draft.record
  refine passesOn_bind ?_ fun _ _ _ _ => passesOn_pure _
  intro p
  refine ⟨[.createRelease d.request], ?_⟩
  rw [viaBackend, from_adapt, from_createRelease, releaseOf_request himage, unlessFailing]
  cases hset : p.failures .createRelease with
  | none => simp [log, insertRelease, Call.operation, hset]
  | some e => simp [log, Call.operation, hset, passedOn]

/-- A draft that was made has an image. -/
theorem image_ne_empty_of_make {hook : ProvisionHook InMemoryPlane} {ambient : Option AppConfig}
    {args : DeploymentArgs} {d : DeploymentPlan.Draft} {p q : InMemoryPlane}
    (h : (DeploymentPlan.Draft.make hook ambient args).from p = (.ok d, q)) :
    d.image.reference ≠ "" := by
  obtain ⟨-, s₁, s₂, s₃, listed, -, -, himage, -⟩ := DeploymentPlan.Draft.make_ok_iff.1 h
  rw [makes_resolve _ _ _ s₂ (.refl s₂)] at himage
  exact reference_ne_empty_of_resolved (congrArg Prod.fst himage)

theorem prepare_passesOn {hook : ProvisionHook InMemoryPlane} (hhook : hook.OnlyReserves)
    (ambient : Option AppConfig) (args : DeploymentArgs) :
    PassesOn (DeploymentPlan.prepare hook ambient args) := by
  rw [DeploymentPlan.prepare_eq]
  refine passesOn_bind ?_ ?_
  · rw [DeploymentPlan.Draft.make_eq]
    exact passesOn_bind (take_passesOn _ _) fun o _ _ _ => draft_passesOn hhook o
  · intro d s t hdraft
    exact record_passesOn (image_ne_empty_of_make hdraft) args

end InMemoryPlane

namespace DeploymentPlan

open InMemoryPlane

theorem accepted_of_mem_callsOf {hook : ProvisionHook InMemoryPlane} {ambient : Option AppConfig}
    {args : DeploymentArgs} {p : InMemoryPlane} {input : ReleaseInput}
    (h : .createRelease input ∈ callsOf hook ambient args p) (q : InMemoryPlane) :
    ∃ r, q.releaseOf input = .ok r := by
  rw [callsOf, List.mem_append] at h
  rcases h with hread | h
  · have hreading := List.filter_eq_self.1 (filter_isReading_outlookCalls ambient args) _ hread
    cases hreading
  · obtain ⟨o, ho, h⟩ := mem_callsAfter.1 h
    obtain ⟨d, hd, h⟩ := mem_callsAfter.1 h
    obtain ⟨left, -, -, rfl⟩ := Outlook.draft_ok_iff.1 hd
    obtain ⟨-, -, -, himage⟩ := outlook_ok_iff.1 ho
    obtain ⟨⟩ := List.mem_singleton.1 h
    exact ⟨_, releaseOf_request (reference_ne_empty_of_resolved himage) q⟩

/-- What a plan says about a group is read off the view that the configuration has of it. -/
theorem exists_view_of_mem_summary {plan : DeploymentPlan} {group : GroupSummary}
    (h : group ∈ plan.summary.groups) :
    ∃ view, plan.config.flatten group.name = .ok view ∧
      group.mount = view.primaryMount.map (·.source) := by
  obtain ⟨name, hname, rfl⟩ := List.mem_map.1 h
  have hview := AppConfig.flatten_of_mem hname
  refine ⟨_, hview, ?_⟩
  show ((plan.config.flatten name).toOption.bind fun g => g.primaryMount.map (·.source)) = _
  rw [hview]
  rfl

/-- A preparation is never refused by a check behind its own.  A failure of the control plane that
it answers is one that was set for a call that it has made, other than the one for the latest
image, and the ledger accepts the release that it asks for.  No topology is refused for its
configuration, and no group of a summary lacks a view. -/
theorem prepare_backend_failures {hook : ProvisionHook InMemoryPlane} (hhook : hook.OnlyReserves)
    (ambient : Option AppConfig) (args : DeploymentArgs) (p : InMemoryPlane) :
    (∃ made, ((prepare hook ambient args).from p).2.calls = p.calls ++ made ∧
      (∀ cause, ((prepare hook ambient args).from p).1 = .error (.backend cause) ↔
        ∃ call ∈ made, call.operation ∈ passedOn ∧ p.failures call.operation = some cause) ∧
      ∀ input, .createRelease input ∈ made → ∀ q : InMemoryPlane,
        ∃ r, q.releaseOf input = .ok r) ∧
    (∀ config inventory volumes fault,
      checkTopology config inventory volumes ≠ .error (.configuration fault)) ∧
    ∀ plan : DeploymentPlan, plan.summary.groups.map (·.name) = plan.config.groupNames ∧
      ∀ group ∈ plan.summary.groups, ∃ view, plan.config.flatten group.name = .ok view ∧
        group.mount = view.primaryMount.map (·.source) := by
  refine ⟨?_, ?_, ?_⟩
  · obtain ⟨made, hmade, -, hblame⟩ := prepare_passesOn hhook ambient args p
    have hcalls := calls_of_prepare hhook.makesNoCall ambient args p
    obtain rfl : made = callsOf hook ambient args p :=
      List.append_cancel_left (hmade.symm.trans hcalls)
    exact ⟨_, hcalls, hblame, fun input hinput => accepted_of_mem_callsOf hinput⟩
  · intro config inventory volumes fault h
    exact checkTopology_failsOnly config inventory volumes _ h
  · intro plan
    refine ⟨?_, fun group => exists_view_of_mem_summary⟩
    simp [summary, summarizeGroup, Function.comp_def]

/-- Of two failures the one for the latest image is not met, since the caller names an image; the
other one comes through. -/
theorem newShop_backend_failure :
    let hook : ProvisionHook InMemoryPlane := .reserving "claims" ["data"] none
    let broken := (newShop.failOperation .latestReleaseImage
      (.unavailable "no image")).failOperation .createRelease (.unavailable "ledger down")
    hook.OnlyReserves ∧
    ((prepare hook (some .shop) .firstOfShop).from broken).1 =
      .error (.backend (.unavailable "ledger down")) ∧
    ∃ call ∈ ((prepare hook (some .shop) .firstOfShop).from broken).2.calls,
      call.operation ∈ passedOn ∧
      broken.failures call.operation = some (.unavailable "ledger down") := by
  intro hook broken
  have hhook : hook.OnlyReserves := (ProvisionHook.reservesInOrder_reserving _ _).onlyReserves
  have hfails : ((prepare hook (some .shop) .firstOfShop).from broken).1 =
      .error (.backend (.unavailable "ledger down")) := by decide +kernel
  obtain ⟨made, hmade, hblame, -⟩ :=
    (prepare_backend_failures hhook (some .shop) .firstOfShop broken).1
  have hnone : broken.calls = [] := rfl
  rw [hnone, List.nil_append] at hmade
  rw [hmade]
  exact ⟨hhook, hfails, (hblame _).1 hfails⟩

end DeploymentPlan

end Preflight
