import Preflight.Proofs.Success

/-!
# The calls of a preparation

Which calls a preparation makes, and in which order, for every plane, request and set of failures,
and for every hook that makes no call of its own.

* `calls_of_prepare` gives the calls in closed form: those of the outlook, and then the one that
  creates the release if the draft is there.
* `DeploymentPlan.CallsInOrder` says the same call by call: the five calls come in a fixed order,
  none of them twice, each for the application of the request, and each exactly when the stages
  before it let it.

Without a brief there is no call at all, and `DeploymentArgs.Acceptable` says when that is.
-/

namespace Preflight

open Preflight.Action

/-- The hook makes no call.  It may do anything else. -/
def ProvisionHook.MakesNoCall (hook : ProvisionHook InMemoryPlane) : Prop :=
  ∀ context s, (hook.provision context s).2.calls = s.calls

theorem ProvisionHook.OnlyReserves.makesNoCall {hook : ProvisionHook InMemoryPlane}
    (h : hook.OnlyReserves) : hook.MakesNoCall := by
  intro context s
  rw [h.provision_snd]

namespace InMemoryPlane

variable {ε α : Type} {p : InMemoryPlane}

/-- The second plane has the log of the first. -/
def SameCalls (p q : InMemoryPlane) : Prop := q.calls = p.calls

instance : IsPreorder InMemoryPlane SameCalls where
  refl _ := rfl
  trans _ _ _ hpq hqr := hqr.trans hpq

/-! ## Operations of the stages -/

theorem mem_operations_callsAfter {r : Except ε α} {next : α → List Call} {op : Operation} :
    op ∈ (callsAfter r next).map Call.operation ↔
      ∃ a, r = .ok a ∧ op ∈ (next a).map Call.operation := by
  cases r <;> simp [callsAfter]

theorem operations_callsAfter_sublist {r : Except ε α} {next : α → List Call}
    {ops : List Operation} (h : ∀ a, ((next a).map Call.operation).Sublist ops) :
    ((callsAfter r next).map Call.operation).Sublist ops := by
  cases r with
  | error e => exact List.nil_sublist ops
  | ok a => exact h a

theorem mem_operations_surveyCalls {app : String} {op : Operation} :
    op ∈ (p.surveyCalls app).map Call.operation ↔
      op = .listMachines ∨ op = .listActiveMachines ∧ p.failures .listMachines = none ∧
        (listingOf (p.machinesOf app)).machines = [] := by
  unfold surveyCalls
  split
  · rename_i hempty
    simp [Call.operation, hempty]
  · rename_i hsome
    simp [Call.operation, hsome]

theorem subject_of_mem_surveyCalls {app : String} {call : Call}
    (h : call ∈ p.surveyCalls app) : call.subject = app := by
  unfold surveyCalls at h
  split at h <;> simp at h
  · rcases h with rfl | rfl <;> rfl
  · rw [h]
    rfl

theorem mem_operations_reconcileCalls {app : String} {config : AppConfig} {op : Operation} :
    op ∈ (reconcileCalls app config).map Call.operation ↔
      op = .listVolumes ∧ config.hasMounts = true := by
  unfold reconcileCalls
  split
  · rename_i hmounts
    simp [Call.operation, hmounts]
  · rename_i hnone
    simp [hnone]

theorem subject_of_mem_reconcileCalls {app : String} {config : AppConfig} {call : Call}
    (h : call ∈ reconcileCalls app config) : call.subject = app := by
  unfold reconcileCalls at h
  split at h <;> simp at h
  rw [h]
  rfl

theorem mem_operations_resolveCalls {explicit : Option String} {app : String} {op : Operation} :
    op ∈ (resolveCalls explicit app).map Call.operation ↔
      op = .latestReleaseImage ∧ nonEmpty explicit = none := by
  unfold resolveCalls
  cases nonEmpty explicit <;> simp [Call.operation]

theorem subject_of_mem_resolveCalls {explicit : Option String} {app : String} {call : Call}
    (h : call ∈ resolveCalls explicit app) : call.subject = app := by
  unfold resolveCalls at h
  split at h <;> simp at h
  rw [h]
  rfl

/-! ## The outlook -/

theorem outlookCalls_of_brief {ambient : Option AppConfig} {args : DeploymentArgs} {brief : Brief}
    (h : Brief.ofRequest ambient args = .ok brief) :
    p.outlookCalls ambient args = p.surveyCalls brief.session.app.name ++
      callsAfter (p.surveyed brief.session brief.config) fun _ =>
        reconcileCalls brief.session.app.name brief.config ++
          callsAfter (p.reconciled brief.session brief.config) fun _ =>
            resolveCalls args.explicitImage brief.session.app.name := by
  rw [outlookCalls, h]
  rfl

/-- The calls of an outlook only read. -/
theorem filter_isReading_outlookCalls (ambient : Option AppConfig) (args : DeploymentArgs) :
    (p.outlookCalls ambient args).filter (·.isReading) = p.outlookCalls ambient args := by
  have hkeeps := DeploymentPlan.Outlook.take_keeps readsKeep_onlyRead ambient args p
  rw [makes_take ambient args p (.refl p)] at hkeeps
  obtain ⟨reads, hreads, heq⟩ := hkeeps
  have hcalls : p.outlookCalls ambient args = reads :=
    List.append_cancel_left (congrArg InMemoryPlane.calls heq)
  rw [hcalls, List.filter_eq_self]
  exact hreads

end InMemoryPlane

namespace DeploymentPlan

open InMemoryPlane

variable {hook : ProvisionHook InMemoryPlane} {ambient : Option AppConfig} {args : DeploymentArgs}
  {p : InMemoryPlane}

/-! ## From the hook on -/

theorem calls_of_record (d : Draft) (args : DeploymentArgs) (s : InMemoryPlane) :
    ((d.record args).from s).2.calls = s.calls ++ [.createRelease d.request] := by
  rw [Draft.record, viaBackend, from_bind, from_adapt, from_createRelease]
  cases s.unlessFailing .createRelease (s.releaseOf d.request) <;> rfl

theorem calls_of_draft (hhook : hook.MakesNoCall) (o : Outlook) (args : DeploymentArgs)
    (s : InMemoryPlane) :
    ((o.draft hook >>= fun d => d.record args).from s).2.calls =
      s.calls ++ callsAfter ((o.draft hook).from s).1 fun d => [.createRelease d.request] := by
  have hcalls : ((o.draft hook).from s).2.calls = s.calls :=
    Outlook.draft_keeps (R := SameCalls) hhook o s
  rw [from_bind]
  rcases hdraft : (o.draft hook).from s with ⟨e | d, t⟩
  · rw [hdraft] at hcalls
    simpa [callsAfter] using hcalls
  · rw [hdraft] at hcalls
    show ((d.record args).from t).2.calls = s.calls ++ [.createRelease d.request]
    rw [calls_of_record, hcalls]

/-- The calls of a preparation: those of its outlook and, if the draft is there, the one that
creates the release. -/
def callsOf (hook : ProvisionHook InMemoryPlane) (ambient : Option AppConfig)
    (args : DeploymentArgs) (p : InMemoryPlane) : List Call :=
  p.outlookCalls ambient args ++ callsAfter (p.outlook ambient args) fun o =>
    callsAfter ((o.draft hook).from (p.atHook ambient args)).1 fun d =>
      [.createRelease d.request]

theorem calls_of_prepare (hhook : hook.MakesNoCall) (ambient : Option AppConfig)
    (args : DeploymentArgs) (p : InMemoryPlane) :
    ((prepare hook ambient args).from p).2.calls = p.calls ++ callsOf hook ambient args p := by
  rw [callsOf, prepare_eq, Draft.make_eq, bind_assoc, from_bind,
    makes_take ambient args p (.refl p)]
  cases p.outlook ambient args with
  | error e => simp [callsAfter]
  | ok o =>
    show ((o.draft hook >>= fun d => d.record args).from _).2.calls = _
    rw [calls_of_draft hhook, List.append_assoc]
    rfl

/-- With a hook that only reserves, the draft is known from the records of the plane. -/
theorem callsOf_eq (hhook : hook.OnlyReserves) (ambient : Option AppConfig)
    (args : DeploymentArgs) (p : InMemoryPlane) :
    callsOf hook ambient args p = p.outlookCalls ambient args ++
      callsAfter (p.drafted hook ambient args) fun d => [.createRelease d.request] := by
  rw [callsOf, drafted_eq]
  cases p.outlook ambient args with
  | error e => rfl
  | ok o =>
    have hdraft : ((o.draft hook).from (p.atHook ambient args)).1 = p.draftedFrom hook o :=
      (answers_draft hhook o _ ⟨_, rfl⟩).1
    simp only [callsAfter, hdraft]
    rfl

/-! ## Call by call -/

/-- The calls that a preparation makes for a brief, each under the condition for it. -/
structure CallsInOrder (hook : ProvisionHook InMemoryPlane) (args : DeploymentArgs) (brief : Brief)
    (p : InMemoryPlane) (made : List Call) : Prop where
  /-- None is made twice, none out of turn, and no release is updated. -/
  inOrder : (made.map Call.operation).Sublist
    [.listMachines, .listActiveMachines, .listVolumes, .latestReleaseImage, .createRelease]
  /-- All are for the application of the request. -/
  subject : ∀ call ∈ made, args.app.map (·.name) = some call.subject
  listMachines : .listMachines ∈ made.map Call.operation
  /-- The machines that are alive, if no ordinary one is listed as managed. -/
  listActiveMachines : .listActiveMachines ∈ made.map Call.operation ↔
    ∃ listing, ((ControlPlaneClient.listMachines brief.session.app.name).from p).1 = .ok listing ∧
      listing.machines = []
  /-- The volumes, if there is an inventory and something to mount. -/
  listVolumes : .listVolumes ∈ made.map Call.operation ↔
    (∃ inventory, ((MachineInventory.survey brief.session brief.config).from p).1 =
      .ok inventory) ∧ brief.config.mounts ≠ []
  /-- The latest image, if the volumes are known and the caller names no image. -/
  latestReleaseImage : .latestReleaseImage ∈ made.map Call.operation ↔
    (∃ inventory, ((MachineInventory.survey brief.session brief.config).from p).1 =
      .ok inventory) ∧
    (∃ listed, ((VolumeReservations.reconcile brief.session brief.config).from p).1 =
      .ok listed) ∧
    ¬∃ image, args.image = some image ∧ image ≠ ""
  /-- The release, if there is an image, the hook has not failed and the topology is accepted.  The
  hook runs on a first deploy, on the plane as the calls before it have left it. -/
  createRelease : .createRelease ∈ made.map Call.operation ↔
    ∃ inventory listed image left,
      ((MachineInventory.survey brief.session brief.config).from p).1 = .ok inventory ∧
      ((VolumeReservations.reconcile brief.session brief.config).from p).1 = .ok listed ∧
      ((ResolvedImage.resolve args.explicitImage brief.session inventory).from p).1 = .ok image ∧
      (if inventory.isFirstDeploy brief.session.app = true then
        (hook.provision ⟨brief.session, brief.config, image.reference, listed⟩
          { p with calls := p.calls ++ made.filter (·.isReading) }).1 = .ok left
      else left = listed) ∧
      checkTopology brief.config inventory left = .ok ()

/-- What the hook sees of the log are the calls that read. -/
theorem filter_isReading_callsOf :
    (callsOf hook ambient args p).filter (·.isReading) = p.outlookCalls ambient args := by
  have hcreate : ∀ call ∈ callsAfter (p.outlook ambient args) fun o =>
      callsAfter ((o.draft hook).from (p.atHook ambient args)).1 fun d =>
        [.createRelease d.request], ¬call.isReading = true := by
    intro call hcall
    simp only [mem_callsAfter, List.mem_singleton] at hcall
    obtain ⟨_, -, _, -, rfl⟩ := hcall
    simp [Call.isReading]
  rw [callsOf, List.filter_append, filter_isReading_outlookCalls, List.filter_eq_nil_iff.2 hcreate,
    List.append_nil]

section Brief

variable {brief : Brief} (hbrief : Brief.ofRequest ambient args = .ok brief)
include hbrief

/-- Each operation is among the calls under its own condition. -/
theorem mem_operations_callsOf {op : Operation} :
    op ∈ (callsOf hook ambient args p).map Call.operation ↔
      op = .listMachines ∨
      op = .listActiveMachines ∧ p.failures .listMachines = none ∧
        (listingOf (p.machinesOf brief.session.app.name)).machines = [] ∨
      op = .listVolumes ∧
        (∃ inventory, p.surveyed brief.session brief.config = .ok inventory) ∧
        brief.config.hasMounts = true ∨
      op = .latestReleaseImage ∧
        (∃ inventory, p.surveyed brief.session brief.config = .ok inventory) ∧
        (∃ listed, p.reconciled brief.session brief.config = .ok listed) ∧
        nonEmpty args.explicitImage = none ∨
      op = .createRelease ∧ ∃ o, p.outlook ambient args = .ok o ∧ ∃ d,
        ((o.draft hook).from (p.atHook ambient args)).1 = .ok d := by
  have houtlook := outlookCalls_of_brief (p := p) hbrief
  cases op <;>
    simp only [callsOf, houtlook, List.map_append, List.mem_append, mem_operations_callsAfter,
      mem_operations_surveyCalls, mem_operations_reconcileCalls, mem_operations_resolveCalls,
      List.map_cons, List.map_nil, List.mem_singleton, Call.operation, reduceCtorEq, false_and,
      and_false, exists_false, or_false, false_or, true_and, and_true, exists_and_right]

/-- The calls come in the order of the stages. -/
theorem operations_callsOf_sublist :
    ((callsOf hook ambient args p).map Call.operation).Sublist
      [.listMachines, .listActiveMachines, .listVolumes, .latestReleaseImage, .createRelease] := by
  have hsurvey : ((p.surveyCalls brief.session.app.name).map Call.operation).Sublist
      [.listMachines, .listActiveMachines] := by
    unfold surveyCalls
    split <;> simp [Call.operation]
  have hreconcile : ((reconcileCalls brief.session.app.name brief.config).map
      Call.operation).Sublist [.listVolumes] := by
    unfold reconcileCalls
    split <;> simp [Call.operation]
  have hresolve : ((resolveCalls args.explicitImage brief.session.app.name).map
      Call.operation).Sublist [.latestReleaseImage] := by
    unfold resolveCalls
    split <;> simp [Call.operation]
  have houtlook : ((p.outlookCalls ambient args).map Call.operation).Sublist
      [.listMachines, .listActiveMachines, .listVolumes, .latestReleaseImage] := by
    rw [outlookCalls_of_brief hbrief, List.map_append]
    refine hsurvey.append (operations_callsAfter_sublist fun _ => ?_)
    rw [List.map_append]
    exact hreconcile.append (operations_callsAfter_sublist fun _ => hresolve)
  rw [callsOf, List.map_append]
  exact houtlook.append (operations_callsAfter_sublist fun _ =>
    operations_callsAfter_sublist fun _ => List.Sublist.refl _)

theorem subject_of_mem_callsOf {call : Call} (hcall : call ∈ callsOf hook ambient args p) :
    call.subject = brief.session.app.name := by
  simp only [callsOf, outlookCalls_of_brief hbrief, List.mem_append, mem_callsAfter] at hcall
  rcases hcall with (hcall | ⟨_, -, hcall | ⟨_, -, hcall⟩⟩) | ⟨o, ho, d, hd, hcall⟩
  · exact subject_of_mem_surveyCalls hcall
  · exact subject_of_mem_reconcileCalls hcall
  · exact subject_of_mem_resolveCalls hcall
  · obtain ⟨left, -, -, rfl⟩ := Outlook.draft_ok_iff.1 hd
    have hsame : o.brief = brief :=
      Except.ok.inj ((outlook_ok_iff.1 ho).1.symm.trans hbrief)
    rw [List.mem_singleton.1 hcall, ← hsame]
    rfl

theorem callsInOrder_callsOf : CallsInOrder hook args brief p (callsOf hook ambient args p) where
  inOrder := operations_callsOf_sublist hbrief
  subject call hcall := by
    rw [subject_of_mem_callsOf hbrief hcall, (Brief.ofRequest_ok_iff.1 hbrief).1]
    rfl
  listMachines := (mem_operations_callsOf hbrief).2 (.inl rfl)
  listActiveMachines := by
    rw [mem_operations_callsOf hbrief, from_listMachines]
    simp [unlessFailing_ok_iff, and_assoc]
  listVolumes := by
    rw [mem_operations_callsOf hbrief, makes_survey _ _ p (.refl p)]
    simp [AppConfig.hasMounts]
  latestReleaseImage := by
    rw [mem_operations_callsOf hbrief, makes_survey _ _ p (.refl p),
      makes_reconcile _ _ p (.refl p), ← isSome_nonEmpty_explicitImage_iff]
    simp
  createRelease := by
    rw [mem_operations_callsOf hbrief, filter_isReading_callsOf, makes_survey _ _ p (.refl p),
      makes_reconcile _ _ p (.refl p)]
    simp only [makes_resolve _ _ _ p (.refl p), reduceCtorEq, false_and, false_or, true_and,
      outlook_ok_iff, Outlook.draft_ok_iff, Draft.provision_ok_iff]
    constructor
    · rintro ⟨o, ⟨ho, hinventory, hlisted, himage⟩, d, left, hleft, htopology, -⟩
      obtain rfl : o.brief = brief := Except.ok.inj (ho.symm.trans hbrief)
      exact ⟨o.inventory, o.listed, o.image, left, hinventory, hlisted, himage, hleft, htopology⟩
    · rintro ⟨inventory, listed, image, left, hinventory, hlisted, himage, hleft, htopology⟩
      exact ⟨⟨brief, inventory, listed, image⟩, ⟨hbrief, hinventory, hlisted, himage⟩, _, left,
        hleft, htopology, rfl⟩

end Brief

theorem callsOf_of_error {e : PreflightError} (h : Brief.ofRequest ambient args = .error e) :
    callsOf hook ambient args p = [] := by
  have houtlook : p.outlook ambient args = .error e := by
    rw [outlook, h]
    rfl
  rw [callsOf, outlookCalls, houtlook, h]
  rfl

/-- The survey is the first call, so that a request is refused by itself exactly when there is no
call. -/
theorem listMachines_mem_callsOf_iff :
    .listMachines ∈ (callsOf hook ambient args p).map Call.operation ↔
      ∃ brief, Brief.ofRequest ambient args = .ok brief := by
  cases hbrief : Brief.ofRequest ambient args with
  | error e => simp [callsOf_of_error hbrief]
  | ok brief => simp [mem_operations_callsOf hbrief]

theorem callsOf_eq_nil_iff :
    callsOf hook ambient args p = [] ↔ ¬∃ brief, Brief.ofRequest ambient args = .ok brief := by
  constructor
  · intro hnone hbrief
    rw [← listMachines_mem_callsOf_iff, hnone] at hbrief
    cases hbrief
  · intro hbrief
    cases h : Brief.ofRequest ambient args with
    | error e => exact callsOf_of_error h
    | ok brief => exact absurd ⟨brief, h⟩ hbrief

/-- Whatever the plane holds and whichever failures are set, a preparation makes no call when the
request is not acceptable by itself, and else those that `CallsInOrder` lists, from the survey of
machines on. -/
theorem prepare_calls {hook : ProvisionHook InMemoryPlane} (hhook : hook.MakesNoCall)
    (ambient : Option AppConfig) (args : DeploymentArgs) (p : InMemoryPlane) :
    ∃ made, ((prepare hook ambient args).from p).2.calls = p.calls ++ made ∧
      (made = [] ↔ ¬∃ app c, args.app = some app ∧ ambient = some c ∧
        args.Acceptable app (args.overrides.merged c)) ∧
      (.listMachines ∈ made.map Call.operation ↔ ∃ app c, args.app = some app ∧
        ambient = some c ∧ args.Acceptable app (args.overrides.merged c)) ∧
      ∀ brief, Brief.ofRequest ambient args = .ok brief → CallsInOrder hook args brief p made := by
  refine ⟨callsOf hook ambient args p, calls_of_prepare hhook ambient args p, ?_, ?_, ?_⟩
  · rw [callsOf_eq_nil_iff, exists_brief_iff_acceptable]
  · rw [listMachines_mem_callsOf_iff, exists_brief_iff_acceptable]
  · intro brief hbrief
    exact callsInOrder_callsOf hbrief

/-- A new application whose latest image is asked for and not found: the four reading calls are
made, and no release is created. -/
theorem newShop_calls_without_image :
    let args : DeploymentArgs := { DeploymentArgs.firstOfShop with image := none }
    let broken := newShop.failOperation .latestReleaseImage (.unavailable "ledger down")
    (ProvisionHook.idle : ProvisionHook InMemoryPlane).MakesNoCall ∧
    ∃ brief made, Brief.ofRequest (some .shop) args = .ok brief ∧
      ((prepare .idle (some .shop) args).from broken).2.calls = broken.calls ++ made ∧
      CallsInOrder .idle args brief broken made ∧
      made.map Call.operation =
        [.listMachines, .listActiveMachines, .listVolumes, .latestReleaseImage] := by
  intro args broken
  have hhook : (ProvisionHook.idle : ProvisionHook InMemoryPlane).MakesNoCall :=
    ProvisionHook.reservesInOrder_idle.onlyReserves.makesNoCall
  obtain ⟨brief, hbrief⟩ : ∃ brief, Brief.ofRequest (some .shop) args = .ok brief := by
    rw [Result.exists_ok_iff]
    decide +kernel
  obtain ⟨made, hmade, -, -, horder⟩ := prepare_calls hhook (some .shop) args broken
  refine ⟨hhook, brief, made, hbrief, hmade, horder brief hbrief, ?_⟩
  have hnone : broken.calls = [] := rfl
  rw [hnone, List.nil_append] at hmade
  rw [← hmade]
  decide +kernel

end DeploymentPlan

end Preflight
