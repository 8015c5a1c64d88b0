import Preflight.Proofs.AllOrNothing
import Preflight.Proofs.AppConfig
import Preflight.Proofs.Inventory

/-!
# What a preparation sees of a plane

The stages before the provisioning hook only read, and no call looks at the log, so what they
answer and which calls they make is a function of the records of the plane and of the failures
that are set.  `InMemoryPlane.Makes` says this of one action, and `InMemoryPlane.Answers` the part
of it that concerns the answer; their rules follow the ways in which actions are built.

* `surveyed`, `reconciled`, `resolved` and `provisioned` are the answers of the four stages that
  may make calls; `outlook` is the answer of all stages before the hook and `outlookCalls` are
  their calls (`makes_take`).
* `resolved_ok_iff` says which source decides the image.
* `drafted` is the answer of all stages but the last (`answers_make`), and `drafted_ok_iff` lists
  what it takes.
* `prepared` is the answer of a preparation (`answer_prepare`).  It succeeds when the draft is there
  and no failure is set for the last call, which cannot fail for any other reason
  (`prepare_ok_iff_drafted`).
-/

namespace Preflight

open Preflight.Action

namespace InMemoryPlane

variable {ε ε' α β : Type} {p : InMemoryPlane}

/-! ## Calls and answers -/

/-- From every plane with these records the action makes these calls, gives this answer and does
nothing else. -/
def Makes (p : InMemoryPlane) (x : Action InMemoryPlane ε α) (made : List Call)
    (r : Except ε α) : Prop :=
  ∀ q, p.SameButLog q → x.from q = (r, { q with calls := q.calls ++ made })

/-- The calls that follow an answer; a failure is followed by none. -/
def callsAfter (r : Except ε α) (next : α → List Call) : List Call :=
  match r with
  | .ok a => next a
  | .error _ => []

theorem mem_callsAfter {r : Except ε α} {next : α → List Call} {call : Call} :
    call ∈ callsAfter r next ↔ ∃ a, r = .ok a ∧ call ∈ next a := by
  cases r <;> simp [callsAfter]

theorem makes_pure (a : α) : p.Makes (pure a : Action InMemoryPlane ε α) [] (.ok a) := by
  intro q _
  simp

theorem makes_throw (e : ε) : p.Makes (throw e : Action InMemoryPlane ε α) [] (.error e) := by
  intro q _
  rw [List.append_nil]
  rfl

theorem makes_liftExcept (r : Except ε α) :
    p.Makes (liftExcept r : Action InMemoryPlane ε α) [] r := by
  intro q _
  simp

theorem makes_adapt {x : Action InMemoryPlane ε α} {made : List Call} {r : Except ε α}
    (h : p.Makes x made r) (f : ε → ε') : p.Makes (ExceptT.adapt f x) made (r.mapError f) := by
  intro q hq
  rw [from_adapt, h q hq]

theorem makes_lift_run {x : Action InMemoryPlane ε α} {made : List Call} {r : Except ε α}
    (h : p.Makes x made r) :
    p.Makes (ExceptT.lift x.run : Action InMemoryPlane ε' (Except ε α)) made (.ok r) := by
  intro q hq
  have hrun : x.run q = (r, { q with calls := q.calls ++ made }) := h q hq
  rw [from_lift, hrun]

theorem makes_bind {x : Action InMemoryPlane ε α} {f : α → Action InMemoryPlane ε β}
    {made : List Call} {next : α → List Call} {r : Except ε α} {g : α → Except ε β}
    (hx : p.Makes x made r) (hf : ∀ a, p.Makes (f a) (next a) (g a)) :
    p.Makes (x >>= f) (made ++ callsAfter r next) (r >>= g) := by
  rintro _ ⟨calls, rfl⟩
  rw [from_bind, hx _ ⟨calls, rfl⟩]
  cases r with
  | error e => simp [callsAfter, bind, Except.bind]
  | ok a =>
    show (f a).from _ = (g a, _)
    rw [hf a _ ⟨_, rfl⟩]
    simp [callsAfter]

/-- What follows makes no calls. -/
theorem makes_bind_silent {x : Action InMemoryPlane ε α} {f : α → Action InMemoryPlane ε β}
    {made : List Call} {r : Except ε α} {g : α → Except ε β} (hx : p.Makes x made r)
    (hf : ∀ a, p.Makes (f a) [] (g a)) : p.Makes (x >>= f) made (r >>= g) := by
  have hnone : callsAfter r (fun _ => []) = [] := by cases r <;> rfl
  have hbind := makes_bind hx hf
  rwa [hnone, List.append_nil] at hbind

/-- A call that gives the guarded answer and logs itself. -/
theorem makes_of_from {x : Action InMemoryPlane ε α} {answer : InMemoryPlane → Except ε α}
    {call : Call} (hfrom : ∀ q, x.from q = (answer q, q.log call))
    (hlog : ∀ calls, answer { p with calls } = answer p) : p.Makes x [call] (answer p) := by
  rintro _ ⟨calls, rfl⟩
  rw [hfrom, hlog]
  rfl

/-- From every plane with these records the action gives this answer and changes nothing but the
log. -/
def Answers (p : InMemoryPlane) (x : Action InMemoryPlane ε α) (r : Except ε α) : Prop :=
  ∀ q, p.SameButLog q → (x.from q).1 = r ∧ p.SameButLog (x.from q).2

theorem Makes.answers {x : Action InMemoryPlane ε α} {made : List Call} {r : Except ε α}
    (h : p.Makes x made r) : p.Answers x r := by
  rintro _ ⟨calls, rfl⟩
  rw [h _ ⟨calls, rfl⟩]
  exact ⟨rfl, _, rfl⟩

theorem answers_bind {x : Action InMemoryPlane ε α} {f : α → Action InMemoryPlane ε β}
    {r : Except ε α} {g : α → Except ε β} (hx : p.Answers x r)
    (hf : ∀ a, p.Answers (f a) (g a)) : p.Answers (x >>= f) (r >>= g) := by
  intro q hq
  obtain ⟨hanswer, hstate⟩ := hx q hq
  rw [from_bind]
  rcases hfrom : x.from q with ⟨r', t⟩
  rw [hfrom] at hanswer hstate
  obtain rfl : r' = r := hanswer
  cases r' with
  | error e => exact ⟨rfl, hstate⟩
  | ok a => exact hf a t hstate

/-! ## The stages -/

/-- What the survey of machines answers. -/
def surveyed (p : InMemoryPlane) (session : ControlPlaneSession) (config : AppConfig) :
    Except PreflightError MachineInventory := do
  let listing ← (p.unlessFailing .listMachines
    (.ok (listingOf (p.machinesOf session.app.name)))).mapError .backend
  if listing.machines.isEmpty then
    let active ← (p.unlessFailing .listActiveMachines
      (.ok (activeOf (p.machinesOf session.app.name)))).mapError .backend
    if !active.isEmpty then throw (.unmanagedMachines active.length)
  return .ofListing listing config.defaultGroup

/-- The calls of the survey: a second one when the first lists no ordinary machine. -/
def surveyCalls (p : InMemoryPlane) (app : String) : List Call :=
  .listMachines app ::
    if p.failures .listMachines = none ∧ (listingOf (p.machinesOf app)).machines = [] then
      [.listActiveMachines app]
    else []

/-- What the reconciliation of volumes answers. -/
def reconciled (p : InMemoryPlane) (session : ControlPlaneSession) (config : AppConfig) :
    Except PreflightError VolumeReservations := do
  if config.hasMounts then
    return .ofVolumes (← (p.unlessFailing .listVolumes
      (.ok (p.volumesOf session.app.name))).mapError .backend)
  else
    return .empty

/-- The calls of the reconciliation. -/
def reconcileCalls (app : String) (config : AppConfig) : List Call :=
  if config.hasMounts then [.listVolumes app] else []

/-- Which image is resolved. -/
def resolved (p : InMemoryPlane) (explicit : Option String) (session : ControlPlaneSession)
    (inventory : MachineInventory) : Except PreflightError ResolvedImage :=
  match nonEmpty explicit with
  | some image => .ok ⟨image, .explicit⟩
  | none => ResolvedImage.ofAnswer inventory (p.unlessFailing .latestReleaseImage
      (.ok (p.ledger.latestImage? session.app.name)))

/-- The calls that resolve the image. -/
def resolveCalls (explicit : Option String) (app : String) : List Call :=
  if (nonEmpty explicit).isSome then [] else [.latestReleaseImage app]

/-- What is left of the free volumes after the hook, which runs on a first deploy only. -/
def provisioned (p : InMemoryPlane) (hook : ProvisionHook InMemoryPlane) (brief : Brief)
    (inventory : MachineInventory) (image : ResolvedImage) (listed : VolumeReservations) :
    Except PreflightError VolumeReservations :=
  if inventory.isFirstDeploy brief.session.app then
    (hook.provision ⟨brief.session, brief.config, image.reference, listed⟩ p).1.mapError
      (.provision hook.name)
  else .ok listed

/-- What is known before the hook. -/
def outlook (p : InMemoryPlane) (ambient : Option AppConfig) (args : DeploymentArgs) :
    Except PreflightError DeploymentPlan.Outlook := do
  let brief ← Brief.ofRequest ambient args
  let inventory ← p.surveyed brief.session brief.config
  let listed ← p.reconciled brief.session brief.config
  let image ← p.resolved args.explicitImage brief.session inventory
  return ⟨brief, inventory, listed, image⟩

/-- The calls before the hook. -/
def outlookCalls (p : InMemoryPlane) (ambient : Option AppConfig) (args : DeploymentArgs) :
    List Call :=
  callsAfter (Brief.ofRequest ambient args) fun brief =>
    p.surveyCalls brief.session.app.name ++
      callsAfter (p.surveyed brief.session brief.config) fun _ =>
        reconcileCalls brief.session.app.name brief.config ++
          callsAfter (p.reconciled brief.session brief.config) fun _ =>
            resolveCalls args.explicitImage brief.session.app.name

/-- The plane as the hook finds it. -/
def atHook (p : InMemoryPlane) (ambient : Option AppConfig) (args : DeploymentArgs) :
    InMemoryPlane :=
  { p with calls := p.calls ++ p.outlookCalls ambient args }

/-- The draft of a plan. -/
def drafted (p : InMemoryPlane) (hook : ProvisionHook InMemoryPlane) (ambient : Option AppConfig)
    (args : DeploymentArgs) : Except PreflightError DeploymentPlan.Draft := do
  let brief ← Brief.ofRequest ambient args
  let inventory ← p.surveyed brief.session brief.config
  let listed ← p.reconciled brief.session brief.config
  let image ← p.resolved args.explicitImage brief.session inventory
  let volumes ← p.provisioned hook brief inventory image listed
  checkTopology brief.config inventory volumes
  return ⟨brief, inventory, image, volumes⟩

theorem makes_survey (session : ControlPlaneSession) (config : AppConfig) :
    p.Makes (MachineInventory.survey session config) (p.surveyCalls session.app.name)
      (p.surveyed session config) := by
  have hcalls : p.surveyCalls session.app.name = [.listMachines session.app.name] ++
      callsAfter ((p.unlessFailing .listMachines
        (.ok (listingOf (p.machinesOf session.app.name)))).mapError PreflightError.backend)
        fun listing => if listing.machines.isEmpty then [.listActiveMachines session.app.name]
          else [] := by
    unfold surveyCalls unlessFailing
    cases p.failures .listMachines <;> simp [callsAfter]
  rw [hcalls]
  refine makes_bind (makes_adapt (makes_of_from (from_listMachines _) fun _ => rfl) _) ?_
  intro listing
  split
  · refine makes_bind_silent
      (makes_adapt (makes_of_from (from_listActiveMachines _) fun _ => rfl) _) ?_
    intro active
    split
    · exact makes_throw _
    · exact makes_pure _
  · exact makes_pure _

theorem makes_reconcile (session : ControlPlaneSession) (config : AppConfig) :
    p.Makes (VolumeReservations.reconcile session config)
      (reconcileCalls session.app.name config) (p.reconciled session config) := by
  unfold VolumeReservations.reconcile reconcileCalls reconciled
  split
  · refine makes_bind_silent
      (makes_adapt (makes_of_from (from_listVolumes _) fun _ => rfl) _) ?_
    intro volumes
    exact makes_pure _
  · exact makes_pure _

theorem makes_resolve (explicit : Option String) (session : ControlPlaneSession)
    (inventory : MachineInventory) :
    p.Makes (ResolvedImage.resolve explicit session inventory)
      (resolveCalls explicit session.app.name) (p.resolved explicit session inventory) := by
  unfold ResolvedImage.resolve resolveCalls resolved
  cases nonEmpty explicit with
  | some image => exact makes_pure _
  | none =>
    have hcall : p.Makes session.latestReleaseImage [.latestReleaseImage session.app.name]
        (p.unlessFailing .latestReleaseImage (.ok (p.ledger.latestImage? session.app.name))) :=
      makes_of_from (from_latestReleaseImage _) fun _ => rfl
    exact makes_bind_silent (makes_lift_run hcall) fun answer => makes_liftExcept _

/-- The stages before the hook, one after the other. -/
theorem makes_take (ambient : Option AppConfig) (args : DeploymentArgs) :
    p.Makes (DeploymentPlan.Outlook.take ambient args) (p.outlookCalls ambient args)
      (p.outlook ambient args) := by
  refine makes_bind (makes_liftExcept _) ?_
  intro brief
  refine makes_bind (makes_survey _ _) ?_
  intro inventory
  refine makes_bind (makes_reconcile _ _) ?_
  intro listed
  exact makes_bind_silent (makes_resolve _ _ _) fun image => makes_pure _

theorem outlook_ok_iff {ambient : Option AppConfig} {args : DeploymentArgs}
    {o : DeploymentPlan.Outlook} :
    p.outlook ambient args = .ok o ↔
      Brief.ofRequest ambient args = .ok o.brief ∧
      p.surveyed o.brief.session o.brief.config = .ok o.inventory ∧
      p.reconciled o.brief.session o.brief.config = .ok o.listed ∧
      p.resolved args.explicitImage o.brief.session o.inventory = .ok o.image := by
  simp only [outlook, Result.bind_ok_iff, Result.pure_ok_iff]
  constructor
  · rintro ⟨brief, hbrief, inventory, hinventory, listed, hlisted, image, himage, rfl⟩
    exact ⟨hbrief, hinventory, hlisted, himage⟩
  · rintro ⟨hbrief, hinventory, hlisted, himage⟩
    exact ⟨_, hbrief, _, hinventory, _, hlisted, _, himage, rfl⟩

theorem answers_provision {hook : ProvisionHook InMemoryPlane} (hhook : hook.OnlyReserves)
    (brief : Brief) (inventory : MachineInventory) (image : ResolvedImage)
    (listed : VolumeReservations) :
    p.Answers (DeploymentPlan.Draft.provision hook brief inventory image listed)
      (p.provisioned hook brief inventory image listed) := by
  unfold DeploymentPlan.Draft.provision provisioned
  split
  · obtain ⟨outcome, houtcome, -⟩ :=
      hhook ⟨brief.session, brief.config, image.reference, listed⟩
    intro q hq
    rw [ProvisionHook.run, from_bind, from_lift, houtcome]
    cases outcome with
    | ok volumes => exact ⟨rfl, hq⟩
    | error reason => exact ⟨rfl, hq⟩
  · exact (makes_pure _).answers

/-- What is drafted from an outlook. -/
def draftedFrom (p : InMemoryPlane) (hook : ProvisionHook InMemoryPlane)
    (o : DeploymentPlan.Outlook) : Except PreflightError DeploymentPlan.Draft := do
  let volumes ← p.provisioned hook o.brief o.inventory o.image o.listed
  checkTopology o.brief.config o.inventory volumes
  return ⟨o.brief, o.inventory, o.image, volumes⟩

theorem drafted_eq (hook : ProvisionHook InMemoryPlane) (ambient : Option AppConfig)
    (args : DeploymentArgs) :
    p.drafted hook ambient args = p.outlook ambient args >>= p.draftedFrom hook := by
  simp only [drafted, outlook, draftedFrom, bind_assoc, pure_bind]

/-- The stages of a draft from the hook on. -/
theorem answers_draft {hook : ProvisionHook InMemoryPlane} (hhook : hook.OnlyReserves)
    (o : DeploymentPlan.Outlook) : p.Answers (o.draft hook) (p.draftedFrom hook o) := by
  refine answers_bind (answers_provision hhook _ _ _ _) ?_
  intro volumes
  exact (makes_bind (makes_liftExcept _) fun _ => makes_pure _).answers

/-- All stages of a draft. -/
theorem answers_make {hook : ProvisionHook InMemoryPlane} (hhook : hook.OnlyReserves)
    (ambient : Option AppConfig) (args : DeploymentArgs) :
    p.Answers (DeploymentPlan.Draft.make hook ambient args) (p.drafted hook ambient args) := by
  rw [DeploymentPlan.Draft.make_eq, drafted_eq]
  exact answers_bind (makes_take _ _).answers fun o => answers_draft hhook o

theorem drafted_ok_iff {hook : ProvisionHook InMemoryPlane} {ambient : Option AppConfig}
    {args : DeploymentArgs} {d : DeploymentPlan.Draft} :
    p.drafted hook ambient args = .ok d ↔
      Brief.ofRequest ambient args = .ok d.brief ∧
      p.surveyed d.brief.session d.brief.config = .ok d.inventory ∧
      p.resolved args.explicitImage d.brief.session d.inventory = .ok d.image ∧
      (∃ listed, p.reconciled d.brief.session d.brief.config = .ok listed ∧
        p.provisioned hook d.brief d.inventory d.image listed = .ok d.volumes) ∧
      checkTopology d.brief.config d.inventory d.volumes = .ok () := by
  simp only [drafted, Result.bind_ok_iff, Result.pure_ok_iff]
  constructor
  · rintro ⟨brief, hbrief, inventory, hinventory, listed, hlisted, image, himage, volumes,
      hvolumes, _, htopology, rfl⟩
    exact ⟨hbrief, hinventory, himage, ⟨listed, hlisted, hvolumes⟩, htopology⟩
  · rintro ⟨hbrief, hinventory, himage, ⟨listed, hlisted, hvolumes⟩, htopology⟩
    exact ⟨_, hbrief, _, hinventory, listed, hlisted, _, himage, _, hvolumes, (), htopology, rfl⟩

/-! ## Preparations -/

/-- Each source of an image is asked when those before it have none, and a call that fails has
none. -/
theorem resolved_ok_iff {explicit : Option String} {session : ControlPlaneSession}
    {inventory : MachineInventory} {image : ResolvedImage} :
    p.resolved explicit session inventory = .ok image ↔
      match image.source with
      | .explicit => nonEmpty explicit = some image.reference
      | .latestRelease => nonEmpty explicit = none ∧ p.failures .latestReleaseImage = none ∧
          nonEmpty (p.ledger.latestImage? session.app.name) = some image.reference
      | .existingMachine => nonEmpty explicit = none ∧
          (p.failures .latestReleaseImage = none →
            nonEmpty (p.ledger.latestImage? session.app.name) = none) ∧
          inventory.firstImage = some image.reference := by
  obtain ⟨reference, source⟩ := image
  unfold resolved ResolvedImage.ofAnswer ResolvedImage.ofInventory unlessFailing
  cases nonEmpty explicit with
  | some text => cases source <;> simp
  | none =>
    cases p.failures .latestReleaseImage with
    | some e => cases inventory.firstImage <;> cases source <;> simp
    | none =>
      cases hlatest : nonEmpty (p.ledger.latestImage? session.app.name) with
      | some text => cases source <;> simp [hlatest]
      | none => cases inventory.firstImage <;> cases source <;> simp [hlatest]

/-- An image that was resolved is not empty. -/
theorem reference_ne_empty_of_resolved {explicit : Option String} {session : ControlPlaneSession}
    {inventory : MachineInventory} {image : ResolvedImage}
    (h : p.resolved explicit session inventory = .ok image) : image.reference ≠ "" := by
  rw [resolved_ok_iff] at h
  split at h
  · exact (nonEmpty_eq_some_iff.1 h).2
  · exact (nonEmpty_eq_some_iff.1 h.2.2).2
  · exact MachineInventory.ne_empty_of_firstImage h.2.2

/-- The release that the ledger makes of a draft. -/
def releaseFor (p : InMemoryPlane) (d : DeploymentPlan.Draft) : Release :=
  p.ledger.newRelease d.brief.session.app.name d.brief.strategy d.image.reference .created

/-- The ledger accepts the release of a draft, whose strategy it reads back. -/
theorem releaseOf_request {d : DeploymentPlan.Draft} (himage : d.image.reference ≠ "")
    (p : InMemoryPlane) : p.releaseOf d.request = .ok (p.releaseFor d) :=
  releaseOf_ok_iff.2 ⟨_, RolloutStrategy.ofLedgerName?_ledgerName _, himage, rfl⟩

/-- What a preparation answers. -/
def prepared (p : InMemoryPlane) (hook : ProvisionHook InMemoryPlane)
    (ambient : Option AppConfig) (args : DeploymentArgs) :
    Except PreflightError DeploymentPlan := do
  let d ← p.drafted hook ambient args
  let release ← (p.unlessFailing .createRelease (.ok (p.releaseFor d))).mapError .backend
  return d.plan args release

theorem answer_prepare {hook : ProvisionHook InMemoryPlane} (hhook : hook.OnlyReserves)
    (ambient : Option AppConfig) (args : DeploymentArgs) (p : InMemoryPlane) :
    ((DeploymentPlan.prepare hook ambient args).from p).1 = p.prepared hook ambient args := by
  obtain ⟨hmade, hstate⟩ := answers_make hhook ambient args p (.refl p)
  rw [DeploymentPlan.prepare_eq, from_bind, prepared, ← hmade]
  rcases hfrom : (DeploymentPlan.Draft.make hook ambient args).from p with ⟨e | d, q⟩
  · rfl
  · rw [hfrom] at hmade hstate
    obtain ⟨calls, rfl⟩ := hstate
    obtain ⟨-, -, himage, -⟩ := drafted_ok_iff.1 hmade.symm
    show ((d.record args).from { p with calls }).1 = _
    rw [DeploymentPlan.Draft.record, viaBackend, from_bind, from_adapt, from_createRelease,
      releaseOf_request (reference_ne_empty_of_resolved himage)]
    simp only [unlessFailing]
    cases p.failures .createRelease <;> rfl

theorem prepared_ok_iff {hook : ProvisionHook InMemoryPlane} {ambient : Option AppConfig}
    {args : DeploymentArgs} {plan : DeploymentPlan} :
    p.prepared hook ambient args = .ok plan ↔
      ∃ d, p.drafted hook ambient args = .ok d ∧ p.failures .createRelease = none ∧
        plan = d.plan args (p.releaseFor d) := by
  simp only [prepared, Result.bind_ok_iff, Result.mapError_ok_iff, unlessFailing_ok_iff,
    Result.pure_ok_iff]
  constructor
  · rintro ⟨d, hd, _, ⟨hclear, ⟨⟩⟩, rfl⟩
    exact ⟨d, hd, hclear, rfl⟩
  · rintro ⟨d, hd, hclear, rfl⟩
    exact ⟨d, hd, _, ⟨hclear, rfl⟩, rfl⟩

/-- A preparation succeeds when its draft is there and the call for the release is not made to
fail. -/
theorem prepare_ok_iff_drafted {hook : ProvisionHook InMemoryPlane} (hhook : hook.OnlyReserves)
    (ambient : Option AppConfig) (args : DeploymentArgs) (p : InMemoryPlane) :
    (∃ plan, ((DeploymentPlan.prepare hook ambient args).from p).1 = .ok plan) ↔
      (∃ d, p.drafted hook ambient args = .ok d) ∧ p.failures .createRelease = none := by
  simp only [answer_prepare hhook, prepared_ok_iff]
  constructor
  · rintro ⟨_, d, hd, hclear, -⟩
    exact ⟨⟨d, hd⟩, hclear⟩
  · rintro ⟨⟨d, hd⟩, hclear⟩
    exact ⟨_, d, hd, hclear, rfl⟩

end InMemoryPlane

end Preflight
