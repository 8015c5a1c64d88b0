import Preflight.Proofs.Brief
import Preflight.Proofs.LedgerRuns
import Preflight.Proofs.Reservations

/-!
# Preparing a plan is all or nothing

A preparation that fails leaves the plane as it was but for the log of calls, and since no call
looks at the log, nobody can tell later that it was tried.  A preparation that succeeds adds
exactly one release, the one that the plan describes.  Both hold of every plane, whatever failures
are set, and for every hook that only reserves.

* `InMemoryPlane.OnlyLogged` holds between the planes around a failure, and `OnlyRead` between the
  planes around the making of a draft; both come from `Action.Keeps`.
* `InMemoryPlane.SameButLog` relates planes that differ in their logs; that every preparation
  answers alike from such planes comes from `Action.Couples`.  `KeptByCalls` is what it takes of a
  relation between such planes for the calls to couple.
* `DeploymentPlan.RecordedOn` is what a success leaves.
-/

namespace Preflight

open Preflight.Action

/-! ## Hooks that only reserve -/

namespace ProvisionHook.OnlyReserves

variable {σ : Type} {hook : ProvisionHook σ}

theorem provision_snd (hhook : hook.OnlyReserves) (context : ProvisionContext) (s : σ) :
    (hook.provision context s).2 = s := by
  obtain ⟨outcome, houtcome, -⟩ := hhook context
  rw [houtcome]
  rfl

theorem keeps (hhook : hook.OnlyReserves) (R : σ → σ → Prop) [IsPreorder σ R]
    (context : ProvisionContext) (s : σ) : R s (hook.provision context s).2 := by
  rw [hhook.provision_snd]
  exact refl s

theorem couples (hhook : hook.OnlyReserves) (R : σ → σ → Prop) : HooksCouple R hook hook where
  name := rfl
  provision context := by
    obtain ⟨outcome, houtcome, -⟩ := hhook context
    intro s t hst
    rw [houtcome]
    exact ⟨rfl, hst⟩

end ProvisionHook.OnlyReserves

namespace InMemoryPlane

/-! ## Preparations from planes that differ in their logs -/

/-- Related planes differ in their logs and nothing else, and stay related when the same is done to
both. -/
structure KeptByCalls (R : InMemoryPlane → InMemoryPlane → Prop) : Prop where
  sameButLog : ∀ {p q}, R p q → p.SameButLog q
  log : ∀ {p q} call, R p q → R (p.log call) (q.log call)
  insertRelease : ∀ {p q} r, R p q → R (p.insertRelease r) (q.insertRelease r)

section KeptByCalls

variable {R : InMemoryPlane → InMemoryPlane → Prop} (h : KeptByCalls R)
include h

/-- A call that logs itself and answers without a look at the log. -/
theorem KeptByCalls.couples_of_from {α : Type} {x : Action InMemoryPlane ControlPlaneError α}
    {answer : InMemoryPlane → Except ControlPlaneError α} {call : Call}
    (hfrom : ∀ q, x.from q = (answer q, q.log call))
    (hlog : ∀ (q : InMemoryPlane) calls, answer { q with calls } = answer q) : Couples R x x := by
  intro p q hpq
  obtain ⟨calls, rfl⟩ := h.sameButLog hpq
  rw [hfrom, hfrom]
  exact ⟨(hlog p calls).symm, h.log call hpq⟩

theorem KeptByCalls.readsCouple (app : String) : ReadsCouple R app where
  listMachines := h.couples_of_from (from_listMachines app) fun _ _ => rfl
  listActiveMachines := h.couples_of_from (from_listActiveMachines app) fun _ _ => rfl
  listVolumes := h.couples_of_from (from_listVolumes app) fun _ _ => rfl
  latestReleaseImage := h.couples_of_from (from_latestReleaseImage app) fun _ _ => rfl

theorem KeptByCalls.createRelease_couples (input : ReleaseInput) :
    Couples R (ControlPlaneClient.createRelease input)
      (ControlPlaneClient.createRelease input) := by
  intro p q hpq
  obtain ⟨calls, rfl⟩ := h.sameButLog hpq
  have hlog := h.log (.createRelease input) hpq
  simp only [from_createRelease]
  have hanswer : ({ p with calls } : InMemoryPlane).unlessFailing .createRelease
      (({ p with calls } : InMemoryPlane).releaseOf input) =
      p.unlessFailing .createRelease (p.releaseOf input) := rfl
  rw [hanswer]
  cases p.unlessFailing .createRelease (p.releaseOf input) with
  | error e => exact ⟨rfl, hlog⟩
  | ok r => exact ⟨rfl, h.insertRelease r hlog⟩

end KeptByCalls

theorem keptByCalls_sameButLog : KeptByCalls SameButLog where
  sameButLog := id
  log := by
    rintro p _ call ⟨calls, rfl⟩
    exact ⟨_, rfl⟩
  insertRelease := by
    rintro p _ r ⟨calls, rfl⟩
    exact ⟨_, rfl⟩

/-- What is in the log makes no difference to a preparation. -/
theorem SameButLog.prepare {p q : InMemoryPlane} (h : p.SameButLog q)
    {hook : ProvisionHook InMemoryPlane} (hhook : hook.OnlyReserves) (ambient : Option AppConfig)
    (args : DeploymentArgs) :
    ((DeploymentPlan.prepare hook ambient args).from p).1 =
        ((DeploymentPlan.prepare hook ambient args).from q).1 ∧
      ((DeploymentPlan.prepare hook ambient args).from p).2.SameButLog
        ((DeploymentPlan.prepare hook ambient args).from q).2 :=
  DeploymentPlan.prepare_couples keptByCalls_sameButLog.readsCouple
    keptByCalls_sameButLog.createRelease_couples (hhook.couples SameButLog) ambient args p q h

end InMemoryPlane

/-! ## Failures -/

open InMemoryPlane

namespace DeploymentPlan

variable {hook : ProvisionHook InMemoryPlane} {ambient : Option AppConfig} {args : DeploymentArgs}
  {p q : InMemoryPlane}

theorem Draft.make_onlyRead (hhook : hook.OnlyReserves) {answer : Except PreflightError Draft}
    (h : (Draft.make hook ambient args).from p = (answer, q)) : p.OnlyRead q := by
  have hkeeps := Draft.make_keeps readsKeep_onlyRead (hhook.keeps OnlyRead) ambient args p
  rwa [h] at hkeeps

/-- At whatever stage a preparation fails, it has changed nothing but the log. -/
theorem prepare_error_onlyLogged (hhook : hook.OnlyReserves) {e : PreflightError}
    (h : (prepare hook ambient args).from p = (.error e, q)) : p.OnlyLogged q := by
  rw [prepare_eq, from_bind_error_iff] at h
  rcases h with h | ⟨d, t, hdraft, h⟩
  · exact (Draft.make_onlyRead hhook h).onlyLogged
  · have hmade : p.OnlyLogged t := (Draft.make_onlyRead hhook hdraft).onlyLogged
    refine IsTrans.trans _ _ _ hmade ?_
    -- the draft is there, so the failure is that of the call for the release
    rw [Draft.record, from_bind_error_iff] at h
    rcases h with h | ⟨release, u, -, h⟩
    · rw [viaBackend, from_adapt, from_createRelease] at h
      split at h
      · cases h
      · obtain ⟨-, rfl⟩ := Prod.mk.inj h
        exact onlyLogged_log t _
    · cases h

end DeploymentPlan

/-! ## Successes -/

theorem RolloutStrategy.ofLedgerName?_ledgerName (s : RolloutStrategy) :
    ofLedgerName? s.ledgerName = some s := by
  cases s <;> decide

namespace DeploymentPlan

/-- The plane has changed by one release, the one that the plan describes, after some calls that
read. -/
structure RecordedOn (plan : DeploymentPlan) (before after : InMemoryPlane) : Prop where
  machines : after.machines = before.machines
  volumes : after.volumes = before.volumes
  failures : after.failures = before.failures
  release : plan.release =
    ⟨before.ledger.newId before.ledger.nextVersion, before.ledger.nextVersion,
      plan.session.app.name, plan.strategy, plan.image.reference, .created⟩
  image : plan.image.reference ≠ ""
  ledger : after.ledger = before.ledger.insert plan.release
  releases : after.ledger.releases = before.ledger.releases ++ [plan.release]
  byApp : ∀ app, after.ledger.byApp.listAt app =
    if app = plan.session.app.name then before.ledger.byApp.listAt app ++ [plan.release.id]
    else before.ledger.byApp.listAt app
  counter : after.ledger.nextVersion = before.ledger.nextVersion + 1
  /-- The last call, and no other new one, created the release. -/
  calls : ∃ reads, (∀ call ∈ reads, call.isReading = true) ∧
    after.calls = before.calls ++ reads ++
      [.createRelease ⟨plan.session.app.name, ReleaseInput.platform, plan.strategy.ledgerName,
        encode plan.config, plan.image.reference⟩]

variable {hook : ProvisionHook InMemoryPlane} {ambient : Option AppConfig} {args : DeploymentArgs}
  {p q : InMemoryPlane} {plan : DeploymentPlan}

theorem prepare_ok_recordedOn (hhook : hook.OnlyReserves)
    (h : (prepare hook ambient args).from p = (.ok plan, q)) : plan.RecordedOn p q := by
  obtain ⟨d, t, release, hdraft, hcreate, rfl⟩ := prepare_ok_iff.1 h
  obtain ⟨reads, hreads, rfl⟩ := Draft.make_onlyRead hhook hdraft
  rw [from_createRelease] at hcreate
  split at hcreate
  · rename_i r hr
    obtain ⟨⟨rfl⟩, rfl⟩ := Prod.mk.inj hcreate
    obtain ⟨-, hr⟩ := unlessFailing_ok_iff.1 hr
    obtain ⟨strategy, hstrategy, himage, rfl⟩ := releaseOf_ok_iff.1 hr
    obtain rfl : d.brief.strategy = strategy :=
      Option.some.inj ((RolloutStrategy.ofLedgerName?_ledgerName _).symm.trans hstrategy)
    exact {
      machines := rfl
      volumes := rfl
      failures := rfl
      release := rfl
      image := himage
      ledger := rfl
      releases := rfl
      byApp := Ledger.listAt_insert _ _
      counter := rfl
      calls := ⟨reads, hreads, rfl⟩ }
  · cases hcreate

/-- For a reader of a reachable plane the release comes after the application's others. -/
theorem RecordedOn.releasesFor (h : plan.RecordedOn p q) (hp : p.Reachable)
    (room : q.ledger.HasRoom) (app : String) :
    q.ledger.releasesFor app =
      if app = plan.session.app.name then p.ledger.releasesFor app ++ [plan.release]
      else p.ledger.releasesFor app := by
  have hnew : plan.release = p.ledger.newRelease plan.session.app.name plan.strategy
      plan.image.reference .created := h.release
  have hledger := h.ledger
  rw [hnew] at hledger ⊢
  rw [hledger] at room ⊢
  exact hp.ledger_regular.releasesFor_insert room hp.newId_injective app

theorem prepare_ok_app (h : (prepare hook ambient args).from p = (.ok plan, q)) :
    args.app = some plan.session.app := by
  obtain ⟨d, t, release, hdraft, -, rfl⟩ := prepare_ok_iff.1 h
  obtain ⟨hbrief, -⟩ := Draft.make_ok_iff.1 hdraft
  exact (Brief.ofRequest_ok_iff.1 hbrief).1

/-- A preparation that fails leaves no trace but in the log, so that a later one answers as if it
had not been tried; one that succeeds has recorded its release and done nothing else. -/
theorem prepare_all_or_nothing {hook : ProvisionHook InMemoryPlane} (hhook : hook.OnlyReserves)
    (ambient : Option AppConfig) (args : DeploymentArgs) (p : InMemoryPlane) :
    (∀ e q, (prepare hook ambient args).from p = (.error e, q) →
      (q.machines = p.machines ∧ q.volumes = p.volumes ∧ q.ledger = p.ledger ∧
        q.failures = p.failures ∧ p.calls <+: q.calls) ∧
      ∀ (later : ProvisionHook InMemoryPlane), later.OnlyReserves → ∀ ambient' args',
        ((prepare later ambient' args').from q.clearFailures).1 =
            ((prepare later ambient' args').from p.clearFailures).1 ∧
          ((prepare later ambient' args').from q.clearFailures).2.SameButLog
            ((prepare later ambient' args').from p.clearFailures).2) ∧
    (∀ plan q, (prepare hook ambient args).from p = (.ok plan, q) →
      args.app = some plan.session.app ∧ plan.RecordedOn p q ∧
      (p.Reachable → q.ledger.HasRoom → ∀ app, q.ledger.releasesFor app =
        if app = plan.session.app.name then p.ledger.releasesFor app ++ [plan.release]
        else p.ledger.releasesFor app)) := by
  constructor
  · intro e q h
    have hlogged := prepare_error_onlyLogged hhook h
    refine ⟨?_, ?_⟩
    · obtain ⟨calls, rfl⟩ := hlogged
      exact ⟨rfl, rfl, rfl, rfl, List.prefix_append _ _⟩
    · intro later hlater ambient' args'
      exact hlogged.sameButLog.clearFailures.symm.prepare hlater ambient' args'
  · intro plan q h
    have hrecorded := prepare_ok_recordedOn hhook h
    exact ⟨prepare_ok_app h, hrecorded, hrecorded.releasesFor⟩

/-- The volume is reserved, the release refused; and it is made when the failure is cleared. -/
theorem newShop_all_or_nothing :
    let hook : ProvisionHook InMemoryPlane := .reserving "claims" ["data"] none
    let broken := newShop.failOperation .createRelease (.unavailable "ledger down")
    let attempt := (prepare hook (some .shop) .firstOfShop).from broken
    hook.OnlyReserves ∧ attempt.1 = .error (.backend (.unavailable "ledger down")) ∧
    attempt.2.ledger = broken.ledger ∧
    ∃ plan, ((prepare hook (some .shop) .firstOfShop).from attempt.2.clearFailures).1 = .ok plan ∧
      plan.RecordedOn broken.clearFailures
        ((prepare hook (some .shop) .firstOfShop).from broken.clearFailures).2 := by
  intro hook broken attempt
  have hhook : hook.OnlyReserves := (ProvisionHook.reservesInOrder_reserving _ _).onlyReserves
  have hfails : attempt.1 = .error (.backend (.unavailable "ledger down")) := by decide +kernel
  obtain ⟨hstate, hretry⟩ :=
    (prepare_all_or_nothing hhook (some .shop) .firstOfShop broken).1 _ attempt.2
      (Prod.ext hfails rfl)
  obtain ⟨plan, hplan⟩ : ∃ plan, ((prepare hook (some .shop) .firstOfShop).from
      broken.clearFailures).1 = .ok plan := by
    rw [Result.exists_ok_iff]
    decide +kernel
  have hrecorded := ((prepare_all_or_nothing hhook (some .shop) .firstOfShop
    broken.clearFailures).2 plan _ (Prod.ext hplan rfl)).2.1
  refine ⟨hhook, hfails, hstate.2.2.1, plan, ?_, hrecorded⟩
  rw [(hretry hook hhook (some .shop) .firstOfShop).1, hplan]

end DeploymentPlan

end Preflight
