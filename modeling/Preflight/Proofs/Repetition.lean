import Preflight.PlanSummary
import Preflight.Proofs.Agreement

/-!
# Preparing a second time

A preparation that has succeeded succeeds again, with the same plan but for the release, also after
volumes were taken from the first plan and after that plan was finalized.  Nothing of this reaches
what the stages look at:

* volumes are taken from the plan, and the plane never hears of it;
* finalizing changes the status of a release and the log (`InMemoryPlane.OnlySettled`);
* the first preparation adds its release.  The second one may therefore find a latest release where
  the first found none, but one of the same image (`InMemoryPlane.resolved_again`).

`DeploymentPlan.Used` are the ways to use a plan, `DeploymentPlan.Repeats` compares the plans, and
`DeploymentPlan.prepare_again` is the result.
-/

namespace Preflight

open Preflight.Action

/-! ## The image of a release inserted last -/

namespace Ledger

/-- The latest image can be read off what is fixed at insertion. -/
theorem Regular.latestImage?_of_entries {l : Ledger} (h : l.Regular) (room : l.HasRoom)
    (fresh : Function.Injective l.newId) {earlier : List Release} {last : Release}
    (hentries : l.releases.map Release.entry = earlier ++ [last]) (himage : last.image ≠ "") :
    l.latestImage? last.appName = some last.image := by
  have hlast : ((l.releases.filter (·.appName == last.appName)).map Release.entry).getLast? =
      some last := by
    have hfilter : (l.releases.filter (·.appName == last.appName)).map Release.entry =
        (l.releases.map Release.entry).filter (·.appName == last.appName) := by
      rw [List.filter_map]
      rfl
    rw [hfilter, hentries, List.filter_append, List.filter_singleton]
    simp
  rw [List.getLast?_map] at hlast
  obtain ⟨r, hr, rfl⟩ := Option.map_eq_some_iff.1 hlast
  rw [h.latestImage?_eq room fresh, hr, Option.map_some]
  exact Option.filter_eq_some_iff.2 ⟨rfl, by simpa using himage⟩

end Ledger

namespace InMemoryPlane

/-! ## Settling releases -/

/-- Between the planes nothing but the status of releases and the log has changed. -/
structure OnlySettled (p q : InMemoryPlane) : Prop where
  machines : q.machines = p.machines
  volumes : q.volumes = p.volumes
  failures : q.failures = p.failures
  entries : q.ledger.releases.map Release.entry = p.ledger.releases.map Release.entry

instance : IsPreorder InMemoryPlane OnlySettled where
  refl _ := ⟨rfl, rfl, rfl, rfl⟩
  trans _ _ _ h₁ h₂ := ⟨h₂.machines.trans h₁.machines, h₂.volumes.trans h₁.volumes,
    h₂.failures.trans h₁.failures, h₂.entries.trans h₁.entries⟩

theorem updateRelease_keeps_onlySettled (id : String) (status : ReleaseStatus) :
    Keeps OnlySettled (ControlPlaneClient.updateRelease id status) := by
  intro p
  rw [from_updateRelease]
  split
  · exact ⟨rfl, rfl, rfl, Ledger.map_entry_setStatus _ _ _⟩
  · exact ⟨rfl, rfl, rfl, rfl⟩

theorem finalize_keeps_onlySettled (plan : DeploymentPlan) (status : ReleaseStatus) :
    Keeps OnlySettled (plan.finalize status) := by
  unfold DeploymentPlan.finalize ReleaseRecorder.update
  split
  · exact keeps_adapt (updateRelease_keeps_onlySettled _ _)
  · exact keeps_throw _

theorem OnlySettled.sameHoldings {p q : InMemoryPlane} (h : OnlySettled p q) (app : String) :
    SameHoldings app p q where
  machines := by rw [machinesOf, machinesOf, h.machines]
  volumes := by rw [volumesOf, volumesOf, h.volumes]
  failures := h.failures

end InMemoryPlane

namespace DeploymentPlan

open InMemoryPlane

/-- A plan and its plane after some volumes were taken from the plan and the plan was finalized
some times, with whatever success and in whatever order. -/
inductive Used (plan : DeploymentPlan) (p : InMemoryPlane) :
    DeploymentPlan → InMemoryPlane → Prop where
  | fresh : Used plan p plan p
  | reserve {used next : DeploymentPlan} {q : InMemoryPlane} {group : String}
      {volume : Option Volume} (hreserve : used.reserveVolumeFor group = .ok (volume, next))
      (h : Used plan p used q) : Used plan p next q
  | finalize {used : DeploymentPlan} {q : InMemoryPlane} (status : ReleaseStatus)
      (h : Used plan p used q) : Used plan p used ((used.finalize status).from q).2

namespace Used

variable {plan used : DeploymentPlan} {p q : InMemoryPlane}

theorem run (h : Used plan p used q) : Run p q := by
  induction h with
  | fresh => exact .refl p
  | reserve _ _ ih => exact ih
  | @finalize used _ status _ ih => exact .finalize used status ih

/-- Taking volumes from a plan leaves the plane alone, and finalizing it settles a release. -/
theorem onlySettled (h : Used plan p used q) : OnlySettled p q := by
  induction h with
  | fresh => exact refl p
  | reserve _ _ ih => exact ih
  | @finalize used q status _ ih =>
    exact IsTrans.trans _ _ _ ih (finalize_keeps_onlySettled used status q)

end Used

/-- The second plan is the first one over again, with the next release.  Its image may come from
that of the first plan where the first plan's came from a machine. -/
structure Repeats (plan next : DeploymentPlan) : Prop where
  config : next.config = plan.config
  strategy : next.strategy = plan.strategy
  guest : next.guest = plan.guest
  lease : next.lease = plan.lease
  firstDeploy : next.firstDeploy = plan.firstDeploy
  reference : next.image.reference = plan.image.reference
  source : next.image.source = plan.image.source ∨
    plan.image.source = .existingMachine ∧ next.image.source = .latestRelease
  version : next.release.version.toNat = plan.release.version.toNat + 1
  groups : next.summary.groups = plan.summary.groups
  others : next = { plan with image := next.image, release := next.release }

end DeploymentPlan

namespace InMemoryPlane

open DeploymentPlan

/-! ## The stages once more -/

section

variable {p q : InMemoryPlane}

/-- When the image that was resolved has become that of the latest release, it is resolved
again. -/
theorem resolved_again {explicit : Option String} {session : ControlPlaneSession}
    {inventory : MachineInventory} {image : ResolvedImage} (hfailures : q.failures = p.failures)
    (hlatest : q.ledger.latestImage? session.app.name = some image.reference)
    (h : p.resolved explicit session inventory = .ok image) :
    ∃ source, q.resolved explicit session inventory = .ok ⟨image.reference, source⟩ ∧
      (source = image.source ∨ image.source = .existingMachine ∧ source = .latestRelease) := by
  have hreference : nonEmpty (q.ledger.latestImage? session.app.name) = some image.reference := by
    rw [hlatest]
    exact Option.filter_eq_some_iff.2 ⟨rfl, by simpa using reference_ne_empty_of_resolved h⟩
  rw [resolved_ok_iff] at h
  cases hsource : image.source with
  | explicit =>
    rw [hsource] at h
    exact ⟨.explicit, resolved_ok_iff.2 h, .inl rfl⟩
  | latestRelease =>
    rw [hsource] at h
    obtain ⟨hexplicit, hclear, -⟩ := h
    rw [← hfailures] at hclear
    exact ⟨.latestRelease, resolved_ok_iff.2 ⟨hexplicit, hclear, hreference⟩, .inl rfl⟩
  | existingMachine =>
    rw [hsource] at h
    obtain ⟨hexplicit, -, hfirst⟩ := h
    by_cases hclear : q.failures .latestReleaseImage = none
    · exact ⟨.latestRelease, resolved_ok_iff.2 ⟨hexplicit, hclear, hreference⟩, .inr ⟨rfl, rfl⟩⟩
    · refine ⟨.existingMachine, resolved_ok_iff.2 ⟨hexplicit, ?_, hfirst⟩, .inl rfl⟩
      intro hnone
      exact absurd hnone hclear

/-- A draft is made again, from the image of the latest release where it was made from that of a
machine. -/
theorem drafted_again {hook : ProvisionHook InMemoryPlane} (hhook : hook.OnlyReserves)
    {ambient : Option AppConfig} {args : DeploymentArgs} {d : Draft}
    (hsame : SameHoldings d.brief.session.app.name p q)
    (hlatest : q.ledger.latestImage? d.brief.session.app.name = some d.image.reference)
    (h : p.drafted hook ambient args = .ok d) :
    ∃ source, q.drafted hook ambient args =
        .ok { d with image := ⟨d.image.reference, source⟩ } ∧
      (source = d.image.source ∨ d.image.source = .existingMachine ∧ source = .latestRelease) := by
  obtain ⟨hbrief, hsurveyed, hresolved, ⟨listed, hlisted, hvolumes⟩, htopology⟩ :=
    drafted_ok_iff.1 h
  obtain ⟨source, hresolved', hsource⟩ := resolved_again hsame.failures hlatest hresolved
  refine ⟨source, drafted_ok_iff.2 ⟨hbrief, ?_, hresolved', ⟨listed, ?_, ?_⟩, htopology⟩, hsource⟩
  · rw [hsame.surveyed_eq]
    exact hsurveyed
  · rw [hsame.reconciled_eq]
    exact hlisted
  · -- the hook is shown the reference of the image and not its source
    rw [provisioned_eq hhook p q]
    exact hvolumes

end

end InMemoryPlane

namespace DeploymentPlan

open InMemoryPlane

section

variable {hook : ProvisionHook InMemoryPlane} {ambient : Option AppConfig} {args : DeploymentArgs}
  {p q t : InMemoryPlane} {plan used : DeploymentPlan}

/-- The stages of a second preparation look at the same machines, volumes and failures. -/
theorem Used.sameHoldings (hused : Used plan q used t) (hrecorded : plan.RecordedOn p q)
    (app : String) : SameHoldings app p t where
  machines := by
    rw [machinesOf, hused.onlySettled.machines, hrecorded.machines]
    rfl
  volumes := by
    rw [volumesOf, hused.onlySettled.volumes, hrecorded.volumes]
    rfl
  failures := hused.onlySettled.failures.trans hrecorded.failures

/-- In the ledger that a second preparation finds, the plan's release is the latest of its
application, and the counter has moved by one. -/
theorem Used.ledger_eq (hused : Used plan q used t) (hrecorded : plan.RecordedOn p q)
    (hreachable : p.Reachable) (room : q.ledger.HasRoom) :
    t.ledger.latestImage? plan.session.app.name = some plan.image.reference ∧
      t.ledger.nextVersion.toNat = p.ledger.nextVersion.toNat + 1 := by
  have hevolves : q.ledger.Evolves t.ledger := hused.run.ledger_evolves
  have hentries : t.ledger.releases.map Release.entry =
      p.ledger.releases.map Release.entry ++ [plan.release.entry] := by
    rw [hused.onlySettled.entries, hrecorded.releases, List.map_append, List.map_singleton]
  have hlength : t.ledger.releases.length = p.ledger.releases.length + 1 := by
    simpa using congrArg List.length hentries
  have hlength' : q.ledger.releases.length = p.ledger.releases.length + 1 := by
    rw [hrecorded.releases, List.length_append, List.length_singleton]
  have hroom : p.ledger.HasRoom := room.of_length_le (by omega)
  have hroom' : t.ledger.HasRoom := room.of_length_le (by omega)
  have hregular : t.ledger.Regular := by
    refine hevolves.regular ?_
    rw [hrecorded.ledger, hrecorded.release]
    exact hreachable.ledger_regular.insert _ _ _ _
  have hfresh : Function.Injective t.ledger.newId := by
    rw [hevolves.newId_eq, hrecorded.ledger]
    exact hreachable.newId_injective
  constructor
  · rw [hrecorded.release] at hentries
    exact hregular.latestImage?_of_entries hroom' hfresh hentries hrecorded.image
  · rw [hregular.counter_toNat hroom', hreachable.ledger_regular.counter_toNat hroom, hlength]

/-- However a plan was used, preparing again from the plane makes the plan once more. -/
theorem prepare_again (hhook : hook.OnlyReserves) (hreachable : p.Reachable)
    (h : (prepare hook ambient args).from p = (.ok plan, q)) (room : q.ledger.HasRoom)
    (hused : Used plan q used t) :
    ∃ next u, (prepare hook ambient args).from t = (.ok next, u) ∧ plan.Repeats next := by
  have hrecorded := prepare_ok_recordedOn hhook h
  obtain ⟨hlatest, hversion⟩ := hused.ledger_eq hrecorded hreachable room
  have hplan : p.prepared hook ambient args = .ok plan := by
    rw [← answer_prepare hhook, h]
  obtain ⟨d, hdraft, hclear, rfl⟩ := prepared_ok_iff.1 hplan
  have hsame : SameHoldings d.brief.session.app.name p t := hused.sameHoldings hrecorded _
  obtain ⟨source, hdraft', hsource⟩ := drafted_again hhook hsame hlatest hdraft
  rw [← hsame.failures] at hclear
  have hnext := prepared_ok_iff.2 ⟨_, hdraft', hclear, rfl⟩
  rw [← answer_prepare hhook] at hnext
  refine ⟨_, _, Prod.ext hnext rfl, ?_⟩
  exact {
    config := rfl
    strategy := rfl
    guest := rfl
    lease := rfl
    firstDeploy := rfl
    reference := rfl
    source := hsource
    version := hversion
    groups := rfl
    others := rfl }

end

/-- The free volume is taken and the release has succeeded.  The second time the image comes from
that release and no longer from the machine, and the volume is free again. -/
theorem runningShop_prepare_again :
    let args : DeploymentArgs := { app := some ⟨"shop", true⟩ }
    let first := (prepare .idle (some .shop) args).from runningShop
    ∃ plan used, first.1 = .ok plan ∧ plan.image = ⟨"shop:1", .existingMachine⟩ ∧
      plan.reserveVolumeFor "worker" = .ok (some (.fresh "vol_2" "data"), used) ∧
      let left := ((used.finalize .succeeded).from first.2).2
      runningShop.Reachable ∧ first.2.ledger.HasRoom ∧ Used plan first.2 used left ∧
      ∃ next u, (prepare .idle (some .shop) args).from left = (.ok next, u) ∧
        plan.Repeats next ∧ next.image.source = .latestRelease ∧
        next.volumes.queueLength "data" = 1 := by
  intro args first
  obtain ⟨plan, hplan, himage, hfree, reserved, hreserve, hvolume, again, hagain, hsource⟩ :
      ∃ plan, first.1 = .ok plan ∧ plan.image = ⟨"shop:1", .existingMachine⟩ ∧
        plan.volumes.queueLength "data" = 1 ∧
        ∃ reserved, plan.reserveVolumeFor "worker" = .ok reserved ∧
          reserved.1 = some (.fresh "vol_2" "data") ∧
          ∃ next, ((prepare .idle (some .shop) args).from
              ((reserved.2.finalize .succeeded).from first.2).2).1 = .ok next ∧
            next.image.source = .latestRelease := by
    simp only [Result.exists_ok_and_iff]
    decide +kernel
  obtain ⟨volume, used⟩ := reserved
  obtain rfl : volume = some (.fresh "vol_2" "data") := hvolume
  have room : first.2.ledger.HasRoom := by
    unfold Ledger.HasRoom
    decide +kernel
  have hused : Used plan first.2 used ((used.finalize .succeeded).from first.2).2 :=
    .finalize .succeeded (.reserve hreserve .fresh)
  have hhook : (ProvisionHook.idle : ProvisionHook InMemoryPlane).OnlyReserves :=
    ProvisionHook.onlyReserves_idle
  have hfirst : (prepare .idle (some .shop) args).from runningShop = (.ok plan, first.2) :=
    Prod.ext hplan rfl
  obtain ⟨next, u, hnext, hrepeats⟩ := prepare_again hhook reachable_runningShop hfirst room hused
  obtain rfl : next = again := by
    rw [hnext] at hagain
    exact Except.ok.inj hagain
  refine ⟨plan, used, hplan, himage, hreserve, reachable_runningShop, room, hused, next, u, hnext,
    hrepeats, hsource, ?_⟩
  rw [hrepeats.others]
  exact hfree

end DeploymentPlan

end Preflight
