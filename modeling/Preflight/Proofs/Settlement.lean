import Mathlib.Data.List.Nodup
import Preflight.Proofs.Runs

/-!
# How a release ends

A release is entered as `created` and ends as `succeeded` or `failed`.  Two guards see to it that
it ends once: a recorder passes only terminal statuses on, and a plane updates only releases that
are not terminal yet.  Neither is enough alone, since a direct call may ask the plane for
`created`.

* `Ledger.Evolves.release?_of_terminal`: along every evolution a terminal release stays as it is.
* `InMemoryPlane.Updates` are the ways in which an update succeeds; `Updates.release?_eq` says what
  each of them does, and `Updates.not_after` that none comes after one that changed the status.
* `DeploymentPlan.FinalizesOn` says what finalizing a plan does, status by status, on a plane that
  holds the plan's release.  Every plane that a run leads to from a successful preparation does.

Releases are told apart by their identifiers, as the plane itself does, so that nothing here needs
identifiers to differ or the version counter to stay in range.  Where they differ, the release
found under a plan's identifier is the plan's.
-/

namespace Preflight

theorem ReleaseStatus.isTerminal_eq_false_iff {s : ReleaseStatus} :
    s.isTerminal = false ↔ s = .created := by
  cases s <;> simp [isTerminal]

namespace Ledger

/-! ## Looking up after a change -/

theorem id_of_release? {l : Ledger} {id : String} {r : Release} (h : l.release? id = some r) :
    r.id = id := by
  simpa using List.find?_some h

theorem release?_isSome_of_mem {l : Ledger} {r : Release} (h : r ∈ l.releases) :
    ∃ found, l.release? r.id = some found := by
  rw [← Option.isSome_iff_exists, release?, List.find?_isSome]
  exact ⟨r, h, by simp⟩

/-- An insertion brings up a release only where none was found. -/
theorem release?_insert (l : Ledger) (r : Release) (id : String) :
    (l.insert r).release? id = (l.release? id).or (if r.id = id then some r else none) := by
  simp only [release?, insert, List.find?_append, List.find?_singleton, beq_iff_eq]

theorem release?_setStatus (l : Ledger) (id : String) (status : ReleaseStatus) (id' : String) :
    (l.setStatus id status).release? id' =
      if id' = id then (l.release? id').map fun r => { r with status } else l.release? id' := by
  have hlabel : ((fun r : Release => r.id == id') ∘
      fun r => if r.id == id then { r with status } else r) = fun r => r.id == id' := by
    funext r
    simp only [Function.comp_apply]
    split <;> rfl
  simp only [release?, setStatus, List.find?_map, hlabel]
  cases hfound : l.releases.find? (·.id == id') with
  | none => simp
  | some r =>
    have hid : r.id = id' := id_of_release? hfound
    by_cases heq : id' = id
    · simp [hid, heq]
    · simp [hid, heq]

/-! ## Terminal releases -/

/-- Insertions come after a release, and updates need one that is open. -/
theorem Evolves.release?_of_terminal {l m : Ledger} (h : Evolves l m) {id : String} {r : Release}
    (hfound : l.release? id = some r) (hterminal : r.status.isTerminal = true) :
    m.release? id = some r := by
  induction h with
  | refl => exact hfound
  | insert app strategy image status _ ih => rw [release?_insert, ih, Option.some_or]
  | setStatus id' status hfound' hopen _ ih =>
    have hne : id ≠ id' := by
      rintro rfl
      -- the release that is updated would be the terminal one
      obtain rfl := Option.some.inj (ih.symm.trans hfound')
      rw [hterminal] at hopen
      cases hopen
    rw [release?_setStatus, if_neg hne, ih]

/-- Where identifiers differ, what is found under the identifier of an earlier release is that
release, status apart. -/
theorem Evolves.entry_of_release? {l m : Ledger} (h : Evolves l m)
    (hids : (m.releases.map (·.id)).Nodup) {r found : Release} (hr : r ∈ l.releases)
    (hfound : m.release? r.id = some found) : found.entry = r.entry := by
  obtain ⟨later, hlater, hentry⟩ : ∃ later ∈ m.releases, later.entry = r.entry := by
    have hkept := h.entries_kept.subset (List.mem_map_of_mem hr)
    simpa using hkept
  have hid : later.id = found.id := by
    rw [id_of_release? hfound]
    exact (Release.entry_eq_iff.1 hentry).1
  have hmem : found ∈ m.releases := List.mem_of_find?_eq_some hfound
  rw [← hentry, List.inj_on_of_nodup_map hids hlater hmem hid]

end Ledger

namespace InMemoryPlane

/-! ## Updates -/

theorem updateRelease_ok_iff {id : String} {status : ReleaseStatus} {p q : InMemoryPlane} :
    (ControlPlaneClient.updateRelease id status).from p = (.ok (), q) ↔
      p.failures .updateRelease = none ∧
      (∃ r, p.ledger.release? id = some r ∧ r.status.isTerminal = false) ∧
      q = { p.log (.updateRelease id status) with ledger := p.ledger.setStatus id status } := by
  rw [← checkUpdate_ok_iff, ← and_assoc, ← unlessFailing_ok_iff, from_updateRelease]
  cases p.unlessFailing .updateRelease (p.checkUpdate id) with
  | ok => simp [eq_comm]
  | error e => simp

theorem checkUpdate_ne_releaseNotFound {p : InMemoryPlane} {id : String} {r : Release}
    {e : ControlPlaneError} (hfound : p.ledger.release? id = some r)
    (h : p.checkUpdate id = .error e) (missing : String) : e ≠ .releaseNotFound missing := by
  simp only [checkUpdate, hfound] at h
  by_cases hterminal : r.status.isTerminal = true
  · rw [if_pos hterminal] at h
    rw [← Except.error.inj h]
    simp
  · rw [if_neg hterminal] at h
    cases h

theorem update_of_terminal {id : String} {status : ReleaseStatus}
    (hstatus : status.isTerminal = true) (p : InMemoryPlane) :
    (ReleaseRecorder.update id status).from p =
      (((ControlPlaneClient.updateRelease id status).from p).1.mapError (.releaseNotFinalized id),
        ((ControlPlaneClient.updateRelease id status).from p).2) := by
  rw [ReleaseRecorder.update, if_pos hstatus, Action.from_adapt]

theorem update_created (id : String) (p : InMemoryPlane) :
    (ReleaseRecorder.update id .created).from p =
      (.error (.contractViolation (.statusNotTerminal id .created)), p) := rfl

/-- A recorder adds a check of the status to the call, and no other condition. -/
theorem update_ok_iff {id : String} {status : ReleaseStatus} {p q : InMemoryPlane} :
    (ReleaseRecorder.update id status).from p = (.ok (), q) ↔
      status.isTerminal = true ∧
      (ControlPlaneClient.updateRelease id status).from p = (.ok (), q) := by
  cases hstatus : status.isTerminal with
  | true =>
    rw [update_of_terminal hstatus, Prod.mk.injEq, Result.mapError_ok_iff, ← Prod.mk.injEq,
      eq_self, true_and]
  | false =>
    obtain rfl := ReleaseStatus.isTerminal_eq_false_iff.1 hstatus
    simp [update_created]

/-- An update of a release succeeds: a call of the plane, or one that a recorder or a plan
makes. -/
inductive Updates (id : String) (status : ReleaseStatus) (p q : InMemoryPlane) : Prop where
  | call (h : (ControlPlaneClient.updateRelease id status).from p = (.ok (), q))
  | recorder (h : (ReleaseRecorder.update id status).from p = (.ok (), q))
  | plan (plan : DeploymentPlan) (hid : plan.release.id = id)
      (h : (plan.finalize status).from p = (.ok (), q))

namespace Updates

variable {id : String} {status status' : ReleaseStatus} {p q r s : InMemoryPlane}

theorem updateRelease (h : Updates id status p q) :
    (ControlPlaneClient.updateRelease id status).from p = (.ok (), q) := by
  cases h with
  | call h => exact h
  | recorder h => exact (update_ok_iff.1 h).2
  | plan plan hid h =>
    subst hid
    exact (update_ok_iff.1 h).2

/-- The release was open, and has the new status afterwards. -/
theorem release?_eq (h : Updates id status p q) :
    ∃ found, p.ledger.release? id = some found ∧ found.status = .created ∧
      q.ledger.release? id = some { found with status } := by
  obtain ⟨-, ⟨found, hfound, hopen⟩, rfl⟩ := updateRelease_ok_iff.1 h.updateRelease
  refine ⟨found, hfound, ReleaseStatus.isTerminal_eq_false_iff.1 hopen, ?_⟩
  rw [Ledger.release?_setStatus, if_pos rfl, hfound, Option.map_some]

/-- Once an update has changed the status of a release, no other one succeeds. -/
theorem not_after (h : Updates id status p q)
    (hchanged : q.ledger.release? id ≠ p.ledger.release? id) (hrun : Run q r) :
    ¬Updates id status' r s := by
  intro hlater
  obtain ⟨found, hfound, hcreated, hupdated⟩ := h.release?_eq
  have hterminal : status.isTerminal = true := by
    rw [← Bool.not_eq_false, ReleaseStatus.isTerminal_eq_false_iff]
    rintro rfl
    rw [hupdated, hfound, ← hcreated] at hchanged
    exact hchanged rfl
  have hkept := hrun.ledger_evolves.release?_of_terminal hupdated hterminal
  obtain ⟨open', hopen, hcreated', -⟩ := hlater.release?_eq
  obtain rfl := Option.some.inj (hkept.symm.trans hopen)
  obtain rfl : status = .created := hcreated'
  cases hterminal

end Updates

end InMemoryPlane

/-! ## Finalizing a plan -/

namespace DeploymentPlan

open InMemoryPlane

/-- What finalizing a plan does on a plane. -/
structure FinalizesOn (plan : DeploymentPlan) (p : InMemoryPlane) : Prop where
  /-- The status `created` is refused before any call is made. -/
  created : (plan.finalize .created).from p =
    (.error (.contractViolation (.statusNotTerminal plan.release.id .created)), p)
  /-- A terminal status is accepted while the release is open and updates do not fail. -/
  ok_iff : ∀ status, status.isTerminal = true →
    (((plan.finalize status).from p).1 = .ok () ↔
      p.failures .updateRelease = none ∧
        ∃ r, p.ledger.release? plan.release.id = some r ∧ r.status = .created)
  /-- Then the plan's release has the status, and the others are as they were. -/
  ok : ∀ status q, (plan.finalize status).from p = (.ok (), q) →
    (∃ r, p.ledger.release? plan.release.id = some r ∧
      q.ledger.release? plan.release.id = some { r with status }) ∧
    (∀ id, id ≠ plan.release.id → q.ledger.release? id = p.ledger.release? id) ∧
    q.ledger.byApp = p.ledger.byApp ∧ q.ledger.nextVersion = p.ledger.nextVersion
  /-- Else the ledger is as it was, and the error names the release together with the failure
  that is set; if none is set, it does not say that the release is missing. -/
  error : ∀ status e q, status.isTerminal = true → (plan.finalize status).from p = (.error e, q) →
    q.ledger = p.ledger ∧ ∃ cause, e = .releaseNotFinalized plan.release.id cause ∧
      (∀ injected, p.failures .updateRelease = some injected → cause = injected) ∧
      (p.failures .updateRelease = none → ∀ id, cause ≠ .releaseNotFound id)

/-- It is enough that the plan's release can be found. -/
theorem finalizesOn_of_found {plan : DeploymentPlan} {p : InMemoryPlane} {found : Release}
    (hfound : p.ledger.release? plan.release.id = some found) : plan.FinalizesOn p where
  created := update_created _ _
  ok_iff status hstatus := by
    have hopen : p.unlessFailing .updateRelease (p.checkUpdate plan.release.id) = .ok () ↔
        p.failures .updateRelease = none ∧
          ∃ r, p.ledger.release? plan.release.id = some r ∧ r.status = .created := by
      simp only [unlessFailing_ok_iff, checkUpdate_ok_iff, ReleaseStatus.isTerminal_eq_false_iff]
    rw [finalize, update_of_terminal hstatus, Result.mapError_ok_iff, from_updateRelease, ← hopen]
    cases p.unlessFailing .updateRelease (p.checkUpdate plan.release.id) <;> simp
  ok status q h := by
    have hupdates : Updates plan.release.id status p q := .plan plan rfl h
    obtain ⟨r, hr, -, hr'⟩ := hupdates.release?_eq
    obtain ⟨-, -, rfl⟩ := updateRelease_ok_iff.1 hupdates.updateRelease
    refine ⟨⟨r, hr, hr'⟩, ?_, rfl, rfl⟩
    intro id hid
    rw [Ledger.release?_setStatus, if_neg hid]
  error status e q hstatus h := by
    rw [finalize, update_of_terminal hstatus, from_updateRelease] at h
    split at h
    · cases h
    · rename_i cause hcause
      obtain ⟨⟨rfl⟩, rfl⟩ := Prod.mk.inj h
      refine ⟨rfl, cause, rfl, ?_, ?_⟩
      · intro injected hinjected
        rw [unlessFailing, hinjected] at hcause
        exact (Except.error.inj hcause).symm
      · intro hclear id
        rw [unlessFailing_of_none hclear] at hcause
        exact checkUpdate_ne_releaseNotFound hfound hcause id

variable {hook : ProvisionHook InMemoryPlane} {ambient : Option AppConfig} {args : DeploymentArgs}
  {plan : DeploymentPlan} {p q : InMemoryPlane}

/-- Whatever a hook does, the release of a plan is on the plane when the plan is returned. -/
theorem release_mem_of_prepare (h : (prepare hook ambient args).from p = (.ok plan, q)) :
    plan.release ∈ q.ledger.releases ∧ plan.release.status = .created := by
  obtain ⟨d, t, release, -, hcreate, rfl⟩ := prepare_ok_iff.1 h
  rw [from_createRelease] at hcreate
  split at hcreate
  · rename_i r hr
    obtain ⟨⟨rfl⟩, rfl⟩ := Prod.mk.inj hcreate
    obtain ⟨-, hr⟩ := unlessFailing_ok_iff.1 hr
    obtain ⟨strategy, -, -, rfl⟩ := releaseOf_ok_iff.1 hr
    exact ⟨List.mem_append_right _ (List.mem_singleton_self _), rfl⟩
  · cases hcreate

end DeploymentPlan

namespace InMemoryPlane

theorem Run.release?_of_mem {p q : InMemoryPlane} (h : Run p q) {r : Release}
    (hr : r ∈ p.ledger.releases) : ∃ found, q.ledger.release? r.id = some found := by
  obtain ⟨found, hfound⟩ := Ledger.release?_isSome_of_mem hr
  obtain ⟨found', hfound', -⟩ :=
    Ledger.release?_of_entries_kept h.ledger_evolves.entries_kept hfound
  exact ⟨found', hfound'⟩

/-- Along every run a terminal release stays as it is; after an update that changed the status of
a release no update of it succeeds; and a plan can be finalized while its release is open, at
any time after it was returned. -/
theorem Run.release_settles_once {p q : InMemoryPlane} (h : Run p q) :
    (∀ id r, p.ledger.release? id = some r → r.status.isTerminal = true →
      q.ledger.release? id = some r) ∧
    (∀ id status before, Updates id status before p →
      p.ledger.release? id ≠ before.ledger.release? id →
      ∀ status' after, ¬Updates id status' q after) ∧
    ∀ hook ambient args before plan,
      (DeploymentPlan.prepare hook ambient args).from before = (.ok plan, p) →
      plan.release.status = .created ∧ plan.FinalizesOn q ∧
      ∃ r, q.ledger.release? plan.release.id = some r ∧
        ((q.ledger.releases.map (·.id)).Nodup → r.entry = plan.release.entry) := by
  refine ⟨?_, ?_, ?_⟩
  · intro id r hfound hterminal
    exact h.ledger_evolves.release?_of_terminal hfound hterminal
  · intro id status before hupdates hchanged status' after
    exact hupdates.not_after hchanged h
  · intro hook ambient args before plan hprepare
    obtain ⟨hmem, hcreated⟩ := DeploymentPlan.release_mem_of_prepare hprepare
    obtain ⟨found, hfound⟩ := h.release?_of_mem hmem
    refine ⟨hcreated, DeploymentPlan.finalizesOn_of_found hfound, found, hfound, ?_⟩
    intro hids
    exact h.ledger_evolves.entry_of_release? hids hmem hfound

/-- A plan is finalized as succeeded.  After another release was made it still is, and cannot be
finalized as failed. -/
theorem newShop_settles_once :
    ∃ plan, ((DeploymentPlan.prepare .idle (some .shop) .firstOfShop).from newShop).1 = .ok plan ∧
      let made := ((DeploymentPlan.prepare .idle (some .shop) .firstOfShop).from newShop).2
      let ended := ((plan.finalize .succeeded).from made).2
      let later := ended.seedRelease "shop" "shop:2"
      Run made made ∧ Run ended later ∧ plan.FinalizesOn made ∧
      ((plan.finalize .succeeded).from made).1 = .ok () ∧
      (later.ledger.release? plan.release.id).map (·.status) = some .succeeded ∧
      ((plan.finalize .failed).from later).1 ≠ .ok () := by
  obtain ⟨plan, hplan, hclear, hcreated, hchanged⟩ : ∃ plan,
      ((DeploymentPlan.prepare .idle (some .shop) .firstOfShop).from newShop).1 = .ok plan ∧
      let made := ((DeploymentPlan.prepare .idle (some .shop) .firstOfShop).from newShop).2
      let ended := ((plan.finalize .succeeded).from made).2
      made.failures .updateRelease = none ∧
      (made.ledger.release? plan.release.id).map (·.status) = some .created ∧
      (ended.ledger.release? plan.release.id).map (·.status) = some .succeeded := by
    rw [Result.exists_ok_and_iff]
    decide +kernel
  refine ⟨plan, hplan, ?_⟩
  intro made ended later
  have hlater : Run ended later := .seedRelease "shop" "shop:2" (.refl ended)
  obtain ⟨-, -, hplans⟩ := Run.release_settles_once (.refl made)
  obtain ⟨-, hfinalizes, -⟩ := hplans .idle (some .shop) .firstOfShop newShop plan
    (Prod.ext hplan rfl)
  obtain ⟨open', hopen⟩ := Option.map_eq_some_iff.1 hcreated
  have hok : ((plan.finalize .succeeded).from made).1 = .ok () :=
    (hfinalizes.ok_iff .succeeded rfl).2 ⟨hclear, open', hopen⟩
  obtain ⟨hkept, honce, -⟩ := hlater.release_settles_once
  obtain ⟨settled, hsettled, hstatus⟩ := Option.map_eq_some_iff.1 hchanged
  refine ⟨.refl made, hlater, hfinalizes, hok, ?_, ?_⟩
  · rw [hkept _ _ hsettled (by rw [hstatus]; rfl), Option.map_some, hstatus]
  · intro hagain
    refine honce plan.release.id .succeeded made (.plan plan rfl (Prod.ext hok rfl)) ?_ .failed
      ((plan.finalize .failed).from later).2 (.plan plan rfl (Prod.ext hagain rfl))
    intro hsame
    rw [hsame, hcreated] at hchanged
    cases hchanged

end InMemoryPlane

end Preflight
