import Preflight.Proofs.Agreement
import Preflight.Proofs.CallOrder
import Preflight.Proofs.Settlement

/-!
# Applications are kept apart

A preparation concerns the application that the handle of its request names.  It looks at what the
plane holds of that application and of no other, and what it records is that application's.

* `InMemoryPlane.AgreeOn` relates planes that hold the same of one application, the identifiers of
  its releases apart.  From such planes preparations make the same calls and answer alike
  (`DeploymentPlan.prepare_isolated`); only the new release is numbered by its own ledger.
* `InMemoryPlane.LeavesOthers` says that nothing has changed for the other applications.

The effective configuration carries the name of an application too, from a file or from an
override.  That name decides nothing here, and no statement asks that it is the name of the handle.
-/

namespace Preflight

/-! ## Releases without identifiers -/

/-- A release without its identifier. -/
def Release.unnamed (r : Release) : Release := { r with id := "" }

namespace Ledger

theorem foldl_newer_map {f : Release → Release} (hf : ∀ r, (f r).version = r.version)
    (rs : List Release) (best : Option Release) :
    (rs.map f).foldl newer (best.map f) = (rs.foldl newer best).map f := by
  induction rs generalizing best with
  | nil => rfl
  | cons r rs ih =>
    have hnewer : newer (best.map f) (f r) = (newer best r).map f := by
      cases best with
      | none => rfl
      | some b =>
        simp only [newer, Option.map_some, hf]
        split <;> rfl
    rw [List.map_cons, List.foldl_cons, List.foldl_cons, hnewer, ih]

/-- The latest image can be read off the releases of the application, their identifiers apart. -/
theorem latestImage?_eq_foldl (l : Ledger) (app : String) :
    l.latestImage? app =
      ((((l.releasesFor app).map Release.unnamed).foldl newer none).map (·.image)).filter
        (· != "") := by
  have hfold := foldl_newer_map (f := Release.unnamed) (fun _ => rfl) (l.releasesFor app) none
  rw [Option.map_none] at hfold
  rw [hfold, Option.map_map]
  rfl

/-- A new release shows at its own application only. -/
theorem Regular.releasesFor_insert_of_ne {l : Ledger} (h : l.Regular) {r : Release} {app : String}
    (happ : app ≠ r.appName) : (l.insert r).releasesFor app = l.releasesFor app := by
  rw [releasesFor, releasesFor, listAt_insert, if_neg happ]
  refine List.filterMap_congr ?_
  intro id hid
  -- the index resolves, so that what is appended to the list is not reached
  rw [h.index] at hid
  obtain ⟨r', hr', rfl⟩ := List.mem_map.1 hid
  obtain ⟨found, hfound⟩ := release?_isSome_of_mem (List.mem_of_mem_filter hr')
  rw [release?_insert, hfound, Option.some_or]

end Ledger

namespace InMemoryPlane

/-! ## Planes and one application -/

/-- The planes hold the same of an application, the identifiers of its releases apart, and the same
failures are set. -/
structure AgreeOn (app : String) (p q : InMemoryPlane) : Prop extends SameHoldings app p q where
  releases : (q.ledger.releasesFor app).map Release.unnamed =
    (p.ledger.releasesFor app).map Release.unnamed

theorem AgreeOn.latestImage?_eq {app : String} {p q : InMemoryPlane} (h : AgreeOn app p q) :
    q.ledger.latestImage? app = p.ledger.latestImage? app := by
  rw [Ledger.latestImage?_eq_foldl, Ledger.latestImage?_eq_foldl, h.releases]

/-- Nothing has changed for the other applications. -/
structure LeavesOthers (app : String) (before after : InMemoryPlane) : Prop where
  machines : ∀ other, other ≠ app → after.machinesOf other = before.machinesOf other
  volumes : ∀ other, other ≠ app → after.volumesOf other = before.volumesOf other
  /-- The releases that are stored, and the identifiers that are listed. -/
  inserted : ∀ other, other ≠ app → after.ledger.insertedFor other = before.ledger.insertedFor other
  index : ∀ other, other ≠ app →
    after.ledger.byApp.listAt other = before.ledger.byApp.listAt other
  /-- The releases as a reader finds them. -/
  releases : before.Reachable → ∀ other, other ≠ app →
    after.ledger.releasesFor other = before.ledger.releasesFor other

theorem OnlyLogged.leavesOthers {p q : InMemoryPlane} (h : p.OnlyLogged q) (app : String) :
    LeavesOthers app p q := by
  obtain ⟨calls, rfl⟩ := h
  exact {
    machines := fun _ _ => rfl
    volumes := fun _ _ => rfl
    inserted := fun _ _ => rfl
    index := fun _ _ => rfl
    releases := fun _ _ _ => rfl }

end InMemoryPlane

namespace DeploymentPlan

open InMemoryPlane

variable {hook : ProvisionHook InMemoryPlane} {ambient : Option AppConfig} {args : DeploymentArgs}
  {app : String} {p q : InMemoryPlane} {plan : DeploymentPlan}

theorem RecordedOn.leavesOthers (h : plan.RecordedOn p q) :
    LeavesOthers plan.session.app.name p q where
  machines other _ := by rw [machinesOf, machinesOf, h.machines]
  volumes other _ := by rw [volumesOf, volumesOf, h.volumes]
  inserted other hother := by
    rw [Ledger.insertedFor, Ledger.insertedFor, h.releases, h.release]
    simp [Ne.symm hother]
  index other hother := by rw [h.byApp, if_neg hother]
  releases hreachable other hother := by
    rw [h.ledger, h.release]
    exact hreachable.ledger_regular.releasesFor_insert_of_ne hother

/-- What a preparation does concerns the application of the handle. -/
theorem prepare_leavesOthers (hhook : hook.OnlyReserves) (happ : args.IsFor app)
    (ambient : Option AppConfig) (p : InMemoryPlane) :
    LeavesOthers app p ((prepare hook ambient args).from p).2 := by
  rcases hfrom : (prepare hook ambient args).from p with ⟨e | plan, q⟩
  · exact (prepare_error_onlyLogged hhook hfrom).leavesOthers app
  · obtain rfl := happ _ (prepare_ok_app hfrom)
    exact (prepare_ok_recordedOn hhook hfrom).leavesOthers

/-- A plan with the number and the identifier that a ledger would give to its release. -/
def numberedBy (plan : DeploymentPlan) (l : Ledger) : DeploymentPlan :=
  { plan with release :=
      { plan.release with id := l.newId l.nextVersion, version := l.nextVersion } }

/-- Planes that agree on the application of the handle cannot be told apart by a preparation, and
of each plane it leaves alone what belongs to other applications. -/
theorem prepare_isolated (hhook : hook.OnlyReserves) (happ : args.IsFor app)
    (ambient : Option AppConfig) (h : AgreeOn app p q) :
    ((prepare hook ambient args).from q).1 =
      ((prepare hook ambient args).from p).1.map (·.numberedBy q.ledger) ∧
    (∃ made, ((prepare hook ambient args).from p).2.calls = p.calls ++ made ∧
      ((prepare hook ambient args).from q).2.calls = q.calls ++ made) ∧
    LeavesOthers app p ((prepare hook ambient args).from p).2 ∧
    LeavesOthers app q ((prepare hook ambient args).from q).2 := by
  have himage := h.latestImage?_eq
  have hdraft : q.drafted hook ambient args = p.drafted hook ambient args :=
    h.drafted_eq hhook happ himage
  refine ⟨?_, ?_, prepare_leavesOthers hhook happ ambient p,
    prepare_leavesOthers hhook happ ambient q⟩
  · rw [answer_prepare hhook, answer_prepare hhook, prepared, prepared, hdraft]
    cases p.drafted hook ambient args with
    | error e => rfl
    | ok d =>
      simp only [bind, Except.bind, unlessFailing, h.failures]
      cases p.failures .createRelease <;> rfl
  · refine ⟨callsOf hook ambient args p, calls_of_prepare hhook.makesNoCall ambient args p, ?_⟩
    rw [calls_of_prepare hhook.makesNoCall, callsOf_eq hhook, callsOf_eq hhook, hdraft,
      (h.outlook_eq happ himage).2]

/-- A new shop beside a blog, which has a machine, a volume of the name that the shop mounts, and a
release. -/
def shopAndBlog : InMemoryPlane :=
  (((newShop.addMachine "blog" ((Machine.started "m_1" "blog:1").managed "web")).addVolume "blog"
    (.fresh "vol_3" "data")).seedRelease "blog" "blog:1")

/-- The override names the blog.  The shop is deployed as if the blog were not there, and the blog
keeps what it has. -/
theorem shopAndBlog_isolated :
    let args : DeploymentArgs := { DeploymentArgs.firstOfShop with
      overrides := { appName := some "blog" } }
    let alone := (prepare .idle (some .shop) args).from newShop
    let beside := (prepare .idle (some .shop) args).from shopAndBlog
    AgreeOn "shop" newShop shopAndBlog ∧
    (∃ plan, alone.1 = .ok plan ∧ plan.config.appName = "blog" ∧
      plan.release.appName = "shop" ∧ plan.release.version = 1) ∧
    beside.1 = alone.1.map (·.numberedBy shopAndBlog.ledger) ∧
    (∃ made, alone.2.calls = newShop.calls ++ made ∧
      beside.2.calls = shopAndBlog.calls ++ made) ∧
    (beside.2.ledger.releasesFor "blog").map (·.image) = ["blog:1"] ∧
    beside.2.volumesOf "blog" = [.fresh "vol_3" "data"] := by
  intro args alone beside
  have hhook : (ProvisionHook.idle : ProvisionHook InMemoryPlane).OnlyReserves :=
    ProvisionHook.onlyReserves_idle
  have happ : args.IsFor "shop" := by
    rintro handle ⟨⟩
    rfl
  have hagree : AgreeOn "shop" newShop shopAndBlog := {
    machines := by decide +kernel
    volumes := by decide +kernel
    failures := rfl
    releases := by decide +kernel }
  have hreachable : shopAndBlog.Reachable := by
    have hshop : Run (.empty tallyId) newShop := .addVolume "shop" _ (.addVolume "shop" _ (.refl _))
    exact Run.reachable
      (.seedRelease "blog" "blog:1" (.addVolume "blog" _ (.addMachine "blog" _ hshop)))
  obtain ⟨hanswer, hcalls, -, hothers⟩ := prepare_isolated hhook happ (some .shop) hagree
  refine ⟨hagree, ?_, hanswer, hcalls, ?_, ?_⟩
  · rw [Result.exists_ok_and_iff]
    decide +kernel
  · rw [hothers.releases hreachable "blog" (by decide)]
    decide +kernel
  · rw [hothers.volumes "blog" (by decide)]
    decide +kernel

end DeploymentPlan

end Preflight
